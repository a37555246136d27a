import Menagerie.Stream.Feeder

/-!
# One stream by itself

A feeder with a clock, a shutdown token and a receiver, run to rest after everything that happens
to it.
-/

namespace Menagerie.Stream

structure Solo where
  feeder : Feeder
  started : Bool := false
  now : Nat := 0
  cancelled : Bool := false
  log : List Log.Line := []

namespace Solo

/-- `none` for a capacity that no channel can have. -/
def make? (cursor : Cursor) (capacity : Nat) (deadline : Option Nat) : Option Solo :=
  (Channel.make? capacity).map fun channel => { feeder := { reading := { cursor }, deadline, channel } }

def moment (s : Solo) : Moment := ⟨s.now, s.cancelled⟩

def settle (s : Solo) : Solo :=
  if s.started then
    let (feeder, lines) := s.feeder.settle s.moment
    { s with feeder, log := s.log ++ lines }
  else s

theorem now_settle (s : Solo) : s.settle.now = s.now := by
  unfold settle
  split <;> rfl

def start (s : Solo) : Solo := { s with started := true }.settle

def close (s : Solo) : Solo := { s with feeder := s.feeder.close }.settle

def drop (s : Solo) : Solo := { s with feeder := s.feeder.drop }.settle

def cancel (s : Solo) : Solo := { s with cancelled := true }.settle

def receive : Nat → Solo → Solo × List Item × Stopped
  | 0, s => (s, [], .enough)
  | limit + 1, s =>
    match s.feeder.take with
    | .dropped => (s, [], .dropped)
    | .ended => (s, [], .ended)
    | .nothingYet => (s, [], .blocked)
    | .item item feeder =>
      let (s, items, stopped) := receive limit { s with feeder }.settle
      (s, item :: items, stopped)

theorem remaining_settle {s : Solo} {t target : Nat} (h : s.now < t ∧ t ≤ target) :
    target - { s with now := t }.settle.now < target - s.now := by
  rw [now_settle]
  simp only
  omega

def advance (target : Nat) (s : Solo) : Solo :=
  match s.feeder.wake? s.now with
  | some t =>
    if _h : s.now < t ∧ t ≤ target then advance target { s with now := t }.settle
    else { s with now := max s.now target }.settle
  | none => { s with now := max s.now target }.settle
termination_by target - s.now
decreasing_by exact remaining_settle _h

def wait (ms : Nat) (s : Solo) : Solo := s.advance (s.now + ms)

end Solo

end Menagerie.Stream
