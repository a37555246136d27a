import Menagerie.Proofs.Service.Change
import Menagerie.Stream.Scene

/-!
# A call by itself

A `Strand` is a call with its stream, a clock and a shutdown token, and nothing else of the service.
What happens to it comes as a list of `Notice`s. A history is prompt when the call has nothing left
to do before anything else happens to it and at every tick that goes by; then its own turns, and how
the waiting is divided, do not matter (`run_eq_of_prompt`).
-/

namespace Menagerie.Service

/-- What has become of a call: its state, and once it has a stream, the feeder with its channel and
all items that went in and out. -/
inductive Fate where
  | call (call : Call)
  | stream (feeder : Stream.Feeder) (received enqueued : List Stream.Item)

inductive Notice where
  | turn
  | abort
  | forget
  | take
  | close
  | drop
  | cancel
  | pass (ms : Nat)
  deriving DecidableEq

inductive Strand where
  | plain (call : Call) (now : Nat) (cancelled : Bool)
  | stream (scene : Stream.Scene)

def Search.next? (now : Nat) : Search → Option Search
  | .finding f =>
    if f.due ≤ now then
      match f.result with
      | .error failure => some (.failed failure)
      | .ok cursor => some (.reading { cursor })
    else none
  | .reading r =>
    match r.look now with
    | .document d _ => some (.found d.toCreature)
    | .failure failure => some (.failed failure)
    | .finish => some .missed
    | .moved r => some (.reading r)
    | .nothing => none
  | _ => none

namespace Call

/-- What the next step makes of a call, with channels of this size. A shutdown is not a call for
itself. -/
def next? (size now : Nat) (cancelled : Bool) : Call → Option Strand
  | .search name state =>
    (state.next? now).map fun state => .plain (.search name state) now cancelled
  | .listing (.finding f deadline forgotten) =>
    if f.due ≤ now then
      match f.result with
      | .error failure => some (.plain (.listing (.failed failure)) now cancelled)
      | .ok cursor =>
        match Stream.Channel.make? size with
        | none => some (.plain (.listing .panicked) now cancelled)
        | some channel =>
          some (.stream { feeder := fresh cursor deadline channel forgotten, now, cancelled })
    else none
  | _ => none

def abort : Call → Call
  | .search name (.finding _) | .search name (.reading _) => .search name .aborted
  | .listing (.finding ..) => .listing .aborted
  | call => call

def forget : Call → Call
  | .listing (.finding f deadline _) => .listing (.finding f deadline true)
  | call => call

end Call

/-- What a history is from the outside: without the turns of the call, and with the clock going tick
by tick. -/
def Notice.outside : Notice → List Notice
  | .turn => []
  | .pass ms => List.replicate ms (.pass 1)
  | notice => [notice]

namespace Strand

variable {size : Nat} {p q : Strand} {notices notices' : List Notice}

def fate : Strand → Fate
  | .plain call _ _ => .call call
  | .stream st => .stream st.feeder st.received st.enqueued

def turn? (size : Nat) : Strand → Option Strand
  | .plain call now cancelled => call.next? size now cancelled
  | .stream st => (st.feeder.step st.moment).map fun _ => .stream (st.happen .step)

def happen (size : Nat) : Strand → Notice → Strand
  | p, .turn => (p.turn? size).getD p
  | .plain call now cancelled, .abort => .plain call.abort now cancelled
  | .plain call now cancelled, .forget => .plain call.forget now cancelled
  | .plain call now _, .cancel => .plain call now true
  | .plain call now cancelled, .pass ms => .plain call (now + ms) cancelled
  | .stream st, .take => .stream (st.happen .take)
  | .stream st, .close => .stream (st.happen .close)
  | .stream st, .drop => .stream (st.happen .drop)
  | .stream st, .cancel => .stream (st.happen .cancel)
  | .stream st, .pass ms => .stream (st.happen (.pass ms))
  | p, _ => p

def run (size : Nat) (p : Strand) (notices : List Notice) : Strand := notices.foldl (happen size) p

instance (size : Nat) : Runs (run size) (happen size) := ⟨fun _ _ => rfl⟩

@[simp] theorem pass_zero (size : Nat) (p : Strand) : p.happen size (.pass 0) = p := by
  cases p <;> rfl

theorem pass_pass (size : Nat) (p : Strand) (i j : Nat) :
    (p.happen size (.pass i)).happen size (.pass j) = p.happen size (.pass (i + j)) := by
  cases p with
  | plain => simp [happen, Nat.add_assoc]
  | stream st => simp [happen, Stream.Scene.happen, Nat.add_assoc]

-- ---------------------------------------------------------------------------
-- Rest
-- ---------------------------------------------------------------------------

def Rests (size : Nat) (p : Strand) : Prop := p.turn? size = none

/-- A bound on the turns until the call rests. A stream that is opened takes more turns than the
call, so the size of its channel counts from the beginning. -/
def rank (size : Nat) : Strand → Nat
  | .plain (.listing (.finding ..)) _ _ => 5 * size + 6
  | .plain call now _ => call.rank now
  | .stream st => st.feeder.rank st.now

theorem rank_fresh {cursor : Stream.Cursor} {deadline : Option Nat} {channel : Stream.Channel}
    (forgotten : Bool) (now : Nat) (made : Stream.Channel.make? size = some channel) :
    (fresh cursor deadline channel forgotten).rank now ≤ 5 * size + 5 := by
  have hread := Stream.Reading.rank_le_two { cursor } now
  have hroom : (if forgotten then channel.drop else channel).room ≤ size := by
    unfold Stream.Channel.make? at made
    split at made
    · cases made
      cases forgotten <;> exact Nat.sub_le _ _
    · cases made
  simp only [fresh, Stream.Feeder.rank]
  omega

theorem rank_next? {call : Call} {now : Nat} {cancelled : Bool}
    (h : call.next? size now cancelled = some q) :
    q.rank size < (Strand.plain call now cancelled).rank size := by
  unfold Call.next? at h
  split at h
  next name state =>
    obtain ⟨state', hstate, rfl⟩ := Option.map_eq_some_iff.mp h
    unfold Search.next? at hstate
    split at hstate
    · split at hstate
      · split at hstate <;> cases hstate <;> simp [rank, Call.rank, Stream.Reading.rank]
      · cases hstate
    next r =>
      split at hstate
      · cases hstate; simp only [rank, Call.rank]; omega
      · cases hstate; simp only [rank, Call.rank]; omega
      · cases hstate; simp only [rank, Call.rank]; omega
      next moved =>
        cases hstate
        have hlt := Stream.Reading.rank_lt_of_moved moved
        simp only [rank, Call.rank]
        omega
      · cases hstate
    · cases hstate
  next f deadline forgotten =>
    split at h
    · split at h
      · cases h
        simp [rank, Call.rank]
      · split at h
        · cases h
          simp [rank, Call.rank]
        next channel made =>
          cases h
          exact Nat.lt_succ_of_le (rank_fresh forgotten now made)
    · cases h
  · cases h

theorem rank_turn? (h : p.turn? size = some q) : q.rank size < p.rank size := by
  cases p with
  | plain call now cancelled => exact rank_next? h
  | stream st =>
    obtain ⟨⟨next, lines⟩, hstep, rfl⟩ := Option.map_eq_some_iff.mp h
    have hrank := Stream.Feeder.rank_step hstep
    simp only [rank, Stream.Scene.happen, hstep]
    exact hrank

def settle (size : Nat) (p : Strand) : Strand :=
  match h : p.turn? size with
  | none => p
  | some next =>
    have := rank_turn? h
    settle size next
termination_by p.rank size

theorem settle_of_rests (h : p.Rests size) : p.settle size = p := by
  have hnone : p.turn? size = none := h
  rw [settle]
  split
  · rfl
  next next hsome => cases hnone.symm.trans hsome

theorem settle_of_turn? (h : p.turn? size = some q) : p.settle size = q.settle size := by
  rw [settle]
  split
  next hnone => cases h.symm.trans hnone
  next next hsome =>
    cases h.symm.trans hsome
    rfl

theorem settle_turn (size : Nat) (p : Strand) :
    (p.happen size .turn).settle size = p.settle size := by
  cases h : p.turn? size with
  | none => rw [happen, h, Option.getD_none]
  | some next => rw [happen, h, Option.getD_some, settle_of_turn? h]

-- ---------------------------------------------------------------------------
-- Prompt histories
-- ---------------------------------------------------------------------------

def Attends (size : Nat) (p : Strand) : Notice → Prop
  | .turn => True
  | .pass ms => ∀ j < ms, (p.happen size (.pass j)).Rests size
  | _ => p.Rests size

/-- Whatever happens, the call has done all that it could before, and so it has in the end. -/
def Prompt (size : Nat) : Strand → List Notice → Prop
  | p, [] => p.Rests size
  | p, notice :: notices => p.Attends size notice ∧ Prompt size (p.happen size notice) notices

def follow (size : Nat) (p : Strand) (notices : List Notice) : Strand :=
  notices.foldl (fun p notice => (p.happen size notice).settle size) (p.settle size)

theorem follow_cons (h : p.Rests size) (notice : Notice) (notices : List Notice) :
    p.follow size (notice :: notices) = (p.happen size notice).follow size notices := by
  rw [follow, List.foldl_cons, settle_of_rests h, follow]

theorem follow_pass (ms : Nat) (h : ∀ j < ms, (p.happen size (.pass j)).Rests size)
    (notices : List Notice) :
    p.follow size (List.replicate ms (.pass 1) ++ notices) =
      (p.happen size (.pass ms)).follow size notices := by
  induction ms generalizing p with
  | zero => simp
  | succ ms ih =>
    have hfirst : p.Rests size := by simpa using h 0 (Nat.succ_pos ms)
    have hrest : ∀ j < ms, ((p.happen size (.pass 1)).happen size (.pass j)).Rests size := by
      intro j hj
      rw [pass_pass, Nat.add_comm]
      exact h (j + 1) (Nat.succ_lt_succ hj)
    rw [List.replicate_succ, List.cons_append, follow_cons hfirst, ih hrest, pass_pass,
      Nat.add_comm]

theorem follow_turn (size : Nat) (p : Strand) (notices : List Notice) :
    (p.happen size .turn).follow size notices = p.follow size notices := by
  rw [follow, follow, settle_turn]

theorem run_eq_follow (h : p.Prompt size notices) :
    p.run size notices = p.follow size (notices.flatMap Notice.outside) := by
  induction notices generalizing p with
  | nil => exact (settle_of_rests h).symm
  | cons notice notices ih =>
    obtain ⟨hattends, hrest⟩ := h
    rw [Runs.cons (run size), List.flatMap_cons, ih hrest]
    cases notice with
    | turn => exact follow_turn size p _
    | pass ms => exact (follow_pass ms hattends _).symm
    | _ => exact (follow_cons hattends _ _).symm

/-- Prompt histories that are the same from the outside come to the same. -/
theorem run_eq_of_prompt (h : p.Prompt size notices) (h' : p.Prompt size notices')
    (same : notices.flatMap Notice.outside = notices'.flatMap Notice.outside) :
    p.run size notices = p.run size notices' := by
  rw [run_eq_follow h, run_eq_follow h', same]

end Strand

end Menagerie.Service
