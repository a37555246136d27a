import Menagerie.Runs
import Menagerie.Stream.Feeder

/-!
# All that can happen to a stream

A scene is a feeder among its surroundings, with a record of what went through its channel. What
happens to it comes in any order: the feeder takes a step, the caller takes an item or leaves, the
service cancels, time passes. A list of happenings is one interleaving of these, and a scene is
reachable when some list leads to it from the start of the stream.
-/

namespace Menagerie.Stream

inductive Happening where
  | step
  | take
  | close
  | drop
  | cancel
  | pass (ms : Nat)
  deriving DecidableEq, Repr

structure Scene where
  feeder : Feeder
  now : Nat := 0
  cancelled : Bool := false
  /-- All items that the caller has taken, first one first. -/
  received : List Item := []
  /-- All items that were ever put into the channel, first one first. -/
  enqueued : List Item := []

def Feeder.added (before after : Feeder) : List Item :=
  after.channel.items.drop before.channel.items.length

namespace Scene

/-- A stream that has just been opened; `none` for a capacity that no channel can have. -/
def make? (cursor : Cursor) (capacity : Nat) (deadline : Option Nat) : Option Scene :=
  (Channel.make? capacity).map fun channel => { feeder := { reading := { cursor }, deadline, channel } }

def moment (s : Scene) : Moment := ⟨s.now, s.cancelled⟩

def happen (s : Scene) : Happening → Scene
  | .step =>
    match s.feeder.step s.moment with
    | some (next, _) => { s with feeder := next, enqueued := s.enqueued ++ s.feeder.added next }
    | none => s
  | .take =>
    match s.feeder.take with
    | .item item feeder => { s with feeder, received := s.received ++ [item] }
    | _ => s
  | .close => { s with feeder := s.feeder.close }
  | .drop => { s with feeder := s.feeder.drop }
  | .cancel => { s with cancelled := true }
  | .pass ms => { s with now := s.now + ms }

def run (s : Scene) (happenings : List Happening) : Scene := happenings.foldl happen s

instance : Runs run happen := ⟨fun _ _ => rfl⟩

/-- The feeder can do nothing until somebody else acts or time passes. -/
def Quiet (s : Scene) : Prop := s.feeder.step s.moment = none

/-- The caller has been told that nothing more will come. -/
def Ended (s : Scene) : Prop := s.feeder.take = .ended

end Scene

end Menagerie.Stream
