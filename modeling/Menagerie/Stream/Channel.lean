import Menagerie.Document
import Menagerie.Failure

/-!
# Response channels

The bounded queue between the task that feeds a stream and the caller that reads it. The receiver may
close its end, which refuses further items and keeps the queued ones, or drop it, which discards
those as well.
-/

namespace Menagerie.Stream

/-- A creature, or the status that ends the stream. -/
abbrev Item := Except Status Creature

inductive Receiver where
  | opened | closed | dropped
  deriving DecidableEq, Inhabited, Repr

structure Channel where
  capacity : Nat
  items : List Item
  receiver : Receiver
  deriving Inhabited

inductive Offer where
  | accepted (channel : Channel)
  | full
  | closed

namespace Channel

def capacityLimit : Nat := 1 <<< 61 - 1

/-- A channel without room, or with more than the limit, cannot be made. -/
def make? (capacity : Nat) : Option Channel :=
  if 0 < capacity ∧ capacity ≤ capacityLimit then some ⟨capacity, [], .opened⟩ else none

def room (c : Channel) : Nat := c.capacity - c.items.length

def isOpen (c : Channel) : Bool := c.receiver = .opened

def offer (c : Channel) (item : Item) : Offer :=
  if c.receiver ≠ .opened then .closed
  else if c.items.length < c.capacity then .accepted { c with items := c.items ++ [item] }
  else .full

def take? (c : Channel) : Option (Item × Channel) :=
  match c.items with
  | [] => none
  | item :: rest => some (item, { c with items := rest })

def close (c : Channel) : Channel :=
  if c.receiver = .opened then { c with receiver := .closed } else c

def drop (c : Channel) : Channel := { c with receiver := .dropped, items := [] }

theorem room_of_accepted {c c' : Channel} {item : Item} (h : c.offer item = .accepted c') :
    c'.room + 1 = c.room := by
  unfold offer at h
  split at h
  · simp at h
  · split at h
    · simp only [Offer.accepted.injEq] at h
      simp [← h, room]
      omega
    · simp at h

end Channel

end Menagerie.Stream
