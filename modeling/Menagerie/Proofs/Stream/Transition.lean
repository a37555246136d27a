import Menagerie.Stream.Feeder

/-!
# What one step of a feeder can do

`step_transition` reads a step of `Feeder.step` as one of six transitions, each with its guards and
with the items that it puts into the channel; `Ending` tells the ways to return apart. Where there is
no step, `step_eq_none_iff` says what the feeder waits for. All that is proved about runs rests on
these two and does not look into `Feeder.step` again.
-/

namespace Menagerie.Stream

-- ---------------------------------------------------------------------------
-- Offers
-- ---------------------------------------------------------------------------

namespace Channel

def Accepts (c : Channel) : Prop := c.receiver = .opened ∧ c.items.length < c.capacity

def Full (c : Channel) : Prop := c.receiver = .opened ∧ c.capacity ≤ c.items.length

def put (c : Channel) (items : List Item) : Channel := { c with items := c.items ++ items }

variable {c c' : Channel} {item : Item} {items : List Item}

@[simp] theorem put_nil (c : Channel) : c.put [] = c := by simp [put]

@[simp] theorem items_put : (c.put items).items = c.items ++ items := rfl

@[simp] theorem receiver_put : (c.put items).receiver = c.receiver := rfl

@[simp] theorem items_close : c.close.items = c.items := by
  unfold close
  split <;> rfl

theorem receiver_close_of_ne (h : c.receiver ≠ .opened) : c.close.receiver = c.receiver := by
  simp [close, h]

theorem of_make {capacity : Nat} (h : make? capacity = some c) :
    c.items = [] ∧ c.receiver = .opened := by
  unfold make? at h
  split at h
  · cases h
    exact ⟨rfl, rfl⟩
  · simp at h

theorem isSome_make?_iff {capacity : Nat} :
    (make? capacity).isSome = true ↔ 0 < capacity ∧ capacity ≤ capacityLimit := by
  unfold make?
  split <;> simp_all

theorem offer_accepted_iff : c.offer item = .accepted c' ↔ c.Accepts ∧ c' = c.put [item] := by
  unfold offer Accepts put
  split
  next h => simp [h]
  next h =>
    split
    next hroom => simp_all [eq_comm]
    next hroom => simp [hroom]

theorem offer_full_iff (item : Item) : c.offer item = .full ↔ c.Full := by
  unfold offer Full
  split
  next h => simp [h]
  next h =>
    split
    next hroom => simp [hroom]
    next hroom => simp_all

theorem offer_closed_iff : c.offer item = .closed ↔ c.receiver ≠ .opened := by
  unfold offer
  split
  next h => simp [h]
  next h => split <;> simp_all

theorem not_accepts_iff : ¬ c.Accepts ↔ c.receiver ≠ .opened ∨ c.Full := by
  unfold Accepts Full
  by_cases h : c.receiver = .opened <;> simp [h]

theorem Full.not_accepts (h : c.Full) : ¬ c.Accepts := not_accepts_iff.mpr (.inr h)

end Channel

-- ---------------------------------------------------------------------------
-- Transitions
-- ---------------------------------------------------------------------------

namespace Position

/-- The feeder still races the service and the clock: it waits for the cursor or holds a creature. -/
def Racing : Position → Prop
  | .awaiting | .holding _ => True
  | .forwarding _ | .notifying | .finished _ => False

/-- The failure whose status waits for room. -/
def owed? : Position → Option Failure
  | .forwarding failure => some failure
  | .notifying => some .deadlineExceeded
  | .awaiting | .holding _ | .finished _ => none

theorem owed?_eq_some_iff {p : Position} {failure : Failure} :
    p.owed? = some failure ↔
      p = .forwarding failure ∨ p = .notifying ∧ failure = .deadlineExceeded := by
  cases p <;> simp [owed?, eq_comm]

end Position

namespace Feeder

variable {m : Moment} {f f' : Feeder} {lines : List Log.Line} {added : List Item}

/-- Neither shutdown nor departure nor the deadline keeps the feeder from looking at the cursor. -/
structure Reads (m : Moment) (f : Feeder) : Prop where
  position : f.position = .awaiting
  running : m.cancelled = false
  opened : f.channel.receiver = .opened
  early : f.expired m.now = false

/-- How a feeder returns in its next step: the outcome, and the item that the caller is left with. -/
inductive Ending (m : Moment) (f : Feeder) : Outcome → List Item → Prop where
  | exhausted (reads : f.Reads m) (look : f.reading.look m.now = .finish) :
      Ending m f (.ok f.sent) []
  | left (racing : f.position.Racing) (running : m.cancelled = false)
      (gone : f.channel.receiver ≠ .opened)
      (early : f.position ≠ .awaiting → f.expired m.now = false) :
      Ending m f (.error .requestCancelled) []
  | stopped (racing : f.position.Racing) (cancelled : m.cancelled = true)
      (room : f.channel.Accepts) :
      Ending m f (.error .serviceShutdown) [.error Failure.serviceShutdown.status]
  | stoppedUnheard (racing : f.position.Racing) (cancelled : m.cancelled = true)
      (noRoom : ¬ f.channel.Accepts) : Ending m f (.error .serviceShutdown) []
  | told {failure : Failure} (owed : f.position.owed? = some failure)
      (running : f.position = .notifying → m.cancelled = false) (room : f.channel.Accepts) :
      Ending m f (.error failure) [.error failure.status]
  | unheard {failure : Failure} (owed : f.position.owed? = some failure)
      (running : f.position = .notifying → m.cancelled = false)
      (gone : f.channel.receiver ≠ .opened) : Ending m f (.error failure) []
  /-- A shutdown does not wait for room, not even for the status of a passed deadline. -/
  | gaveUp (position : f.position = .notifying) (cancelled : m.cancelled = true) :
      Ending m f (.error .deadlineExceeded) []

def conclude (f : Feeder) (outcome : Outcome) (last : List Item) : Feeder :=
  { f with channel := f.channel.put last, position := .finished outcome }

@[simp] theorem conclude_nil (f : Feeder) (outcome : Outcome) :
    f.conclude outcome [] = f.finish outcome := by simp [conclude, finish]

/-- All that a step can do, with the items that it puts into the channel. -/
inductive Transition (m : Moment) (f : Feeder) : Feeder → List Item → Prop where
  | pause {reading : Reading} (reads : f.Reads m) (look : f.reading.look m.now = .moved reading) :
      Transition m f { f with reading } []
  | read {d : Document} {reading : Reading} (reads : f.Reads m)
      (look : f.reading.look m.now = .document d reading) :
      Transition m f { f with reading, position := .holding d.toCreature } []
  | fail {failure : Failure} (reads : f.Reads m) (look : f.reading.look m.now = .failure failure) :
      Transition m f { f with position := .forwarding failure } []
  | expire (racing : f.position.Racing) (running : m.cancelled = false)
      (opened : f.position = .awaiting → f.channel.receiver = .opened)
      (late : f.expired m.now = true) : Transition m f { f with position := .notifying } []
  | send {creature : Creature} (position : f.position = .holding creature)
      (running : m.cancelled = false) (early : f.expired m.now = false)
      (room : f.channel.Accepts) :
      Transition m f
        { f with channel := f.channel.put [.ok creature], position := .awaiting, sent := f.sent + 1 }
        [.ok creature]
  | finish {outcome : Outcome} {last : List Item} (ending : f.Ending m outcome last) :
      Transition m f (f.conclude outcome last) last

theorem Ending.finish {outcome : Outcome} (h : f.Ending m outcome []) :
    Transition m f (f.finish outcome) [] := by
  have ht := Transition.finish h
  rwa [conclude_nil] at ht

theorem stop_transition (hp : f.position.Racing) (hc : m.cancelled = true) :
    ∃ added, Transition m f f.stop.1 added := by
  unfold stop
  split
  next channel ho =>
    obtain ⟨hroom, rfl⟩ := Channel.offer_accepted_iff.mp ho
    exact ⟨_, .finish (.stopped hp hc hroom)⟩
  next ho =>
    exact ⟨_, Ending.finish (.stoppedUnheard hp hc ((Channel.offer_full_iff _).mp ho).not_accepts)⟩
  next ho =>
    have hno := Channel.not_accepts_iff.mpr (.inl (Channel.offer_closed_iff.mp ho))
    exact ⟨_, Ending.finish (.stoppedUnheard hp hc hno)⟩

theorem report_transition {failure : Failure} {what : String}
    (ho : f.position.owed? = some failure) (hr : f.position = .notifying → m.cancelled = false)
    (h : f.report failure what = some (f', lines)) : ∃ added, Transition m f f' added := by
  unfold report at h
  split at h
  next channel hoffer =>
    obtain ⟨hroom, rfl⟩ := Channel.offer_accepted_iff.mp hoffer
    cases h
    exact ⟨_, .finish (.told ho hr hroom)⟩
  next hoffer =>
    cases h
    exact ⟨_, Ending.finish (.unheard ho hr (Channel.offer_closed_iff.mp hoffer))⟩
  next => simp at h

theorem pull_transition (hr : f.Reads m) (h : f.pull m.now = some (f', lines)) :
    ∃ added, Transition m f f' added := by
  unfold pull at h
  split at h
  next d reading hl => cases h; exact ⟨_, .read hr hl⟩
  next failure hl => cases h; exact ⟨_, .fail hr hl⟩
  next hl => cases h; exact ⟨_, Ending.finish (.exhausted hr hl)⟩
  next reading hl => cases h; exact ⟨_, .pause hr hl⟩
  next => simp at h

theorem send_transition {creature : Creature} (hp : f.position = .holding creature)
    (hc : m.cancelled = false) (he : f.expired m.now = false)
    (h : f.send creature = some (f', lines)) : ∃ added, Transition m f f' added := by
  unfold send at h
  split at h
  next channel hoffer =>
    obtain ⟨hroom, rfl⟩ := Channel.offer_accepted_iff.mp hoffer
    cases h
    exact ⟨_, .send hp hc he hroom⟩
  next hoffer =>
    cases h
    have hracing : f.position.Racing := by rw [hp]; trivial
    have hgone := Channel.offer_closed_iff.mp hoffer
    exact ⟨_, Ending.finish (.left hracing hc hgone fun _ => he)⟩
  next => simp at h

theorem step_transition (h : f.step m = some (f', lines)) : ∃ added, Transition m f f' added := by
  unfold step at h
  split at h
  next hp =>
    have hracing : f.position.Racing := by rw [hp]; trivial
    split at h
    next hc =>
      obtain ⟨added, ht⟩ := stop_transition hracing hc
      rw [Option.some.inj h] at ht
      exact ⟨added, ht⟩
    next hc =>
      have hc : m.cancelled = false := by simpa using hc
      split at h
      next hopen =>
        cases h
        have hgone : f.channel.receiver ≠ .opened := by simpa [Channel.isOpen] using hopen
        exact ⟨_, Ending.finish (.left hracing hc hgone fun hn => absurd hp hn)⟩
      next hopen =>
        have hopen : f.channel.receiver = .opened := by simpa [Channel.isOpen] using hopen
        split at h
        next he => cases h; exact ⟨_, .expire hracing hc (fun _ => hopen) he⟩
        next he => exact pull_transition ⟨hp, hc, hopen, by simpa using he⟩ h
  next creature hp =>
    have hracing : f.position.Racing := by rw [hp]; trivial
    split at h
    next hc =>
      obtain ⟨added, ht⟩ := stop_transition hracing hc
      rw [Option.some.inj h] at ht
      exact ⟨added, ht⟩
    next hc =>
      have hc : m.cancelled = false := by simpa using hc
      split at h
      next he => cases h; exact ⟨_, .expire hracing hc (by simp [hp]) he⟩
      next he => exact send_transition hp hc (by simpa using he) h
  next failure hp => exact report_transition (by rw [hp]; rfl) (by simp [hp]) h
  next hp =>
    split at h
    next hc =>
      cases h
      exact ⟨_, Ending.finish (.gaveUp hp hc)⟩
    next hc => exact report_transition (by rw [hp]; rfl) (fun _ => by simpa using hc) h
  next => simp at h

theorem Ending.of_ok {n : Nat} {last : List Item} (h : f.Ending m (.ok n) last) :
    last = [] ∧ n = f.sent ∧ f.Reads m ∧ f.reading.look m.now = .finish := by
  cases h with
  | exhausted reads look => exact ⟨rfl, rfl, reads, look⟩

theorem Ending.last_of_error {failure : Failure} {last : List Item}
    (h : f.Ending m (.error failure) last) : last = [] ∨ last = [.error failure.status] := by
  cases h with
  | stopped | told => exact .inr rfl
  | _ => exact .inl rfl

theorem Ending.unfinished {outcome : Outcome} {last : List Item} (h : f.Ending m outcome last) :
    ∀ outcome, f.position ≠ .finished outcome := by
  intro outcome hp
  cases h with
  | exhausted reads => simp [reads.position] at hp
  | left racing | stopped racing | stoppedUnheard racing =>
    rw [hp] at racing
    exact racing
  | told owed | unheard owed => simp [hp, Position.owed?] at owed
  | gaveUp position => simp [position] at hp

theorem Transition.channel (h : Transition m f f' added) : f'.channel = f.channel.put added := by
  cases h <;> simp [conclude]

-- ---------------------------------------------------------------------------
-- Where there is no step
-- ---------------------------------------------------------------------------

/-- What a feeder without a step waits for, if it has not returned. -/
inductive Waits (m : Moment) (f : Feeder) : Prop where
  | cursor (reads : f.Reads m) (look : f.reading.look m.now = .nothing)
  | room {creature : Creature} (position : f.position = .holding creature)
      (running : m.cancelled = false) (early : f.expired m.now = false) (full : f.channel.Full)
  /-- Neither shutdown nor the deadline is watched here. -/
  | roomForFailure {failure : Failure} (position : f.position = .forwarding failure)
      (full : f.channel.Full)
  | roomForDeadline (position : f.position = .notifying) (running : m.cancelled = false)
      (full : f.channel.Full)

theorem report_eq_none_iff {failure : Failure} {what : String} :
    f.report failure what = none ↔ f.channel.Full := by
  rw [← Channel.offer_full_iff (.error failure.status)]
  unfold report
  split <;> simp_all

theorem send_eq_none_iff {creature : Creature} : f.send creature = none ↔ f.channel.Full := by
  rw [← Channel.offer_full_iff (.ok creature)]
  unfold send
  split <;> simp_all

theorem pull_eq_none_iff {now : Nat} : f.pull now = none ↔ f.reading.look now = .nothing := by
  unfold pull
  split <;> simp_all

theorem outcome?_eq_some_iff {outcome : Outcome} :
    f.outcome? = some outcome ↔ f.position = .finished outcome := by
  unfold outcome?
  split
  next hp => simp [hp]
  next hp => simpa using hp outcome

theorem isFinished_iff : f.isFinished = true ↔ ∃ outcome, f.position = .finished outcome := by
  simp [isFinished, Option.isSome_iff_exists, outcome?_eq_some_iff]

theorem step_eq_none_iff : f.step m = none ↔ f.isFinished = true ∨ f.Waits m := by
  constructor
  · intro h
    unfold step at h
    split at h
    next hp =>
      split at h
      · simp at h
      · split at h
        · simp at h
        · split at h
          · simp at h
          · exact .inr (.cursor ⟨hp, by simp_all, by simp_all [Channel.isOpen], by simp_all⟩
              (pull_eq_none_iff.mp h))
    next creature hp =>
      split at h
      · simp at h
      · split at h
        · simp at h
        · exact .inr (.room hp (by simp_all) (by simp_all) (send_eq_none_iff.mp h))
    next failure hp => exact .inr (.roomForFailure hp (report_eq_none_iff.mp h))
    next hp =>
      split at h
      · simp at h
      · exact .inr (.roomForDeadline hp (by simp_all) (report_eq_none_iff.mp h))
    next outcome hp => exact .inl (isFinished_iff.mpr ⟨outcome, hp⟩)
  · rintro (hf | hw)
    · obtain ⟨outcome, hp⟩ := isFinished_iff.mp hf
      simp [step, hp]
    · cases hw with
      | cursor reads look =>
        simp [step, reads.position, reads.running, reads.early, Channel.isOpen, reads.opened,
          pull_eq_none_iff.mpr look]
      | room position running early full =>
        simp [step, position, running, early, send_eq_none_iff.mpr full]
      | roomForFailure position full => simp [step, position, report_eq_none_iff.mpr full]
      | roomForDeadline position running full =>
        simp [step, position, running, report_eq_none_iff.mpr full]

-- ---------------------------------------------------------------------------
-- After a cancellation
-- ---------------------------------------------------------------------------

/-- Only the caller can move the feeder: it forwards a failure of the cursor, and there is no room. -/
def Stuck (f : Feeder) : Prop := (∃ failure, f.position = .forwarding failure) ∧ f.channel.Full

theorem Stuck.not_finished (h : f.Stuck) : ¬ f.isFinished = true := by
  intro hf
  obtain ⟨⟨failure, hp⟩, -⟩ := h
  obtain ⟨outcome, hp'⟩ := isFinished_iff.mp hf
  rw [hp] at hp'
  cases hp'

theorem step_eq_none_iff_of_cancelled (hc : m.cancelled = true) :
    f.step m = none ↔ f.isFinished = true ∨ f.Stuck := by
  rw [step_eq_none_iff]
  constructor
  · rintro (hf | hw)
    · exact .inl hf
    · cases hw with
      | cursor reads => simp [reads.running] at hc
      | room _ running | roomForDeadline _ running => simp [running] at hc
      | roomForFailure position full => exact .inr ⟨⟨_, position⟩, full⟩
  · rintro (hf | ⟨⟨failure, hp⟩, hfull⟩)
    · exact .inl hf
    · exact .inr (.roomForFailure hp hfull)

theorem Transition.ending_of_cancelled (h : Transition m f f' added) (hc : m.cancelled = true) :
    ∃ failure, f.Ending m (.error failure) added ∧ f' = f.conclude (.error failure) added := by
  cases h with
  | pause reads | read reads | fail reads => simp [reads.running] at hc
  | expire _ running | send _ running => simp [running] at hc
  | @finish outcome last ending =>
    cases outcome with
    | ok n =>
      cases ending with
      | exhausted reads => simp [reads.running] at hc
    | error failure => exact ⟨failure, ending, rfl⟩

-- ---------------------------------------------------------------------------
-- After a departure
-- ---------------------------------------------------------------------------

def advance (m : Moment) (f : Feeder) : Feeder :=
  match f.step m with
  | some (next, _) => next
  | none => f

theorem advance_of_finished (m : Moment) (h : f.isFinished = true) : f.advance m = f := by
  simp [advance, step_eq_none_iff.mpr (.inl h)]

theorem advance_of_gone (m : Moment) (gone : f.channel.receiver ≠ .opened) :
    (f.advance m).isFinished = true ∨
      (f.advance m).channel.receiver ≠ .opened ∧ (f.advance m).position = .notifying ∧
        f.position ≠ .notifying := by
  unfold advance
  split
  next f' lines hstep =>
    obtain ⟨added, ht⟩ := step_transition hstep
    have hreceiver : f'.channel.receiver = f.channel.receiver := by
      rw [ht.channel, Channel.receiver_put]
    cases ht with
    | pause reads | read reads | fail reads => exact absurd reads.opened gone
    | expire racing =>
      refine .inr ⟨gone, rfl, fun hp => ?_⟩
      rw [hp] at racing
      exact racing
    | send _ _ _ room => exact absurd room.1 gone
    | finish => exact .inl rfl
  next hnone =>
    rcases step_eq_none_iff.mp hnone with hdone | hwaits
    · exact .inl hdone
    · cases hwaits with
      | cursor reads => exact absurd reads.opened gone
      | room _ _ _ full | roomForFailure _ full | roomForDeadline _ _ full =>
        exact absurd full.1 gone

theorem finished_advance_advance (m m' : Moment) (gone : f.channel.receiver ≠ .opened) :
    ((f.advance m).advance m').isFinished = true := by
  rcases advance_of_gone m gone with hdone | ⟨hgone, hnotifying, -⟩
  · rwa [advance_of_finished m' hdone]
  · rcases advance_of_gone m' hgone with hdone | ⟨-, -, hother⟩
    · exact hdone
    · exact absurd hnotifying hother

end Feeder

end Menagerie.Stream
