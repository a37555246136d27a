import Menagerie.Proofs.Stream.Deadline

/-!
# Which event a stream heeds

Several events may be there at once when a feeder comes to its next step. `Position.order` lists
what it watches for, the winner first; `Feeder.Heeds` says that an event is there and none that wins
over it. A step answers the event that is heeded, and a feeder without a step heeds none
(`Feeder.Transition.answers`, `Feeder.step_eq_none_iff_of_racing`). `heeds_first` follows the answer
through the rest of the run.
-/

namespace Menagerie.Stream

inductive Cause where
  | shutdown
  | departure
  | deadline
  | cursor
  | channel
  deriving DecidableEq, Repr

def Position.order : Position → List Cause
  | .awaiting => [.shutdown, .departure, .deadline, .cursor]
  | .holding _ => [.shutdown, .deadline, .channel]
  | .forwarding _ | .notifying | .finished _ => []

namespace Feeder

variable {m : Moment} {f f' : Feeder} {added : List Item} {cause : Cause} {p : Position}

def Ready (m : Moment) (f : Feeder) : Cause → Prop
  | .shutdown => m.cancelled = true
  | .departure => f.channel.receiver ≠ .opened
  | .deadline => f.expired m.now = true
  | .cursor => f.reading.look m.now ≠ .nothing
  | .channel => ¬ f.channel.Full

/-- The event is there, and none that wins over it. -/
def Heeds (m : Moment) (f : Feeder) (cause : Cause) : Prop :=
  ∃ higher lower, f.position.order = higher ++ cause :: lower ∧
    (∀ c ∈ higher, ¬ f.Ready m c) ∧ f.Ready m cause

/-- Where an event takes a feeder, and what is put into the channel. -/
inductive Answers (m : Moment) (f : Feeder) : Cause → Position → List Item → Prop where
  | told (room : f.channel.Accepts) :
      Answers m f .shutdown (.finished (.error .serviceShutdown))
        [.error Failure.serviceShutdown.status]
  | untold (noRoom : ¬ f.channel.Accepts) :
      Answers m f .shutdown (.finished (.error .serviceShutdown)) []
  | left : Answers m f .departure (.finished (.error .requestCancelled)) []
  | late : Answers m f .deadline .notifying []
  | document {d : Document} {reading : Reading} (look : f.reading.look m.now = .document d reading) :
      Answers m f .cursor (.holding d.toCreature) []
  | failure {failure : Failure} (look : f.reading.look m.now = .failure failure) :
      Answers m f .cursor (.forwarding failure) []
  | finish (look : f.reading.look m.now = .finish) :
      Answers m f .cursor (.finished (.ok f.sent)) []
  | moved {reading : Reading} (look : f.reading.look m.now = .moved reading) :
      Answers m f .cursor .awaiting []
  | sent {creature : Creature} (held : f.position = .holding creature)
      (room : f.channel.Accepts) : Answers m f .channel .awaiting [.ok creature]
  | refused (gone : f.channel.receiver ≠ .opened) :
      Answers m f .channel (.finished (.error .requestCancelled)) []

-- ---------------------------------------------------------------------------
-- One step
-- ---------------------------------------------------------------------------

theorem heeds_shutdown (racing : f.position.Racing) (cancelled : m.cancelled = true) :
    f.Heeds m .shutdown := by
  cases hp : f.position with
  | awaiting => exact ⟨[], _, by rw [hp]; rfl, by simp, cancelled⟩
  | holding => exact ⟨[], _, by rw [hp]; rfl, by simp, cancelled⟩
  | forwarding | notifying | finished => simp [hp, Position.Racing] at racing

theorem heeds_departure (awaiting : f.position = .awaiting) (running : m.cancelled = false)
    (gone : f.channel.receiver ≠ .opened) : f.Heeds m .departure := by
  refine ⟨[.shutdown], _, by rw [awaiting]; rfl, ?_, gone⟩
  simp [Ready, running]

theorem heeds_deadline (racing : f.position.Racing) (running : m.cancelled = false)
    (opened : f.position = .awaiting → f.channel.receiver = .opened)
    (late : f.expired m.now = true) : f.Heeds m .deadline := by
  cases hp : f.position with
  | awaiting =>
    refine ⟨[.shutdown, .departure], _, by rw [hp]; rfl, ?_, late⟩
    simp [Ready, running, opened hp]
  | holding =>
    refine ⟨[.shutdown], _, by rw [hp]; rfl, ?_, late⟩
    simp [Ready, running]
  | forwarding | notifying | finished => simp [hp, Position.Racing] at racing

theorem heeds_cursor (reads : f.Reads m) (found : f.reading.look m.now ≠ .nothing) :
    f.Heeds m .cursor := by
  refine ⟨[.shutdown, .departure, .deadline], [], by rw [reads.position]; rfl, ?_, found⟩
  simp [Ready, reads.running, reads.opened, reads.early]

theorem heeds_channel {creature : Creature} (held : f.position = .holding creature)
    (running : m.cancelled = false) (early : f.expired m.now = false)
    (answers : ¬ f.channel.Full) : f.Heeds m .channel := by
  refine ⟨[.shutdown, .deadline], [], by rw [held]; rfl, ?_, answers⟩
  simp [Ready, running, early]

theorem Ending.answers {outcome : Outcome} (h : f.Ending m outcome added)
    (racing : f.position.Racing) :
    ∃ cause, f.Heeds m cause ∧ f.Answers m cause (.finished outcome) added := by
  cases h with
  | exhausted reads look => exact ⟨.cursor, heeds_cursor reads (by simp [look]), .finish look⟩
  | left _ running gone early =>
    cases hp : f.position with
    | awaiting => exact ⟨.departure, heeds_departure hp running gone, .left⟩
    | holding creature =>
      have hanswers : ¬ f.channel.Full := fun full => gone full.1
      exact ⟨.channel, heeds_channel hp running (early (by simp [hp])) hanswers, .refused gone⟩
    | forwarding | notifying | finished => simp [hp, Position.Racing] at racing
  | stopped _ cancelled room => exact ⟨.shutdown, heeds_shutdown racing cancelled, .told room⟩
  | stoppedUnheard _ cancelled noRoom =>
    exact ⟨.shutdown, heeds_shutdown racing cancelled, .untold noRoom⟩
  | told owed | unheard owed =>
    rcases Position.owed?_eq_some_iff.mp owed with hp | ⟨hp, -⟩ <;>
      simp [hp, Position.Racing] at racing
  | gaveUp position => simp [position, Position.Racing] at racing

/-- The step of a feeder answers the event that it heeds. -/
theorem Transition.answers (h : Transition m f f' added) (racing : f.position.Racing) :
    ∃ cause, f.Heeds m cause ∧ f.Answers m cause f'.position added := by
  cases h with
  | pause reads look =>
    have hanswer := Answers.moved (m := m) look
    rw [← reads.position] at hanswer
    exact ⟨.cursor, heeds_cursor reads (by simp [look]), hanswer⟩
  | read reads look => exact ⟨.cursor, heeds_cursor reads (by simp [look]), .document look⟩
  | fail reads look => exact ⟨.cursor, heeds_cursor reads (by simp [look]), .failure look⟩
  | expire _ running opened late =>
    exact ⟨.deadline, heeds_deadline racing running opened late, .late⟩
  | send position running early room =>
    have hanswers : ¬ f.channel.Full := fun full => full.not_accepts room
    exact ⟨.channel, heeds_channel position running early hanswers, .sent position room⟩
  | finish ending => exact ending.answers racing

theorem Heeds.unique {cause' : Cause} (h : f.Heeds m cause) (h' : f.Heeds m cause') :
    cause = cause' := by
  obtain ⟨higher, lower, horder, hnone, hready⟩ := h
  obtain ⟨higher', lower', horder', hnone', hready'⟩ := h'
  rw [horder, List.append_eq_append_iff] at horder'
  rcases horder' with ⟨between, rfl, hrest⟩ | ⟨between, rfl, hrest⟩
  · cases between with
    | nil => simpa using congrArg List.head? hrest
    | cons c between =>
      obtain rfl : cause = c := by simpa using congrArg List.head? hrest
      exact absurd hready (hnone' cause (by simp))
  · cases between with
    | nil => simpa [eq_comm] using congrArg List.head? hrest
    | cons c between =>
      obtain rfl : cause' = c := by simpa using congrArg List.head? hrest
      exact absurd hready' (hnone cause' (by simp))

/-- A feeder that waits for the cursor or holds a creature has no step exactly when nothing that it
watches for is there. -/
theorem step_eq_none_iff_of_racing (racing : f.position.Racing) :
    f.step m = none ↔ ∀ cause ∈ f.position.order, ¬ f.Ready m cause := by
  constructor
  · intro hnone
    rcases step_eq_none_iff.mp hnone with hdone | hwaits
    · obtain ⟨outcome, hp⟩ := isFinished_iff.mp hdone
      simp [hp, Position.Racing] at racing
    · cases hwaits with
      | cursor reads look =>
        simp [reads.position, Position.order, Ready, reads.running, reads.opened, reads.early, look]
      | room position running early full =>
        simp [position, Position.order, Ready, running, early, full]
      | roomForFailure position => simp [position, Position.Racing] at racing
      | roomForDeadline position => simp [position, Position.Racing] at racing
  · intro hnone
    cases hstep : f.step m with
    | none => rfl
    | some result =>
      obtain ⟨added, ht⟩ := step_transition hstep
      obtain ⟨cause, ⟨higher, lower, horder, -, hready⟩, -⟩ := ht.answers racing
      exact absurd hready (hnone cause (by simp [horder]))

theorem Answers.of_shutdown (h : f.Answers m .shutdown p added) :
    p = .finished (.error .serviceShutdown) := by
  cases h <;> rfl

theorem Answers.of_departure (h : f.Answers m .departure p added) :
    p = .finished (.error .requestCancelled) := by
  cases h
  rfl

theorem Answers.of_deadline (h : f.Answers m .deadline p added) : p = .notifying := by
  cases h
  rfl

theorem Answers.of_channel (h : f.Answers m .channel p added)
    (gone : f.channel.receiver ≠ .opened) : p = .finished (.error .requestCancelled) := by
  cases h with
  | sent _ room => exact absurd room.1 gone
  | refused => rfl

theorem Transition.of_notifying (h : Transition m f f' added) (hp : f.position = .notifying) :
    f'.position = .finished (.error .deadlineExceeded) := by
  have hracing : ¬ f.position.Racing := by simp [hp, Position.Racing]
  cases h with
  | pause reads | read reads | fail reads => cases hp.symm.trans reads.position
  | expire racing => exact absurd racing hracing
  | send position => cases hp.symm.trans position
  | finish ending =>
    cases ending with
    | exhausted reads => cases hp.symm.trans reads.position
    | left racing | stopped racing | stoppedUnheard racing => exact absurd racing hracing
    | told owed | unheard owed =>
      rw [hp] at owed
      cases owed
      rfl
    | gaveUp => rfl

end Feeder

namespace Scene

variable {s : Scene} {cause : Cause} {failure : Failure}

-- ---------------------------------------------------------------------------
-- Runs
-- ---------------------------------------------------------------------------

/-- The feeder has returned with this failure, or has nothing left to do but to report it. -/
def Doomed (failure : Failure) (s : Scene) : Prop :=
  s.feeder.position = .finished (.error failure) ∨
    s.feeder.position = .notifying ∧ failure = .deadlineExceeded

theorem Doomed.happen (h : s.Doomed failure) (e : Happening) : (s.happen e).Doomed failure := by
  by_cases he : e = .step
  · subst he
    rcases s.happen_step with ⟨-, hsame⟩ | ⟨f', added, ht, hnext⟩
    · rwa [hsame]
    · rw [hnext]
      rcases h with hp | ⟨hp, rfl⟩
      · exact absurd hp (ht.unfinished _)
      · exact .inl (ht.of_notifying hp)
  · rwa [Doomed, (s.position_happen he).1]

theorem Doomed.run (h : s.Doomed failure) (hs : List Happening) : (s.run hs).Doomed failure :=
  Runs.invariant Scene.run (fun _ e h => h.happen e) hs h

theorem Doomed.outcome? (h : s.Doomed failure) (other : failure ≠ .deadlineExceeded) :
    s.feeder.outcome? = some (.error failure) :=
  Feeder.outcome?_eq_some_iff.mpr (h.resolve_right fun hn => other hn.2)

theorem Doomed.eq_of_outcome? {outcome : Outcome} (h : s.Doomed failure)
    (hout : s.feeder.outcome? = some outcome) : outcome = .error failure := by
  rw [Feeder.outcome?_eq_some_iff] at hout
  rcases h with hp | ⟨hp, -⟩
  · cases hout.symm.trans hp
    rfl
  · cases hout.symm.trans hp

theorem cancelled_happen_of_cancelled (h : s.cancelled = true) (e : Happening) :
    (s.happen e).cancelled = true := by
  by_cases he : e = .cancel
  · rw [he]
    rfl
  · rwa [cancelled_happen he]

theorem grown_run_of_cancelled (h : s.cancelled = true) (hs : List Happening) :
    ∃ more, (s.run hs).enqueued = s.enqueued ++ more ∧ ∀ item ∈ more, item.isOk = false := by
  refine (Runs.invariant run (P := fun t => t.cancelled = true ∧
    ∃ more, t.enqueued = s.enqueued ++ more ∧ ∀ item ∈ more, item.isOk = false) ?_ hs
    ⟨h, [], by simp⟩).2
  rintro t e ⟨hc, hgrown⟩
  refine ⟨cancelled_happen_of_cancelled hc e, grown_happen hgrown (fun f' added ht => ?_) e⟩
  obtain ⟨failure, hending, -⟩ := ht.ending_of_cancelled hc
  exact hending.not_creature

theorem answers_step (racing : s.feeder.position.Racing)
    (heeds : s.feeder.Heeds s.moment cause) :
    ∃ added, s.feeder.Answers s.moment cause (s.happen .step).feeder.position added ∧
      (s.happen .step).enqueued = s.enqueued ++ added := by
  rcases s.happen_step with ⟨hquiet, -⟩ | ⟨f', added, ht, hnext⟩
  · obtain ⟨higher, lower, horder, -, hready⟩ := heeds
    have hnone := (Feeder.step_eq_none_iff_of_racing racing).mp hquiet
    exact absurd hready (hnone cause (by simp [horder]))
  · obtain ⟨cause', hheeds, hanswers⟩ := ht.answers racing
    rw [heeds.unique hheeds, hnext]
    exact ⟨added, hanswers, rfl⟩

section

variable (racing : s.feeder.position.Racing)

include racing

theorem doomed_of_cancelled (cancelled : s.cancelled = true) :
    (s.happen .step).Doomed .serviceShutdown := by
  obtain ⟨added, hanswers, -⟩ := answers_step racing (Feeder.heeds_shutdown racing cancelled)
  exact .inl hanswers.of_shutdown

theorem doomed_of_gone (running : s.cancelled = false)
    (gone : s.feeder.channel.receiver ≠ .opened)
    (first : s.feeder.position = .awaiting ∨ ¬ s.Expired) :
    (s.happen .step).Doomed .requestCancelled := by
  cases hp : s.feeder.position with
  | awaiting =>
    obtain ⟨added, hanswers, -⟩ := answers_step racing (Feeder.heeds_departure hp running gone)
    exact .inl hanswers.of_departure
  | holding creature =>
    have early : s.feeder.expired s.now = false := by simpa [hp, Expired] using first
    have hanswers : ¬ s.feeder.channel.Full := fun full => gone full.1
    obtain ⟨added, hanswers, -⟩ :=
      answers_step racing (Feeder.heeds_channel hp running early hanswers)
    exact .inl (hanswers.of_channel gone)
  | forwarding | notifying | finished => simp [hp, Position.Racing] at racing

theorem doomed_of_expired (running : s.cancelled = false) (late : s.Expired)
    (opened : s.feeder.position = .awaiting → s.feeder.channel.receiver = .opened) :
    (s.happen .step).Doomed .deadlineExceeded := by
  obtain ⟨added, hanswers, -⟩ :=
    answers_step racing (Feeder.heeds_deadline racing running opened late)
  exact .inr ⟨hanswers.of_deadline, rfl⟩

end

theorem Doomed.full_of_quiet (h : s.Doomed failure) (quiet : s.Quiet)
    (waits : s.feeder.outcome? = none) : s.feeder.channel.Full ∧ s.cancelled = false := by
  have hp : s.feeder.position = .notifying := by
    rcases h with hp | ⟨hp, -⟩
    · simp [Feeder.outcome?_eq_some_iff.mpr hp] at waits
    · exact hp
  rcases Feeder.step_eq_none_iff.mp quiet with hdone | hwaits
  · simp [Feeder.isFinished, waits] at hdone
  · cases hwaits with
    | cursor reads => cases hp.symm.trans reads.position
    | room position | roomForFailure position => cases hp.symm.trans position
    | roomForDeadline _ running full => exact ⟨full, running⟩

/-- After a cancellation no creature is put into the channel. While a feeder waits for the cursor or
holds a creature, its step answers the first event of `Position.order` that is there, and there is
no step as long as none is. A cancellation, a departure or a deadline that wins decides the outcome,
whatever comes after it; a deadline may have to wait for room. -/
theorem heeds_first (s : Scene) :
    (s.cancelled = true → ∀ hs, ∃ more, (s.run hs).enqueued = s.enqueued ++ more ∧
      ∀ item ∈ more, item.isOk = false) ∧
    (s.feeder.position.Racing →
      (s.Quiet ↔ ∀ cause ∈ s.feeder.position.order, ¬ s.feeder.Ready s.moment cause) ∧
      (∀ cause, s.feeder.Heeds s.moment cause →
        ∃ added, s.feeder.Answers s.moment cause (s.happen .step).feeder.position added ∧
          (s.happen .step).enqueued = s.enqueued ++ added) ∧
      ∀ hs, let t := (s.happen .step).run hs
        (s.cancelled = true → t.feeder.outcome? = some (.error .serviceShutdown)) ∧
        (s.cancelled = false → s.feeder.channel.receiver ≠ .opened →
          s.feeder.position = .awaiting ∨ ¬ s.Expired →
            t.feeder.outcome? = some (.error .requestCancelled)) ∧
        (s.cancelled = false → s.Expired →
          (s.feeder.position = .awaiting → s.feeder.channel.receiver = .opened) →
            t.feeder.outcome? = some (.error .deadlineExceeded) ∨
              t.feeder.outcome? = none ∧
                (t.Quiet → t.feeder.channel.Full ∧ t.cancelled = false))) := by
  refine ⟨fun hc hs => grown_run_of_cancelled hc hs, fun racing => ?_⟩
  refine ⟨Feeder.step_eq_none_iff_of_racing racing, fun cause => answers_step racing,
    fun hs => ⟨fun cancelled => ?_, fun running gone first => ?_, fun running late opened => ?_⟩⟩
  · exact ((doomed_of_cancelled racing cancelled).run hs).outcome? (by simp)
  · exact ((doomed_of_gone racing running gone first).run hs).outcome? (by simp)
  · have hdoomed := (doomed_of_expired racing running late opened).run hs
    cases hout : ((s.happen .step).run hs).feeder.outcome? with
    | none => exact .inr ⟨rfl, fun quiet => hdoomed.full_of_quiet quiet hout⟩
    | some outcome => exact .inl (congrArg some (hdoomed.eq_of_outcome? hout))

/-- A document is ready and the deadline has passed when the caller closes and the service cancels;
the deadline passes while a creature is held, and the caller closes. -/
theorem heeds_first_of_ties :
    ∃ start, make? (.ofDocuments [.empty]) 1 (some 5) = some start ∧
      let all := start.run [.pass 5, .close, .cancel]
      let left := start.run [.pass 5, .close]
      let held := start.run [.step, .pass 5, .close]
      (all.feeder.position.Racing ∧ all.cancelled = true ∧
        (all.run [.step]).feeder.outcome? = some (.error .serviceShutdown)) ∧
      (left.feeder.position.Racing ∧ left.cancelled = false ∧
        left.feeder.channel.receiver ≠ .opened ∧ left.feeder.position = .awaiting ∧
        (left.run [.step]).feeder.outcome? = some (.error .requestCancelled)) ∧
      (held.feeder.position.Racing ∧ held.cancelled = false ∧ held.Expired ∧
        (held.run [.step, .step]).feeder.outcome? = some (.error .deadlineExceeded)) := by
  have hmake : make? (.ofDocuments [.empty]) 1 (some 5) = some _ := rfl
  refine ⟨_, hmake, ?_⟩
  intro all left held
  have hall : all.feeder.position.Racing := trivial
  have hleft : left.feeder.position.Racing := trivial
  have hheld : held.feeder.position.Racing := trivial
  refine ⟨⟨hall, rfl, ?_⟩, ⟨hleft, rfl, by decide, rfl, ?_⟩, hheld, rfl, rfl, ?_⟩
  · exact (((heeds_first all).2 hall).2.2 []).1 rfl
  · exact (((heeds_first left).2 hleft).2.2 []).2.1 rfl (by decide) (.inl rfl)
  · refine ((((heeds_first held).2 hheld).2.2 [.step]).2.2 rfl rfl ?_).resolve_right ?_
    · rintro ⟨⟩
    · rintro ⟨hnone, -⟩
      cases hnone

end Scene

end Menagerie.Stream
