import Menagerie.Proofs.Stream.Priority

/-!
# Streams whose caller has gone

A receiver that has closed or was dropped stays so (`Departed`). The feeder is never at rest then
before it has returned, it needs two steps at most, and puts nothing into the channel any more. Which
outcome it comes to is settled at its next step, by `Feeder.parting`. What was queued before a close
is still there to be taken.
-/

namespace Menagerie.Stream

namespace Feeder

variable {m : Moment} {f f' : Feeder} {added : List Item}

/-- How a feeder returns whose caller has gone by its next step. -/
def parting (m : Moment) (f : Feeder) : Outcome :=
  match f.position with
  | .awaiting => .error (if m.cancelled then .serviceShutdown else .requestCancelled)
  | .holding _ =>
    .error <|
      if m.cancelled then .serviceShutdown
      else if f.expired m.now then .deadlineExceeded
      else .requestCancelled
  | .forwarding failure => .error failure
  | .notifying => .error .deadlineExceeded
  | .finished outcome => outcome

theorem parting_of_finished {outcome : Outcome} (h : f.position = .finished outcome) :
    f.parting m = outcome := by
  simp [parting, h]

theorem parting_of_owed {failure : Failure} (h : f.position.owed? = some failure) :
    f.parting m = .error failure := by
  rcases Position.owed?_eq_some_iff.mp h with hp | ⟨hp, rfl⟩ <;> simp [parting, hp]

theorem parting_of_cancelled (racing : f.position.Racing) (cancelled : m.cancelled = true) :
    f.parting m = .error .serviceShutdown := by
  cases hp : f.position with
  | awaiting | holding => simp [parting, hp, cancelled]
  | forwarding | notifying | finished => simp [hp, Position.Racing] at racing

theorem parting_of_left (racing : f.position.Racing) (running : m.cancelled = false)
    (early : f.position ≠ .awaiting → f.expired m.now = false) :
    f.parting m = .error .requestCancelled := by
  cases hp : f.position with
  | awaiting => simp [parting, hp, running]
  | holding => simp [parting, hp, running, early (by simp [hp])]
  | forwarding | notifying | finished => simp [hp, Position.Racing] at racing

theorem Ending.parting (h : f.Ending m outcome added) (gone : f.channel.receiver ≠ .opened) :
    f.parting m = outcome ∧ added = [] := by
  cases h with
  | exhausted reads => exact absurd reads.opened gone
  | left racing running _ early => exact ⟨parting_of_left racing running early, rfl⟩
  | stopped _ _ room | told _ _ room => exact absurd room.1 gone
  | stoppedUnheard racing cancelled => exact ⟨parting_of_cancelled racing cancelled, rfl⟩
  | unheard owed => exact ⟨parting_of_owed owed, rfl⟩
  | gaveUp position => exact ⟨by simp [Feeder.parting, position], rfl⟩

/-- The step of a feeder without a listener is its return, or leaves only the deadline to report. -/
theorem Transition.parting (h : Transition m f f' added) (gone : f.channel.receiver ≠ .opened) :
    added = [] ∧ (f'.position = .finished (f.parting m) ∨
      f'.position = .notifying ∧ f.parting m = .error .deadlineExceeded) := by
  cases h with
  | pause reads | read reads | fail reads => exact absurd reads.opened gone
  | expire racing running opened late =>
    refine ⟨rfl, .inr ⟨rfl, ?_⟩⟩
    cases hp : f.position with
    | awaiting => exact absurd (opened hp) gone
    | holding => simp [Feeder.parting, hp, running, late]
    | forwarding | notifying | finished => simp [hp, Position.Racing] at racing
  | send _ _ _ room => exact absurd room.1 gone
  | finish ending =>
    obtain ⟨houtcome, rfl⟩ := ending.parting gone
    exact ⟨rfl, .inl (by rw [houtcome]; rfl)⟩

end Feeder

namespace Scene

variable {s : Scene}

def Departed (s : Scene) : Prop := s.feeder.channel.receiver ≠ .opened

theorem Departed.happen (h : s.Departed) (e : Happening) : (s.happen e).Departed := by
  cases e with
  | close =>
    have hreceiver := Channel.receiver_close_of_ne h
    exact fun ho => h (hreceiver.symm.trans ho)
  | drop => exact fun ho => by cases ho
  | step | take | cancel | pass =>
    unfold Departed
    rwa [receiver_happen (by simp) (by simp)]

theorem Departed.run (h : s.Departed) (hs : List Happening) : (s.run hs).Departed :=
  Runs.invariant Scene.run (fun _ e h => h.happen e) hs h

theorem Departed.enqueued_run (h : s.Departed) (hs : List Happening) :
    (s.run hs).enqueued = s.enqueued := by
  refine (Runs.invariant Scene.run (P := fun t => t.Departed ∧ t.enqueued = s.enqueued) ?_ hs
    ⟨h, rfl⟩).2
  rintro t e ⟨hgone, hsame⟩
  refine ⟨hgone.happen e, ?_⟩
  by_cases he : e = .step
  · subst he
    rcases t.happen_step with ⟨-, hstay⟩ | ⟨f', added, ht, hnext⟩
    · rwa [hstay]
    · obtain ⟨rfl, -⟩ := ht.parting hgone
      rw [hnext, ← hsame]
      exact List.append_nil _
  · exact (t.position_happen he).2.trans hsame

/-- Whatever a feeder can wait for, it waits for it only while somebody listens. -/
theorem Departed.finished_of_quiet (h : s.Departed) (quiet : s.Quiet) :
    s.feeder.isFinished = true := by
  rcases Feeder.step_eq_none_iff.mp quiet with hdone | hwaits
  · exact hdone
  · cases hwaits with
    | cursor reads => exact absurd reads.opened h
    | room _ _ _ full | roomForFailure _ full | roomForDeadline _ _ full => exact absurd full.1 h

theorem Departed.settles (h : s.Departed) :
    (s.happen .step).feeder.position = .finished (s.feeder.parting s.moment) ∨
      (s.happen .step).feeder.position = .notifying ∧
        s.feeder.parting s.moment = .error .deadlineExceeded := by
  rcases s.happen_step with ⟨hquiet, hstay⟩ | ⟨f', added, ht, hnext⟩
  · -- No step means that the feeder has returned already, with the outcome that `parting` reads off.
    obtain ⟨outcome, hp⟩ := Feeder.isFinished_iff.mp (h.finished_of_quiet hquiet)
    rw [hstay, Feeder.parting_of_finished hp]
    exact .inl hp
  · rw [hnext]
    exact (ht.parting h).2

theorem Departed.eq_parting (h : s.Departed) (hs : List Happening) {outcome : Outcome}
    (hout : ((s.happen .step).run hs).feeder.outcome? = some outcome) :
    outcome = s.feeder.parting s.moment := by
  rcases h.settles with hp | ⟨hp, hparting⟩
  · obtain ⟨hlast, -⟩ := position_run_of_finished hp hs
    cases (Feeder.outcome?_eq_some_iff.mp hout).symm.trans hlast
    rfl
  · have hdoomed : (s.happen .step).Doomed .deadlineExceeded := .inr ⟨hp, rfl⟩
    rw [(hdoomed.run hs).eq_of_outcome? hout, hparting]

theorem Doomed.finished_step {failure : Failure} (h : s.Doomed failure) (gone : s.Departed) :
    (s.happen .step).feeder.isFinished = true := by
  rcases s.happen_step with ⟨hquiet, hstay⟩ | ⟨f', added, ht, hnext⟩
  · rw [hstay]
    exact gone.finished_of_quiet hquiet
  · rw [hnext]
    rcases h with hp | ⟨hp, -⟩
    · exact absurd hp (ht.unfinished _)
    · exact Feeder.isFinished_iff.mpr ⟨_, ht.of_notifying hp⟩

theorem Departed.finished_of_steps (h : s.Departed) (hs : List Happening) :
    (((s.happen .step).run hs).happen .step).feeder.isFinished = true := by
  rcases h.settles with hp | ⟨hp, -⟩
  · have hdone : (s.happen .step).feeder.isFinished = true := Feeder.isFinished_iff.mpr ⟨_, hp⟩
    exact isFinished_happen (isFinished_run hdone hs) .step
  · have hdoomed : (s.happen .step).Doomed .deadlineExceeded := .inr ⟨hp, rfl⟩
    exact (hdoomed.run hs).finished_step ((h.happen .step).run hs)

theorem received_takes (kept : s.feeder.channel.receiver ≠ .dropped) :
    (s.run (List.replicate s.feeder.channel.items.length .take)).received =
      s.received ++ s.feeder.channel.items := by
  generalize hi : s.feeder.channel.items = items
  induction items generalizing s with
  | nil => simp [Runs.nil run]
  | cons item items ih =>
    rw [List.length_cons, List.replicate_succ, Runs.cons run, happen_take_of_cons kept hi]
    have hrest := ih (s := { s with
      feeder := { s.feeder with channel := { s.feeder.channel with items } }
      received := s.received ++ [item] }) kept rfl
    rw [hrest]
    simp

end Scene

end Menagerie.Stream
