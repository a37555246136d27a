import Menagerie.Proofs.Stream.Completeness
import Menagerie.Proofs.Stream.Frame

/-!
# Streams past their deadline

Once the deadline has passed no creature is put into the channel (`Late`). A feeder that has read
neither the end of the cursor nor a failure by then goes on to report the deadline, and `Overdue`
says all that may become of it: it waits for room, or it has returned and its status is the one item
that was added.
-/

namespace Menagerie.Stream

variable {m : Moment} {f f' : Feeder} {added : List Item}

/-- The feeder has come neither to the end of the cursor nor to a failure, and the service has not
stopped it. -/
def Position.Undecided (p : Position) : Prop := p.Racing ∨ p = .notifying

namespace Feeder

theorem Transition.unfinished (h : Transition m f f' added) :
    ∀ outcome, f.position ≠ .finished outcome := by
  intro outcome hp
  cases h with
  | pause reads | read reads | fail reads => simp [reads.position] at hp
  | expire racing =>
    rw [hp] at racing
    exact racing
  | send position => simp [position] at hp
  | finish ending => exact ending.unfinished outcome hp

theorem expired_of_le {now tick : Nat} (hd : f.deadline = some tick) (h : tick ≤ now) :
    f.expired now = true := by
  simpa only [expired, hd, decide_eq_true_eq] using h

theorem Ending.not_creature {outcome : Outcome} (h : f.Ending m outcome added) :
    ∀ item ∈ added, item.isOk = false := by
  cases h with
  | stopped | told => simp [Except.isOk, Except.toBool]
  | _ => simp

/-- Past the deadline only a status is put into the channel. -/
theorem Transition.not_creature (h : Transition m f f' added) (late : f.expired m.now = true) :
    ∀ item ∈ added, item.isOk = false := by
  cases h with
  | pause | read | fail | expire => simp
  | send _ _ early =>
    rw [late] at early
    cases early
  | finish ending => exact ending.not_creature

/-- Past the deadline an undecided feeder that somebody listens to goes on to report it, and then
returns with its status. -/
theorem Transition.of_undecided (h : Transition m f f' added) (late : f.expired m.now = true)
    (running : m.cancelled = false) (opened : f.channel.receiver = .opened)
    (undecided : f.position.Undecided) :
    f'.position = .notifying ∧ added = [] ∨
      f'.position = .finished (.error .deadlineExceeded) ∧
        added = [.error Failure.deadlineExceeded.status] := by
  cases h with
  | pause reads | read reads | fail reads =>
    have early := reads.early
    rw [late] at early
    cases early
  | expire => exact .inl ⟨rfl, rfl⟩
  | send _ _ early =>
    rw [late] at early
    cases early
  | finish ending =>
    cases ending with
    | exhausted reads =>
      have early := reads.early
      rw [late] at early
      cases early
    | left _ _ gone | unheard _ _ gone => exact absurd opened gone
    | stopped _ cancelled | stoppedUnheard _ cancelled | gaveUp _ cancelled =>
      rw [running] at cancelled
      cases cancelled
    | told owed =>
      rcases Position.owed?_eq_some_iff.mp owed with hp | ⟨-, rfl⟩
      · simp [hp, Position.Undecided, Position.Racing] at undecided
      · exact .inr ⟨rfl, rfl⟩

end Feeder

namespace Scene

variable {s : Scene} {items : List Item}

-- ---------------------------------------------------------------------------
-- The deadline
-- ---------------------------------------------------------------------------

def Expired (s : Scene) : Prop := s.feeder.expired s.now = true

theorem Expired.happen (h : s.Expired) (e : Happening) : (s.happen e).Expired := by
  unfold Expired Feeder.expired at h ⊢
  rw [s.deadline_happen e]
  split at h
  next deadline _ => simpa using Nat.le_trans (by simpa using h) (s.now_happen e)
  next => cases h

theorem listening_of_happen {e : Happening} (hc : (s.happen e).cancelled = false)
    (ho : (s.happen e).feeder.channel.receiver = .opened) :
    s.cancelled = false ∧ s.feeder.channel.receiver = .opened ∧ e ≠ .close ∧ e ≠ .drop ∧
      e ≠ .cancel := by
  cases e with
  | step | take =>
    rw [cancelled_happen (by simp)] at hc
    rw [receiver_happen (by simp) (by simp)] at ho
    simp [hc, ho]
  | pass => exact ⟨hc, ho, by simp⟩
  | close =>
    have hopen : s.feeder.channel.close.receiver = .opened := ho
    unfold Channel.close at hopen
    split at hopen
    next => cases hopen
    next h => exact absurd hopen h
  | drop => cases ho
  | cancel => cases hc

/-- What keeps a feeder past its deadline is that there is no room for the status. -/
theorem Expired.full_of_quiet (h : s.Expired) (quiet : s.Quiet)
    (hout : s.feeder.outcome? = none) : s.feeder.channel.Full := by
  have hexpired : s.feeder.expired s.moment.now = true := h
  rcases Feeder.step_eq_none_iff.mp quiet with hf | hwaits
  · simp [Feeder.isFinished, hout] at hf
  · cases hwaits with
    | cursor reads =>
      rw [reads.early] at hexpired
      cases hexpired
    | room _ _ early =>
      rw [early] at hexpired
      cases hexpired
    | roomForFailure position full => exact full
    | roomForDeadline _ _ full => exact full

-- ---------------------------------------------------------------------------
-- Past the deadline
-- ---------------------------------------------------------------------------

theorem grown_happen (grown : ∃ more, s.enqueued = items ++ more ∧ ∀ item ∈ more, item.isOk = false)
    (mute : ∀ f' added, s.feeder.Transition s.moment f' added → ∀ item ∈ added, item.isOk = false)
    (e : Happening) :
    ∃ more, (s.happen e).enqueued = items ++ more ∧ ∀ item ∈ more, item.isOk = false := by
  obtain ⟨more, hmore, hstatus⟩ := grown
  by_cases he : e = .step
  · subst he
    rcases s.happen_step with ⟨-, hsame⟩ | ⟨f', added, ht, hnext⟩
    · rw [hsame]
      exact ⟨more, hmore, hstatus⟩
    · rw [hnext]
      refine ⟨more ++ added, by simp [hmore], fun item hi => ?_⟩
      rcases List.mem_append.mp hi with hi | hi
      · exact hstatus item hi
      · exact mute f' added ht item hi
  · exact ⟨more, (s.position_happen he).2.trans hmore, hstatus⟩

structure Late (items : List Item) (s : Scene) : Prop where
  expired : s.Expired
  grown : ∃ more, s.enqueued = items ++ more ∧ ∀ item ∈ more, item.isOk = false

theorem Late.happen (h : s.Late items) (e : Happening) : (s.happen e).Late items :=
  ⟨h.expired.happen e, grown_happen h.grown (fun _ _ ht => ht.not_creature h.expired) e⟩

/-- As long as it is not cancelled and somebody listens, the stream is going to report the deadline
after these items, or has done so. -/
structure Overdue (items : List Item) (s : Scene) : Prop where
  expired : s.Expired
  settled : s.cancelled = false → s.feeder.channel.receiver = .opened →
    s.feeder.position.Undecided ∧ s.enqueued = items ∨
      s.feeder.position = .finished (.error .deadlineExceeded) ∧
        s.enqueued = items ++ [.error Failure.deadlineExceeded.status]

theorem Overdue.happen (h : s.Overdue items) (e : Happening) : (s.happen e).Overdue items := by
  refine ⟨h.expired.happen e, fun hc ho => ?_⟩
  obtain ⟨hrunning, hopened, -⟩ := listening_of_happen hc ho
  have hsettled := h.settled hrunning hopened
  by_cases he : e = .step
  · subst he
    rcases s.happen_step with ⟨-, hsame⟩ | ⟨f', added, ht, hnext⟩
    · rwa [hsame]
    · rw [hnext]
      rcases hsettled with ⟨hundecided, rfl⟩ | ⟨hp, -⟩
      · rcases ht.of_undecided h.expired hrunning hopened hundecided with
          ⟨hp, rfl⟩ | ⟨hp, rfl⟩
        · exact .inl ⟨.inr hp, List.append_nil _⟩
        · exact .inr ⟨hp, rfl⟩
      · exact absurd hp (ht.unfinished _)
  · obtain ⟨hp, hq⟩ := s.position_happen he
    rwa [hp, hq]

section

variable (h : s.Overdue items) (hc : s.cancelled = false)
  (ho : s.feeder.channel.receiver = .opened)

include h hc ho

theorem Overdue.cases_outcome :
    s.feeder.outcome? = none ∧ s.enqueued = items ∨
      s.feeder.outcome? = some (.error .deadlineExceeded) ∧
        s.enqueued = items ++ [.error Failure.deadlineExceeded.status] := by
  rcases h.settled hc ho with ⟨hundecided, hitems⟩ | ⟨hp, hitems⟩
  · refine .inl ⟨?_, hitems⟩
    cases hout : s.feeder.outcome? with
    | none => rfl
    | some outcome =>
      simp [Feeder.outcome?_eq_some_iff.mp hout, Position.Undecided, Position.Racing] at hundecided
  · exact .inr ⟨Feeder.outcome?_eq_some_iff.mpr hp, hitems⟩

/-- A caller that reads an overdue stream to its end has all items and then the status. -/
theorem Overdue.received_of_ended (hconserves : s.Conserves) (ended : s.Ended) :
    s.received = items ++ [.error Failure.deadlineExceeded.status] := by
  obtain ⟨hdrained, outcome, hout⟩ := ended.drained ho
  have hreceived := hconserves.kept (by simp [ho])
  rw [hdrained, List.append_nil] at hreceived
  rcases h.cases_outcome hc ho with ⟨hnone, -⟩ | ⟨-, hitems⟩
  · rw [hnone] at hout
    cases hout
  · exact hreceived.trans hitems

theorem Overdue.ended_of_drained (room : 0 < s.feeder.channel.capacity) (quiet : s.Quiet)
    (drained : s.feeder.channel.items = []) : s.Ended := by
  rcases h.cases_outcome hc ho with ⟨hnone, -⟩ | ⟨hout, -⟩
  · obtain ⟨-, hfull⟩ := h.expired.full_of_quiet quiet hnone
    rw [drained] at hfull
    exact absurd room (Nat.not_lt.mpr hfull)
  · exact ended_of_finished drained ho (Option.isSome_iff_exists.mpr ⟨_, hout⟩)

end

end Scene

end Menagerie.Stream
