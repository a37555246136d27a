import Menagerie.Proofs.Stream.Delivery

/-!
# What a happening leaves alone

The cursor, the deadline and the capacity of a stream never change, its clock only goes forward, and
only a cancellation cancels. A stream whose feeder has returned does not look at the shutdown any
more, so that cancelling it commutes with all else (`run_with_cancelled`).
-/

namespace Menagerie.Stream

theorem Feeder.Transition.deadline {m : Moment} {f f' : Feeder} {added : List Item}
    (h : f.Transition m f' added) : f'.deadline = f.deadline := by
  cases h <;> rfl

theorem Feeder.Transition.cursor {m : Moment} {f f' : Feeder} {added : List Item}
    (h : f.Transition m f' added) : f'.reading.cursor = f.reading.cursor := by
  cases h with
  | pause _ look => rcases Reading.look_moved look with ⟨_, -, -, rfl⟩ | ⟨_, _, -, -, rfl⟩ <;> rfl
  | read _ look =>
    obtain ⟨-, -, rfl⟩ := Reading.look_document_iff.mp look
    rfl
  | _ => rfl

namespace Scene

variable {s : Scene} {h : Happening} {hs : List Happening}

theorem deadline_happen (s : Scene) (e : Happening) :
    (s.happen e).feeder.deadline = s.feeder.deadline := by
  cases e with
  | step =>
    rcases s.happen_step with ⟨-, hsame⟩ | ⟨f', added, ht, hnext⟩
    · rw [hsame]
    · rw [hnext]
      exact ht.deadline
  | take =>
    rcases s.happen_take with hsame | ⟨item, rest, -, -, hnext⟩
    · rw [hsame]
    · rw [hnext]
  | _ => rfl

theorem deadline_run (s : Scene) (hs : List Happening) :
    (s.run hs).feeder.deadline = s.feeder.deadline :=
  Runs.invariant run (P := fun t => t.feeder.deadline = s.feeder.deadline)
    (fun t e h => (t.deadline_happen e).trans h) hs rfl

theorem reading_happen (s : Scene) {e : Happening} (he : e ≠ .step) :
    (s.happen e).feeder.reading = s.feeder.reading := by
  cases e with
  | step => exact absurd rfl he
  | take =>
    rcases s.happen_take with hsame | ⟨item, rest, -, -, hnext⟩
    · rw [hsame]
    · rw [hnext]
  | _ => rfl

theorem cursor_happen (s : Scene) (e : Happening) :
    (s.happen e).feeder.reading.cursor = s.feeder.reading.cursor := by
  by_cases he : e = .step
  · subst he
    rcases s.happen_step with ⟨-, hsame⟩ | ⟨f', added, ht, hnext⟩
    · rw [hsame]
    · rw [hnext]
      exact ht.cursor
  · rw [s.reading_happen he]

theorem now_happen (s : Scene) (e : Happening) : s.now ≤ (s.happen e).now := by
  cases e with
  | step =>
    rcases s.happen_step with ⟨-, hsame⟩ | ⟨f', added, -, hnext⟩
    · exact Nat.le_of_eq (congrArg Scene.now hsame.symm)
    · have hnow : (s.happen .step).now = s.now := by rw [hnext]
      exact Nat.le_of_eq hnow.symm
  | take =>
    rcases s.happen_take with hsame | ⟨item, rest, -, -, hnext⟩
    · exact Nat.le_of_eq (congrArg Scene.now hsame.symm)
    · have hnow : (s.happen .take).now = s.now := by rw [hnext]
      exact Nat.le_of_eq hnow.symm
  | pass ms => exact Nat.le_add_right _ _
  | _ => exact Nat.le_refl _

theorem capacity_happen (s : Scene) (e : Happening) :
    (s.happen e).feeder.channel.capacity = s.feeder.channel.capacity := by
  cases e with
  | step =>
    rcases s.happen_step with ⟨-, hsame⟩ | ⟨f', added, ht, hnext⟩
    · rw [hsame]
    · rw [hnext, ht.channel]
      rfl
  | take =>
    rcases s.happen_take with hsame | ⟨item, rest, -, -, hnext⟩
    · rw [hsame]
    · rw [hnext]
  | close =>
    show s.feeder.channel.close.capacity = _
    unfold Channel.close
    split <;> rfl
  | _ => rfl

theorem capacity_run {c : Cursor} {capacity : Nat} {deadline : Option Nat} {start : Scene}
    (hmake : make? c capacity deadline = some start) (hs : List Happening) :
    0 < (start.run hs).feeder.channel.capacity := by
  refine Runs.invariant run (P := fun s => 0 < s.feeder.channel.capacity) ?_ hs ?_
  · intro s e hpos
    rwa [s.capacity_happen e]
  · obtain ⟨channel, hc, rfl⟩ := Option.map_eq_some_iff.mp hmake
    unfold Channel.make? at hc
    split at hc
    next haccepted =>
      cases hc
      exact haccepted.1
    next => cases hc

-- ---------------------------------------------------------------------------
-- Cancellation
-- ---------------------------------------------------------------------------

theorem cancelled_happen (he : h ≠ .cancel) : (s.happen h).cancelled = s.cancelled := by
  cases h with
  | step =>
    rcases s.happen_step with ⟨-, hsame⟩ | ⟨f', added, -, hnext⟩
    · rw [hsame]
    · rw [hnext]
  | take =>
    rcases s.happen_take with hsame | ⟨item, rest, -, -, hnext⟩
    · rw [hsame]
    · rw [hnext]
  | cancel => exact absurd rfl he
  | close | drop | pass => rfl

theorem cancelled_run (hq : ∀ h ∈ hs, h ≠ .cancel) : (s.run hs).cancelled = s.cancelled := by
  induction hs generalizing s with
  | nil => rfl
  | cons h hs ih =>
    rw [Runs.cons run, ih fun h' hm => hq h' (List.mem_cons_of_mem _ hm),
      cancelled_happen (hq h List.mem_cons_self)]

theorem isFinished_happen (hf : s.feeder.isFinished = true) (h : Happening) :
    (s.happen h).feeder.isFinished = true := by
  obtain ⟨outcome, hp⟩ := Feeder.isFinished_iff.mp hf
  exact Feeder.isFinished_iff.mpr ⟨outcome, (position_run_of_finished hp [h]).1⟩

theorem isFinished_run (hf : s.feeder.isFinished = true) (hs : List Happening) :
    (s.run hs).feeder.isFinished = true :=
  Runs.invariant run (P := fun s => s.feeder.isFinished = true)
    (fun _ h hf => isFinished_happen hf h) hs
    hf

theorem happen_with_cancelled (hf : s.feeder.isFinished = true) (he : h ≠ .cancel) (c : Bool) :
    ({ s with cancelled := c } : Scene).happen h = { s.happen h with cancelled := c } := by
  cases h with
  | step =>
    have hnone (m : Moment) : s.feeder.step m = none := Feeder.step_eq_none_iff.mpr (.inl hf)
    simp [happen, hnone]
  | take => cases htake : s.feeder.take <;> simp [happen, htake]
  | cancel => exact absurd rfl he
  | close | drop | pass => rfl

theorem run_with_cancelled (hf : s.feeder.isFinished = true) (hq : ∀ h ∈ hs, h ≠ .cancel)
    (c : Bool) : ({ s with cancelled := c } : Scene).run hs = { s.run hs with cancelled := c } := by
  induction hs generalizing s with
  | nil => rfl
  | cons h hs ih =>
    rw [Runs.cons run, happen_with_cancelled hf (hq h List.mem_cons_self),
      ih (isFinished_happen hf h) fun h' hm => hq h' (List.mem_cons_of_mem _ hm), Runs.cons run]

theorem exists_run_eq (feeder : Feeder) (now : Nat) (cancelled : Bool) :
    ∃ hs, ({ feeder } : Scene).run hs = { feeder, now, cancelled } := by
  cases cancelled with
  | false => exact ⟨[.pass now], by simp [Runs.cons run, Runs.nil run, happen]⟩
  | true => exact ⟨[.pass now, .cancel], by simp [Runs.cons run, Runs.nil run, happen]⟩

end Scene

end Menagerie.Stream
