import Menagerie.Proofs.Stream.Deadline
import Menagerie.Proofs.Stream.Shape

/-!
# Streams of a cursor that holds documents only

Such a cursor neither fails nor pauses, so its stream ends early only because the caller leaves, the
deadline passes or the service cancels. As long as none of this has happened (`Scene.Undisturbed`) a
caller that has taken all there is finds the stream complete, or at work.
-/

namespace Menagerie.Stream

variable {documents delivered : List Document} {place : Nat} {failure : Failure}

namespace Cursor

theorem documentsBefore_ofDocuments (documents : List Document) (place : Nat) :
    (ofDocuments documents).documentsBefore place = documents.take place := by
  rw [ofDocuments, documentsBefore_ofList, ← List.map_take, List.filterMap_map]
  exact List.filterMap_some

theorem Begins.isPrefix (h : (ofDocuments documents).Begins delivered) :
    delivered <+: documents := by
  obtain ⟨place, -, rfl⟩ := h
  rw [documentsBefore_ofDocuments]
  exact List.take_prefix place documents

theorem Yields.eq (h : (ofDocuments documents).Yields delivered) : delivered = documents := by
  obtain ⟨place, -, rfl, hfinish⟩ := h
  rw [documentsBefore_ofDocuments]
  refine List.take_of_length_le (List.getElem?_eq_none_iff.mp ?_)
  cases hd : documents[place]? with
  | none => rfl
  | some d => simp [beat_ofDocuments, hd] at hfinish

theorem not_fails_ofDocuments : ¬ (ofDocuments documents).Fails delivered failure := by
  rintro ⟨place, -, -, hfails⟩
  cases hd : documents[place]? <;> simp [beat_ofDocuments, hd] at hfails

end Cursor

theorem Reading.Sound.look_ofDocuments {r : Reading} (sound : r.Sound)
    (cursor : r.cursor = .ofDocuments documents) (now : Nat) : r.look now ≠ .nothing := by
  cases hresume : r.resume with
  | none =>
    cases hd : documents[r.place]? <;>
      simp [look, hresume, cursor, Cursor.beat_ofDocuments, hd]
  | some tick =>
    obtain ⟨ms, positive, hbeat⟩ := sound.pausing (by simp [hresume])
    cases hd : documents[r.place]? <;> simp [cursor, Cursor.beat_ofDocuments, hd] at hbeat

namespace Scene

variable {s start : Scene} {hs : List Happening} {capacity : Nat} {deadline : Option Nat}

theorem expired_of_notifying {c : Cursor} (hmake : make? c capacity deadline = some start)
    (hs : List Happening) (hp : (start.run hs).feeder.position = .notifying) :
    (start.run hs).Expired := by
  refine Runs.invariant run (P := fun t => t.feeder.position = .notifying → t.Expired) ?_ hs ?_ hp
  · -- Only a step that finds the deadline passed leads there, and the clock never goes back.
    intro t e h hp
    by_cases he : e = .step
    · subst he
      rcases t.happen_step with ⟨-, hsame⟩ | ⟨f', added, ht, hnext⟩
      · rw [hsame] at hp ⊢
        exact h hp
      · refine Expired.happen ?_ .step
        rw [hnext] at hp
        cases ht with
        | expire _ _ _ late => exact late
        | pause => exact h hp
        | _ => cases hp
    · exact (h ((t.position_happen he).1.symm.trans hp)).happen e
  · intro hp
    cases (position_make hmake).symm.trans hp

structure Undisturbed (s : Scene) : Prop where
  running : s.cancelled = false
  opened : s.feeder.channel.receiver = .opened
  early : ¬ s.Expired

theorem Undisturbed.before (h : (s.run hs).Undisturbed) : s.Undisturbed := by
  induction hs generalizing s with
  | nil => exact h
  | cons e hs ih =>
    have hnext := ih h
    obtain ⟨hrunning, hopened, -⟩ := listening_of_happen hnext.running hnext.opened
    exact ⟨hrunning, hopened, fun late => hnext.early (late.happen e)⟩

theorem finished_or_reads {c : Cursor} (hmake : make? c capacity deadline = some start)
    (hs : List Happening) (quiet : (start.run hs).Quiet)
    (drained : (start.run hs).feeder.channel.items = []) :
    (start.run hs).feeder.isFinished = true ∨
      (start.run hs).feeder.Reads (start.run hs).moment ∧
        (start.run hs).feeder.reading.look (start.run hs).now = .nothing := by
  have hcapacity := capacity_run hmake hs
  have hroom : ¬ (start.run hs).feeder.channel.Full := by
    rintro ⟨-, hfull⟩
    rw [drained, List.length_nil] at hfull
    omega
  rcases Feeder.step_eq_none_iff.mp quiet with hdone | hwaits
  · exact .inl hdone
  · cases hwaits with
    | cursor reads look => exact .inr ⟨reads, look⟩
    | room _ _ _ full | roomForFailure _ full | roomForDeadline _ _ full => exact absurd full hroom

structure Delivers (documents : List Document) (s : Scene) : Prop where
  carried : ∃ delivered last, delivered <+: documents ∧ s.enqueued = images delivered ++ last ∧
    (last = [] ∨ ∃ failure, s.feeder.outcome? = some (.error failure) ∧
      last = [.error failure.status])
  complete : ∀ n, s.feeder.outcome? = some (.ok n) →
    s.enqueued = images documents ∧ n = documents.length
  causes : ∀ failure, s.feeder.outcome? = some (.error failure) →
    failure = .requestCancelled ∨ failure = .deadlineExceeded ∨ failure = .serviceShutdown
  arrives : s.Undisturbed → s.Quiet → s.feeder.channel.items = [] →
    s.received = images documents ∧ s.Ended

section

variable (hmake : make? (.ofDocuments documents) capacity deadline = some start)

include hmake

theorem carried_ofDocuments (hs : List Happening) :
    ∃ delivered last, delivered <+: documents ∧
      (start.run hs).enqueued = images delivered ++ last ∧
      (last = [] ∨ ∃ failure, (start.run hs).feeder.outcome? = some (.error failure) ∧
        last = [.error failure.status]) := by
  cases hout : (start.run hs).feeder.outcome? with
  | none =>
    obtain ⟨delivered, hf⟩ := faithful_run hmake hs
    have hitems := hf.account.of_unfinished fun outcome hp => by
      rw [Feeder.outcome?_eq_some_iff.mpr hp] at hout
      cases hout
    exact ⟨delivered, [], hf.begins.isPrefix, by simp [hitems], .inl rfl⟩
  | some outcome =>
    obtain ⟨before, after, delivered, last, -, hf, hending, hitems⟩ := exists_return hmake hout
    refine ⟨delivered, last, hf.begins.isPrefix, hitems, ?_⟩
    cases outcome with
    | ok n => exact .inl hending.of_ok.1
    | error failure => exact hending.last_of_error.imp_right fun hlast => ⟨failure, rfl, hlast⟩

theorem complete_ofDocuments {hs : List Happening} {n : Nat}
    (hout : (start.run hs).feeder.outcome? = some (.ok n)) :
    (start.run hs).enqueued = images documents ∧ n = documents.length := by
  obtain ⟨before, after, delivered, last, -, hf, hending, hitems⟩ := exists_return hmake hout
  obtain ⟨rfl, rfl, reads, look⟩ := hending.of_ok
  rw [List.append_nil] at hitems
  obtain rfl := (hf.yields reads look).eq
  exact ⟨hitems, hf.sent⟩

theorem causes_ofDocuments {hs : List Happening}
    (hout : (start.run hs).feeder.outcome? = some (.error failure)) :
    (failure = .requestCancelled ∨ failure = .deadlineExceeded ∨ failure = .serviceShutdown) ∧
      ¬ (start.run hs).Undisturbed := by
  obtain ⟨before, after, delivered, last, rfl, hf, hending, -⟩ := exists_return hmake hout
  have hbefore (h : (start.run (before ++ .step :: after)).Undisturbed) :
      (start.run before).Undisturbed := by
    rw [Runs.append run] at h
    exact h.before
  rcases hf.closes hending with ⟨rfl, hgone, -⟩ | ⟨rfl, hcancelled, -⟩ | ⟨rfl, hp, -⟩ |
    ⟨-, hfails, -⟩
  · exact ⟨.inl rfl, fun h => hgone (hbefore h).opened⟩
  · refine ⟨.inr (.inr rfl), fun h => ?_⟩
    have hrunning := (hbefore h).running
    rw [hcancelled] at hrunning
    cases hrunning
  · exact ⟨.inr (.inl rfl), fun h => (hbefore h).early (expired_of_notifying hmake before hp)⟩
  · exact absurd hfails Cursor.not_fails_ofDocuments

theorem finished_ofDocuments (hs : List Happening) (quiet : (start.run hs).Quiet)
    (drained : (start.run hs).feeder.channel.items = []) :
    (start.run hs).feeder.isFinished = true := by
  obtain ⟨delivered, hf⟩ := faithful_run hmake hs
  rcases finished_or_reads hmake hs quiet drained with hdone | ⟨-, look⟩
  · exact hdone
  · exact absurd look (hf.sound.look_ofDocuments hf.cursor _)

theorem delivers_ofDocuments (hs : List Happening) : (start.run hs).Delivers documents where
  carried := carried_ofDocuments hmake hs
  complete _ hout := complete_ofDocuments hmake hout
  causes _ hout := (causes_ofDocuments hmake hout).1
  arrives := by
    intro undisturbed quiet drained
    have hdone := finished_ofDocuments hmake hs quiet drained
    obtain ⟨outcome, hout⟩ := Option.isSome_iff_exists.mp hdone
    cases outcome with
    | error failure => exact absurd undisturbed (causes_ofDocuments hmake hout).2
    | ok n =>
      have hkept := (conserves_run hmake hs).kept (by simp [undisturbed.opened])
      rw [drained, List.append_nil] at hkept
      refine ⟨hkept.trans (complete_ofDocuments hmake hout).1, ?_⟩
      exact ended_of_finished drained undisturbed.opened hdone

end

end Scene

end Menagerie.Stream
