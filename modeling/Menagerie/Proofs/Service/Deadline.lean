import Menagerie.Proofs.Service.Request
import Menagerie.Proofs.Stream.Deadline

/-!
# Deadlines of requests

The deadline of a request counts from the moment at which it was taken up. The request keeps it
while the store is asked, and its stream begins with it, so the stream is past it as soon as the
timeout has passed since then: `deadline_exceeded_of_passed`.
-/

namespace Menagerie.Service

theorem deadline_le_iff {s : Service} {timeout : Timeout.Duration} {tick : Nat} :
    s.deadline timeout ≤ tick ↔ s.now * 1000000 + timeout ≤ tick * 1000000 := by
  unfold deadline
  omega

namespace Scene

variable {t : Scene} {n k : Nat}

-- ---------------------------------------------------------------------------
-- Past the deadline
-- ---------------------------------------------------------------------------

/-- The stream `k` is not there yet, or its feeder has come neither to the end of the cursor nor to
a failure. -/
def Undecided (t : Scene) (k : Nat) : Prop :=
  ∀ f, t.service.streams[k]? = some f → f.position.Undecided

structure Exceeded (items : List Stream.Item) (k : Nat) (f : Stream.Feeder) (u : Scene) : Prop where
  kept : u.received k ++ f.channel.items = u.enqueued k
  ends : f.outcome? = none ∧ u.enqueued k = items ∨
    f.outcome? = some (.error .deadlineExceeded) ∧
      u.enqueued k = items ++ [.error Failure.deadlineExceeded.status]
  lives : u.service.step (.stream k) = none → f.outcome? = none → f.channel.Full
  drained : u.service.step (.stream k) = none → f.channel.items = [] → f.take = .ended
  told : f.take = .ended → u.received k = items ++ [.error Failure.deadlineExceeded.status]

theorem exceeded_of_overdue {items : List Stream.Item} {f : Stream.Feeder} {st : Stream.Scene}
    (recorded : t.Recorded) (hst : t.stream? k = some st) (overdue : st.Overdue items)
    (held : t.service.streams[k]? = some f) (running : t.service.cancelled = false)
    (listening : f.channel.receiver = .opened) : t.Exceeded items k f := by
  obtain ⟨cursor, deadline, start, hs, hmake, hrun⟩ := recorded.origin k st hst
  have hconserves : st.Conserves := hrun ▸ Stream.Scene.conserves_run hmake hs
  have hcapacity : 0 < st.feeder.channel.capacity := hrun ▸ Stream.Scene.capacity_run hmake hs
  clear hrun
  obtain ⟨f', held', rfl⟩ := stream?_eq_some_iff.mp hst
  cases held.symm.trans held'
  constructor
  case kept => exact hconserves.kept (by simp [listening])
  case ends => exact overdue.cases_outcome running listening
  case lives =>
    exact fun quiet => overdue.expired.full_of_quiet (step_eq_none_of_stepStream quiet held)
  case drained =>
    exact fun quiet => overdue.ended_of_drained running listening hcapacity
      (step_eq_none_of_stepStream quiet held)
  case told => exact overdue.received_of_ended running listening hconserves

section

variable {tick : Nat} {finding : Finding} {events : List Event}
  (pending : t.Pending (fun f deadline => f = finding ∧ deadline = some tick) n)
  (recorded : t.Recorded) (passed : tick ≤ t.service.now)
  (fed : t.service.calls[n]? = some (.listing (.opened k)) →
    ∃ st, t.stream? k = some st ∧ st.feeder.deadline = some tick)
  (held : (t.run events).service.calls[n]? = some (.listing (.opened k)))

include pending recorded passed fed held

theorem late_of_request :
    ∃ st, (t.run events).stream? k = some st ∧ st.Late (t.enqueued k) := by
  refine stream?_of_pending (fun st h hl => hl.happen h) pending recorded (fun hopened => ?_) ?_ held
  · obtain ⟨st, hst, hdeadline⟩ := fed hopened
    refine ⟨st, hst, ?_⟩
    obtain ⟨f, -, rfl⟩ := stream?_eq_some_iff.mp hst
    exact ⟨Stream.Feeder.expired_of_le hdeadline passed, [], by simp⟩
  · rintro hk f d ⟨-, rfl⟩ cursor channel forgotten now cancelled - - hnow
    exact ⟨Stream.Feeder.expired_of_le rfl (Nat.le_trans passed hnow), [],
      by simp [recorded.unheard k hk]⟩

theorem overdue_of_request (undecided : t.Undecided k) :
    ∃ st, (t.run events).stream? k = some st ∧ st.Overdue (t.enqueued k) := by
  refine stream?_of_pending (fun st h hl => hl.happen h) pending recorded (fun hopened => ?_) ?_ held
  · obtain ⟨st, hst, hdeadline⟩ := fed hopened
    refine ⟨st, hst, ?_⟩
    obtain ⟨f, hf, rfl⟩ := stream?_eq_some_iff.mp hst
    exact ⟨Stream.Feeder.expired_of_le hdeadline passed, fun _ _ => .inl ⟨undecided f hf, rfl⟩⟩
  · rintro hk f d ⟨-, rfl⟩ cursor channel forgotten now cancelled - - hnow
    exact ⟨Stream.Feeder.expired_of_le rfl (Nat.le_trans passed hnow),
      fun _ _ => .inl ⟨.inl trivial, (recorded.unheard k hk).2.symm⟩⟩

end

/-- The timeout of a request counts from its arrival, however long the store takes. Once it has
passed no creature is put into the stream. If the feeder is undecided by then, and for as long as
nobody cancels and the caller listens, the caller gets what was there, then the status, then the
end. -/
theorem deadline_exceeded_of_passed (config : ServerConfig) (backend : Store.Backend)
    {metadata : Metadata} {timeout : Timeout.Duration}
    (sent : Timeout.ofMetadata? metadata = some timeout) (before early late : List Event) :
    let s := (start config backend).run before
    let t := (s.happen (.list (Timeout.ofMetadata? metadata))).run early
    let u := t.run late
    s.service.now * 1000000 + timeout ≤ t.service.now * 1000000 →
      ∀ k, u.service.calls[s.service.calls.length]? = some (.listing (.opened k)) →
        ∃ f, u.service.streams[k]? = some f ∧
          (∃ more, u.enqueued k = t.enqueued k ++ more ∧ ∀ item ∈ more, item.isOk = false) ∧
          (t.Undecided k → u.service.cancelled = false → f.channel.receiver = .opened →
            u.Exceeded (t.enqueued k) k f) := by
  intro s t u passed k held
  obtain ⟨hpending, hunopened⟩ := s.pending_list (Timeout.ofMetadata? metadata)
  have hrecorded (events : List Event) :
      ((s.happen (.list (Timeout.ofMetadata? metadata))).run events).Recorded := by
    have hrun :=
      recorded_run config backend (before ++ .list (Timeout.ofMetadata? metadata) :: events)
    rwa [Runs.append run] at hrun
  have hdeadline : (Timeout.ofMetadata? metadata).map s.service.deadline =
      some (s.service.deadline timeout) := by
    rw [sent]
    rfl
  rw [hdeadline] at hpending
  have hpassed : s.service.deadline timeout ≤ t.service.now := deadline_le_iff.mpr passed
  have hwaits : t.Pending (fun f deadline => f = s.service.lookupFinding ∧
      deadline = some (s.service.deadline timeout)) s.service.calls.length :=
    Runs.invariant run (fun u e h => h.happen e) early hpending
  have hfed : t.service.calls[s.service.calls.length]? = some (.listing (.opened k)) →
      ∃ st, t.stream? k = some st ∧ st.feeder.deadline = some (s.service.deadline timeout) := by
    refine stream?_of_pending (fun st h hd => (st.deadline_happen h).trans hd) hpending
      (hrecorded []) (fun hopened => absurd hopened (hunopened k)) ?_
    rintro - f d ⟨-, rfl⟩ cursor channel forgotten now cancelled - - -
    rfl
  obtain ⟨st, hst, hlate⟩ := late_of_request hwaits (hrecorded early) hpassed hfed held
  obtain ⟨f, hf, rfl⟩ := stream?_eq_some_iff.mp hst
  refine ⟨f, hf, hlate.grown, fun undecided running listening => ?_⟩
  obtain ⟨st', hst', hoverdue⟩ :=
    overdue_of_request hwaits (hrecorded early) hpassed hfed held undecided
  have hlast : u.Recorded := by
    have hrun := hrecorded (early ++ late)
    rwa [Runs.append run] at hrun
  exact exceeded_of_overdue hlast hst' hoverdue hf running listening

/-- The store answers after half of the time, with one creature and then nothing more. -/
theorem deadline_exceeded_of_hanging :
    let metadata : Metadata := Metadata.empty.set Timeout.header "20m"
    let s := start narrow (answering 10 (.ofList [.document .empty, .hang]))
    let t := (s.happen (.list (Timeout.ofMetadata? metadata))).run
      [.pass 10, .step (.call 0), .step (.stream 0), .step (.stream 0), .pass 10]
    let u := t.run [.step (.stream 0), .take 0, .step (.stream 0), .take 0]
    Timeout.ofMetadata? metadata = some 20000000 ∧
      s.service.now * 1000000 + 20000000 ≤ t.service.now * 1000000 ∧
      u.service.calls[0]? = some (.listing (.opened 0)) ∧
      u.received 0 = [.ok {}, .error Failure.deadlineExceeded.status] := by
  intro metadata
  have hsent : Timeout.ofMetadata? metadata = some 20000000 := by decide +kernel
  have hexceeded := deadline_exceeded_of_passed narrow
    (answering 10 (.ofList [.document .empty, .hang])) hsent []
    [.pass 10, .step (.call 0), .step (.stream 0), .step (.stream 0), .pass 10]
    [.step (.stream 0), .take 0, .step (.stream 0), .take 0]
  generalize Timeout.ofMetadata? metadata = header at hsent hexceeded ⊢
  subst hsent
  obtain ⟨f, hf, -, hexceeded⟩ := hexceeded (by decide) 0 rfl
  cases hf
  refine ⟨rfl, by decide, rfl, (hexceeded ?_ rfl rfl).told rfl⟩
  rintro f ⟨⟩
  exact .inl trivial

end Scene

end Menagerie.Service
