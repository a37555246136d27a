import Menagerie.Proofs.Service.Ledger

/-!
# The time that a shutdown gives

Up to its limit a shutdown is nothing to the streams under way. `Event.without` leaves the shutdown
out of a schedule, and neither what a stream sees nor the clock changes by that. Before the limit
nobody cancels (`Patient`), so every stream is the same with and without the shutdown, and one that
has ended by then stays the same: `drain_unnoticed_run`.
-/

namespace Menagerie.Service

/-- The event in a schedule without the call `n`: its steps are left out, and the calls after it
move up. -/
def Event.without (n : Nat) : Event → Option Event
  | .step (.call m) => if m = n then none else some (.step (.call (if n < m then m - 1 else m)))
  | .abort m => if m = n then none else some (.abort (if n < m then m - 1 else m))
  | .forget m => if m = n then none else some (.forget (if n < m then m - 1 else m))
  | e => some e

namespace Event

theorem seen_without (n k : Nat) (e : Event) :
    (e.without n).toList.flatMap (seen k) = e.seen k := by
  unfold without
  split
  · split <;> rfl
  · split <;> rfl
  · split <;> rfl
  · exact List.append_nil _

theorem elapsed_without (n : Nat) (e : Event) :
    ((e.without n).toList.map elapsed).sum = e.elapsed := by
  unfold without
  split
  · split <;> rfl
  · split <;> rfl
  · split <;> rfl
  · exact Nat.add_zero _

theorem flatMap_seen_without (n k : Nat) (events : List Event) :
    (events.filterMap (without n)).flatMap (seen k) = events.flatMap (seen k) := by
  induction events with
  | nil => rfl
  | cons e events ih =>
    have hfirst := seen_without n k e
    rw [List.flatMap_cons, ← ih, ← hfirst]
    cases hwithout : e.without n <;> simp [hwithout]

theorem sum_elapsed_without (n : Nat) (events : List Event) :
    ((events.filterMap (without n)).map elapsed).sum = (events.map elapsed).sum := by
  induction events with
  | nil => rfl
  | cons e events ih =>
    have hfirst := elapsed_without n e
    rw [List.map_cons, List.sum_cons, ← ih, ← hfirst]
    cases hwithout : e.without n <;> simp [hwithout]

end Event

theorem Call.eq_draining_of_release {call : Call} {limit : Nat} {released : Bool}
    (h : call.release = .drain (.draining limit released)) :
    ∃ before, call = .drain (.draining limit before) := by
  cases call with
  | search | listing => cases h
  | drain d =>
    cases d with
    | draining =>
      cases h
      exact ⟨_, rfl⟩
    | clearing | stopped => cases h

theorem Change.cancelled {s s' : Service} {e : Event} (change : Change s e s')
    (after : s'.cancelled = true) :
    s.cancelled = true ∨ ∃ n limit, e = .step (.call n) ∧
      s.calls[n]? = some (.drain (.draining limit false)) ∧ limit ≤ s.now ∧ s.active ≠ 0 := by
  cases change with
  | wait | leave | touch => exact .inl after
  | call step =>
    obtain ⟨held, steps, -, -, -, cancelled, -⟩ := step
    rw [cancelled, Bool.or_eq_true] at after
    cases steps with
    | cancels waits late => exact .inr ⟨_, _, rfl, held, late, waits⟩
    | _ => exact .inl (after.resolve_right (by simp))
  | stream step => exact .inl (step.cancelled ▸ after)
  | enter _ _ _ _ cancelled | pass _ _ _ _ cancelled => exact .inl (cancelled ▸ after)

namespace Scene

variable {t u : Scene} {n k limit : Nat} {events events' : List Event}

-- ---------------------------------------------------------------------------
-- Cancellation
-- ---------------------------------------------------------------------------

def Overruns (t : Scene) (n : Nat) : Prop :=
  ∃ tick, t.service.calls[n]? = some (.drain (.draining tick false)) ∧ tick ≤ t.service.now ∧
    t.service.active ≠ 0

theorem cancelled_happen_iff (t : Scene) (e : Event) :
    (t.happen e).service.cancelled = true ↔
      t.service.cancelled = true ∨ ∃ n, e = .step (.call n) ∧ t.Overruns n := by
  constructor
  · intro after
    rcases (t.change e).cancelled after with hbefore | ⟨n, tick, he, held, late, waits⟩
    · exact .inl hbefore
    · exact .inr ⟨n, he, tick, held, late, waits⟩
  · rintro (hbefore | ⟨n, rfl, tick, held, late, waits⟩)
    · exact (t.move e).cancelled hbefore
    · simp [happen, step, stepCall, held, stepDrain, waits, late, setCall]

theorem cancelled_run_iff (running : t.service.cancelled = false) (events : List Event) :
    (t.run events).service.cancelled = true ↔
      ∃ before n after, events = before ++ .step (.call n) :: after ∧
        (t.run before).Overruns n := by
  have hrun := run_iff_exists (I := fun _ => True) (fun _ _ _ => trivial)
    (P := fun t => t.service.cancelled = true)
    (Q := fun t e => ∃ n, e = .step (.call n) ∧ t.Overruns n)
    (fun _ e _ => cancelled_happen_iff _ e) trivial (t := t) events
  rw [hrun, running]
  constructor
  · rintro (hfalse | ⟨before, e, after, hsplit, n, rfl, hoverruns⟩)
    · cases hfalse
    · exact ⟨before, n, after, hsplit, hoverruns⟩
  · rintro ⟨before, n, after, hsplit, hoverruns⟩
    exact .inr ⟨before, _, after, hsplit, n, rfl, hoverruns⟩

theorem idle_of_done {d : Drain} {found : Nat} (hsound : d.Sound limit found t.service.view)
    (whole : t.service.streams.length = found) (done : d.Done) : t.service.active = 0 :=
  active_eq_zero_iff.mpr (View.idle_iff.mpr fun k hk => hsound.ended done k (whole ▸ hk))

section

variable {found : Nat} (h : t.Drains limit found n) (whole : t.service.streams.length = found)

include h whole

/-- With its streams all there are, a shutdown that nobody has anticipated cancels at its limit
exactly when some stream is still being fed. -/
theorem Drains.cancels_iff (late : limit ≤ t.service.now) (running : t.service.cancelled = false) :
    (t.happen (.step (.call n))).service.cancelled = true ↔ t.service.active ≠ 0 := by
  rw [t.cancelled_happen_iff, running]
  constructor
  · rintro (hfalse | ⟨m, -, -, -, -, waits⟩)
    · cases hfalse
    · exact waits
  · intro waits
    obtain ⟨-, d, held, hsound⟩ := h
    have hundone : ¬ d.Done := fun done => waits (idle_of_done hsound whole done)
    cases d with
    | draining tick released =>
      obtain rfl : released = false := by simpa [Drain.Done] using hundone
      obtain rfl := hsound.limit tick false rfl
      exact .inr ⟨n, rfl, tick, held, late, waits⟩
    | clearing released =>
      have hcancelled : t.service.cancelled = true := hsound.cancelled released rfl
      rw [running] at hcancelled
      cases hcancelled
    | stopped => exact absurd trivial hundone

theorem Drains.idle (returned : t.Returned n) : t.service.active = 0 := by
  obtain ⟨-, d, held, hsound⟩ := h
  cases held.symm.trans returned
  exact idle_of_done hsound whole trivial

omit whole in
theorem Drains.returned_of_idle (quiet : t.Quiet) (idle : t.service.active = 0) :
    t.Returned n := by
  obtain ⟨-, d, held, -⟩ := h
  rcases quiet.stopped_or_waits held with rfl | ⟨waits, -⟩
  · exact held
  · exact absurd idle waits

end

/-- No shutdown comes to its limit before this tick, none that is still to come either. -/
structure Patient (limit : Nat) (t : Scene) : Prop where
  drains : ∀ (n tick : Nat) (released : Bool),
    t.service.calls[n]? = some (.drain (.draining tick released)) → limit ≤ tick
  cancelled : t.service.cancelled = true → limit ≤ t.service.now
  later : limit ≤ t.service.now + t.service.config.drainTimeout

theorem Patient.happen (h : t.Patient limit) (e : Event) : (t.happen e).Patient limit := by
  have hnow := t.now_le_happen e
  refine ⟨fun n tick released hnext => ?_, fun hcancelled => ?_, ?_⟩
  · cases (t.change e).comes hnext with
    | same held => exact h.drains n tick released held
    | released held _ release =>
      obtain ⟨before, rfl⟩ := Call.eq_draining_of_release release.symm
      exact h.drains n tick before held
    | steps _ step =>
      obtain ⟨-, steps, -⟩ := step
      cases steps
    | leaves _ _ leaves => cases leaves
    | enters _ enters =>
      cases enters with
      | drain => exact h.later
  · rcases (t.cancelled_happen_iff e).mp hcancelled with hbefore | ⟨n, -, tick, held, late, -⟩
    · exact Nat.le_trans (h.cancelled hbefore) hnow
    · exact Nat.le_trans (h.drains n tick false held) (Nat.le_trans late hnow)
  · rw [t.config_happen e]
    exact Nat.le_trans h.later (Nat.add_le_add_right hnow _)

theorem Patient.run (h : t.Patient limit) (events : List Event) : (t.run events).Patient limit :=
  Runs.invariant Scene.run (fun _ e h => h.happen e) events h

theorem Patient.running (h : t.Patient limit) (early : t.service.now < limit) :
    t.service.cancelled = false := by
  cases hcancelled : t.service.cancelled with
  | false => rfl
  | true => exact absurd (h.cancelled hcancelled) (Nat.not_le.mpr early)

section

variable {config : ServerConfig} {backend : Store.Backend} {before : List Event}
  (first : ((start config backend).run before).service.closed = false)

include first

theorem undrained_of_first (n : Nat) (d : Drain) :
    ((start config backend).run before).service.calls[n]? ≠ some (.drain d) := by
  intro held
  rw [guarded_run (fun n d held => by cases held) before n d held] at first
  cases first

theorem running_of_first : ((start config backend).run before).service.cancelled = false := by
  refine eq_false_of_ne_true fun hcancelled => ?_
  obtain ⟨earlier, n, later, rfl, tick, held, -⟩ :=
    (cancelled_run_iff (t := start config backend) rfl before).mp hcancelled
  have hclosed : ((start config backend).run earlier).service.closed = true :=
    guarded_run (fun n d held => by cases held) earlier n _ held
  have hstays := (shut_run hclosed (.step (.call n) :: later)).closed
  rw [← Runs.append run, first] at hstays
  cases hstays

theorem patient_of_first :
    let s := (start config backend).run before
    s.Patient (s.service.now + s.service.config.drainTimeout) := by
  refine ⟨fun n tick released held => absurd held (undrained_of_first first n _),
    fun hcancelled => ?_, Nat.le_refl _⟩
  rw [running_of_first first] at hcancelled
  cases hcancelled

end

-- ---------------------------------------------------------------------------
-- Two schedules
-- ---------------------------------------------------------------------------

def SameStream (k : Nat) (t u : Scene) : Prop :=
  t.service.streams[k]? = u.service.streams[k]? ∧ t.received k = u.received k ∧
    t.enqueued k = u.enqueued k

theorem sameStream_of_stream? {st st' : Stream.Scene} (h : t.stream? k = some st)
    (h' : u.stream? k = some st') (feeder : st.feeder = st'.feeder)
    (received : st.received = st'.received) (enqueued : st.enqueued = st'.enqueued) :
    t.SameStream k u := by
  obtain ⟨f, held, rfl⟩ := stream?_eq_some_iff.mp h
  obtain ⟨f', held', rfl⟩ := stream?_eq_some_iff.mp h'
  exact ⟨held.trans (congrArg some feeder |>.trans held'.symm), received, enqueued⟩

/-- Two schedules that are the same to a stream make the same of it, as long as nobody cancels. -/
theorem stream?_eq_of_running (h : t.stream? k = u.stream? k) (there : k < t.service.streams.length)
    (same : events.flatMap (Event.seen k) = events'.flatMap (Event.seen k))
    (running : (t.run events).service.cancelled = false)
    (running' : (u.run events').service.cancelled = false) :
    (t.run events).stream? k = (u.run events').stream? k := by
  obtain ⟨st, ht⟩ := exists_stream? there
  rw [stream?_run_of_running ht running, stream?_run_of_running (h ▸ ht) running', same]

theorem sameStream_of_finished {st : Stream.Scene} (h : t.stream? k = some st)
    (h' : u.stream? k = some st) (finished : st.feeder.isFinished = true)
    (same : events.flatMap (Event.seen k) = events'.flatMap (Event.seen k)) :
    (t.run events).SameStream k (u.run events') := by
  have hrun := stream?_run_of_finished h finished events
  have hrun' := stream?_run_of_finished h' finished events'
  rw [← same] at hrun'
  exact sameStream_of_stream? hrun hrun' rfl rfl rfl

section

variable {s : Scene} (patient : s.Patient (s.service.now + s.service.config.drainTimeout))

include patient

theorem running_before_limit (events : List Event)
    (early : (s.run (events.filterMap (Event.without s.service.calls.length))).service.now <
      s.service.now + s.service.config.drainTimeout) :
    ((s.happen .drain).run events).service.cancelled = false ∧
      (s.run (events.filterMap (Event.without s.service.calls.length))).service.cancelled =
        false := by
  refine ⟨((patient.happen .drain).run events).running ?_, (patient.run _).running early⟩
  rw [now_run, Event.sum_elapsed_without] at early
  rwa [now_run]

theorem stream?_before_limit (events : List Event) (there : k < s.service.streams.length)
    (early : (s.run (events.filterMap (Event.without s.service.calls.length))).service.now <
      s.service.now + s.service.config.drainTimeout) :
    ((s.happen .drain).run events).stream? k =
      (s.run (events.filterMap (Event.without s.service.calls.length))).stream? k := by
  obtain ⟨hrunning, hrunning'⟩ := running_before_limit patient events early
  exact stream?_eq_of_running rfl there (Event.flatMap_seen_without _ _ events).symm hrunning
    hrunning'

end

theorem not_awaited_drain {s : Scene} (settled : ¬ s.service.view.Awaited) :
    ¬ (s.happen .drain).service.view.Awaited := by
  rintro ⟨n, f, deadline, forgotten, hnext, promises⟩
  cases (s.change .drain).comes hnext with
  | same held => exact settled ⟨n, f, deadline, forgotten, held, promises⟩
  | released held _ release =>
    rw [Call.release_eq_listing_iff.mp release.symm] at held
    exact settled ⟨n, f, deadline, forgotten, held, promises⟩
  | steps own => cases own
  | leaves aside => exact aside.elim
  | enters _ enters => cases enters

/-- The first shutdown, with no request awaited, beside the same schedule without it. Before the
limit all streams are the same, and those that have ended by then without it are the same ever
after; the metrics hold the account of each. Nobody cancels before the limit, and there the shutdown
cancels exactly when some stream is still being fed. It has returned exactly when no stream is
left. -/
theorem drain_unnoticed_run {config : ServerConfig} {backend : Store.Backend} {before : List Event}
    (first : ((start config backend).run before).service.closed = false)
    (settled : ¬ ((start config backend).run before).service.view.Awaited) (events : List Event) :
    let s := (start config backend).run before
    let n := s.service.calls.length
    let limit := s.service.now + s.service.config.drainTimeout
    let t := (s.happen .drain).run events
    let u := s.run (events.filterMap (Event.without n))
    (∀ k < s.service.streams.length,
      (u.service.now < limit → t.SameStream k u) ∧
        ∀ early late, events = early ++ late →
          (s.run (early.filterMap (Event.without n))).service.now < limit →
          (s.run (early.filterMap (Event.without n))).service.view.Finished k →
            t.SameStream k u) ∧
      t.service.Balanced ∧ u.service.Balanced ∧
      (t.service.cancelled = true → limit ≤ t.service.now) ∧
      (t.service.cancelled = true ↔ ∃ early m late, events = early ++ .step (.call m) :: late ∧
        ((s.happen .drain).run early).Overruns m) ∧
      (limit ≤ t.service.now → t.service.cancelled = false →
        ((t.happen (.step (.call n))).service.cancelled = true ↔ t.service.active ≠ 0)) ∧
      (t.Returned n → t.service.active = 0) ∧
      (t.Quiet → t.service.active = 0 → t.Returned n) := by
  intro s n limit t u
  have hpatient : s.Patient limit := patient_of_first first
  have hpatient' : (s.happen .drain).Patient limit := hpatient.happen .drain
  have hbalanced (events : List Event) : ((start config backend).run events).service.Balanced :=
    balanced_run (t := start config backend) rfl events
  have hdrains : t.Drains limit s.service.streams.length n := drains_run s events
  have hwhole : t.service.streams.length = s.service.streams.length :=
    length_streams_run rfl (not_awaited_drain settled) events
  have hrunning : (s.happen .drain).service.cancelled = false := running_of_first first
  refine ⟨fun k hk => ⟨fun early => ?_, fun early late hsplit hearly hfinished => ?_⟩, ?_, ?_,
    (hpatient'.run events).cancelled, cancelled_run_iff hrunning events, hdrains.cancels_iff hwhole,
    hdrains.idle hwhole, hdrains.returned_of_idle⟩
  · obtain ⟨st, hs⟩ := exists_stream? hk
    obtain ⟨seen, hu⟩ := stream?_run hs (events.filterMap (Event.without n))
    have ht := (stream?_before_limit hpatient events hk early).trans hu
    exact sameStream_of_stream? ht hu rfl rfl rfl
  · have hsame := stream?_before_limit hpatient early hk hearly
    obtain ⟨f, held, hdone⟩ := hfinished
    have hu : (s.run (early.filterMap (Event.without n))).stream? k = some _ :=
      stream?_eq_some_iff.mpr ⟨f, held, rfl⟩
    have hlate := sameStream_of_finished (hsame.trans hu) hu hdone
      (Event.flatMap_seen_without n k late).symm
    rwa [← Runs.append run, ← Runs.append run, ← List.filterMap_append, ← hsplit] at hlate
  · have hrun := hbalanced (before ++ .drain :: events)
    rwa [Runs.append run] at hrun
  · have hrun := hbalanced (before ++ events.filterMap (Event.without n))
    rwa [Runs.append run] at hrun

/-- The stream ends half-way to the limit, and the schedule goes on beyond it. -/
theorem drain_unnoticed_of_short :
    let s := (start narrow (answering 0 (.ofDocuments [.empty]))).run [.list none, .step (.call 0)]
    let early : List Event := [.step (.stream 0), .pass 50, .step (.stream 0), .step (.stream 0)]
    let late : List Event := [.step (.call 1), .pass 100, .take 0]
    s.service.closed = false ∧ ¬ s.service.view.Awaited ∧
      ((s.happen .drain).run (early ++ late)).SameStream 0
        (s.run ((early ++ late).filterMap (Event.without 1))) := by
  intro s early late
  have hsettled : ¬ s.service.view.Awaited := by
    rintro ⟨n, f, deadline, forgotten, held, -⟩
    cases n <;> cases held
  have hfirst : s.service.closed = false := rfl
  refine ⟨hfirst, hsettled, ?_⟩
  have hgrace := drain_unnoticed_run hfirst hsettled (early ++ late)
  exact (hgrace.1 0 (by decide)).2 early late rfl (by decide) ⟨_, rfl, rfl⟩

end Scene

end Menagerie.Service
