import Menagerie.Proofs.Service.Drain

/-!
# Streams that begin during a shutdown

A request for a stream passes the gate when it is taken up and starts its stream when the store has
answered; a shutdown closes the gate in between without notice of the requests that wait. Requests
that come later are refused. Those that wait are `Awaited` when the store will find a cursor for
them: they are exactly what lets a stream begin after the gate has closed, even after the shutdown
has returned (`sealed_and_stays_empty_iff`).
-/

namespace Menagerie.Service

namespace View

def Promises (v : View) (f : Finding) : Prop :=
  (∃ cursor, f.result = .ok cursor) ∧ (Stream.Channel.make? v.config.bufferSize).isSome = true

/-- A request waits for the store, which is going to answer with a cursor. -/
def Awaited (v : View) : Prop :=
  ∃ (n : Nat) (f : Finding) (deadline : Option Nat) (forgotten : Bool),
    v.calls[n]? = some (.listing (.finding f deadline forgotten)) ∧ v.Promises f

end View

/-- What may become of a request, seen from an earlier state of the service. -/
inductive Listing.Becomes (v : View) : Listing → Listing → Prop where
  | same {state : Listing} : Becomes v state state
  | forgotten {f : Finding} {deadline : Option Nat} {forgotten : Bool} :
      Becomes v (.finding f deadline forgotten) (.finding f deadline true)
  | aborted {f : Finding} {deadline : Option Nat} {forgotten : Bool} :
      Becomes v (.finding f deadline forgotten) .aborted
  | failed {f : Finding} {deadline : Option Nat} {forgotten : Bool} {failure : Failure}
      (result : f.result = .error failure) :
      Becomes v (.finding f deadline forgotten) (.failed failure)
  | panicked {f : Finding} {deadline : Option Nat} {forgotten : Bool} {cursor : Stream.Cursor}
      (result : f.result = .ok cursor)
      (unmade : Stream.Channel.make? v.config.bufferSize = none) :
      Becomes v (.finding f deadline forgotten) .panicked
  | opened {f : Finding} {deadline : Option Nat} {forgotten : Bool} {k : Nat}
      (promises : v.Promises f) (later : v.streams.length ≤ k) :
      Becomes v (.finding f deadline forgotten) (.opened k)

section

variable {s : Service} {v : View} {d : Drain} {state state' : Listing} {call : Call} {n : Nat}

theorem Call.release_eq_listing_iff : call.release = .listing state ↔ call = .listing state := by
  cases call with
  | search | listing => rfl
  | drain d => cases d <;> simp [release]

theorem Call.eq_drain_of_release (h : call.release = .drain d) : ∃ d₀, call = .drain d₀ := by
  cases call with
  | search | listing => cases h
  | drain d₀ => exact ⟨d₀, rfl⟩

theorem Call.Turns.to_listing (h : Call.Turns s v call (.listing state)) :
    ∃ before, call = .listing before ∧ Listing.Becomes s.view before state := by
  generalize hnew : Call.listing state = new at h
  cases h with
  | same => exact ⟨state, hnew.symm, .same⟩
  | advances advances =>
    cases advances <;> cases hnew
    next result => exact ⟨_, rfl, .failed result⟩
    next result unmade => exact ⟨_, rfl, .panicked result unmade⟩
    next => exact ⟨_, rfl, .aborted⟩
    next => exact ⟨_, rfl, .forgotten⟩
  | opens result made =>
    cases hnew
    exact ⟨_, rfl, .opened ⟨⟨_, result⟩, made⟩ (Nat.le_refl _)⟩
  | cancels => cases hnew
  | releases => exact ⟨state, Call.release_eq_listing_iff.mp hnew.symm, .same⟩

theorem Call.Turns.to_drain (h : Call.Turns s v call (.drain d)) : ∃ d₀, call = .drain d₀ := by
  generalize hnew : Call.drain d = new at h
  cases h with
  | same => exact ⟨_, hnew.symm⟩
  | advances advances => cases advances <;> cases hnew <;> exact ⟨_, rfl⟩
  | opens => cases hnew
  | cancels => exact ⟨_, rfl⟩
  | releases => exact Call.eq_drain_of_release hnew.symm

/-- A request goes on from where it is; seen from an earlier state this is still one becoming. -/
theorem Listing.Becomes.trans {base : View} {middle : Listing} (h : state.Becomes base middle)
    (h' : middle.Becomes v state') (config : v.config = base.config)
    (streams : base.streams.length ≤ v.streams.length) : state.Becomes base state' := by
  cases h with
  | same | forgotten =>
    cases h' with
    | same => first | exact .same | exact .forgotten
    | forgotten => exact .forgotten
    | aborted => exact .aborted
    | failed result => exact .failed result
    | panicked result unmade => exact .panicked result (by rwa [config] at unmade)
    | opened promises later =>
      obtain ⟨found, made⟩ := promises
      exact .opened ⟨found, by rwa [config] at made⟩ (Nat.le_trans streams later)
  | aborted => cases h'; exact .aborted
  | failed result => cases h'; exact .failed result
  | panicked result unmade => cases h'; exact .panicked result unmade
  | opened promises later => cases h'; exact .opened promises later

end

namespace Move

variable {s : Service} {v : View} {n k : Nat}

theorem awaited (h : Move s v) (hc : s.closed = true) (ha : v.Awaited) : s.view.Awaited := by
  obtain ⟨n, f, deadline, forgotten, held, found, made⟩ := ha
  rw [h.config] at made
  rcases h.call_cases held with ⟨call, hcall, turns⟩ | ⟨-, begins⟩
  · obtain ⟨before, rfl, becomes⟩ := turns.to_listing
    cases becomes with
    | same | forgotten => exact ⟨n, f, deadline, _, hcall, found, made⟩
  · cases begins with
    | listing opened =>
      rw [hc] at opened
      cases opened

theorem length_streams_eq (h : Move s v) (ha : ¬ s.view.Awaited) :
    v.streams.length = s.streams.length := by
  cases h with
  | start held result made => exact absurd ⟨_, _, _, _, held, ⟨_, result⟩, made⟩ ha
  | feed | release | touch => exact List.length_set
  | _ => rfl

end Move

namespace Scene

variable {s t : Scene} {found n m : Nat} {f : Finding}

-- ---------------------------------------------------------------------------
-- A closed gate
-- ---------------------------------------------------------------------------

/-- What is known of the requests after the gate of `s` has closed. -/
structure Shut (s t : Scene) : Prop where
  closed : t.service.closed = true
  config : t.service.config = s.service.config
  streams : s.service.streams.length ≤ t.service.streams.length
  calls : s.service.calls.length ≤ t.service.calls.length
  listings : ∀ n state, t.service.calls[n]? = some (.listing state) →
    (∃ before, s.service.calls[n]? = some (.listing before) ∧
      before.Becomes s.service.view state) ∨
    s.service.calls.length ≤ n ∧ state = .refused

theorem shut_run (hc : s.service.closed = true) (events : List Event) : s.Shut (s.run events) := by
  refine Runs.invariant run (fun t e h => ?_) events
    ⟨hc, rfl, Nat.le_refl _, Nat.le_refl _, fun n state held => .inl ⟨state, held, .same⟩⟩
  have hm := t.move e
  refine ⟨hm.closed h.closed, hm.config.trans h.config, Nat.le_trans h.streams hm.length_streams,
    Nat.le_trans h.calls hm.length_calls, fun n state held => ?_⟩
  rcases hm.call_cases held with ⟨call, hcall, turns⟩ | ⟨hlate, begins⟩
  · obtain ⟨middle, rfl, becomes⟩ := turns.to_listing
    rcases h.listings n middle hcall with ⟨before, hbefore, earlier⟩ | ⟨hlate, rfl⟩
    · exact .inl ⟨before, hbefore, earlier.trans becomes h.config h.streams⟩
    · cases becomes with
      | same => exact .inr ⟨hlate, rfl⟩
  · cases begins with
    | refused => exact .inr ⟨Nat.le_trans h.calls hlate, rfl⟩
    | listing opened =>
      rw [h.closed] at opened
      cases opened

theorem length_streams_run (hc : s.service.closed = true) (ha : ¬ s.service.view.Awaited)
    (events : List Event) :
    (s.run events).service.streams.length = s.service.streams.length := by
  refine (Runs.invariant run (P := fun t => t.service.closed = true ∧ ¬ t.service.view.Awaited ∧
    t.service.streams.length = s.service.streams.length) ?_ events ⟨hc, ha, rfl⟩).2.2
  rintro t e ⟨hclosed, hawaited, hlength⟩
  have hm := t.move e
  exact ⟨hm.closed hclosed, fun h => hawaited (hm.awaited hclosed h),
    (hm.length_streams_eq hawaited).trans hlength⟩

-- ---------------------------------------------------------------------------
-- Every shutdown
-- ---------------------------------------------------------------------------

def Guarded (t : Scene) : Prop :=
  ∀ (n : Nat) (d : Drain), t.service.calls[n]? = some (.drain d) → t.service.closed = true

theorem guarded_run (h : s.Guarded) (events : List Event) : (s.run events).Guarded := by
  refine Runs.invariant run (fun t e h n d held => ?_) events h
  have hm := t.move e
  rcases hm.call_cases held with ⟨call, hcall, turns⟩ | ⟨-, begins⟩
  · obtain ⟨d₀, rfl⟩ := turns.to_drain
    exact hm.closed (h n d₀ hcall)
  · cases begins with
    | drain closed => exact closed

def Attended (found : Nat) (t : Scene) : Prop :=
  found ≤ t.service.streams.length ∧
    ∀ (n : Nat) (d : Drain), t.service.calls[n]? = some (.drain d) →
      ∃ limit, d.Sound limit found t.service.view

theorem attended_run (h : s.Attended found) (events : List Event) :
    (s.run events).Attended found := by
  refine Runs.invariant run (fun t e h => ?_) events h
  obtain ⟨hfound, hdrains⟩ := h
  have hm := t.move e
  refine ⟨Nat.le_trans hfound hm.length_streams, fun n d held => ?_⟩
  rcases hm.call_cases held with ⟨call, hcall, turns⟩ | ⟨-, begins⟩
  · obtain ⟨d₀, rfl⟩ := turns.to_drain
    obtain ⟨limit, hsound⟩ := hdrains n d₀ hcall
    obtain ⟨d', hheld, hsound'⟩ := hsound.move hm hfound hcall
    cases held.symm.trans hheld
    exact ⟨limit, hsound'⟩
  · cases begins with
    | drain => exact ⟨_, .draining fun h => by cases h⟩

theorem attended_of_first (hg : s.Guarded) (hc : s.service.closed = false) :
    (s.happen .drain).Attended (s.happen .drain).service.streams.length := by
  refine ⟨Nat.le_refl _, fun n d held => ?_⟩
  rcases (s.move .drain).call_cases held with ⟨call, hcall, turns⟩ | ⟨-, begins⟩
  · obtain ⟨d₀, rfl⟩ := turns.to_drain
    rw [hg n d₀ hcall] at hc
    cases hc
  · cases begins with
    | drain => exact ⟨_, .draining fun h => by cases h⟩

/-- No stream is opened, nor a request answered with one, in any later state. -/
def Sealed (s : Scene) : Prop :=
  ∀ events, (s.run events).service.streams.length = s.service.streams.length ∧
    ∀ (n k : Nat), (s.run events).service.calls[n]? = some (.listing (.opened k)) →
      s.service.calls[n]? = some (.listing (.opened k))

/-- Once some shutdown has returned there is no stream, then or later. -/
def StaysEmpty (s : Scene) : Prop :=
  ∀ events later n, (s.run events).Returned n → ((s.run events).run later).service.active = 0

theorem sealed_of_not_awaited (hc : s.service.closed = true) (ha : ¬ s.service.view.Awaited) :
    s.Sealed := by
  refine fun events => ⟨length_streams_run hc ha events, fun n k held => ?_⟩
  rcases (shut_run hc events).listings n _ held with ⟨before, hbefore, becomes⟩ | ⟨-, hrefused⟩
  · cases becomes with
    | same => exact hbefore
    | opened promises => exact absurd ⟨n, _, _, _, hbefore, promises⟩ ha
  · cases hrefused

theorem finished_run (h : ∀ k < found, s.service.view.Finished k) (events : List Event) :
    ∀ k < found, (s.run events).service.view.Finished k :=
  Runs.invariant run (P := fun t => ∀ k < found, t.service.view.Finished k)
    (fun t e h k hk => (t.move e).finished (h k hk)) events h

theorem staysEmpty_of_not_awaited (hc : s.service.closed = true) (ha : ¬ s.service.view.Awaited)
    (hs : s.Attended s.service.streams.length) : s.StaysEmpty := by
  intro events later n returned
  obtain ⟨-, hdrains⟩ := attended_run hs events
  obtain ⟨limit, hsound⟩ := hdrains n .stopped returned
  refine active_eq_zero_iff.mpr (View.idle_iff.mpr fun k hk => ?_)
  rw [← Runs.append run] at hk ⊢
  have hlength : (s.run (events ++ later)).service.view.streams.length = _ :=
    length_streams_run hc ha (events ++ later)
  rw [hlength] at hk
  rw [Runs.append run]
  exact finished_run (hsound.ended trivial) later k hk

-- ---------------------------------------------------------------------------
-- An awaited request
-- ---------------------------------------------------------------------------

/-- Among `found` streams, the request `n` waits for the store, which is going to find a cursor, and
the shutdown `m` waits for streams. -/
structure Poised (found n m : Nat) (f : Finding) (v : View) : Prop where
  pending : ∃ deadline forgotten, v.calls[n]? = some (.listing (.finding f deadline forgotten))
  draining : ∃ limit released, v.calls[m]? = some (.drain (.draining limit released))
  promises : v.Promises f
  streams : v.streams.length = found

theorem Poised.set {v : View} (h : Poised found n m f v) (k : Nat) (g : Stream.Feeder) :
    Poised found n m f { v with streams := v.streams.set k g } :=
  ⟨h.pending, h.draining, h.promises, by simp [h.streams]⟩

theorem Poised.release {v : View} (h : Poised found n m f v) :
    Poised found n m f { v with calls := v.calls.map Call.release } := by
  obtain ⟨deadline, forgotten, hpending⟩ := h.pending
  obtain ⟨limit, released, hdraining⟩ := h.draining
  refine ⟨⟨deadline, forgotten, ?_⟩, ⟨limit, true, ?_⟩, h.promises, h.streams⟩
  · simp [hpending, Call.release]
  · simp [hdraining, Call.release]

theorem Poised.drop (h : Poised found n m f t.service.view) (k : Nat) :
    Poised found n m f (t.happen (.drop k)).service.view :=
  ⟨h.pending, h.draining, h.promises, by simpa [happen, act, updateStream, view] using h.streams⟩

theorem Poised.step_stream (h : Poised found n m f t.service.view) (k : Nat) :
    Poised found n m f (t.happen (.step (.stream k))).service.view := by
  cases hstep : t.service.stepStream k with
  | none => simpa [happen, step, hstep] using h
  | some s' =>
    have hnext : (t.happen (.step (.stream k))).service = s' := by simp [happen, step, hstep]
    rw [hnext]
    obtain ⟨g, g', hstreamStep⟩ := stepStream_cases hstep
    rcases hstreamStep.view with hview | ⟨-, hview⟩
    · rw [hview]
      exact h.set k g'
    · rw [hview]
      exact (h.set k g').release

theorem stream_of_step {k : Nat} {g : Stream.Feeder} (held : t.service.streams[k]? = some g) :
    (t.happen (.step (.stream k))).service.streams[k]? = some (g.advance t.service.moment) := by
  cases hstep : t.service.stepStream k with
  | none =>
    have hsame : t.happen (.step (.stream k)) = t := by simp [happen, step, hstep]
    rw [hsame, held, Stream.Feeder.advance, step_eq_none_of_stepStream hstep held]
  | some s' =>
    have hnext : (t.happen (.step (.stream k))).service = s' := by simp [happen, step, hstep]
    obtain ⟨f, f', hstreamStep⟩ := stepStream_cases hstep
    cases held.symm.trans hstreamStep.held
    obtain ⟨lines, hadvance⟩ := hstreamStep.steps
    rw [hnext, Stream.Feeder.advance, hadvance, hstreamStep.streams]
    exact List.getElem?_set_self (List.getElem?_eq_some_iff.mp held).1

theorem finished_of_drop {k : Nat} (hk : k < t.service.streams.length) :
    (t.run [.drop k, .step (.stream k), .step (.stream k)]).service.view.Finished k := by
  have held : (t.happen (.drop k)).service.streams[k]? = some t.service.streams[k].drop := by
    simp [happen, act, updateStream, hk]
  refine ⟨_, stream_of_step (stream_of_step held), ?_⟩
  exact Stream.Feeder.finished_advance_advance _ _ (by simp [Stream.Feeder.drop, Stream.Channel.drop])

theorem exists_finished (h : Poised found n m f t.service.view) {k : Nat} (hk : k ≤ found) :
    ∃ events, Poised found n m f (t.run events).service.view ∧
      ∀ j < k, (t.run events).service.view.Finished j := by
  induction k with
  | zero => exact ⟨[], h, fun j hj => by omega⟩
  | succ k ih =>
    obtain ⟨events, hpoised, hfinished⟩ := ih (by omega)
    refine ⟨events ++ [.drop k, .step (.stream k), .step (.stream k)], ?_, ?_⟩
    · rw [Runs.append run]
      exact ((hpoised.drop k).step_stream k).step_stream k
    · intro j hj
      rw [Runs.append run]
      rcases Nat.lt_succ_iff_lt_or_eq.mp hj with hlt | rfl
      · exact finished_run hfinished _ j hlt
      · have hlength : (t.run events).service.streams.length = found := hpoised.streams
        exact finished_of_drop (by omega)

theorem view_of_step_drain {limit : Nat} {released : Bool}
    (held : t.service.calls[m]? = some (.drain (.draining limit released)))
    (idle : t.service.view.Idle) :
    (t.happen (.step (.call m))).service.view =
      { t.service.view with calls := t.service.calls.set m (.drain .stopped) } := by
  have hactive := active_eq_zero_iff.mpr idle
  simp [happen, step, stepCall, held, stepDrain, hactive, view, setCall, note]

theorem view_of_step_finding {deadline : Option Nat} {forgotten : Bool}
    (held : t.service.calls[n]? = some (.listing (.finding f deadline forgotten)))
    (due : f.due ≤ t.service.now) (promises : t.service.view.Promises f) :
    ∃ feeder : Stream.Feeder, feeder.position = .awaiting ∧
      (t.happen (.step (.call n))).service.view.streams = t.service.streams ++ [feeder] := by
  obtain ⟨⟨cursor, result⟩, made⟩ := promises
  obtain ⟨channel, hchannel⟩ := Option.isSome_iff_exists.mp made
  have hnext : (t.happen (.step (.call n))).service =
      t.service.openStream n cursor deadline forgotten := by
    simp [happen, step, stepCall_finding held due result]
  refine ⟨fresh cursor deadline channel forgotten, rfl, ?_⟩
  rw [hnext]
  exact (callStep_opened held due result hchannel).streams

theorem exists_opened_of_finished (h : Poised found n m f t.service.view)
    (finished : ∀ j < found, t.service.view.Finished j) :
    let stopped := t.happen (.step (.call m))
    let late := stopped.run [.pass f.due, .step (.call n)]
    stopped.Returned m ∧ late.service.active ≠ 0 ∧ late.service.streams.length = found + 1 := by
  intro stopped late
  obtain ⟨deadline, forgotten, hpending⟩ := h.pending
  obtain ⟨limit, released, hdraining⟩ := h.draining
  have hidle : t.service.view.Idle :=
    View.idle_iff.mpr fun k hk => finished k (by rwa [h.streams] at hk)
  have hview : stopped.service.view = _ := view_of_step_drain hdraining hidle
  have hreturned : stopped.service.view.calls[m]? = some (.drain .stopped) := by
    rw [hview]
    exact List.getElem?_set_self (List.getElem?_eq_some_iff.mp hdraining).1
  have hother : m ≠ n := by
    rintro rfl
    cases hdraining.symm.trans hpending
  have hwaits : stopped.service.view.calls[n]? =
      some (.listing (.finding f deadline forgotten)) := by
    rw [hview]
    exact (List.getElem?_set_ne hother).trans hpending
  have hpromises : stopped.service.view.Promises f := by
    rw [hview]
    exact h.promises
  have hstreams : stopped.service.view.streams = t.service.streams := by rw [hview]; rfl
  obtain ⟨feeder, hposition, hlate⟩ := view_of_step_finding (t := stopped.happen (.pass f.due))
    hwaits (by simp [happen, act, advance]) hpromises
  have hlate : late.service.streams = t.service.streams ++ [feeder] := hstreams ▸ hlate
  refine ⟨hreturned, ?_, ?_⟩
  · intro hactive
    have hfinished := active_eq_zero_iff.mp hactive feeder (by simp [view, hlate])
    simp [Stream.Feeder.isFinished_iff, hposition] at hfinished
  · have hlength : t.service.streams.length = found := h.streams
    simp [hlate, hlength]

/-- Once all streams before it have lost their receivers and ended, the shutdown returns; then the
store answers, and the awaited request gets its stream. -/
theorem exists_opened (h : Poised found n m f t.service.view) :
    ∃ events later, (t.run events).Returned m ∧
      ((t.run events).run later).service.active ≠ 0 ∧
      ((t.run events).run later).service.streams.length = found + 1 := by
  obtain ⟨events, hpoised, hfinished⟩ := exists_finished h (Nat.le_refl found)
  have hlast := exists_opened_of_finished hpoised hfinished
  exact ⟨events ++ [.step (.call m)], [.pass f.due, .step (.call n)], by rwa [Runs.append run]⟩

def Draining (s : Scene) : Prop :=
  ∃ (m limit : Nat) (released : Bool),
    s.service.calls[m]? = some (.drain (.draining limit released))

theorem draining_of_drain (s : Scene) : (s.happen .drain).Draining :=
  ⟨_, _, false, List.getElem?_concat_length⟩

theorem exists_opened_of_awaited (ha : s.service.view.Awaited) (hd : s.Draining) :
    ∃ events later m, (s.run events).Returned m ∧
      ((s.run events).run later).service.active ≠ 0 ∧
      ((s.run events).run later).service.streams.length = s.service.streams.length + 1 := by
  obtain ⟨n, f, deadline, forgotten, held, promises⟩ := ha
  obtain ⟨m, limit, released, hm⟩ := hd
  obtain ⟨events, later, hresult⟩ := exists_opened (t := s)
    ⟨⟨deadline, forgotten, held⟩, ⟨limit, released, hm⟩, promises, rfl⟩
  exact ⟨events, later, m, hresult⟩

theorem sealed_iff (hc : s.service.closed = true) (hd : s.Draining) :
    s.Sealed ↔ ¬ s.service.view.Awaited := by
  refine ⟨fun h ha => ?_, sealed_of_not_awaited hc⟩
  obtain ⟨events, later, m, -, -, hlength⟩ := exists_opened_of_awaited ha hd
  rw [← Runs.append run, (h (events ++ later)).1] at hlength
  omega

theorem staysEmpty_iff (hc : s.service.closed = true) (hd : s.Draining)
    (hs : s.Attended s.service.streams.length) :
    s.StaysEmpty ↔ ¬ s.service.view.Awaited := by
  refine ⟨fun h ha => ?_, fun ha => staysEmpty_of_not_awaited hc ha hs⟩
  obtain ⟨events, later, m, hreturned, hactive, -⟩ := exists_opened_of_awaited ha hd
  exact hactive (h events later m hreturned)

-- ---------------------------------------------------------------------------
-- The first shutdown
-- ---------------------------------------------------------------------------

/-- From the first shutdown on, requests that are taken up are refused, and those that wait for the
store become what its answer makes of them. No stream begins any more, and none is there after a
shutdown has returned, exactly when no awaited request was waiting as the gate closed. -/
theorem sealed_and_stays_empty_iff {config : ServerConfig} {backend : Store.Backend}
    {before : List Event} (first : ((start config backend).run before).service.closed = false) :
    let s := ((start config backend).run before).happen .drain
    (∀ (events : List Event) (n : Nat) (state : Listing),
      (s.run events).service.calls[n]? = some (.listing state) →
        (∃ earlier, s.service.calls[n]? = some (.listing earlier) ∧
          earlier.Becomes s.service.view state) ∨
        s.service.calls.length ≤ n ∧ state = .refused) ∧
    (s.Sealed ↔ ¬ s.service.view.Awaited) ∧ (s.StaysEmpty ↔ ¬ s.service.view.Awaited) := by
  intro s
  have hguarded : ((start config backend).run before).Guarded :=
    guarded_run (fun n d held => by cases held) before
  have hclosed : s.service.closed = true := rfl
  have hattended : s.Attended s.service.streams.length := attended_of_first hguarded first
  have hdraining : s.Draining := draining_of_drain _
  clear_value s
  exact ⟨fun events => (shut_run hclosed events).listings, sealed_iff hclosed hdraining,
    staysEmpty_iff hclosed hdraining hattended⟩

theorem sealed_and_stays_empty_iff_of_slow_store :
    let before := (start narrow (answering 100 (.ofList [.hang]))).run [.list none]
    let s := before.happen .drain
    before.service.closed = false ∧
      (∀ (events : List Event) (n : Nat) (state : Listing),
        (s.run events).service.calls[n]? = some (.listing state) →
          (∃ earlier, s.service.calls[n]? = some (.listing earlier) ∧
            earlier.Becomes s.service.view state) ∨
          s.service.calls.length ≤ n ∧ state = .refused) ∧
      (s.Sealed ↔ ¬ s.service.view.Awaited) ∧ (s.StaysEmpty ↔ ¬ s.service.view.Awaited) :=
  ⟨rfl, sealed_and_stays_empty_iff rfl⟩

/-- A shutdown during a search of the store returns at once, and the stream begins afterwards. -/
theorem stream_after_shutdown :
    let s := (start narrow (answering 100 (.ofList [.hang]))).run
      [.list none, .drain, .step (.call 1)]
    let t := s.run [.pass 100, .step (.call 0)]
    s.Returned 1 ∧ t.service.calls[0]? = some (.listing (.opened 0)) ∧ t.service.active = 1 :=
  ⟨rfl, rfl, rfl⟩

end Scene

end Menagerie.Service
