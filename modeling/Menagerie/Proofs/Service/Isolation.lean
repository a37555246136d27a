import Menagerie.Proofs.Service.Capacity
import Menagerie.Proofs.Service.Following

/-!
# Calls do not disturb each other

A request that begins with the same answer from the store in two runs and notices the same
afterwards comes to the same in both, whatever the other calls are and do: `calls_isolated`. What it
notices of a shutdown is a cancellation. A stream that was there before is cancelled by the first
step of a shutdown at its limit or beyond, and no other call has a part in when that is
(`notice?_eq_cancel_iff`).
-/

namespace Menagerie.Service

/-- What the store is going to answer to a request, and when. The requests that are refused are not
passed on. -/
def finding? (s : Service) : Event → Option Finding
  | .search name =>
    if name = "" then none else some (s.find s.config.creatures (nameFilter name)).2
  | .list _ => if s.closed then none else some s.lookupFinding
  | _ => none

def begun? (s : Service) (e : Event) : Option Call :=
  match e, s.finding? e with
  | .search name, some f => some (.search name (.finding f))
  | .search name, none => some (.search name .nameless)
  | .list timeout, some f => some (.listing (.finding f (timeout.map s.deadline) false))
  | .list _, none => some (.listing .refused)
  | _, _ => none

theorem drain_held_iff {calls : List Call} {m : Nat} :
    (∃ d, calls[m]? = some (.drain d)) ↔ (calls.map Call.kind)[m]? = some .drain := by
  rw [List.getElem?_map, Option.map_eq_some_iff]
  constructor
  · rintro ⟨d, held⟩
    exact ⟨_, held, rfl⟩
  · rintro ⟨call, held, hkind⟩
    cases call with
    | drain d => exact ⟨d, held⟩
    | search | listing => cases hkind

theorem Event.kind?_eq_drain_iff {e : Event} : e.kind? = some .drain ↔ e = .drain := by
  cases e <;> simp [Event.kind?]

namespace Scene

variable {t : Scene} {n k : Nat} {p : Strand} {call : Call} {st : Stream.Scene} {e : Event}

-- ---------------------------------------------------------------------------
-- Cancellations
-- ---------------------------------------------------------------------------

/-- After these events this is the step of a shutdown that began among them and is at its limit or
beyond. -/
def Lapses (u : Scene) (events : List Event) (e : Event) : Prop :=
  ∃ early later, events = early ++ .drain :: later ∧
    e = .step (.call (u.run early).service.calls.length) ∧
    (u.run early).service.now + (u.run early).service.config.drainTimeout ≤
      (u.run events).service.now

def LapsesFirst (u : Scene) (events : List Event) (e : Event) : Prop :=
  u.Lapses events e ∧ ∀ early e' later, events = early ++ e' :: later → ¬ u.Lapses early e'

theorem drain_happen_iff (t : Scene) (e : Event) (m : Nat) :
    (∃ d, (t.happen e).service.calls[m]? = some (.drain d)) ↔
      (∃ d, t.service.calls[m]? = some (.drain d)) ∨ e = .drain ∧ m = t.service.calls.length := by
  rw [drain_held_iff, drain_held_iff, (t.change e).kinds]
  rcases Nat.lt_or_ge m t.service.calls.length with early | late
  · rw [List.getElem?_append_left (by simpa using early)]
    exact (or_iff_left fun ⟨_, place⟩ => Nat.ne_of_lt early place).symm
  · have hlate : (t.service.calls.map Call.kind).length ≤ m := by simpa using late
    rw [List.getElem?_append_right hlate, List.getElem?_eq_none hlate, List.length_map,
      ← Event.kind?_eq_drain_iff]
    cases hkind : e.kind? with
    | none => simp
    | some kind => cases hm : m - t.service.calls.length <;> simp <;> omega

variable {u : Scene} {events : List Event}

theorem exists_drain_of_run (undrained : ∀ (m : Nat) (d : Drain),
    u.service.calls[m]? ≠ some (.drain d)) {m : Nat}
    {d : Drain} (held : (u.run events).service.calls[m]? = some (.drain d)) :
    ∃ early later, events = early ++ Event.drain :: later ∧
      m = (u.run early).service.calls.length := by
  have hrun := run_iff_exists (I := fun _ => True) (fun _ _ _ => trivial)
    (P := fun t => ∃ d, t.service.calls[m]? = some (.drain d))
    (Q := fun t e => e = .drain ∧ m = t.service.calls.length)
    (fun t e _ => drain_happen_iff t e m) trivial (t := u) events
  rcases hrun.mp ⟨d, held⟩ with ⟨d₀, hbefore⟩ | ⟨early, e, later, hsplit, rfl, hplace⟩
  · exact absurd hbefore (undrained m d₀)
  · exact ⟨early, later, hsplit, hplace⟩

section

variable (undrained : ∀ (m : Nat) (d : Drain), u.service.calls[m]? ≠ some (.drain d))

include undrained

theorem Overruns.lapses {m : Nat} (h : (u.run events).Overruns m) :
    u.Lapses events (.step (.call m)) := by
  obtain ⟨tick, held, late, -⟩ := h
  obtain ⟨early, later, rfl, rfl⟩ := exists_drain_of_run undrained held
  refine ⟨early, later, rfl, rfl, ?_⟩
  obtain ⟨-, d, hd, hsound⟩ := drains_run (u.run early) later
  rw [Runs.append run, Runs.cons run] at held
  cases held.symm.trans hd
  exact hsound.limit tick false rfl ▸ late

end

section

variable (held : u.service.calls[n]? = some (.listing (.opened k))) (runs : u.stream? k = some st)

include held runs

theorem heeds_run_iff (events : List Event) :
    (u.run events).heeds n = true ↔ ¬ (u.run events).service.view.Finished k := by
  obtain ⟨hs, hrun⟩ := stream?_run runs events
  obtain ⟨f, hf, hst⟩ := stream?_eq_some_iff.mp hrun
  have hopened : (u.run events).service.calls[n]? = some (.listing (.opened k)) :=
    Runs.invariant run (P := fun t => t.service.calls[n]? = some (.listing (.opened k)))
      (fun _ e h => opened_happen h e) events held
  have hfeeder : (st.run hs).feeder = f := congrArg Stream.Scene.feeder hst.symm
  rw [heeds_of_fate? (fate?_of_stream? hopened hrun), Fate.heeds, hfeeder, Bool.not_eq_true',
    ← Bool.not_eq_true, not_iff_not]
  constructor
  · exact fun finished => ⟨f, hf, finished⟩
  · rintro ⟨f', hf', finished⟩
    cases hf.symm.trans hf'
    exact finished

theorem Lapses.overruns (h : u.Lapses events e) (heeds : (u.run events).heeds n = true)
    (unheard : (u.run events).service.cancelled = false) :
    ∃ m, e = .step (.call m) ∧ (u.run events).Overruns m := by
  obtain ⟨early, later, rfl, rfl, late⟩ := h
  have hunfinished := (heeds_run_iff held runs _).mp heeds
  have hthere : k < (u.run early).service.streams.length := by
    obtain ⟨hs, hearly⟩ := stream?_run runs early
    obtain ⟨f, hf, -⟩ := stream?_eq_some_iff.mp hearly
    exact (List.getElem?_eq_some_iff.mp hf).1
  obtain ⟨hfound, d, hd, hsound⟩ := drains_run (u.run early) later
  rw [Runs.append run, Runs.cons run] at late unheard hunfinished ⊢
  have hundone : ¬ d.Done := fun done => hunfinished (hsound.ended done k hthere)
  have hactive : (((u.run early).happen .drain).run later).service.active ≠ 0 := by
    intro idle
    have hidle := View.idle_iff.mp (active_eq_zero_iff.mp idle)
    exact hunfinished (hidle k (Nat.lt_of_lt_of_le hthere hfound))
  refine ⟨_, rfl, ?_⟩
  cases d with
  | draining tick released =>
    obtain rfl : released = false := by simpa [Drain.Done] using hundone
    exact ⟨tick, hd, hsound.limit tick false rfl ▸ late, hactive⟩
  | clearing released =>
    have hcancelled := hsound.cancelled released rfl
    exact absurd hcancelled (ne_true_of_eq_false unheard)
  | stopped => exact absurd trivial hundone

theorem heeds_of_later {early later : List Event}
    (heeds : (u.run (early ++ later)).heeds n = true) : (u.run early).heeds n = true := by
  rw [heeds_run_iff held runs] at heeds ⊢
  rw [Runs.append run] at heeds
  exact fun finished => heeds <| Runs.invariant run (P := fun t => t.service.view.Finished k)
    (fun t e h => (t.move e).finished h) later finished

end

section

variable (undrained : ∀ (m : Nat) (d : Drain), u.service.calls[m]? ≠ some (.drain d))
  (running : u.service.cancelled = false)
  (held : u.service.calls[n]? = some (.listing (.opened k))) (runs : u.stream? k = some st)
  (heeds : (u.run events).heeds n = true)

include undrained running held runs heeds

/-- As long as the stream is being fed, the service has cancelled if a shutdown has lapsed. -/
theorem cancelled_run_iff_lapses :
    (u.run events).service.cancelled = true ↔
      ∃ early e later, events = early ++ e :: later ∧ u.Lapses early e := by
  rw [cancelled_run_iff running]
  constructor
  · rintro ⟨early, m, later, hsplit, overruns⟩
    exact ⟨early, _, later, hsplit, overruns.lapses undrained⟩
  · rintro ⟨early, e, later, hsplit, lapses⟩
    subst hsplit
    have hearly := heeds_of_later held runs heeds
    cases hcancelled : (u.run early).service.cancelled with
    | true =>
      obtain ⟨before, m, after, rfl, overruns⟩ := (cancelled_run_iff running early).mp hcancelled
      exact ⟨before, m, after ++ e :: later, by simp, overruns⟩
    | false =>
      obtain ⟨m, rfl, overruns⟩ := lapses.overruns held runs hearly hcancelled
      exact ⟨early, m, later, rfl, overruns⟩

/-- What cancels a stream is the first shutdown to lapse. -/
theorem notice?_eq_cancel_iff :
    (u.run events).notice? n e = some .cancel ↔ u.LapsesFirst events e := by
  have hcancelled := cancelled_run_iff_lapses undrained running held runs heeds
  have hrunning : (u.run events).service.cancelled = false ↔
      ∀ early e' later, events = early ++ e' :: later → ¬ u.Lapses early e' := by
    rw [← Bool.not_eq_true, hcancelled]
    simp
  rw [LapsesFirst, ← hrunning]
  constructor
  · intro hcancel
    rcases (u.run events).notice?_cases n e with
      ⟨hnotice, -⟩ | ⟨-, ⟨m, rfl, overruns⟩, -, unheard, -⟩
    · exact absurd (hnotice.symm.trans hcancel) (Event.notice?_ne_cancel _ _ _)
    · exact ⟨overruns.lapses undrained, unheard⟩
  · rintro ⟨lapses, unheard⟩
    obtain ⟨m, rfl, overruns⟩ := lapses.overruns held runs heeds unheard
    rcases (u.run events).notice?_cases n (.step (.call m)) with ⟨-, hkeeps⟩ | ⟨hnotice, -⟩
    · have hafter := ((u.run events).cancelled_happen_iff _).mpr (.inr ⟨m, rfl, overruns⟩)
      rw [hkeeps heeds, unheard] at hafter
      cases hafter
    · exact hnotice

end

-- ---------------------------------------------------------------------------
-- Beginnings
-- ---------------------------------------------------------------------------

theorem calls_of_begun? (begun : t.service.begun? e = some call) :
    (t.happen e).service.calls = t.service.calls ++ [call] := by
  cases e with
  | search name =>
    simp only [Scene.happen, act, beginSearch]
    split
    next hempty =>
      obtain rfl : Call.search name .nameless = call := by
        simpa [begun?, finding?, hempty] using begun
      simp [addCall, note, count, hempty]
    next hname =>
      simp [begun?, finding?, hname] at begun
      subst begun
      rfl
  | list timeout =>
    simp only [Scene.happen, act, beginListing]
    split
    next hclosed =>
      simp [begun?, finding?, hclosed] at begun
      subst begun
      rfl
    next hopen =>
      simp [begun?, finding?, hopen] at begun
      subst begun
      rfl
  | _ => simp [begun?] at begun

/-- A request is taken up with the token as it is before any shutdown, if that matters. -/
theorem follows_begun (begun : t.service.begun? e = some call)
    (running : t.service.closed = false → t.service.cancelled = false) :
    (t.happen e).Follows t.service.calls.length (.plain call t.service.now false) := by
  have hheld : (t.happen e).service.calls[t.service.calls.length]? = some call := by
    rw [calls_of_begun? begun]
    exact List.getElem?_concat_length
  have hclock := t.now_happen e
  have hkeeps := cancelled_happen_of_ne_step (t := t) (e := e) (by rintro task rfl; cases begun)
  cases e with
  | search name =>
    have hsearch : ∃ state, call = .search name state := by
      cases hfound : t.service.finding? (.search name) <;> simp [begun?, hfound] at begun <;>
        exact ⟨_, begun.symm⟩
    obtain ⟨state, rfl⟩ := hsearch
    exact .of_plain hheld trivial hclock fun heeds => by cases heeds
  | list timeout =>
    by_cases hclosed : t.service.closed = true
    · simp [begun?, finding?, hclosed] at begun
      subst begun
      exact .of_plain hheld trivial hclock fun heeds => by cases heeds
    · simp [begun?, finding?, hclosed] at begun
      subst begun
      exact .of_plain hheld trivial hclock fun _ => hkeeps.trans (running (by simpa using hclosed))
  | _ => cases begun

theorem exists_begun? {s : Service} (asks : e.kind? = some .search ∨ e.kind? = some .listing) :
    ∃ call, s.begun? e = some call := by
  cases e with
  | search name => cases hfound : s.finding? (.search name) <;> simp [begun?, hfound]
  | list timeout => cases hfound : s.finding? (.list timeout) <;> simp [begun?, hfound]
  | _ => simp [Event.kind?] at asks

theorem begun?_congr {s s' : Service} (clock : s.now = s'.now)
    (same : s.finding? e = s'.finding? e) : s.begun? e = s'.begun? e := by
  have hdeadline : s.deadline = s'.deadline := by
    funext timeout
    simp [deadline, clock]
  simp only [begun?, same, hdeadline]

-- ---------------------------------------------------------------------------
-- Two runs
-- ---------------------------------------------------------------------------

/-- Either call notices the same, turn by turn or, if both are prompt, from the outside. -/
def Alike (t u : Scene) (n n' : Nat) (events events' : List Event) : Prop :=
  noticed n t events = noticed n' u events' ∨
    Prompt n t events ∧ Prompt n' u events' ∧
      (noticed n t events).flatMap Notice.outside = (noticed n' u events').flatMap Notice.outside

theorem Follows.fate_eq {u : Scene} {n' : Nat} {events events' : List Event} (h : t.Follows n p)
    (h' : u.Follows n' p) (recorded : t.Recorded) (recorded' : u.Recorded)
    (size : t.service.config.bufferSize = u.service.config.bufferSize)
    (alike : Alike t u n n' events events') :
    ∃ fate, (t.run events).fate? n = some fate ∧ (u.run events').fate? n' = some fate := by
  have hrun := (h.run recorded events).fate
  have hrun' := (h'.run recorded' events').fate
  refine ⟨_, hrun, hrun'.trans ?_⟩
  rcases alike with same | ⟨prompt, prompt', same⟩
  · rw [size, same]
  · rw [Strand.run_eq_of_prompt (h.prompt recorded prompt)
      (size ▸ h'.prompt recorded' prompt') same, size]

/-- The same request in two runs of a service, over stores that find the same for it, beside
whatever other calls. If the call notices the same in both, then its answer, its items and the end
of its stream are the same. A stream that is there before any shutdown begins notices a cancellation
exactly when the first shutdown lapses while it is being fed; whatever the other calls do, it is the
same step. -/
theorem calls_isolated {config : ServerConfig} {backend backend' : Store.Backend}
    {before before' : List Event} {request : Event}
    (asks : request.kind? = some .search ∨ request.kind? = some .listing)
    (clock : ((start config backend).run before).service.now =
      ((start config backend').run before').service.now)
    (found : ((start config backend).run before).service.finding? request =
      ((start config backend').run before').service.finding? request) :
    let t := (start config backend).run before
    let u := (start config backend').run before'
    let n := t.service.calls.length
    let n' := u.service.calls.length
    (∀ after after', Alike (t.happen request) (u.happen request) n n' after after' →
      ∃ fate, ((t.happen request).run after).fate? n = some fate ∧
        ((u.happen request).run after').fate? n' = some fate) ∧
      ∀ mid later k, let v := (t.happen request).run mid
        v.service.closed = false → v.service.calls[n]? = some (.listing (.opened k)) →
          (v.run later).heeds n = true →
            ∀ e, (v.run later).notice? n e = some .cancel ↔ v.LapsesFirst later e := by
  intro t u n n'
  obtain ⟨call, hbegun⟩ := exists_begun? (s := t.service) asks
  have hbegun' : u.service.begun? request = some call :=
    (begun?_congr clock found).symm.trans hbegun
  have hrecorded : (t.happen request).Recorded :=
    (recorded_run config backend before).happen request
  have hrecorded' : (u.happen request).Recorded :=
    (recorded_run config backend' before').happen request
  have hfollows : (t.happen request).Follows n (.plain call t.service.now false) :=
    follows_begun hbegun running_of_first
  have hfollows' : (u.happen request).Follows n' (.plain call u.service.now false) :=
    follows_begun hbegun' running_of_first
  refine ⟨fun after after' alike => ?_, ?_⟩
  · have hconfig : (t.happen request).service.config = config :=
      (t.config_happen request).trans (config_run _ before)
    have hconfig' : (u.happen request).service.config = config :=
      (u.config_happen request).trans (config_run _ before')
    exact hfollows.fate_eq (clock ▸ hfollows') hrecorded hrecorded'
      (by rw [hconfig, hconfig']) alike
  · intro mid later k v first held heeds e
    have hv : v = (start config backend).run (before ++ request :: mid) := by
      rw [Runs.append run]
      rfl
    obtain ⟨st, runs⟩ := (hfollows.run hrecorded mid).exists_stream? held
    rw [hv] at first
    have hundrained := undrained_of_first first
    have hrunning := running_of_first first
    rw [← hv] at hundrained hrunning
    exact notice?_eq_cancel_iff hundrained hrunning held runs heeds

def hangingFirst (cursor : Stream.Cursor) : Store.Backend :=
  .scripted fun n _ _ => ⟨0, .ok (if n = 0 then .ofList [.hang] else cursor)⟩

/-- A stream beside one that hangs and is then dropped, and by itself. A shutdown cancels it at the
same tick. -/
theorem calls_isolated_of_dropped :
    let cursor : Stream.Cursor := .ofList [.document .empty, .hang]
    let t := (start narrow (hangingFirst cursor)).run [.list none, .step (.call 0)]
    let u := (start narrow (answering 0 cursor)).run []
    let n := t.service.calls.length
    let n' := u.service.calls.length
    let mid : List Event := [.step (.call 1), .step (.stream 1), .step (.stream 1)]
    let later : List Event := [.drain, .pass 40, .take 1, .drop 0, .step (.stream 0), .pass 60]
    let after := mid ++ later ++ [.step (.call 2), .step (.stream 1)]
    let after' : List Event := [.step (.call 0), .step (.stream 0), .step (.stream 0), .drain,
      .pass 40, .take 0, .pass 60, .step (.call 1), .step (.stream 0)]
    (∃ fate, ((t.happen (.list none)).run after).fate? n = some fate ∧
      ((u.happen (.list none)).run after').fate? n' = some fate) ∧
      ((t.happen (.list none)).run mid).LapsesFirst later (.step (.call 2)) := by
  intro cursor t u n n' mid later after after'
  have hclock : t.service.now = u.service.now := rfl
  have hfound : t.service.finding? (.list none) = u.service.finding? (.list none) := rfl
  have halike : Alike (t.happen (.list none)) (u.happen (.list none)) n n' after after' := by
    refine .inr ⟨?_, ?_, ?_⟩
    · decide +kernel
    · decide +kernel
    · decide +kernel
  have hisolated := calls_isolated (.inr rfl) hclock hfound
  refine ⟨hisolated.1 after after' halike, ?_⟩
  refine (hisolated.2 mid later 1 ?_ ?_ ?_ _).mp ?_
  · rfl
  · rfl
  · decide +kernel
  · decide +kernel

end Scene

end Menagerie.Service
