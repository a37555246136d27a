import Menagerie.Proofs.Service.Move

/-!
# What events do to a service

`Scene.change` says all that an event can do, a step of a task or an act of a caller. Where `Move`
forgets which event made a move, `Change` keeps it. `Change.comes` says how one call came to be what
it is after an event.
-/

namespace Menagerie.Service

-- ---------------------------------------------------------------------------
-- Callers
-- ---------------------------------------------------------------------------

inductive Kind where
  | search | listing | drain
  deriving DecidableEq

def Call.kind : Call → Kind
  | .search .. => .search
  | .listing _ => .listing
  | .drain _ => .drain

def Event.kind? : Event → Option Kind
  | .search _ => some .search
  | .list _ => some .listing
  | .drain => some .drain
  | _ => none

/-- A call that is taken up, with what the metrics learn of it. -/
inductive Call.Enters (s : Service) : Event → Call → Metrics → Prop where
  | nameless {name : String} : Enters s (.search name) (.search name .nameless) { searches := 1 }
  | search {name : String} {f : Finding} :
      Enters s (.search name) (.search name (.finding f)) { searches := 1 }
  | refused {timeout : Option Timeout.Duration} (closed : s.closed = true) :
      Enters s (.list timeout) (.listing .refused) { errors := 1 }
  | listing {timeout : Option Timeout.Duration} {f : Finding} (opened : s.closed = false) :
      Enters s (.list timeout) (.listing (.finding f (timeout.map s.deadline) false))
        { listings := 1 }
  | drain : Enters s .drain (.drain (.draining (s.now + s.config.drainTimeout) false)) {}

/-- A caller gives up a call that waits for the store, or its interest in the answer. -/
inductive Call.Leaves : Call → Call → Prop where
  | search {name : String} {f : Finding} :
      Leaves (.search name (.finding f)) (.search name .aborted)
  | reading {name : String} {r : Stream.Reading} :
      Leaves (.search name (.reading r)) (.search name .aborted)
  | listing {f : Finding} {deadline : Option Nat} {forgotten : Bool} :
      Leaves (.listing (.finding f deadline forgotten)) (.listing .aborted)
  | forgotten {f : Finding} {deadline : Option Nat} {forgotten : Bool} :
      Leaves (.listing (.finding f deadline forgotten)) (.listing (.finding f deadline true))

structure Touched (f f' : Stream.Feeder) : Prop where
  position : f'.position = f.position
  sent : f'.sent = f.sent
  deadline : f'.deadline = f.deadline

def Event.Aside : Event → Prop
  | .step _ | .search _ | .list _ | .drain => False
  | .take _ | .close _ | .drop _ | .abort _ | .forget _ | .insert .. | .pass _ => True

/-- What an event makes of a service. -/
inductive Change (s : Service) : Event → Service → Prop where
  | wait {task : Task} (waits : s.step task = none) : Change s (.step task) s
  | call {n : Nat} {s' : Service} {old new : Call} {effect : Effect}
      (step : CallStep s n s' old new effect) : Change s (.step (.call n)) s'
  | stream {k : Nat} {s' : Service} {f f' : Stream.Feeder} (step : StreamStep s k s' f f') :
      Change s (.step (.stream k)) s'
  | enter {e : Event} {s' : Service} {call : Call} {metrics : Metrics}
      (enters : Call.Enters s e call metrics)
      (calls : s'.calls = s.calls ++ [call]) (streams : s'.streams = s.streams)
      (counted : s'.metrics = s.metrics + metrics) (cancelled : s'.cancelled = s.cancelled) :
      Change s e s'
  | leave {e : Event} {n : Nat} {old new : Call} (aside : e.Aside)
      (held : s.calls[n]? = some old) (leaves : Call.Leaves old new) : Change s e (s.setCall n new)
  | touch {e : Event} {k : Nat} {f f' : Stream.Feeder} (aside : e.Aside)
      (held : s.streams[k]? = some f) (touched : Touched f f') :
      Change s e { s with streams := s.streams.set k f' }
  | pass {e : Event} {s' : Service} (aside : e.Aside) (calls : s'.calls = s.calls)
      (streams : s'.streams = s.streams) (metrics : s'.metrics = s.metrics)
      (cancelled : s'.cancelled = s.cancelled) : Change s e s'

theorem change_step (s : Scene) (task : Task) :
    Change s.service (.step task) (s.happen (.step task)).service := by
  cases hstep : s.service.step task with
  | none => simpa [Scene.happen, hstep] using Change.wait hstep
  | some s' =>
    have hnext : (s.happen (.step task)).service = s' := by simp [Scene.happen, hstep]
    rw [hnext]
    cases task with
    | call n =>
      obtain ⟨old, new, effect, step⟩ := stepCall_cases hstep
      exact .call step
    | stream k =>
      obtain ⟨f, f', step⟩ := stepStream_cases hstep
      exact .stream step

theorem change_beginSearch (s : Service) (name : String) :
    Change s (.search name) (s.beginSearch name) := by
  unfold beginSearch
  simp only
  split
  · refine .enter .nameless rfl rfl ?_ rfl
    ext <;> simp [count, note, addCall]
  · refine .enter .search rfl rfl ?_ rfl
    ext <;> simp [count, note, addCall, find]

theorem change_beginListing (s : Service) (timeout : Option Timeout.Duration) :
    Change s (.list timeout) (s.beginListing timeout) := by
  unfold beginListing
  split
  next hc =>
    refine .enter (.refused hc) rfl rfl ?_ rfl
    ext <;> simp [count, addCall]
  next hc =>
    refine .enter (.listing (by simpa using hc)) rfl rfl ?_ rfl
    ext <;> simp [count, note, addCall, find]

theorem change_abort (s : Service) (n : Nat) : Change s (.abort n) (s.abort n) := by
  unfold abort
  split
  next held => exact .leave trivial held .search
  next held => exact .leave trivial held .reading
  next held => exact .leave trivial held .listing
  next => exact .pass trivial rfl rfl rfl rfl

theorem change_forget (s : Service) (n : Nat) : Change s (.forget n) (s.forget n) := by
  unfold forget
  split
  next held => exact .leave trivial held .forgotten
  next => exact .pass trivial rfl rfl rfl rfl

theorem updateStream_eq_of_none {s : Service} {k : Nat} (h : s.streams[k]? = none)
    (update : Stream.Feeder → Stream.Feeder) : s.updateStream k update = s := by
  simp [updateStream, List.modify_eq_self (List.getElem?_eq_none_iff.mp h)]

theorem updateStream_eq {s : Service} {k : Nat} {f : Stream.Feeder} (h : s.streams[k]? = some f)
    (update : Stream.Feeder → Stream.Feeder) :
    s.updateStream k update = { s with streams := s.streams.set k (update f) } := by
  have hstreams : (s.updateStream k update).streams = s.streams.set k (update f) :=
    congrArg View.streams (view_updateStream h)
  exact congrArg (fun streams => { s with streams }) hstreams

theorem change_updateStream (s : Service) (k : Nat) (update : Stream.Feeder → Stream.Feeder)
    (touched : ∀ f, Touched f (update f)) {e : Event} (aside : e.Aside) :
    Change s e (s.updateStream k update) := by
  cases held : s.streams[k]? with
  | none =>
    rw [updateStream_eq_of_none held]
    exact .pass aside rfl rfl rfl rfl
  | some f =>
    rw [updateStream_eq held]
    exact .touch aside held (touched f)

theorem touched_of_take {f rest : Stream.Feeder} {item : Stream.Item}
    (h : f.take = .item item rest) : Touched f rest := by
  unfold Stream.Feeder.take at h
  split at h
  · simp at h
  · split at h
    · cases h
      exact ⟨rfl, rfl, rfl⟩
    · split at h <;> simp at h

theorem change_take (s : Scene) (k : Nat) :
    Change s.service (.take k) (s.happen (.take k)).service := by
  unfold Scene.happen
  simp only
  split
  next item rest h =>
    obtain ⟨f, held, htake⟩ := Option.map_eq_some_iff.mp h
    rw [updateStream_eq held]
    exact .touch trivial held (touched_of_take htake)
  next => exact .pass trivial rfl rfl rfl rfl

/-- All that an event can do. -/
theorem Scene.change (s : Scene) (e : Event) : Change s.service e (s.happen e).service := by
  cases e with
  | step task => exact change_step s task
  | search name => exact change_beginSearch s.service name
  | list timeout => exact change_beginListing s.service timeout
  | drain => exact .enter .drain rfl rfl s.service.metrics.add_blank.symm rfl
  | take k => exact change_take s k
  | close k =>
    exact change_updateStream s.service k Stream.Feeder.close (fun _ => ⟨rfl, rfl, rfl⟩) trivial
  | drop k =>
    exact change_updateStream s.service k Stream.Feeder.drop (fun _ => ⟨rfl, rfl, rfl⟩) trivial
  | abort n => exact change_abort s.service n
  | forget n => exact change_forget s.service n
  | insert target d => exact .pass trivial rfl rfl rfl rfl
  | pass ms => exact .pass trivial rfl rfl rfl rfl

-- ---------------------------------------------------------------------------
-- What an event makes of one call
-- ---------------------------------------------------------------------------

/-- How the call `n` came to be what it is after an event. -/
inductive Call.Comes (s : Service) (e : Event) (s' : Service) (n : Nat) (new : Call) : Prop where
  | same (held : s.calls[n]? = some new)
  | released {old : Call} (held : s.calls[n]? = some old) (idle : s'.active = 0)
      (release : new = old.release)
  | steps {old : Call} {effect : Effect} (own : e = .step (.call n))
      (step : CallStep s n s' old new effect)
  | leaves {old : Call} (aside : e.Aside) (held : s.calls[n]? = some old)
      (leaves : Call.Leaves old new)
  | enters {metrics : Metrics} (place : n = s.calls.length) (enters : Call.Enters s e new metrics)

section

variable {s s' : Service} {e : Event} {n m : Nat} {old new call : Call}

theorem getElem?_set_cases {calls : List Call} (held : (calls.set m new)[n]? = some call) :
    calls[n]? = some call ∨ n = m ∧ call = new := by
  by_cases hn : m = n
  · subst hn
    rw [List.getElem?_set] at held
    simp only [if_true] at held
    split at held
    · exact .inr ⟨rfl, (Option.some.inj held).symm⟩
    · simp at held
  · rw [List.getElem?_set_ne hn] at held
    exact .inl held

theorem Change.comes (change : Change s e s') (held : s'.calls[n]? = some call) :
    Call.Comes s e s' n call := by
  cases change with
  | wait | touch => exact .same held
  | call step =>
    rw [step.calls] at held
    rcases getElem?_set_cases held with held | ⟨rfl, rfl⟩
    · exact .same held
    · exact .steps rfl step
  | stream step =>
    rcases step.calls with hcalls | ⟨idle, hcalls⟩
    · rw [hcalls] at held
      exact .same held
    · rw [hcalls, List.getElem?_map] at held
      obtain ⟨old, hold, rfl⟩ := Option.map_eq_some_iff.mp held
      exact .released hold idle rfl
  | enter enters calls =>
    rw [calls] at held
    rcases Nat.lt_trichotomy n s.calls.length with hn | rfl | hn
    · rw [List.getElem?_append_left hn] at held
      exact .same held
    · rw [List.getElem?_concat_length] at held
      cases held
      exact .enters rfl enters
    · rw [List.getElem?_append_right (by omega)] at held
      rw [List.getElem?_eq_none (by simp; omega)] at held
      cases held
  | leave aside before leaves =>
    rcases getElem?_set_cases held with held | ⟨rfl, rfl⟩
    · exact .same held
    · exact .leaves aside before leaves
  | pass _ calls =>
    rw [calls] at held
    exact .same held

theorem Change.length_calls (change : Change s e s') : s.calls.length ≤ s'.calls.length := by
  cases change with
  | wait | touch => exact Nat.le_refl _
  | call step => simp [step.calls]
  | stream step =>
    rcases step.calls with hcalls | ⟨-, hcalls⟩ <;> simp [hcalls]
  | enter _ calls => simp [calls]
  | leave => simp [setCall]
  | pass _ calls => simp [calls]

theorem Change.exists_comes (change : Change s e s') (held : s.calls[n]? = some old) :
    ∃ new, s'.calls[n]? = some new ∧ Call.Comes s e s' n new := by
  have hn := Nat.lt_of_lt_of_le (List.getElem?_eq_some_iff.mp held).1 change.length_calls
  exact ⟨_, List.getElem?_eq_getElem hn, change.comes (List.getElem?_eq_getElem hn)⟩

end

-- ---------------------------------------------------------------------------
-- Calls that an event is not for
-- ---------------------------------------------------------------------------

/-- The call `n` steps, or its caller gives it up or no longer waits for it. -/
def Event.Concerns (n : Nat) : Event → Prop
  | .step (.call m) | .abort m | .forget m => m = n
  | _ => False

theorem calls_abort_of_ne (s : Service) {n m : Nat} (h : m ≠ n) :
    (s.abort m).calls[n]? = s.calls[n]? := by
  unfold abort
  split
  · exact List.getElem?_set_ne h
  · exact List.getElem?_set_ne h
  · exact List.getElem?_set_ne h
  · rfl

theorem calls_forget_of_ne (s : Service) {n m : Nat} (h : m ≠ n) :
    (s.forget m).calls[n]? = s.calls[n]? := by
  unfold forget
  split
  · exact List.getElem?_set_ne h
  · rfl

theorem Call.release_of_kind {call : Call} (h : call.kind ≠ .drain) : call.release = call := by
  cases call with
  | search | listing => rfl
  | drain => exact absurd rfl h

theorem Scene.call_happen_of_foreign {t : Scene} {e : Event} {n : Nat} {call : Call}
    (held : t.service.calls[n]? = some call) (kind : call.kind ≠ .drain)
    (foreign : ¬ e.Concerns n) : (t.happen e).service.calls[n]? = some call := by
  obtain ⟨new, hnew, hcomes⟩ := (t.change e).exists_comes held
  cases hcomes with
  | same same => exact hnew.trans (same.symm.trans held)
  | released before _ release =>
    cases held.symm.trans before
    rwa [release, Call.release_of_kind kind] at hnew
  | steps own =>
    subst own
    exact absurd rfl foreign
  | leaves aside =>
    cases e with
    | abort m => exact (calls_abort_of_ne t.service foreign).trans held
    | forget m => exact (calls_forget_of_ne t.service foreign).trans held
    | take k =>
      unfold happen
      simp only
      split <;> exact held
    | close | drop | insert | pass => exact held
    | step | search | list | drain => exact aside.elim
  | enters place =>
    have hn := (List.getElem?_eq_some_iff.mp held).1
    omega

theorem Scene.opened_happen {t : Scene} {n k : Nat}
    (held : t.service.calls[n]? = some (.listing (.opened k))) (e : Event) :
    (t.happen e).service.calls[n]? = some (.listing (.opened k)) := by
  obtain ⟨new, hnew, hcomes⟩ := (t.change e).exists_comes held
  cases hcomes with
  | same same => exact hnew.trans (same.symm.trans held)
  | released before _ release =>
    cases held.symm.trans before
    rwa [release] at hnew
  | steps _ step =>
    obtain ⟨before, steps, -⟩ := step
    cases held.symm.trans before
    cases steps
  | leaves _ before leaves =>
    cases held.symm.trans before
    cases leaves
  | enters place =>
    have hn := (List.getElem?_eq_some_iff.mp held).1
    omega

-- ---------------------------------------------------------------------------
-- The calls of a run
-- ---------------------------------------------------------------------------

section

variable {s s' : Service} {e : Event} {n : Nat} {old new call : Call} {metrics : Metrics}
  {effect : Effect}

theorem Event.Aside.kind? (h : e.Aside) : e.kind? = none := by
  cases e with
  | step | search | list | drain => exact h.elim
  | _ => rfl

theorem Call.kind_release (call : Call) : call.release.kind = call.kind := by
  cases call with
  | search | listing => rfl
  | drain d => cases d <;> rfl

theorem Call.Steps.kind (h : Call.Steps s old new effect) : new.kind = old.kind := by
  cases h <;> rfl

theorem Call.Leaves.kind (h : Call.Leaves old new) : new.kind = old.kind := by
  cases h <;> rfl

theorem Call.Enters.kind? (h : Call.Enters s e call metrics) : e.kind? = some call.kind := by
  cases h <;> rfl

theorem map_kind_set {calls : List Call} (held : calls[n]? = some old)
    (same : new.kind = old.kind) : (calls.set n new).map Call.kind = calls.map Call.kind := by
  have hkind : (calls.map Call.kind)[n]? = some new.kind := by simp [held, same]
  obtain ⟨hn, hget⟩ := List.getElem?_eq_some_iff.mp hkind
  rw [List.map_set, ← hget, List.set_getElem_self]

theorem Change.kinds (change : Change s e s') :
    s'.calls.map Call.kind = s.calls.map Call.kind ++ e.kind?.toList := by
  cases change with
  | wait => simp [Event.kind?]
  | call step => simp [Event.kind?, step.calls, map_kind_set step.held step.steps.kind]
  | stream step =>
    rcases step.calls with hcalls | ⟨-, hcalls⟩
    · simp [Event.kind?, hcalls]
    · simp [Event.kind?, hcalls, Function.comp_def, Call.kind_release]
  | enter enters calls => simp [calls, enters.kind?]
  | leave aside held leaves => simp [aside.kind?, setCall, map_kind_set held leaves.kind]
  | touch aside => simp [aside.kind?]
  | pass aside calls => simp [aside.kind?, calls]

end

namespace Scene

variable {t : Scene} {I P : Scene → Prop} {Q : Scene → Event → Prop}

theorem config_happen (t : Scene) (e : Event) :
    (t.happen e).service.config = t.service.config :=
  (t.move e).config

theorem config_run (t : Scene) (events : List Event) :
    (t.run events).service.config = t.service.config :=
  Runs.invariant run (P := fun u => u.service.config = t.service.config)
    (fun u e h => (u.config_happen e).trans h) events rfl

theorem kinds_run (t : Scene) (events : List Event) :
    (t.run events).service.calls.map Call.kind =
      t.service.calls.map Call.kind ++ events.filterMap Event.kind? := by
  induction events generalizing t with
  | nil => simp [Runs.nil run]
  | cons e events ih =>
    rw [Runs.cons run, ih, (t.change e).kinds, List.append_assoc]
    cases hkind : e.kind? <;> simp [hkind]

/-- What comes to hold by certain events holds after a run that has one of them, or if it held at
first. -/
theorem run_iff_exists (keep : ∀ t e, I t → I (happen t e))
    (flips : ∀ t e, I t → (P (happen t e) ↔ P t ∨ Q t e)) (start : I t) (events : List Event) :
    P (t.run events) ↔
      P t ∨ ∃ before e after, events = before ++ e :: after ∧ Q (t.run before) e := by
  induction events generalizing t with
  | nil => simp [Runs.nil run]
  | cons e events ih =>
    rw [Runs.cons run, ih (keep t e start), flips t e start, or_assoc]
    refine or_congr_right ⟨?_, ?_⟩
    · rintro (hfirst | ⟨before, e', after, rfl, hlater⟩)
      · exact ⟨[], e, events, rfl, hfirst⟩
      · exact ⟨e :: before, e', after, rfl, hlater⟩
    · rintro ⟨before, e', after, hsplit, hflip⟩
      cases before with
      | nil =>
        cases hsplit
        exact .inl hflip
      | cons e'' before =>
        cases hsplit
        exact .inr ⟨before, e', after, rfl, hflip⟩

end Scene

end Menagerie.Service
