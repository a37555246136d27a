import Menagerie.Proofs.Stream.Transition
import Menagerie.Service.Scene
import Menagerie.Service.Step

/-!
# What one event does to the service

A shutdown depends on the calls, the streams and two flags: the `View` of a service, without clock,
store, metrics and log. `Move` lists all that an event can do to it, with the guards that matter,
and `Scene.move` reads every event as one of these moves. Invariants of calls and streams are proved
on moves.
-/

namespace Menagerie.Service

structure View where
  config : ServerConfig
  calls : List Call
  streams : List Stream.Feeder
  closed : Bool
  cancelled : Bool

def view (s : Service) : View := ⟨s.config, s.calls, s.streams, s.closed, s.cancelled⟩

namespace View

def Finished (v : View) (k : Nat) : Prop := ∃ f, v.streams[k]? = some f ∧ f.isFinished = true

def Idle (v : View) : Prop := ∀ f ∈ v.streams, f.isFinished = true

end View

/-- What becomes of one call while no stream begins or ends. -/
inductive Call.Advances (v : View) : Call → Call → Prop where
  | search {name : String} {a b : Search} : Advances v (.search name a) (.search name b)
  | failed {f : Finding} {deadline : Option Nat} {forgotten : Bool} {failure : Failure}
      (result : f.result = .error failure) :
      Advances v (.listing (.finding f deadline forgotten)) (.listing (.failed failure))
  | panicked {f : Finding} {deadline : Option Nat} {forgotten : Bool} {cursor : Stream.Cursor}
      (result : f.result = .ok cursor)
      (unmade : Stream.Channel.make? v.config.bufferSize = none) :
      Advances v (.listing (.finding f deadline forgotten)) (.listing .panicked)
  | aborted {f : Finding} {deadline : Option Nat} {forgotten : Bool} :
      Advances v (.listing (.finding f deadline forgotten)) (.listing .aborted)
  | forgotten {f : Finding} {deadline : Option Nat} {forgotten : Bool} :
      Advances v (.listing (.finding f deadline forgotten)) (.listing (.finding f deadline true))
  | drained {limit : Nat} {released : Bool} (done : released = true ∨ v.Idle) :
      Advances v (.drain (.draining limit released)) (.drain .stopped)
  | cleared {released : Bool} (done : released = true ∨ v.Idle) :
      Advances v (.drain (.clearing released)) (.drain .stopped)

/-- All that an event can do to the view of a service. -/
inductive Move (s : Service) : View → Prop where
  | stay : Move s s.view
  | search {name : String} {state : Search} :
      Move s { s.view with calls := s.calls ++ [.search name state] }
  | refuse (closed : s.closed = true) :
      Move s { s.view with calls := s.calls ++ [.listing .refused] }
  | list {f : Finding} {deadline : Option Nat} (opened : s.closed = false) :
      Move s { s.view with calls := s.calls ++ [.listing (.finding f deadline false)] }
  | drain : Move s
      { s.view with
        calls := s.calls ++ [.drain (.draining (s.now + s.config.drainTimeout) false)]
        closed := true }
  | advance {n : Nat} {old new : Call} (held : s.calls[n]? = some old)
      (advances : Call.Advances s.view old new) :
      Move s { s.view with calls := s.calls.set n new }
  | start {n : Nat} {f : Finding} {deadline : Option Nat} {forgotten : Bool}
      {cursor : Stream.Cursor} {feeder : Stream.Feeder}
      (held : s.calls[n]? = some (.listing (.finding f deadline forgotten)))
      (result : f.result = .ok cursor)
      (made : (Stream.Channel.make? s.config.bufferSize).isSome = true)
      (position : feeder.position = .awaiting) :
      Move s
        { s.view with
          calls := s.calls.set n (.listing (.opened s.streams.length))
          streams := s.streams ++ [feeder] }
  | cancel {n limit : Nat} {released : Bool}
      (held : s.calls[n]? = some (.drain (.draining limit released))) (late : limit ≤ s.now) :
      Move s { s.view with calls := s.calls.set n (.drain (.clearing false)), cancelled := true }
  | feed {k : Nat} {f f' : Stream.Feeder} {lines : List Log.Line} (held : s.streams[k]? = some f)
      (step : f.step s.moment = some (f', lines)) :
      Move s { s.view with streams := s.streams.set k f' }
  | release {k : Nat} {f f' : Stream.Feeder} {lines : List Log.Line}
      (held : s.streams[k]? = some f) (step : f.step s.moment = some (f', lines))
      (idle : View.Idle { s.view with streams := s.streams.set k f' }) :
      Move s { s.view with calls := s.calls.map Call.release, streams := s.streams.set k f' }
  | touch {k : Nat} {f f' : Stream.Feeder} (held : s.streams[k]? = some f)
      (position : f'.position = f.position) : Move s { s.view with streams := s.streams.set k f' }

variable {s s' : Service} {n k : Nat}

theorem View.idle_iff {v : View} : v.Idle ↔ ∀ k < v.streams.length, v.Finished k := by
  constructor
  · exact fun h k hk => ⟨_, List.getElem?_eq_getElem hk, h _ (List.getElem_mem hk)⟩
  · intro h f hf
    obtain ⟨k, hk, rfl⟩ := List.getElem_of_mem hf
    obtain ⟨g, hg, hfinished⟩ := h k hk
    rw [List.getElem?_eq_getElem hk] at hg
    cases hg
    exact hfinished

theorem active_eq_zero_iff : s.active = 0 ↔ s.view.Idle := by
  simp [active, View.Idle, view, List.countP_eq_zero]

-- ---------------------------------------------------------------------------
-- Tasks
-- ---------------------------------------------------------------------------

theorem CallStep.view {old new : Call} {effect : Effect} (step : CallStep s n s' old new effect) :
    s'.view = ⟨s.config, s.calls.set n new, s.streams ++ effect.begun, s.closed,
      s.cancelled || effect.cancels⟩ := by
  rw [Service.view, step.keeps.config, step.calls, step.streams, step.keeps.closed, step.cancelled]

theorem move_stepCall (h : s.stepCall n = some s') : Move s s'.view := by
  obtain ⟨old, new, effect, step⟩ := stepCall_cases h
  have advance (hview : s'.view = { s.view with calls := s.calls.set n new })
      (advances : Call.Advances s.view old new) : Move s s'.view :=
    hview ▸ .advance step.held advances
  have hview := step.view
  obtain ⟨held, steps, -⟩ := step
  cases steps with
  | opened _ result made =>
    rw [hview, Bool.or_false]
    exact .start held result (made ▸ rfl) rfl
  | cancels _ late =>
    rw [hview, Bool.or_true, List.append_nil]
    exact .cancel held late
  | unanswered | answered | found | broken | missed | moved =>
    rw [List.append_nil, Bool.or_false] at hview
    exact advance hview .search
  | failed _ result =>
    rw [List.append_nil, Bool.or_false] at hview
    exact advance hview (.failed result)
  | panicked _ result unmade =>
    rw [List.append_nil, Bool.or_false] at hview
    exact advance hview (.panicked result unmade)
  | drained done =>
    rw [List.append_nil, Bool.or_false] at hview
    exact advance hview (.drained (done.imp_right active_eq_zero_iff.mp))
  | cleared done =>
    rw [List.append_nil, Bool.or_false] at hview
    exact advance hview (.cleared (done.imp_right active_eq_zero_iff.mp))

/-- A stream that steps moves its feeder; the last one to end tells the shutdowns. -/
theorem StreamStep.view {f f' : Stream.Feeder} (step : StreamStep s k s' f f') :
    s'.view = { s.view with streams := s.streams.set k f' } ∨
      View.Idle { s.view with streams := s.streams.set k f' } ∧
        s'.view =
          { s.view with calls := s.calls.map Call.release, streams := s.streams.set k f' } := by
  have hview : s'.view = { s.view with calls := s'.calls, streams := s.streams.set k f' } := by
    rw [Service.view, step.keeps.config, step.streams, step.keeps.closed, step.cancelled]
    rfl
  rcases step.calls with hcalls | ⟨idle, hcalls⟩
  · rw [hcalls] at hview
    exact .inl hview
  · rw [hcalls] at hview
    have hidle := active_eq_zero_iff.mp idle
    rw [hview] at hidle
    exact .inr ⟨hidle, hview⟩

theorem move_step {t : Task} (h : s.step t = some s') : Move s s'.view := by
  cases t with
  | call n => exact move_stepCall h
  | stream k =>
    obtain ⟨f, f', step⟩ := stepStream_cases h
    obtain ⟨lines, hstep⟩ := step.steps
    rcases step.view with hview | ⟨hidle, hview⟩
    · rw [hview]
      exact .feed step.held hstep
    · rw [hview]
      exact .release step.held hstep hidle

-- ---------------------------------------------------------------------------
-- Callers and the clock
-- ---------------------------------------------------------------------------

theorem move_beginSearch (s : Service) (name : String) : Move s (s.beginSearch name).view := by
  unfold beginSearch
  simp only
  split
  · exact .search
  · exact .search

theorem move_beginListing (s : Service) (timeout : Option Timeout.Duration) :
    Move s (s.beginListing timeout).view := by
  unfold beginListing
  split
  next h => exact .refuse h
  next h => exact .list (by simpa using h)

theorem move_abort (s : Service) (n : Nat) : Move s (s.abort n).view := by
  unfold abort
  split
  next held => exact .advance held .search
  next held => exact .advance held .search
  next held => exact .advance held .aborted
  next => exact .stay

theorem move_forget (s : Service) (n : Nat) : Move s (s.forget n).view := by
  unfold forget
  split
  next held => exact .advance held .forgotten
  next => exact .stay

theorem view_updateStream_of_none {update : Stream.Feeder → Stream.Feeder}
    (h : s.streams[k]? = none) : (s.updateStream k update).view = s.view := by
  simp [updateStream, view, List.modify_eq_self (List.getElem?_eq_none_iff.mp h)]

theorem view_updateStream {update : Stream.Feeder → Stream.Feeder} {f : Stream.Feeder}
    (h : s.streams[k]? = some f) :
    (s.updateStream k update).view = { s.view with streams := s.streams.set k (update f) } := by
  have hmodify : s.streams.modify k update = s.streams.set k (update f) := by
    apply List.ext_getElem?
    intro j
    obtain ⟨hk, hf⟩ := List.getElem?_eq_some_iff.mp h
    rw [List.getElem?_modify, List.getElem?_set]
    split
    next hj => subst hj; simp [hk, hf]
    next hj => simp
  rw [updateStream, hmodify]
  rfl

theorem move_updateStream {update : Stream.Feeder → Stream.Feeder}
    (h : ∀ f, (update f).position = f.position) : Move s (s.updateStream k update).view := by
  cases held : s.streams[k]? with
  | none =>
    rw [view_updateStream_of_none held]
    exact .stay
  | some f =>
    rw [view_updateStream held]
    exact .touch held (h f)

theorem position_of_take {f rest : Stream.Feeder} {item : Stream.Item}
    (h : f.take = .item item rest) : rest.position = f.position := by
  unfold Stream.Feeder.take at h
  split at h
  · simp at h
  · split at h
    · cases h
      rfl
    · split at h <;> simp at h

theorem Scene.move (s : Scene) (e : Event) : Move s.service (s.happen e).service.view := by
  cases e with
  | step task =>
    unfold happen
    simp only
    split
    next next h => exact move_step h
    next => exact .stay
  | search name => exact move_beginSearch s.service name
  | list timeout => exact move_beginListing s.service timeout
  | drain => exact .drain
  | take k =>
    unfold happen
    simp only
    split
    next item rest h =>
      obtain ⟨f, held, htake⟩ := Option.map_eq_some_iff.mp h
      rw [view_updateStream held]
      exact .touch held (position_of_take htake)
    next => exact .stay
  | close k => exact move_updateStream fun _ => rfl
  | drop k => exact move_updateStream fun _ => rfl
  | abort n => exact move_abort s.service n
  | forget n => exact move_forget s.service n
  | insert target d => exact .stay
  | pass ms => exact .stay

-- ---------------------------------------------------------------------------
-- What moves keep
-- ---------------------------------------------------------------------------

namespace Move

variable {v : View}

theorem config (h : Move s v) : v.config = s.config := by
  cases h <;> rfl

theorem closed (h : Move s v) (hc : s.closed = true) : v.closed = true := by
  cases h with
  | drain => rfl
  | _ => exact hc

theorem cancelled (h : Move s v) (hc : s.cancelled = true) : v.cancelled = true := by
  cases h with
  | cancel => rfl
  | _ => exact hc

theorem length_streams (h : Move s v) : s.streams.length ≤ v.streams.length := by
  cases h <;> simp [view]

theorem finished_set {f f' : Stream.Feeder} {j : Nat} (held : s.streams[j]? = some f)
    (keep : f.isFinished = true → f'.isFinished = true) (h : s.view.Finished k) :
    ∃ g, (s.streams.set j f')[k]? = some g ∧ g.isFinished = true := by
  obtain ⟨g, hg, hfinished⟩ := h
  have hg : s.streams[k]? = some g := hg
  by_cases hj : j = k
  · subst hj
    rw [held] at hg
    cases hg
    exact ⟨f', List.getElem?_set_self (List.getElem?_eq_some_iff.mp held).1, keep hfinished⟩
  · exact ⟨g, by rw [List.getElem?_set_ne hj, hg], hfinished⟩

theorem finished (h : Move s v) (hf : s.view.Finished k) : v.Finished k := by
  cases h with
  | stay | search | refuse | list | drain | advance | cancel => exact hf
  | start =>
    obtain ⟨g, hg, hfinished⟩ := hf
    have hg : s.streams[k]? = some g := hg
    refine ⟨g, ?_, hfinished⟩
    show (s.streams ++ [_])[k]? = some g
    rw [List.getElem?_append_left (List.getElem?_eq_some_iff.mp hg).1, hg]
  | feed held step | release held step =>
    refine finished_set held (fun hdone => ?_) hf
    simp [Stream.Feeder.step_eq_none_iff.mpr (.inl hdone)] at step
  | touch held position =>
    refine finished_set held (fun hdone => ?_) hf
    simpa only [Stream.Feeder.isFinished_iff, position] using hdone

end Move

-- ---------------------------------------------------------------------------
-- What moves make of calls
-- ---------------------------------------------------------------------------

inductive Call.Turns (s : Service) (v : View) : Call → Call → Prop where
  | same {call : Call} : Turns s v call call
  | advances {old new : Call} (advances : Call.Advances s.view old new) : Turns s v old new
  | opens {f : Finding} {deadline : Option Nat} {forgotten : Bool} {cursor : Stream.Cursor}
      (result : f.result = .ok cursor)
      (made : (Stream.Channel.make? s.config.bufferSize).isSome = true) :
      Turns s v (.listing (.finding f deadline forgotten)) (.listing (.opened s.streams.length))
  | cancels {limit : Nat} {released : Bool} (cancelled : v.cancelled = true) :
      Turns s v (.drain (.draining limit released)) (.drain (.clearing false))
  | releases {call : Call} (idle : v.Idle) : Turns s v call call.release

inductive Call.Begins (s : Service) (v : View) : Call → Prop where
  | search {name : String} {state : Search} : Begins s v (.search name state)
  | refused (closed : s.closed = true) : Begins s v (.listing .refused)
  | listing {f : Finding} {deadline : Option Nat} (opened : s.closed = false) :
      Begins s v (.listing (.finding f deadline false))
  | drain (closed : v.closed = true) :
      Begins s v (.drain (.draining (s.now + s.config.drainTimeout) false))

namespace Move

variable {v : View} {call call' fresh : Call}

theorem length_calls (h : Move s v) : s.calls.length ≤ v.calls.length := by
  cases h <;> simp [view]

theorem call_append (hv : v.calls = s.calls ++ [fresh]) (begins : Call.Begins s v fresh)
    (held : v.calls[n]? = some call') :
    (∃ call, s.calls[n]? = some call ∧ Call.Turns s v call call') ∨
      s.calls.length ≤ n ∧ Call.Begins s v call' := by
  rw [hv] at held
  by_cases hn : n < s.calls.length
  · rw [List.getElem?_append_left hn] at held
    exact .inl ⟨call', held, .same⟩
  · rw [List.getElem?_append_right (by omega)] at held
    have hfresh : call' ∈ [fresh] := List.mem_of_getElem? held
    rw [List.mem_singleton.mp hfresh]
    exact .inr ⟨by omega, begins⟩

theorem call_set {m : Nat} (hv : v.calls = s.calls.set m fresh) (old : s.calls[m]? = some call)
    (turns : Call.Turns s v call fresh) (held : v.calls[n]? = some call') :
    ∃ call, s.calls[n]? = some call ∧ Call.Turns s v call call' := by
  rw [hv] at held
  by_cases hm : m = n
  · subst hm
    rw [List.getElem?_set_self (List.getElem?_eq_some_iff.mp old).1] at held
    cases held
    exact ⟨call, old, turns⟩
  · rw [List.getElem?_set_ne hm] at held
    exact ⟨call', held, .same⟩

theorem call_cases (h : Move s v) (held : v.calls[n]? = some call') :
    (∃ call, s.calls[n]? = some call ∧ Call.Turns s v call call') ∨
      s.calls.length ≤ n ∧ Call.Begins s v call' := by
  cases h with
  | stay | feed | touch => exact .inl ⟨call', held, .same⟩
  | search => exact call_append rfl .search held
  | refuse closed => exact call_append rfl (.refused closed) held
  | list opened => exact call_append rfl (.listing opened) held
  | drain => exact call_append rfl (.drain rfl) held
  | advance old advances => exact .inl (call_set rfl old (.advances advances) held)
  | start old result made => exact .inl (call_set rfl old (.opens result made) held)
  | cancel old => exact .inl (call_set rfl old (.cancels rfl) held)
  | release _ _ idle =>
    rw [List.getElem?_map] at held
    obtain ⟨call, hcall, rfl⟩ := Option.map_eq_some_iff.mp held
    exact .inl ⟨call, hcall, .releases idle⟩

theorem call_turns (h : Move s v) (held : s.calls[n]? = some call) :
    ∃ call', v.calls[n]? = some call' ∧ Call.Turns s v call call' := by
  have hn := (List.getElem?_eq_some_iff.mp held).1
  have hv : n < v.calls.length := Nat.lt_of_lt_of_le hn h.length_calls
  rcases h.call_cases (List.getElem?_eq_getElem hv) with ⟨old, hold, turns⟩ | ⟨hlate, -⟩
  · rw [held] at hold
    cases hold
    exact ⟨_, List.getElem?_eq_getElem hv, turns⟩
  · omega

end Move

end Menagerie.Service
