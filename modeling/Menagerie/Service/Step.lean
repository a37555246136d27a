import Menagerie.Service.Basic

/-!
# Steps and turns of tasks

`stepCall_cases` and `stepStream_cases` say all that a step of a call and a step of a stream can do:
to the call or the feeder itself, to the metrics, to the streams, and to the shutdown. A task that has
its turn takes steps until it has to wait. Every step lowers a rank, so a turn ends whatever the
cursors yield.
-/

namespace Menagerie.Service

-- ---------------------------------------------------------------------------
-- Adding up metrics
-- ---------------------------------------------------------------------------

namespace Metrics

attribute [ext] Metrics

instance : Zero Metrics := ⟨{}⟩

instance : Add Metrics where
  add a b :=
    { searches := a.searches + b.searches, listings := a.listings + b.listings
      inflight := a.inflight + b.inflight, errors := a.errors + b.errors
      streamed := a.streamed + b.streamed, misses := a.misses + b.misses
      durations := a.durations + b.durations }

variable (a b : Metrics)

@[simp] theorem searches_add : (a + b).searches = a.searches + b.searches := rfl
@[simp] theorem listings_add : (a + b).listings = a.listings + b.listings := rfl
@[simp] theorem inflight_add : (a + b).inflight = a.inflight + b.inflight := rfl
@[simp] theorem errors_add : (a + b).errors = a.errors + b.errors := rfl
@[simp] theorem streamed_add : (a + b).streamed = a.streamed + b.streamed := rfl
@[simp] theorem misses_add : (a + b).misses = a.misses + b.misses := rfl
@[simp] theorem durations_add : (a + b).durations = a.durations + b.durations := rfl

theorem zero_def : (0 : Metrics) = {} := rfl

theorem add_blank : a + {} = a := by
  ext <;> simp

end Metrics

/-- What no step of a task changes. -/
structure Keeps (s s' : Service) : Prop where
  config : s'.config = s.config
  backend : s'.backend = s.backend
  finds : s'.finds = s.finds
  closed : s'.closed = s.closed
  now : s'.now = s.now

-- ---------------------------------------------------------------------------
-- Calls
-- ---------------------------------------------------------------------------

/-- What the step of a call does besides moving the call. -/
structure Effect where
  metrics : Metrics := {}
  begun : List Stream.Feeder := []
  cancels : Bool := false

/-- A feeder at its start, whose receiver may be gone already. -/
def fresh (cursor : Stream.Cursor) (deadline : Option Nat) (channel : Stream.Channel)
    (forgotten : Bool) : Stream.Feeder :=
  { reading := { cursor }, deadline, channel := if forgotten then channel.drop else channel }

inductive Call.Steps (s : Service) : Call → Call → Effect → Prop where
  | unanswered {name : String} {f : Finding} {failure : Failure} (due : f.due ≤ s.now)
      (result : f.result = .error failure) :
      Steps s (.search name (.finding f)) (.search name (.failed failure)) {}
  | answered {name : String} {f : Finding} {cursor : Stream.Cursor} (due : f.due ≤ s.now)
      (result : f.result = .ok cursor) :
      Steps s (.search name (.finding f)) (.search name (.reading { cursor })) {}
  | found {name : String} {r rest : Stream.Reading} {d : Document}
      (look : r.look s.now = .document d rest) :
      Steps s (.search name (.reading r)) (.search name (.found d.toCreature)) {}
  | broken {name : String} {r : Stream.Reading} {failure : Failure}
      (look : r.look s.now = .failure failure) :
      Steps s (.search name (.reading r)) (.search name (.failed failure)) {}
  | missed {name : String} {r : Stream.Reading} (look : r.look s.now = .finish) :
      Steps s (.search name (.reading r)) (.search name .missed) { metrics := { misses := 1 } }
  | moved {name : String} {r rest : Stream.Reading} (look : r.look s.now = .moved rest) :
      Steps s (.search name (.reading r)) (.search name (.reading rest)) {}
  | failed {f : Finding} {deadline : Option Nat} {forgotten : Bool} {failure : Failure}
      (due : f.due ≤ s.now) (result : f.result = .error failure) :
      Steps s (.listing (.finding f deadline forgotten)) (.listing (.failed failure))
        { metrics := { errors := 1 } }
  | panicked {f : Finding} {deadline : Option Nat} {forgotten : Bool} {cursor : Stream.Cursor}
      (due : f.due ≤ s.now) (result : f.result = .ok cursor)
      (unmade : Stream.Channel.make? s.config.bufferSize = none) :
      Steps s (.listing (.finding f deadline forgotten)) (.listing .panicked)
        { metrics := { inflight := 1 } }
  | opened {f : Finding} {deadline : Option Nat} {forgotten : Bool} {cursor : Stream.Cursor}
      {channel : Stream.Channel} (due : f.due ≤ s.now) (result : f.result = .ok cursor)
      (made : Stream.Channel.make? s.config.bufferSize = some channel) :
      Steps s (.listing (.finding f deadline forgotten)) (.listing (.opened s.streams.length))
        { metrics := { inflight := 1 }, begun := [fresh cursor deadline channel forgotten] }
  | drained {limit : Nat} {released : Bool} (done : released = true ∨ s.active = 0) :
      Steps s (.drain (.draining limit released)) (.drain .stopped) {}
  | cancels {limit : Nat} (waits : s.active ≠ 0) (late : limit ≤ s.now) :
      Steps s (.drain (.draining limit false)) (.drain (.clearing false)) { cancels := true }
  | cleared {released : Bool} (done : released = true ∨ s.active = 0) :
      Steps s (.drain (.clearing released)) (.drain .stopped) {}

structure CallStep (s : Service) (n : Nat) (s' : Service) (old new : Call) (effect : Effect) :
    Prop where
  held : s.calls[n]? = some old
  steps : Call.Steps s old new effect
  calls : s'.calls = s.calls.set n new
  streams : s'.streams = s.streams ++ effect.begun
  metrics : s'.metrics = s.metrics + effect.metrics
  cancelled : s'.cancelled = (s.cancelled || effect.cancels)
  keeps : Keeps s s'

section

variable {s s' : Service} {n k : Nat} {old new : Call} {effect : Effect}

theorem callStep_of_log (held : s.calls[n]? = some old) (steps : Call.Steps s old new {})
    (log : List Log.Line) :
    CallStep s n { s with calls := s.calls.set n new, log } old new {} where
  held
  steps
  calls := rfl
  streams := (List.append_nil _).symm
  metrics := s.metrics.add_blank.symm
  cancelled := (Bool.or_false _).symm
  keeps := ⟨rfl, rfl, rfl, rfl, rfl⟩

theorem callStep_stepSearch {name : String} {state : Search}
    (held : s.calls[n]? = some (.search name state)) (h : s.stepSearch n name state = some s') :
    ∃ new effect, CallStep s n s' (.search name state) new effect := by
  unfold stepSearch at h
  split at h
  next f =>
    split at h
    next due =>
      split at h
      next failure result =>
        cases h
        exact ⟨_, _, callStep_of_log held (.unanswered due result) _⟩
      next cursor result =>
        cases h
        exact ⟨_, _, callStep_of_log held (.answered due result) _⟩
    next => cases h
  next r =>
    split at h
    next d rest look =>
      cases h
      exact ⟨_, _, callStep_of_log held (.found look) _⟩
    next failure look =>
      cases h
      exact ⟨_, _, callStep_of_log held (.broken look) _⟩
    next look =>
      cases h
      refine ⟨_, _, held, .missed look, rfl, (List.append_nil _).symm, ?_, (Bool.or_false _).symm,
        ⟨rfl, rfl, rfl, rfl, rfl⟩⟩
      ext <;> simp [searchMissed, setCall, note, count]
    next rest look =>
      cases h
      exact ⟨_, _, callStep_of_log held (.moved look) _⟩
    next => cases h
  next => cases h

section

variable {f : Finding} {deadline : Option Nat} {forgotten : Bool} {cursor : Stream.Cursor}
  (held : s.calls[n]? = some (.listing (.finding f deadline forgotten)))
  (due : f.due ≤ s.now) (result : f.result = .ok cursor)

include held due result

theorem stepCall_finding : s.stepCall n = some (s.openStream n cursor deadline forgotten) := by
  simp [stepCall, held, stepListing, due, result]

theorem callStep_opened {channel : Stream.Channel}
    (made : Stream.Channel.make? s.config.bufferSize = some channel) :
    CallStep s n (s.openStream n cursor deadline forgotten)
      (.listing (.finding f deadline forgotten)) (.listing (.opened s.streams.length))
      { metrics := { inflight := 1 }, begun := [fresh cursor deadline channel forgotten] } := by
  simp only [openStream, count, made]
  refine ⟨held, .opened due result made, rfl, rfl, ?_, (Bool.or_false _).symm,
    ⟨rfl, rfl, rfl, rfl, rfl⟩⟩
  ext <;> simp [setCall]

theorem callStep_panicked (unmade : Stream.Channel.make? s.config.bufferSize = none) :
    CallStep s n (s.openStream n cursor deadline forgotten)
      (.listing (.finding f deadline forgotten)) (.listing .panicked)
      { metrics := { inflight := 1 } } := by
  simp only [openStream, count, unmade]
  refine ⟨held, .panicked due result unmade, rfl, (List.append_nil _).symm, ?_,
    (Bool.or_false _).symm, ⟨rfl, rfl, rfl, rfl, rfl⟩⟩
  ext <;> simp [setCall]

end

theorem callStep_stepListing {state : Listing} (held : s.calls[n]? = some (.listing state))
    (h : s.stepListing n state = some s') :
    ∃ new effect, CallStep s n s' (.listing state) new effect := by
  unfold stepListing at h
  split at h
  next f deadline forgotten =>
    split at h
    next due =>
      split at h
      next failure result =>
        cases h
        refine ⟨_, _, held, .failed due result, rfl, (List.append_nil _).symm, ?_,
          (Bool.or_false _).symm, ⟨rfl, rfl, rfl, rfl, rfl⟩⟩
        ext <;> simp [setCall, count, note]
      next cursor result =>
        cases h
        cases hmake : Stream.Channel.make? s.config.bufferSize with
        | none => exact ⟨_, _, callStep_panicked held due result hmake⟩
        | some channel => exact ⟨_, _, callStep_opened held due result hmake⟩
    next => cases h
  next => cases h

theorem callStep_stepDrain {state : Drain} (held : s.calls[n]? = some (.drain state))
    (h : s.stepDrain n state = some s') :
    ∃ new effect, CallStep s n s' (.drain state) new effect := by
  unfold stepDrain at h
  split at h
  next limit released =>
    split at h
    next done =>
      cases h
      exact ⟨_, _, callStep_of_log held (.drained done) _⟩
    next waits =>
      split at h
      next late =>
        cases h
        obtain ⟨rfl, hactive⟩ : released = false ∧ s.active ≠ 0 := by simpa using waits
        exact ⟨_, _, held, .cancels hactive late, rfl, (List.append_nil _).symm,
          s.metrics.add_blank.symm, (Bool.or_true _).symm, ⟨rfl, rfl, rfl, rfl, rfl⟩⟩
      next => cases h
  next released =>
    split at h
    next done =>
      cases h
      exact ⟨_, _, callStep_of_log held (.cleared done) _⟩
    next => cases h
  next => cases h

/-- All that the step of a call can do. -/
theorem stepCall_cases (h : s.stepCall n = some s') :
    ∃ old new effect, CallStep s n s' old new effect := by
  unfold stepCall at h
  split at h
  next name state held => exact ⟨_, callStep_stepSearch held h⟩
  next state held => exact ⟨_, callStep_stepListing held h⟩
  next state held => exact ⟨_, callStep_stepDrain held h⟩
  next => cases h

end

-- ---------------------------------------------------------------------------
-- Streams
-- ---------------------------------------------------------------------------

def Metrics.ofOutcome : Stream.Outcome → Metrics
  | .ok n => { inflight := -1, durations := 1, misses := if n = 0 then 1 else 0 }
  | .error _ => { inflight := -1, durations := 1, errors := 1 }

structure StreamStep (s : Service) (k : Nat) (s' : Service) (f f' : Stream.Feeder) : Prop where
  held : s.streams[k]? = some f
  steps : ∃ lines, f.step s.moment = some (f', lines)
  streams : s'.streams = s.streams.set k f'
  calls : s'.calls = s.calls ∨ s'.active = 0 ∧ s'.calls = s.calls.map Call.release
  metrics : s'.metrics = s.metrics + { streamed := f'.sent - f.sent } +
    (f'.outcome?.map Metrics.ofOutcome).getD 0
  cancelled : s'.cancelled = s.cancelled
  keeps : Keeps s s'

theorem recordOutcome_eq (s : Service) (outcome : Stream.Outcome) : ∃ log,
    s.recordOutcome outcome = { s with metrics := s.metrics + Metrics.ofOutcome outcome, log } := by
  have hmetrics (metrics : Metrics) (log : List Log.Line)
      (h : metrics = s.metrics + Metrics.ofOutcome outcome) : ∃ log', { s with metrics, log } =
        { s with metrics := s.metrics + Metrics.ofOutcome outcome, log := log' } :=
    ⟨log, by rw [h]⟩
  unfold recordOutcome
  split
  next => exact hmetrics _ _ (by ext <;> simp [count, Metrics.ofOutcome, Int.sub_eq_add_neg])
  next n hn =>
    have hpos : n ≠ 0 := hn
    exact hmetrics _ _ (by ext <;> simp [count, Metrics.ofOutcome, Int.sub_eq_add_neg, hpos])
  next => exact hmetrics _ _ (by ext <;> simp [count, Metrics.ofOutcome, Int.sub_eq_add_neg])

theorem releaseDrains_cases (s : Service) : s.releaseDrains = s ∨
    s.active = 0 ∧ s.releaseDrains = { s with calls := s.calls.map Call.release } := by
  unfold releaseDrains
  split
  next h => exact .inr ⟨h.2, rfl⟩
  next => exact .inl rfl

/-- All that the step of a stream can do. -/
theorem stepStream_cases {s s' : Service} {k : Nat} (h : s.stepStream k = some s') :
    ∃ f f', StreamStep s k s' f f' := by
  unfold stepStream at h
  split at h
  next => cases h
  next f held =>
    split at h
    next => cases h
    next f' lines step =>
      have hcounted (s' : Service) : (s'.count fun m =>
          { m with streamed := m.streamed + (f'.sent - f.sent) }).metrics =
            s'.metrics + { streamed := f'.sent - f.sent } := by
        ext <;> simp [count]
      simp only at h
      split at h
      next running =>
        cases h
        refine ⟨f, f', held, ⟨lines, step⟩, rfl, .inl rfl, ?_, rfl, ⟨rfl, rfl, rfl, rfl, rfl⟩⟩
        rw [running, hcounted]
        exact (Metrics.add_blank _).symm
      next outcome ended =>
        cases h
        obtain ⟨log, hrecord⟩ := recordOutcome_eq _ outcome
        rw [hrecord, hcounted]
        have hmetrics : (f'.outcome?.map Metrics.ofOutcome).getD 0 = Metrics.ofOutcome outcome := by
          rw [ended]
          rfl
        rcases releaseDrains_cases _ with hsame | ⟨idle, hreleased⟩
        · rw [hsame]
          exact ⟨f, f', held, ⟨lines, step⟩, rfl, .inl rfl, by rw [hmetrics], rfl,
            ⟨rfl, rfl, rfl, rfl, rfl⟩⟩
        · rw [hreleased]
          exact ⟨f, f', held, ⟨lines, step⟩, rfl, .inr ⟨idle, rfl⟩, by rw [hmetrics], rfl,
            ⟨rfl, rfl, rfl, rfl, rfl⟩⟩

theorem step_eq_none_of_stepStream {s : Service} {k : Nat} {f : Stream.Feeder}
    (h : s.stepStream k = none) (held : s.streams[k]? = some f) : f.step s.moment = none := by
  unfold stepStream at h
  rw [held] at h
  simp only at h
  split at h
  next hnone => exact hnone
  next => split at h <;> cases h

theorem keeps_of_step {s s' : Service} {t : Task} (h : s.step t = some s') : Keeps s s' := by
  cases t with
  | call n =>
    obtain ⟨old, new, effect, step⟩ := stepCall_cases h
    exact step.keeps
  | stream k =>
    obtain ⟨f, f', step⟩ := stepStream_cases h
    exact step.keeps

-- ---------------------------------------------------------------------------
-- Turns
-- ---------------------------------------------------------------------------

/-- A bound on the steps that a task takes before it has to wait. -/
def rank (s : Service) : Task → Nat
  | .call n => ((s.calls[n]?).map (Call.rank s.now)).getD 0
  | .stream k => ((s.streams[k]?).map (Stream.Feeder.rank · s.now)).getD 0

theorem Call.Steps.rank_lt {s : Service} {old new : Call} {effect : Effect}
    (h : Call.Steps s old new effect) : new.rank s.now < old.rank s.now := by
  cases h with
  | moved look => exact Nat.add_lt_add_left (Stream.Reading.rank_lt_of_moved look) 1
  | found | broken | missed => exact Nat.lt_of_lt_of_le Nat.zero_lt_one (Nat.le_add_right ..)
  | answered => exact Nat.lt_succ_of_le (Nat.add_le_add_left (Stream.Reading.rank_le_two _ _) 1)
  | unanswered | failed | panicked | opened | drained | cancels | cleared => simp [Call.rank]

theorem rank_step {s s' : Service} {t : Task} (h : s.step t = some s') : s'.rank t < s.rank t := by
  cases t with
  | call n =>
    obtain ⟨old, new, effect, step⟩ := stepCall_cases h
    have hn := (List.getElem?_eq_some_iff.mp step.held).1
    have hold : s.rank (.call n) = old.rank s.now := by simp [rank, step.held]
    have hnew : s'.rank (.call n) = new.rank s.now := by
      simp [rank, step.calls, step.keeps.now, hn]
    rw [hold, hnew]
    exact step.steps.rank_lt
  | stream k =>
    obtain ⟨f, f', step⟩ := stepStream_cases h
    obtain ⟨lines, hstep⟩ := step.steps
    have hk := (List.getElem?_eq_some_iff.mp step.held).1
    have hold : s.rank (.stream k) = f.rank s.now := by simp [rank, step.held]
    have hnew : s'.rank (.stream k) = f'.rank s.now := by
      simp [rank, step.streams, step.keeps.now, hk]
    rw [hold, hnew]
    exact Stream.Feeder.rank_step hstep

def poll (s : Service) (t : Task) : Service :=
  match h : s.step t with
  | none => s
  | some next =>
    have := rank_step h
    poll next t
termination_by s.rank t

@[simp] theorem now_poll (s : Service) (t : Task) : (s.poll t).now = s.now := by
  fun_induction poll s t with
  | case1 => rfl
  | case2 s next h _ ih => rw [ih, (keeps_of_step h).now]

end Menagerie.Service
