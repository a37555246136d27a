import Menagerie.Proofs.Service.Grace
import Menagerie.Proofs.Service.Strand

/-!
# A call among other calls

Of all that happens to the service one call notices little: `Scene.noticed` reads it off a run, and
`Scene.fate?` what has become of the call. `Follows` ties the call to a `Strand`. One event is to
the strand what the call notices of it (`Follows.happen`), and so a run of the service is to the
call the run of a call by itself (`Follows.run`), prompt if the call is prompt (`Follows.prompt`).
-/

namespace Menagerie.Service

/-- What the call `n`, whose work this task does, notices of an event, apart from a cancellation. -/
def Event.notice? (n : Nat) (own : Task) : Event → Option Notice
  | .step task => if task = own then some .turn else none
  | .take k => if .stream k = own then some .take else none
  | .close k => if .stream k = own then some .close else none
  | .drop k => if .stream k = own then some .drop else none
  | .abort m => if m = n then some .abort else none
  | .forget m => if m = n then some .forget else none
  | .pass ms => some (.pass ms)
  | .search _ | .list _ | .drain | .insert .. => none

theorem Event.notice?_of_foreign {e : Event} {n : Nat} (foreign : ¬ e.Concerns n) :
    (∃ ms, e = .pass ms) ∨ e.notice? n (.call n) = none ∧ e.elapsed = 0 := by
  cases e with
  | pass ms => exact .inl ⟨ms, rfl⟩
  | step task =>
    cases task with
    | call m =>
      have hother : ¬ m = n := foreign
      exact .inr ⟨by simp [notice?, hother], rfl⟩
    | stream => exact .inr ⟨by simp [notice?], rfl⟩
  | abort m =>
    have hother : ¬ m = n := foreign
    exact .inr ⟨by simp [notice?, hother], rfl⟩
  | forget m =>
    have hother : ¬ m = n := foreign
    exact .inr ⟨by simp [notice?, hother], rfl⟩
  | _ => exact .inr ⟨by simp [notice?], rfl⟩

theorem Event.notice?_ne_cancel (n : Nat) (own : Task) (e : Event) :
    e.notice? n own ≠ some .cancel := by
  cases e <;> simp [notice?]

/-- A cancellation matters: there is no stream yet, or it is still being fed. -/
def Fate.heeds : Fate → Bool
  | .call (.listing (.finding ..)) => true
  | .call _ => false
  | .stream feeder _ _ => ! feeder.isFinished

namespace Scene

/-- The task that does the work of the call `n`: the call itself, until it has a stream. -/
def task (t : Scene) (n : Nat) : Task :=
  match t.service.calls[n]? with
  | some (.listing (.opened k)) => .stream k
  | _ => .call n

def fate? (t : Scene) (n : Nat) : Option Fate :=
  match t.service.calls[n]? with
  | some (.listing (.opened k)) =>
    (t.stream? k).map fun st => .stream st.feeder st.received st.enqueued
  | some call => some (.call call)
  | none => none

def heeds (t : Scene) (n : Nat) : Bool := (t.fate? n).any Fate.heeds

def notice? (t : Scene) (n : Nat) (e : Event) : Option Notice :=
  match e.notice? n (t.task n) with
  | some notice => some notice
  | none =>
    if t.heeds n = true ∧ t.service.cancelled = false ∧ (t.happen e).service.cancelled = true then
      some .cancel
    else none

def noticed (n : Nat) : Scene → List Event → List Notice
  | _, [] => []
  | t, e :: events => (t.notice? n e).toList ++ noticed n (t.happen e) events

def Rests (t : Scene) (n : Nat) : Prop := t.service.step (t.task n) = none

/-- The call `n` has nothing left to do when it notices this, nor at any tick that goes by. -/
def Attends (t : Scene) (n : Nat) : Notice → Prop
  | .turn => True
  | .pass ms => ∀ j < ms, (t.happen (.pass j)).Rests n
  | _ => t.Rests n

/-- Whatever the call `n` notices, it has done all that it could before, and so it has in the
end. -/
def Prompt (n : Nat) : Scene → List Event → Prop
  | t, [] => t.Rests n
  | t, e :: events => (∀ notice ∈ t.notice? n e, t.Attends n notice) ∧ Prompt n (t.happen e) events

instance (t : Scene) (n : Nat) : Decidable (t.Rests n) :=
  decidable_of_iff ((t.service.step (t.task n)).isNone = true) Option.isNone_iff_eq_none

instance decidableAttends (t : Scene) (n : Nat) : (notice : Notice) → Decidable (t.Attends n notice)
  | .turn => .isTrue trivial
  | .pass ms => inferInstanceAs (Decidable (∀ j < ms, (t.happen (.pass j)).Rests n))
  | .abort | .forget | .take | .close | .drop | .cancel =>
    inferInstanceAs (Decidable (t.Rests n))

instance decidablePrompt (n : Nat) : (t : Scene) → (events : List Event) →
    Decidable (Prompt n t events)
  | t, [] => inferInstanceAs (Decidable (t.Rests n))
  | t, e :: events =>
    have := decidablePrompt n (t.happen e) events
    inferInstanceAs (Decidable
      ((∀ notice ∈ t.notice? n e, t.Attends n notice) ∧ Prompt n (t.happen e) events))

end Scene

/-- Neither a shutdown nor a request that has got its stream. -/
def Call.Plain : Call → Prop
  | .drain _ | .listing (.opened _) => False
  | _ => True

namespace Scene

/-- The call `n` and its stream are those of the strand, and as long as it matters, so is the
shutdown token. -/
inductive Follows (t : Scene) (n : Nat) : Strand → Prop where
  | plain {call : Call} {cancelled : Bool} (held : t.service.calls[n]? = some call)
      (own : call.Plain) (token : (Fate.call call).heeds = true → t.service.cancelled = cancelled) :
      Follows t n (.plain call t.service.now cancelled)
  | stream {k : Nat} {st : Stream.Scene} (held : t.service.calls[n]? = some (.listing (.opened k)))
      (runs : t.stream? k = some { st with cancelled := t.service.cancelled })
      (token : st.feeder.isFinished = false → t.service.cancelled = st.cancelled) :
      Follows t n (.stream st)

end Scene

-- ---------------------------------------------------------------------------
-- Turns
-- ---------------------------------------------------------------------------

section

variable {s s' : Service} {n : Nat} {call old new : Call} {effect : Effect}

theorem Call.Plain.kind (h : call.Plain) : call.kind ≠ .drain := by
  cases call with
  | search | listing => simp [Call.kind]
  | drain => exact h.elim

/-- A step that opens no stream makes of a call what it makes of the call by itself. -/
theorem Call.Steps.next? (h : Call.Steps s old new effect) (own : old.Plain) (cancelled : Bool) :
    (∃ k, new = .listing (.opened k)) ∨
      new.Plain ∧ (Fate.call new).heeds = false ∧
        old.next? s.config.bufferSize s.now cancelled = some (.plain new s.now cancelled) := by
  cases h with
  | opened => exact .inl ⟨_, rfl⟩
  | drained | cancels | cleared => exact own.elim
  | unanswered due result | answered due result | failed due result =>
    exact .inr ⟨trivial, rfl, by simp [Call.next?, Search.next?, due, result]⟩
  | panicked due result unmade =>
    exact .inr ⟨trivial, rfl, by simp [Call.next?, due, result, unmade]⟩
  | found look | broken look | missed look | moved look =>
    exact .inr ⟨trivial, rfl, by simp [Call.next?, Search.next?, look]⟩

theorem Opens.next? {f : Finding} {deadline : Option Nat} {cursor : Stream.Cursor}
    {channel : Stream.Channel} {forgotten : Bool}
    (h : Opens s n s' f deadline cursor channel forgotten) (cancelled : Bool) :
    (Call.listing (.finding f deadline forgotten)).next? s.config.bufferSize s.now cancelled =
      some (.stream
        { feeder := fresh cursor deadline channel forgotten, now := s.now, cancelled }) := by
  simp [Call.next?, h.due, h.result, h.made]

theorem next?_eq_none_iff (held : s.calls[n]? = some call) (own : call.Plain) (cancelled : Bool) :
    call.next? s.config.bufferSize s.now cancelled = none ↔ s.stepCall n = none := by
  cases call with
  | search name state =>
    simp only [Call.next?, Option.map_eq_none_iff, stepCall, held]
    cases state with
    | finding f =>
      by_cases due : f.due ≤ s.now
      · cases result : f.result <;> simp [Search.next?, stepSearch, due, result]
      · simp [Search.next?, stepSearch, due]
    | reading r => cases look : r.look s.now <;> simp [Search.next?, stepSearch, look]
    | _ => simp [Search.next?, stepSearch]
  | listing state =>
    cases state with
    | finding f deadline forgotten =>
      by_cases due : f.due ≤ s.now
      · cases result : f.result with
        | error failure => simp [Call.next?, stepCall, held, stepListing, due, result]
        | ok cursor =>
          cases made : Stream.Channel.make? s.config.bufferSize <;>
            simp [Call.next?, stepCall, held, stepListing, due, result, made]
      · simp [Call.next?, stepCall, held, stepListing, due]
    | opened => exact own.elim
    | _ => simp [Call.next?, stepCall, held, stepListing]
  | drain => exact own.elim

theorem Call.Plain.abort (own : call.Plain) :
    call.abort.Plain ∧ (Fate.call call.abort).heeds = false := by
  cases call with
  | search name state => cases state <;> exact ⟨trivial, rfl⟩
  | listing state =>
    cases state with
    | opened => exact own.elim
    | _ => exact ⟨trivial, rfl⟩
  | drain => exact own.elim

theorem Call.Plain.forget (own : call.Plain) :
    call.forget.Plain ∧ (Fate.call call.forget).heeds = (Fate.call call).heeds := by
  cases call with
  | search => exact ⟨trivial, rfl⟩
  | listing state =>
    cases state with
    | opened => exact own.elim
    | _ => exact ⟨trivial, rfl⟩
  | drain => exact own.elim

theorem calls_abort (held : s.calls[n]? = some call) :
    (s.abort n).calls[n]? = some call.abort := by
  have hset (new : Call) : (s.setCall n new).calls[n]? = some new :=
    List.getElem?_set_self (List.getElem?_eq_some_iff.mp held).1
  unfold Service.abort
  split
  next before => cases held.symm.trans before; exact hset _
  next before => cases held.symm.trans before; exact hset _
  next before => cases held.symm.trans before; exact hset _
  next searching reading finding =>
    rw [held]
    unfold Call.abort
    split
    next => exact absurd held (searching _ _)
    next => exact absurd held (reading _ _)
    next => exact absurd held (finding _ _ _)
    next => rfl

theorem calls_forget (held : s.calls[n]? = some call) :
    (s.forget n).calls[n]? = some call.forget := by
  unfold Service.forget
  split
  next before =>
    cases held.symm.trans before
    exact List.getElem?_set_self (List.getElem?_eq_some_iff.mp held).1
  next finding =>
    rw [held]
    unfold Call.forget
    split
    next => exact absurd held (finding _ _ _)
    next => rfl

end

namespace Scene

variable {t : Scene} {n k : Nat} {p : Strand} {call : Call} {cancelled : Bool} {st : Stream.Scene}
  {e : Event}

theorem task_of_plain (held : t.service.calls[n]? = some call) (own : call.Plain) :
    t.task n = .call n := by
  unfold task
  split
  next k hopened =>
    cases held.symm.trans hopened
    exact own.elim
  next => rfl

theorem task_of_opened (held : t.service.calls[n]? = some (.listing (.opened k))) :
    t.task n = .stream k := by
  simp [task, held]

theorem fate?_of_plain (held : t.service.calls[n]? = some call) (own : call.Plain) :
    t.fate? n = some (.call call) := by
  unfold fate?
  split
  next k hopened =>
    cases held.symm.trans hopened
    exact own.elim
  next call' _ hcall => rw [Option.some.inj (held.symm.trans hcall)]
  next hnone => cases held.symm.trans hnone

theorem fate?_of_stream? (held : t.service.calls[n]? = some (.listing (.opened k)))
    (runs : t.stream? k = some st) :
    t.fate? n = some (.stream st.feeder st.received st.enqueued) := by
  simp [fate?, held, runs]

theorem Follows.of_plain {now : Nat} (held : t.service.calls[n]? = some call) (own : call.Plain)
    (clock : t.service.now = now)
    (token : (Fate.call call).heeds = true → t.service.cancelled = cancelled) :
    t.Follows n (.plain call now cancelled) :=
  clock ▸ .plain held own token

theorem Follows.fate (h : t.Follows n p) : t.fate? n = some p.fate := by
  cases h with
  | plain held own => exact fate?_of_plain held own
  | stream held runs =>
    have hfate := fate?_of_stream? held runs
    exact hfate

/-- A finished feeder rests whatever the token, and an unfinished one sees the token. -/
theorem step_eq_none_iff_of_token (st : Stream.Scene) {c : Bool}
    (token : st.feeder.isFinished = false → c = st.cancelled) :
    st.feeder.step ⟨st.now, c⟩ = none ↔ st.feeder.step st.moment = none := by
  cases finished : st.feeder.isFinished with
  | true => simp [Stream.Feeder.step_eq_none_iff, finished]
  | false =>
    rw [token finished]
    rfl

theorem Follows.rests_iff (h : t.Follows n p) :
    t.Rests n ↔ p.Rests t.service.config.bufferSize := by
  cases h with
  | plain held own =>
    rw [Rests, task_of_plain held own]
    exact (next?_eq_none_iff held own _).symm
  | @stream k st held runs token =>
    obtain ⟨f, hf, hst⟩ := stream?_eq_some_iff.mp runs
    have hfeeder : f = st.feeder := congrArg Stream.Scene.feeder hst
    have hnow : t.service.now = st.now := congrArg Stream.Scene.now hst
    have hstep : t.service.step (.stream k) = none ↔
        st.feeder.step ⟨st.now, t.service.cancelled⟩ = none := by
      rw [← hfeeder, ← hnow]
      constructor
      · exact fun waits => step_eq_none_of_stepStream waits hf
      · intro waits
        simp [step, stepStream, hf, moment, waits]
    rw [Rests, task_of_opened held, hstep, step_eq_none_iff_of_token st token, Strand.Rests,
      Strand.turn?, Option.map_eq_none_iff]

-- ---------------------------------------------------------------------------
-- One event
-- ---------------------------------------------------------------------------

theorem heeds_of_fate? {fate : Fate} (h : t.fate? n = some fate) : t.heeds n = fate.heeds := by
  simp [heeds, h]

theorem cancelled_happen_of_ne_step (h : ∀ task, e ≠ .step task) :
    (t.happen e).service.cancelled = t.service.cancelled := by
  rw [Bool.eq_iff_iff, t.cancelled_happen_iff]
  exact or_iff_left fun ⟨m, hstep, _⟩ => h _ hstep

theorem Overruns.not_heeds (h : t.Overruns n) : t.heeds n = false := by
  obtain ⟨tick, held, -⟩ := h
  simp [heeds, fate?, held, Fate.heeds]

theorem eq_of_task {m : Nat} (h : .call m = t.task n) : m = n := by
  unfold task at h
  split at h <;> cases h
  rfl

theorem notice?_cases (t : Scene) (n : Nat) (e : Event) :
    t.notice? n e = e.notice? n (t.task n) ∧
        (t.heeds n = true → (t.happen e).service.cancelled = t.service.cancelled) ∨
      t.notice? n e = some .cancel ∧ (∃ m, e = .step (.call m) ∧ t.Overruns m) ∧
        t.heeds n = true ∧ t.service.cancelled = false ∧
        (t.happen e).service.cancelled = true := by
  by_cases flips : t.heeds n = true ∧ t.service.cancelled = false ∧
      (t.happen e).service.cancelled = true
  · obtain ⟨heeds, running, after⟩ := flips
    rcases (t.cancelled_happen_iff e).mp after with hbefore | ⟨m, rfl, overruns⟩
    · rw [running] at hbefore
      cases hbefore
    · have hother : Event.notice? n (t.task n) (.step (.call m)) = none := by
        refine if_neg fun own => ?_
        obtain rfl := eq_of_task own
        rw [overruns.not_heeds] at heeds
        cases heeds
      exact .inr ⟨by simp [notice?, hother, heeds, running, after], ⟨m, rfl, overruns⟩, heeds,
        running, after⟩
  · refine .inl ⟨?_, fun heeds => ?_⟩
    · unfold notice?
      rw [if_neg flips]
      split
      next notice hnotice => exact hnotice.symm
      next hnone => exact hnone.symm
    · have hkeep : t.service.cancelled = true → (t.happen e).service.cancelled = true :=
        (t.move e).cancelled
      cases hbefore : t.service.cancelled with
      | true => exact hkeep hbefore
      | false => simpa [heeds, hbefore] using flips

-- ---------------------------------------------------------------------------
-- Before there is a stream
-- ---------------------------------------------------------------------------

section

variable (held : t.service.calls[n]? = some call) (own : call.Plain)
  (token : (Fate.call call).heeds = true → t.service.cancelled = cancelled)

include held own token

theorem follows_turn (recorded : t.Recorded) :
    (t.happen (.step (.call n))).Follows n
      ((Strand.plain call t.service.now cancelled).happen t.service.config.bufferSize .turn) := by
  cases hstep : t.service.stepCall n with
  | none =>
    have hrests := (next?_eq_none_iff held own cancelled).mpr hstep
    have hsame : t.happen (.step (.call n)) = t := by simp [happen, step, hstep]
    rw [hsame, Strand.happen, Strand.turn?, hrests]
    exact .plain held own token
  | some s' =>
    have hnext : (t.happen (.step (.call n))).service = s' := by simp [happen, step, hstep]
    obtain ⟨old, new, effect, callStep⟩ := stepCall_cases hstep
    have hbefore := callStep.held
    cases held.symm.trans hbefore
    have hafter : (t.happen (.step (.call n))).service.calls[n]? = some new := by
      rw [hnext, callStep.calls, List.getElem?_set_self (List.getElem?_eq_some_iff.mp held).1]
    rcases callStep.steps.next? own cancelled with ⟨k, rfl⟩ | ⟨plain, unheeding, hturn⟩
    · -- The stream begins with the token that the request has watched while it waited.
      obtain ⟨rfl, f, deadline, cursor, channel, forgotten, hopens⟩ := callStep.opens
      cases held.symm.trans hopens.held
      rw [Strand.happen, Strand.turn?, hopens.next? cancelled]
      rw [← hnext] at hopens
      have hruns := stream?_of_opens hopens (recorded.unheard _ (Nat.le_refl _))
      rw [← hopens.cancelled] at hruns
      exact .stream hafter hruns fun _ => hopens.cancelled.trans (token rfl)
    · rw [Strand.happen, Strand.turn?, hturn, ← callStep.keeps.now, ← hnext]
      exact .plain hafter plain fun heeds => by simp [unheeding] at heeds

theorem follows_foreign (foreign : ¬ e.Concerns n) :
    (t.happen e).Follows n ((Strand.plain call t.service.now cancelled).run
      t.service.config.bufferSize (t.notice? n e).toList) := by
  have hafter := call_happen_of_foreign held own.kind foreign
  have hheeds := heeds_of_fate? (fate?_of_plain held own)
  have htask := task_of_plain held own
  rcases t.notice?_cases n e with ⟨hnotice, hkeeps⟩ | ⟨hnotice, ⟨m, rfl, -⟩, -, -, hcancelled⟩
  · have htoken : (Fate.call call).heeds = true → (t.happen e).service.cancelled = cancelled :=
      fun heeds => (hkeeps (hheeds.trans heeds)).trans (token heeds)
    have hnow := t.now_happen e
    rw [hnotice, htask]
    rcases Event.notice?_of_foreign foreign with ⟨ms, rfl⟩ | ⟨hnone, helapsed⟩
    · exact .of_plain hafter own hnow htoken
    · rw [hnone]
      exact .of_plain hafter own (by rw [hnow, helapsed, Nat.add_zero]) htoken
  · rw [hnotice]
    exact .of_plain hafter own (t.now_happen _) fun _ => hcancelled

theorem follows_plain (recorded : t.Recorded) (e : Event) :
    (t.happen e).Follows n ((Strand.plain call t.service.now cancelled).run
      t.service.config.bufferSize (t.notice? n e).toList) := by
  have htask := task_of_plain held own
  by_cases hfor : e.Concerns n
  · cases e with
    | step task =>
      cases task with
      | call m =>
        obtain rfl : m = n := hfor
        have hnotice : t.notice? m (.step (.call m)) = some .turn := by
          simp [notice?, Event.notice?, htask]
        rw [hnotice]
        exact follows_turn held own token recorded
      | stream => exact hfor.elim
    | abort m =>
      obtain rfl : m = n := hfor
      have hnotice : t.notice? m (.abort m) = some .abort := by simp [notice?, Event.notice?]
      obtain ⟨plain, unheeding⟩ := own.abort
      rw [hnotice]
      exact .of_plain (calls_abort held) plain (t.now_happen _) fun heeds => by
        simp [unheeding] at heeds
    | forget m =>
      obtain rfl : m = n := hfor
      have hnotice : t.notice? m (.forget m) = some .forget := by simp [notice?, Event.notice?]
      obtain ⟨plain, same⟩ := own.forget
      rw [hnotice]
      refine .of_plain (calls_forget held) plain (t.now_happen _) fun heeds => ?_
      exact (cancelled_happen_of_ne_step fun task => Event.noConfusion).trans (token (same ▸ heeds))
    | _ => exact hfor.elim
  · exact follows_foreign held own token hfor

end

-- ---------------------------------------------------------------------------
-- With a stream
-- ---------------------------------------------------------------------------

theorem run_notice?_of_stream (st : Stream.Scene) (size n k : Nat) (e : Event) :
    (Strand.stream st).run size (e.notice? n (.stream k)).toList = .stream (st.run (e.seen k)) := by
  have hnone : (Strand.stream st).run size [] = .stream (st.run []) := rfl
  cases e with
  | step task =>
    cases task with
    | call => rfl
    | stream j =>
      by_cases hj : j = k
      · have hturn : (Strand.stream st).happen size .turn = .stream (st.happen .step) := by
          cases hstep : st.feeder.step st.moment <;>
            simp [Strand.happen, Strand.turn?, Stream.Scene.happen, hstep]
        simp only [Event.notice?, Event.seen, hj, if_true]
        exact hturn
      · simp [Event.notice?, Event.seen, hj, hnone]
  | take j | close j | drop j =>
    by_cases hj : j = k
    · simp only [Event.notice?, Event.seen, hj, if_true]
      rfl
    · simp [Event.notice?, Event.seen, hj, hnone]
  | abort m | forget m =>
    by_cases hm : m = n
    · simp only [Event.notice?, hm, if_true]
      rfl
    · simp [Event.notice?, Event.seen, hm, hnone]
  | _ => rfl

section

variable (held : t.service.calls[n]? = some (.listing (.opened k)))

include held

theorem follows_unfinished (runs : t.stream? k = some st)
    (unfinished : st.feeder.isFinished = false) (e : Event) :
    (t.happen e).Follows n
      ((Strand.stream st).run t.service.config.bufferSize (t.notice? n e).toList) := by
  have hafter := opened_happen held e
  have hheeds : t.heeds n = true := by
    rw [heeds_of_fate? (fate?_of_stream? held runs), Fate.heeds, unfinished]
    rfl
  have of_run {st' : Stream.Scene} (hrun : (t.happen e).stream? k = some st') :
      (t.happen e).Follows n (.stream st') := by
    refine .stream hafter ?_ fun _ => (cancelled_of_stream? hrun).symm
    rw [with_cancelled_of_stream? hrun, hrun]
  rcases t.notice?_cases n e with
    ⟨hnotice, hkeeps⟩ | ⟨hnotice, ⟨m, rfl, -⟩, -, hrunning, hcancelled⟩
  · rw [hnotice, task_of_opened held, run_notice?_of_stream]
    rcases stream?_happen_cases runs e with ⟨hnext, -⟩ | ⟨-, hrunning, hcancelled⟩
    · exact of_run hnext
    · rw [hkeeps hheeds, hrunning] at hcancelled
      cases hcancelled
  · rcases stream?_happen_cases runs (.step (.call m)) with ⟨-, hsame⟩ | ⟨hnext, -⟩
    · rw [hsame, hrunning] at hcancelled
      cases hcancelled
    · rw [hnotice]
      exact of_run hnext

theorem follows_finished (runs : t.stream? k = some { st with cancelled := t.service.cancelled })
    (finished : st.feeder.isFinished = true) (e : Event) :
    (t.happen e).Follows n
      ((Strand.stream st).run t.service.config.bufferSize (t.notice? n e).toList) := by
  have hheeds : t.heeds n = false := by
    rw [heeds_of_fate? (fate?_of_stream? held runs), Fate.heeds, finished]
    rfl
  have hnext := stream?_happen runs e
  rw [Stream.Scene.run_with_cancelled finished fun _ => Event.ne_cancel_of_seen] at hnext
  have hseen := Stream.Scene.isFinished_run finished (e.seen k)
  rcases t.notice?_cases n e with ⟨hnotice, -⟩ | ⟨-, -, heeds, -⟩
  · rw [hnotice, task_of_opened held, run_notice?_of_stream]
    exact .stream (opened_happen held e) hnext fun unfinished => by simp [hseen] at unfinished
  · rw [hheeds] at heeds
    cases heeds

end

-- ---------------------------------------------------------------------------
-- A run
-- ---------------------------------------------------------------------------

/-- One event is to the strand what the call notices of it. -/
theorem Follows.happen (h : t.Follows n p) (recorded : t.Recorded) (e : Event) :
    (t.happen e).Follows n (p.run t.service.config.bufferSize (t.notice? n e).toList) := by
  cases h with
  | plain held own token => exact follows_plain held own token recorded e
  | @stream k st held runs token =>
    cases finished : st.feeder.isFinished with
    | true => exact follows_finished held runs finished e
    | false =>
      rw [token finished] at runs
      exact follows_unfinished held runs finished e

/-- Of all that happens a call is made by what it notices. -/
theorem Follows.run (h : t.Follows n p) (recorded : t.Recorded) (events : List Event) :
    (t.run events).Follows n (p.run t.service.config.bufferSize (noticed n t events)) := by
  induction events generalizing t p with
  | nil => exact h
  | cons e events ih =>
    have hrest := ih (h.happen recorded e) (recorded.happen e)
    rw [t.config_happen e, ← Runs.append (Strand.run _)] at hrest
    exact hrest

theorem Follows.attends (h : t.Follows n p) (recorded : t.Recorded) {notice : Notice}
    (attends : t.Attends n notice) : p.Attends t.service.config.bufferSize notice := by
  cases notice with
  | turn => trivial
  | pass ms =>
    intro j hj
    have hpass : t.notice? n (.pass j) = some (.pass j) := rfl
    have hnext := h.happen recorded (.pass j)
    rw [hpass] at hnext
    exact t.config_happen (.pass j) ▸ hnext.rests_iff.mp (attends j hj)
  | _ => exact h.rests_iff.mp attends

theorem Follows.prompt (h : t.Follows n p) (recorded : t.Recorded) {events : List Event}
    (prompt : Prompt n t events) :
    p.Prompt t.service.config.bufferSize (noticed n t events) := by
  induction events generalizing t p with
  | nil => exact h.rests_iff.mp prompt
  | cons e events ih =>
    obtain ⟨hattends, hlater⟩ := prompt
    have hrest := ih (h.happen recorded e) (recorded.happen e) hlater
    rw [t.config_happen e] at hrest
    rw [noticed]
    cases hnotice : t.notice? n e with
    | none => rwa [hnotice] at hrest
    | some notice =>
      rw [hnotice] at hrest
      exact ⟨h.attends recorded (hattends notice hnotice), hrest⟩

theorem Follows.exists_stream? (h : t.Follows n p)
    (held : t.service.calls[n]? = some (.listing (.opened k))) : ∃ st, t.stream? k = some st := by
  cases h with
  | plain held' own =>
    cases held.symm.trans held'
    exact own.elim
  | stream held' runs =>
    cases held.symm.trans held'
    exact ⟨_, runs⟩

end Scene

end Menagerie.Service
