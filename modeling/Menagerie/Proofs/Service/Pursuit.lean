import Menagerie.Proofs.Service.Following
import Menagerie.Proofs.Service.Inquiry
import Menagerie.Proofs.Stream.Documents

/-!
# What a search learns

A search asks the store once and looks at one event of the cursor. `reply?` is the answer to that
event, with what the metrics learn of it. A call that has asked `Seeks` the event until its answer
settles it, and each of its steps keeps to this (`Call.Seeks.steps`). Nothing but its caller can keep
it from the answer: time and its own steps get it there (`exists_answer`).
-/

namespace Menagerie.Service

/-- What a search learns first: that the store has failed, or the first event of its cursor. -/
inductive Learns : Except Failure Stream.Cursor → Except Failure Stream.Beat → Prop where
  | failure (failure : Failure) : Learns (.error failure) (.error failure)
  | event {cursor : Stream.Cursor} {beat : Stream.Beat} (first : cursor.First beat) :
      Learns (.ok cursor) (.ok beat)

theorem Learns.of_error {result : Except Failure Stream.Cursor} {failure : Failure}
    (h : result = .error failure) : Learns result (.error failure) := h ▸ .failure failure

theorem Learns.of_ok {result : Except Failure Stream.Cursor} {cursor : Stream.Cursor}
    {beat : Stream.Beat} (h : result = .ok cursor) (first : cursor.First beat) :
    Learns result (.ok beat) := h ▸ .event first

theorem Learns.unique {result : Except Failure Stream.Cursor}
    {event event' : Except Failure Stream.Beat} (h : Learns result event)
    (h' : Learns result event') : event = event' := by
  cases h with
  | failure =>
    cases h'
    rfl
  | event first =>
    cases h' with
    | event first' => rw [first.unique first']

/-- The answer to a search that learns this, and what the metrics learn; there is none if the cursor
hangs. -/
def reply? (name : String) :
    Except Failure Stream.Beat → Option (Except Status Creature × Metrics)
  | .error failure | .ok (.failure failure) => some (.error failure.status, {})
  | .ok (.document d) => some (.ok d.toCreature, {})
  | .ok .finish =>
    some (.error ⟨.notFound, "creature named '" ++ name ++ "' not found"⟩, { misses := 1 })
  | .ok .hang | .ok (.pause ..) => none

theorem answer?_missed (name : String) :
    Search.missed.answer? name =
      some (.error ⟨.notFound, "creature named '" ++ name ++ "' not found"⟩) := by
  have htext : "'" ++ " not found" = "' not found" := by decide
  simp [Search.answer?, Failure.status, String.append_assoc, htext]

/-- The call has asked the store for the name, which answers with this finding, and has not come to
an event of the cursor yet. -/
inductive Call.Seeks (f : Finding) (name : String) : Call → Prop where
  | finding : Seeks f name (.search name (.finding f))
  | reading {r : Stream.Reading} (result : f.result = .ok r.cursor) (sound : r.Sound)
      (nothing : r.documents = []) : Seeks f name (.search name (.reading r))

inductive Call.Replied (f : Finding) (name : String) (answer : Except Status Creature)
    (cost : Metrics) : Call → Prop where
  | intro {state : Search} {event : Except Failure Stream.Beat} (learns : Learns f.result event)
      (reply : reply? name event = some (answer, cost)) (answers : state.answer? name = some answer) :
      Replied f name answer cost (.search name state)

section

variable {s : Service} {call old new : Call} {effect : Effect} {f : Finding} {name : String}
  {answer : Except Status Creature} {cost : Metrics}

theorem first_of_look {r : Stream.Reading} {beat : Stream.Beat} (sound : r.Sound)
    (nothing : r.documents = []) (here : r.cursor.beat r.place = beat)
    (event : beat.isPause = false) : r.cursor.First beat :=
  ⟨r.place, sound.reaches.isPause nothing, here, event⟩

/-- A step of a call that seeks goes on seeking at no cost, or replies. -/
theorem Call.Seeks.steps (seeks : old.Seeks f name) (steps : Call.Steps s old new effect) :
    new.Seeks f name ∧ effect.metrics = 0 ∨ ∃ answer, new.Replied f name answer effect.metrics := by
  cases seeks with
  | finding =>
    cases steps with
    | unanswered _ result => exact .inr ⟨_, .intro (.of_error result) rfl rfl⟩
    | answered _ result =>
      exact .inl ⟨.reading result (Stream.Reading.sound_start _) rfl, rfl⟩
  | reading result sound nothing =>
    cases steps with
    | found look =>
      obtain ⟨-, hbeat, -⟩ := Stream.Reading.look_document_iff.mp look
      exact .inr ⟨_, .intro (.of_ok result (first_of_look sound nothing hbeat rfl)) rfl rfl⟩
    | broken look =>
      obtain ⟨-, hbeat⟩ := Stream.Reading.look_failure_iff.mp look
      exact .inr ⟨_, .intro (.of_ok result (first_of_look sound nothing hbeat rfl)) rfl rfl⟩
    | missed look =>
      obtain ⟨-, hbeat⟩ := Stream.Reading.look_finish_iff.mp look
      exact .inr ⟨_, .intro (.of_ok result (first_of_look sound nothing hbeat rfl)) rfl
        (answer?_missed name)⟩
    | moved look =>
      obtain ⟨hsound, hcursor, hdocuments⟩ := sound.of_moved look
      exact .inl ⟨.reading (hcursor ▸ result) hsound (hdocuments.trans nothing), rfl⟩

theorem Call.Replied.not_steps (h : old.Replied f name answer cost) :
    ¬ Call.Steps s old new effect := by
  intro hsteps
  obtain ⟨-, -, hanswers⟩ := h
  cases hsteps <;> cases hanswers

end

namespace Scene

variable {t : Scene} {n : Nat} {old call : Call} {f : Finding} {name : String}
  {answer : Except Status Creature} {cost : Metrics} {stopped : Prop}

def answer? (t : Scene) (n : Nat) : Option (Except Status Creature) :=
  match t.service.calls[n]? with
  | some (.search name state) => state.answer? name
  | _ => none

-- ---------------------------------------------------------------------------
-- One event
-- ---------------------------------------------------------------------------

theorem happen_step_call (held : t.service.calls[n]? = some old) :
    t.service.step (.call n) = none ∧ t.happen (.step (.call n)) = t ∨
      ∃ new effect, Call.Steps t.service old new effect ∧
        (t.happen (.step (.call n))).service.calls[n]? = some new ∧
        (t.happen (.step (.call n))).service.metrics = t.service.metrics + effect.metrics := by
  cases hstep : t.service.step (.call n) with
  | none => exact .inl ⟨rfl, by simp [happen, hstep]⟩
  | some next =>
    obtain ⟨old', new, effect, callStep⟩ := stepCall_cases hstep
    cases held.symm.trans callStep.held
    have hnext : (t.happen (.step (.call n))).service = next := by simp [happen, hstep]
    have hlength := (List.getElem?_eq_some_iff.mp held).1
    refine .inr ⟨new, effect, callStep.steps, ?_, ?_⟩
    · rw [hnext, callStep.calls, List.getElem?_set_self hlength]
    · rw [hnext, callStep.metrics]

theorem answer?_of_replied (h : call.Replied f name answer cost)
    (held : t.service.calls[n]? = some call) : t.answer? n = some answer := by
  cases h with
  | intro _ _ answers => simp [Scene.answer?, held, answers]

theorem answer?_of_seeks (h : call.Seeks f name) (held : t.service.calls[n]? = some call) :
    t.answer? n = none := by
  cases h <;> simp [Scene.answer?, held, Search.answer?]

/-- The search `n` seeks or has been answered, or it was given up, which takes somebody to do so. -/
inductive Pursues (f : Finding) (name : String) (n : Nat) (stopped : Prop) (t : Scene) : Prop where
  | seeks {call : Call} (held : t.service.calls[n]? = some call) (seeks : call.Seeks f name)
  | replied {call : Call} {answer : Except Status Creature} {cost : Metrics}
      (held : t.service.calls[n]? = some call) (replied : call.Replied f name answer cost)
  | aborted (held : t.service.calls[n]? = some (.search name .aborted)) (stopped : stopped)

theorem Pursues.exists_search (h : t.Pursues f name n stopped) :
    ∃ state, t.service.calls[n]? = some (.search name state) := by
  cases h with
  | seeks held seeks => cases seeks <;> exact ⟨_, held⟩
  | replied held replied =>
    cases replied
    exact ⟨_, held⟩
  | aborted held => exact ⟨_, held⟩

theorem Pursues.reply (h : t.Pursues f name n stopped) (answered : t.answer? n = some answer) :
    ∃ event cost, Learns f.result event ∧ reply? name event = some (answer, cost) := by
  cases h with
  | seeks held seeks =>
    rw [answer?_of_seeks seeks held] at answered
    cases answered
  | replied held replied =>
    rw [answer?_of_replied replied held] at answered
    cases answered
    obtain ⟨learns, reply, -⟩ := replied
    exact ⟨_, _, learns, reply⟩
  | aborted held => simp [Scene.answer?, held, Search.answer?] at answered

theorem Pursues.own_step (h : t.Pursues f name n stopped) :
    let u := t.happen (.step (.call n))
    u.Pursues f name n stopped ∧
      (u.answer? n = t.answer? n ∧ u.service.metrics = t.service.metrics ∨
        t.answer? n = none ∧ ∃ call answer cost, u.service.calls[n]? = some call ∧
          call.Replied f name answer cost ∧ u.service.metrics = t.service.metrics + cost) := by
  intro u
  obtain ⟨state, held⟩ := h.exists_search
  rcases happen_step_call held with ⟨-, hsame⟩ | ⟨new, effect, hsteps, hnew, hmetrics⟩
  · have hu : u = t := hsame
    rw [hu]
    exact ⟨h, .inl ⟨rfl, rfl⟩⟩
  · cases h with
    | seeks held' seeks =>
      cases held.symm.trans held'
      rcases seeks.steps hsteps with ⟨hseeks, hcost⟩ | ⟨answer, hreplied⟩
      · refine ⟨.seeks hnew hseeks, .inl ⟨?_, ?_⟩⟩
        · rw [answer?_of_seeks hseeks hnew, answer?_of_seeks seeks held]
        · rw [hmetrics, hcost, add_zero]
      · exact ⟨.replied hnew hreplied, .inr ⟨answer?_of_seeks seeks held, new, answer,
          effect.metrics, hnew, hreplied, hmetrics⟩⟩
    | replied held' replied =>
      cases held.symm.trans held'
      exact absurd hsteps replied.not_steps
    | aborted held' =>
      cases held.symm.trans held'
      cases hsteps

theorem Pursues.abort (h : t.Pursues f name n stopped) (stops : stopped) :
    (t.happen (.abort n)).Pursues f name n stopped := by
  cases h with
  | seeks held seeks =>
    have hnext : (t.happen (.abort n)).service.calls[n]? = _ := calls_abort held
    cases seeks <;> exact .aborted hnext stops
  | replied held replied =>
    obtain ⟨learns, reply, answers⟩ := replied
    have hnext := (t.change (.abort n)).answered held (by simp [answers])
    exact .replied hnext (.intro learns reply answers)
  | aborted held => exact .aborted (calls_abort held) stops

theorem Pursues.of_same (h : t.Pursues f name n stopped) {u : Scene}
    (same : ∀ state, t.service.calls[n]? = some (.search name state) →
      u.service.calls[n]? = some (.search name state)) : u.Pursues f name n stopped := by
  cases h with
  | seeks held seeks =>
    cases seeks with
    | finding => exact .seeks (same _ held) .finding
    | reading result sound nothing => exact .seeks (same _ held) (.reading result sound nothing)
  | replied held replied =>
    obtain ⟨learns, reply, answers⟩ := replied
    exact .replied (same _ held) (.intro learns reply answers)
  | aborted held stops => exact .aborted (same _ held) stops

theorem Pursues.happen (h : t.Pursues f name n stopped) {e : Event}
    (stops : e = .abort n → stopped) : (t.happen e).Pursues f name n stopped := by
  -- What is not for the call `n` leaves it as it is.
  by_cases hfor : e.Concerns n
  · cases e with
    | step task =>
      cases task with
      | call m =>
        obtain rfl : m = n := hfor
        exact h.own_step.1
      | stream => exact hfor.elim
    | abort m =>
      obtain rfl : m = n := hfor
      exact h.abort (stops rfl)
    | forget m =>
      obtain rfl : m = n := hfor
      exact h.of_same fun state held => calls_forget held
    | _ => exact hfor.elim
  · exact h.of_same fun state held => call_happen_of_foreign held (by simp [Call.kind]) hfor

theorem Pursues.run (h : t.Pursues f name n stopped) {events : List Event}
    (stops : .abort n ∈ events → stopped) : (t.run events).Pursues f name n stopped := by
  induction events generalizing t with
  | nil => exact h
  | cons e events ih =>
    refine ih (h.happen fun he => stops ?_) fun hm => stops (List.mem_cons_of_mem e hm)
    exact List.mem_cons.mpr (.inl he.symm)

-- ---------------------------------------------------------------------------
-- Getting to the answer
-- ---------------------------------------------------------------------------

def Alone (n : Nat) (events : List Event) : Prop :=
  ∀ e ∈ events, e = .step (.call n) ∨ ∃ ms, e = .pass ms

theorem service_step_search {state : Search} {next : Service}
    (held : t.service.calls[n]? = some (.search name state))
    (steps : t.service.stepSearch n name state = some next) :
    (t.happen (.step (.call n))).service = next := by
  simp [Scene.happen, step, stepCall, held, steps]

theorem calls_step_of_moved {r rest : Stream.Reading}
    (held : t.service.calls[n]? = some (.search name (.reading r)))
    (look : r.look t.service.now = .moved rest) :
    (t.happen (.step (.call n))).service.calls[n]? = some (.search name (.reading rest)) := by
  have hsteps : t.service.stepSearch n name (.reading r) =
      some (t.service.setCall n (.search name (.reading rest))) := by simp [stepSearch, look]
  rw [service_step_search held hsteps]
  exact List.getElem?_set_self (List.getElem?_eq_some_iff.mp held).1

theorem answer?_step_of_event {r : Stream.Reading} {beat : Stream.Beat}
    (held : t.service.calls[n]? = some (.search name (.reading r))) (awake : r.resume = none)
    (here : r.cursor.beat r.place = beat)
    (reply : reply? name (.ok beat) = some (answer, cost)) :
    (t.happen (.step (.call n))).answer? n = some answer := by
  have hlength := (List.getElem?_eq_some_iff.mp held).1
  have hanswer (next : Service) (state : Search)
      (steps : t.service.stepSearch n name (.reading r) = some next)
      (calls : next.calls = t.service.calls.set n (.search name state))
      (answers : state.answer? name = some answer) :
      (t.happen (.step (.call n))).answer? n = some answer := by
    have hcall : (t.happen (.step (.call n))).service.calls[n]? = some (.search name state) := by
      rw [service_step_search held steps, calls, List.getElem?_set_self hlength]
    simp [Scene.answer?, hcall, answers]
  cases beat with
  | document d =>
    cases reply
    exact hanswer _ _ (by simp [stepSearch, Stream.Reading.look, awake, here]; rfl) rfl rfl
  | failure failure =>
    cases reply
    exact hanswer _ _ (by simp [stepSearch, Stream.Reading.look, awake, here]; rfl) rfl rfl
  | finish =>
    cases reply
    exact hanswer _ _ (by simp [stepSearch, Stream.Reading.look, awake, here]; rfl) rfl
      (answer?_missed name)
  | hang | pause => cases reply

theorem Alone.append {before after : List Event} (h : Alone n before) (h' : Alone n after) :
    Alone n (before ++ after) := by
  intro e he
  rcases List.mem_append.mp he with he | he
  · exact h e he
  · exact h' e he

theorem alone_step (n : Nat) : Alone n [.step (.call n)] := by
  intro e he
  exact .inl (List.mem_singleton.mp he)

theorem alone_pass (n ms : Nat) : Alone n [.pass ms] := by
  intro e he
  exact .inr ⟨ms, List.mem_singleton.mp he⟩

theorem exists_next_of_resume {r : Stream.Reading} {tick : Nat}
    (held : t.service.calls[n]? = some (.search name (.reading r)))
    (pauses : r.resume = some tick) :
    ∃ more, Alone n more ∧
      (t.run more).service.calls[n]? = some (.search name (.reading r.next)) := by
  refine ⟨[.pass (tick - t.service.now), .step (.call n)],
    (alone_pass n _).append (alone_step n), ?_⟩
  have hpassed : (t.happen (.pass (tick - t.service.now))).service.calls[n]? =
      some (.search name (.reading r)) := held
  have hnow : tick ≤ (t.happen (.pass (tick - t.service.now))).service.now := by
    rw [now_happen, Event.elapsed]
    omega
  exact calls_step_of_moved hpassed (by simp [Stream.Reading.look, pauses, hnow])

theorem exists_next_of_pause {r : Stream.Reading}
    (held : t.service.calls[n]? = some (.search name (.reading r)))
    (pauses : (r.cursor.beat r.place).isPause = true) :
    ∃ more, Alone n more ∧
      (t.run more).service.calls[n]? = some (.search name (.reading r.next)) := by
  cases hresume : r.resume with
  | some tick => exact exists_next_of_resume held hresume
  | none =>
    cases hb : r.cursor.beat r.place with
    | pause ms positive =>
      have hlook : r.look t.service.now =
          .moved { r with resume := some (t.service.now + ms) } := by
        simp [Stream.Reading.look, hresume, hb]
      obtain ⟨more, halone, hmore⟩ := exists_next_of_resume (calls_step_of_moved held hlook) rfl
      exact ⟨.step (.call n) :: more, (alone_step n).append halone, hmore⟩
    | document | failure | hang | finish => simp [hb, Stream.Beat.isPause] at pauses

/-- A search gets through the pauses that are left before the first event of its cursor. -/
theorem exists_answer_of_pauses {r : Stream.Reading} {left : Nat}
    (held : t.service.calls[n]? = some (.search name (.reading r))) (sound : r.Sound)
    (before : ∀ m < r.place + left, (r.cursor.beat m).isPause = true)
    (event : (r.cursor.beat (r.place + left)).isPause = false)
    (reply : reply? name (.ok (r.cursor.beat (r.place + left))) = some (answer, cost)) :
    ∃ more, Alone n more ∧ (t.run more).answer? n = some answer := by
  -- On the pauses still to come; at the event itself the next step replies.
  induction left generalizing t r with
  | zero => exact ⟨[.step (.call n)], alone_step n,
      answer?_step_of_event held (sound.awake event) rfl reply⟩
  | succ left ih =>
    have hpause := before r.place (by omega)
    have hplace : r.place + (left + 1) = r.next.place + left := by
      simp only [Stream.Reading.next]
      omega
    rw [hplace] at before event reply
    obtain ⟨more, halone, hmore⟩ := exists_next_of_pause held hpause
    obtain ⟨rest, halone', hrest⟩ := ih hmore (sound.next hpause) before event reply
    exact ⟨more ++ rest, halone.append halone', by rw [Runs.append run, hrest]⟩

theorem exists_answer_of_reading {r : Stream.Reading} {beat : Stream.Beat}
    (held : t.service.calls[n]? = some (.search name (.reading r))) (sound : r.Sound)
    (nothing : r.documents = []) (first : r.cursor.First beat)
    (reply : reply? name (.ok beat) = some (answer, cost)) :
    ∃ more, Alone n more ∧ (t.run more).answer? n = some answer := by
  obtain ⟨place, hbefore, rfl, hevent⟩ := first
  -- The call has met pauses only so far, so it cannot be past the event.
  have hahead : r.place ≤ place := by
    refine Nat.le_of_not_lt fun hlt => ?_
    have hpause := sound.reaches.isPause nothing place hlt
    rw [hevent] at hpause
    cases hpause
  obtain ⟨left, rfl⟩ := Nat.exists_eq_add_of_le hahead
  exact exists_answer_of_pauses held sound hbefore hevent reply

theorem exists_answer_of_finding {event : Except Failure Stream.Beat}
    (held : t.service.calls[n]? = some (.search name (.finding f)))
    (learns : Learns f.result event) (reply : reply? name event = some (answer, cost)) :
    ∃ more, Alone n more ∧ (t.run more).answer? n = some answer := by
  have hpassed : (t.happen (.pass (f.due - t.service.now))).service.calls[n]? =
      some (.search name (.finding f)) := held
  have hdue : f.due ≤ (t.happen (.pass (f.due - t.service.now))).service.now := by
    rw [now_happen, Event.elapsed]
    omega
  have hlength := (List.getElem?_eq_some_iff.mp hpassed).1
  have halone := (alone_pass n (f.due - t.service.now)).append (alone_step n)
  generalize hresult : f.result = result at learns
  cases learns with
  | failure failure =>
    cases reply
    refine ⟨_, halone, ?_⟩
    have hservice := service_step_search hpassed (by simp [stepSearch, hdue, hresult]; rfl)
    have hanswer : ((t.happen (.pass (f.due - t.service.now))).happen (.step (.call n))).answer? n =
        some (.error failure.status) := by
      simp [Scene.answer?, hservice, searchFailed, setCall, note, hlength, Search.answer?]
    exact hanswer
  | @event cursor beat first =>
    have hservice := service_step_search hpassed (by simp [stepSearch, hdue, hresult]; rfl)
    have hreading : (t.run [.pass (f.due - t.service.now), .step (.call n)]).service.calls[n]? =
        some (.search name (.reading { cursor })) := by
      rw [Runs.cons run, Runs.cons run, Runs.nil run, hservice]
      exact List.getElem?_set_self hlength
    obtain ⟨rest, halone', hrest⟩ :=
      exists_answer_of_reading hreading (Stream.Reading.sound_start cursor) rfl first reply
    exact ⟨_ ++ rest, halone.append halone', by rw [Runs.append run]; exact hrest⟩

/-- With its own steps and with time, a search that nobody gives up gets the reply to what it
learns. -/
theorem exists_answer {event : Except Failure Stream.Beat} (h : t.Pursues f name n False)
    (learns : Learns f.result event) (reply : reply? name event = some (answer, cost)) :
    ∃ more, Alone n more ∧ (t.run more).answer? n = some answer := by
  cases h with
  | replied held replied =>
    have hanswer := answer?_of_replied replied held
    obtain ⟨learns', reply', -⟩ := replied
    rw [learns.unique learns', reply'] at reply
    cases reply
    exact ⟨[], by simp [Alone], hanswer⟩
  | aborted _ stops => exact stops.elim
  | seeks held seeks =>
    cases seeks with
    | finding => exact exists_answer_of_finding held learns reply
    | reading result sound nothing =>
      rw [result] at learns
      cases learns with
      | event first => exact exists_answer_of_reading held sound nothing first reply

end Scene

end Menagerie.Service
