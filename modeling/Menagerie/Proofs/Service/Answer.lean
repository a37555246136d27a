import Menagerie.Proofs.Service.Pursuit

/-!
# What a search is answered

`answer_of_search` puts together what becomes of a search from its call on: a name that is empty, any
store, and the in-memory store, where the event that decides is the first match. The filter finds it
by the key that the answer takes its name from (`exists_firstNamed`).
-/

namespace Menagerie.Service.Scene

variable {t : Scene} {n : Nat} {f : Finding} {name : String} {answer : Except Status Creature}
  {cost : Metrics} {stopped : Prop}

-- ---------------------------------------------------------------------------
-- Over the in-memory store
-- ---------------------------------------------------------------------------

/-- A search over a cursor of documents never waits once the store has answered. -/
theorem Pursues.exists_answer_of_rests {documents : List Document}
    (h : t.Pursues f name n False) (due : f.due ≤ t.service.now)
    (result : f.result = .ok (.ofDocuments documents))
    (rests : t.service.step (.call n) = none) : ∃ answer, t.answer? n = some answer := by
  cases h with
  | replied held replied => exact ⟨_, answer?_of_replied replied held⟩
  | aborted _ stops => exact stops.elim
  | seeks held seeks =>
    cases seeks with
    | finding => simp [step, stepCall, held, stepSearch, due, result] at rests
    | @reading r result' sound =>
      have hcursor := Except.ok.inj (result'.symm.trans result)
      have hlook := sound.look_ofDocuments hcursor t.service.now
      cases hr : r.look t.service.now with
      | nothing => exact absurd hr hlook
      | document | failure | moved | finish => simp [step, stepCall, held, stepSearch, hr] at rests

theorem Pursues.answer?_of_rests {documents : List Document} {event : Except Failure Stream.Beat}
    (h : t.Pursues f name n False) (due : f.due ≤ t.service.now)
    (result : f.result = .ok (.ofDocuments documents)) (learns : Learns f.result event)
    (reply : reply? name event = some (answer, cost))
    (rests : t.service.step (.call n) = none) : t.answer? n = some answer := by
  obtain ⟨answer', hanswer⟩ := h.exists_answer_of_rests due result rests
  obtain ⟨event', cost', learns', reply'⟩ := h.reply hanswer
  rw [learns'.unique learns, reply] at reply'
  cases reply'
  exact hanswer

/-- What a search for a name comes to when the store holds these documents. -/
inductive FirstNamed (name : String) (documents : List Document) :
    Except Status Creature → Metrics → Prop where
  | found {before after : List Document} {d : Document} (here : documents = before ++ d :: after)
      (text : d.get? "name" = some (.string name))
      (first : ∀ earlier ∈ before, earlier.get? "name" ≠ some (.string name))
      (named : d.toCreature.name = name) : FirstNamed name documents (.ok d.toCreature) {}
  | missed (without : ∀ d ∈ documents, d.get? "name" ≠ some (.string name)) :
      FirstNamed name documents
        (.error ⟨.notFound, "creature named '" ++ name ++ "' not found"⟩) { misses := 1 }

theorem name_toCreature {d : Document} (h : d.get? "name" = some (.string name)) :
    d.toCreature.name = name := by
  simp [Document.toCreature, Document.name, Document.text?, Json.Value.string?, h]

/-- The filter of a search and the creature it answers with read the name alike. -/
theorem exists_firstNamed (name : String) (documents : List Document) :
    ∃ event answer cost,
      Learns (.ok (.ofDocuments (documents.filter (nameFilter name).accepts))) event ∧
        reply? name event = some (answer, cost) ∧ FirstNamed name documents answer cost := by
  have hfirst :=
    Stream.Cursor.first_ofDocuments (documents.filter (nameFilter name).accepts)
  rw [List.head?_filter] at hfirst
  cases hfind : documents.find? (nameFilter name).accepts with
  | none =>
    rw [hfind] at hfirst
    refine ⟨_, _, _, .event hfirst, rfl, .missed fun d hd htext => ?_⟩
    exact List.find?_eq_none.mp hfind d hd (Filter.accepts_iff.mpr htext)
  | some d =>
    rw [hfind] at hfirst
    obtain ⟨haccepts, before, after, rfl, hbefore⟩ := List.find?_eq_some_iff_append.mp hfind
    have htext : d.get? "name" = some (.string name) := Filter.accepts_iff.mp haccepts
    refine ⟨_, _, _, .event hfirst, rfl, .found rfl htext (fun e he hetext => ?_)
      (name_toCreature htext)⟩
    have haccepted : (nameFilter name).accepts e = true := Filter.accepts_iff.mpr hetext
    simpa [haccepted] using hbefore e he

-- ---------------------------------------------------------------------------
-- From the call to its answer
-- ---------------------------------------------------------------------------

theorem answered_run {state : Search} (held : t.service.calls[n]? = some (.search name state))
    (settled : (state.answer? name).isSome = true) (events : List Event) :
    (t.run events).service.calls[n]? = some (.search name state) :=
  Runs.invariant run (P := fun u => u.service.calls[n]? = some (.search name state))
    (fun u e h => (u.change e).answered h settled) events held

structure Resolves (f : Finding) (name : String) (n : Nat) (u : Scene) : Prop where
  reply : ∀ answer, u.answer? n = some answer →
    ∃ event cost, (∀ other, Learns f.result other ↔ other = event) ∧
      reply? name event = some (answer, cost)
  step : let v := u.happen (.step (.call n))
    v.service.finds = u.service.finds ∧
      (v.answer? n = u.answer? n ∧ v.service.metrics = u.service.metrics ∨
        u.answer? n = none ∧ ∃ event answer cost, Learns f.result event ∧
          reply? name event = some (answer, cost) ∧ v.answer? n = some answer ∧
          v.service.metrics = u.service.metrics + cost)

theorem Pursues.resolves (h : t.Pursues f name n stopped) : t.Resolves f name n where
  reply answer answered := by
    obtain ⟨event, cost, learns, reply⟩ := h.reply answered
    exact ⟨event, cost, fun other => ⟨fun learns' => learns'.unique learns, fun same =>
      same ▸ learns⟩, reply⟩
  step := by
    refine ⟨t.finds_step _, h.own_step.2.imp_right ?_⟩
    rintro ⟨hnone, call, answer, cost, held, replied, hmetrics⟩
    have hanswer := answer?_of_replied replied held
    obtain ⟨learns, reply, -⟩ := replied
    exact ⟨hnone, _, answer, cost, learns, reply, hanswer, hmetrics⟩

structure Refuses (n : Nat) (u : Scene) : Prop where
  answer : u.answer? n = some (.error ⟨.invalidArgument, "a creature name must be supplied"⟩)
  step : u.happen (.step (.call n)) = u

def searchFinding (t : Scene) (name : String) : Finding :=
  let answer := t.service.backend.find t.service.calls.length t.service.config.creatures
    ⟨"name", name⟩
  ⟨t.service.now + answer.delay, answer.result⟩

theorem metrics_search (t : Scene) (name : String) :
    (t.happen (.search name)).service.metrics = t.service.metrics + { searches := 1 } := by
  by_cases hname : name = "" <;>
  · ext <;> simp [Scene.happen, act, beginSearch, hname, count, note, addCall, Service.find]

theorem finds_search (t : Scene) (name : String) :
    (t.happen (.search name)).service.finds =
      t.service.finds + if name = "" then 0 else 1 := by
  by_cases hname : name = "" <;>
  simp [Scene.happen, act, beginSearch, hname, count, note, addCall, Service.find]

theorem refuses_run (t : Scene) (events : List Event) :
    ((t.happen (.search "")).run events).Refuses t.service.calls.length := by
  have hcalls : (t.happen (.search "")).service.calls =
      t.service.calls ++ [.search "" .nameless] := rfl
  have hstart : (t.happen (.search "")).service.calls[t.service.calls.length]? =
      some (.search "" .nameless) := by rw [hcalls, List.getElem?_concat_length]
  have hlast := answered_run hstart rfl events
  constructor
  · simp only [Scene.answer?, hlast]
    rfl
  · rcases happen_step_call hlast with ⟨-, hsame⟩ | ⟨new, effect, hsteps, -⟩
    · exact hsame
    · cases hsteps

theorem pursues_search (t : Scene) (named : name ≠ "") :
    (t.happen (.search name)).Pursues (t.searchFinding name) name t.service.calls.length
      stopped := by
  have hcalls : (t.happen (.search name)).service.calls =
      t.service.calls ++ [.search name (.finding (t.searchFinding name))] := by
    simp only [Scene.happen, act, beginSearch, if_neg named]
    rfl
  refine .seeks ?_ .finding
  rw [hcalls, List.getElem?_concat_length]

theorem searchFinding_of_memory (config : ServerConfig) (events : List Event) (name : String) :
    let t := (start config (.memory .empty)).run events
    t.searchFinding name = ⟨t.service.now, .ok (.ofDocuments ((Store.inserted config.creatures
      (events.filterMap Event.insertion?)).filter (nameFilter name).accepts))⟩ := by
  intro t
  have hconfig : t.service.config = config := config_run (start config (.memory .empty)) events
  rw [searchFinding, hconfig, find_run_of_memory]
  rfl

/-- A search counts as a request. Without a name it is refused; else the store is asked once, for
that name in the collection of the creatures, and the answer is the reply to what the search learns
first, with a miss exactly if that is the end of the cursor. Over the in-memory store it is the first
creature of that name. -/
theorem answer_of_search (config : ServerConfig) (backend : Store.Backend) (before : List Event)
    (name : String) :
    let s := (start config backend).run before
    let n := s.service.calls.length
    let t := s.happen (.search name)
    let answered := s.service.backend.find n config.creatures ⟨"name", name⟩
    let f : Finding := ⟨s.service.now + answered.delay, answered.result⟩
    t.service.metrics = s.service.metrics + { searches := 1 } ∧
      (name = "" → t.service.finds = s.service.finds ∧ ∀ after, (t.run after).Refuses n) ∧
      (name ≠ "" → t.service.finds = s.service.finds + 1 ∧
        ∀ after, (t.run after).Resolves f name n ∧
          (.abort n ∉ after → ∀ event answer cost, Learns f.result event →
            reply? name event = some (answer, cost) →
              ∃ more, Alone n more ∧ ((t.run after).run more).answer? n = some answer)) ∧
      (name ≠ "" → backend = .memory .empty → ∃ event answer cost, Learns f.result event ∧
        reply? name event = some (answer, cost) ∧
        FirstNamed name (Store.inserted config.creatures (before.filterMap Event.insertion?))
          answer cost ∧
        ∀ after, .abort n ∉ after → (t.run after).service.step (.call n) = none →
          (t.run after).answer? n = some answer) := by
  intro s n t answered f
  have hconfig : s.service.config = config := config_run (start config backend) before
  have hf : s.searchFinding name = f := by rw [searchFinding, hconfig]
  have hfinds : t.service.finds = s.service.finds + if name = "" then 0 else 1 :=
    s.finds_search name
  refine ⟨s.metrics_search name, ?_, ?_, ?_⟩
  · rintro rfl
    exact ⟨hfinds, s.refuses_run⟩
  · intro hname
    rw [if_neg hname] at hfinds
    refine ⟨hfinds, fun after => ?_⟩
    have hpursues (stopped : Prop) : t.Pursues f name n stopped := hf ▸ s.pursues_search hname
    refine ⟨((hpursues True).run fun _ => trivial).resolves, ?_⟩
    intro hkept event answer cost learns reply
    exact exists_answer ((hpursues False).run fun hm => hkept hm) learns reply
  · rintro hname rfl
    have hfound := hf.symm.trans (searchFinding_of_memory config before name)
    have hresult := congrArg Finding.result hfound
    obtain ⟨event, answer, cost, learns, reply, hfirst⟩ := exists_firstNamed name
      (Store.inserted config.creatures (before.filterMap Event.insertion?))
    have hlearns : Learns f.result event := hresult ▸ learns
    refine ⟨event, answer, cost, hlearns, reply, hfirst, fun after hkept rests => ?_⟩
    have hpursues : t.Pursues f name n False := hf ▸ s.pursues_search hname
    have hnow : s.service.now ≤ (t.run after).service.now := by
      rw [t.now_run after]
      exact Nat.le_add_right_of_le (s.now_le_happen (.search name))
    have hdue : f.due ≤ (t.run after).service.now := (congrArg Finding.due hfound).trans_le hnow
    exact (hpursues.run fun hm => hkept hm).answer?_of_rests hdue hresult hlearns reply rests

/-- A search without a name, one over a cursor that hangs after its document, and one over a store
that was given another document first. -/
theorem answer_of_april :
    let d := Document.empty.insert "name" (.string "April")
    let hanging := (start narrow (answering 10 (.ofList [.document d, .hang]))).run []
    let stored := (start narrow (.memory .empty)).run
      [.insert ⟨"", ""⟩ .empty, .insert ⟨"", ""⟩ d]
    let u := (stored.happen (.search "April")).run [.step (.call 0), .step (.call 0)]
    ((hanging.happen (.search "")).run []).Refuses 0 ∧
      (∃ more, Alone 0 more ∧ (((hanging.happen (.search "April")).run []).run more).answer? 0 =
        some (.ok d.toCreature)) ∧
      u.service.step (.call 0) = none ∧
      ∃ answer cost, FirstNamed "April" [.empty, d] answer cost ∧ u.answer? 0 = some answer := by
  intro d hanging stored u
  have hnamed : "April" ≠ "" := by decide
  obtain ⟨-, hrefused, -⟩ :=
    answer_of_search narrow (answering 10 (.ofList [.document d, .hang])) [] ""
  obtain ⟨-, -, hanswered, -⟩ :=
    answer_of_search narrow (answering 10 (.ofList [.document d, .hang])) [] "April"
  obtain ⟨-, -, -, hfound⟩ := answer_of_search narrow (.memory .empty)
    [.insert ⟨"", ""⟩ .empty, .insert ⟨"", ""⟩ d] "April"
  obtain ⟨-, answer, cost, -, -, hfirst, hrests⟩ := hfound hnamed rfl
  have hbeat : (Stream.Cursor.ofList [.document d, .hang]).First (.document d) :=
    ⟨0, by simp, rfl, rfl⟩
  have hdone : u.service.step (.call 0) = none := Option.isNone_iff_eq_none.mp (by decide +kernel)
  refine ⟨(hrefused rfl).2 [], ?_, hdone, answer, cost, hfirst, hrests _ (by simp) hdone⟩
  exact ((hanswered hnamed).2 []).2 (by simp) _ _ _ (.event hbeat) rfl

end Menagerie.Service.Scene
