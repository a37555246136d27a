import Menagerie.Proofs.Config.Server
import Menagerie.Proofs.Service.Answer
import Menagerie.Proofs.Service.Request

/-!
# Valid arguments

`requirements` spells out what the arguments of the server have to meet. They make a configuration
exactly if they meet all of it, the first requirement that is not met gives the message, and the
store is asked for what the arguments say, character for character: `ofArguments_exact`.
-/

namespace Menagerie

-- ---------------------------------------------------------------------------
-- Requirements
-- ---------------------------------------------------------------------------

structure Requirement where
  met : Prop
  complaint : String

inductive FirstUnmet : List Requirement → Requirement → Prop where
  | here {r : Requirement} {rest : List Requirement} (unmet : ¬ r.met) : FirstUnmet (r :: rest) r
  | later {first r : Requirement} {rest : List Requirement} (met : first.met)
      (unmet : FirstUnmet rest r) : FirstUnmet (first :: rest) r

theorem exists_firstUnmet_iff {rs : List Requirement} :
    (∃ r, FirstUnmet rs r) ↔ ¬ ∀ r ∈ rs, r.met := by
  induction rs with
  | nil => exact ⟨nofun, fun h => absurd nofun h⟩
  | cons first rest ih =>
    rw [List.forall_mem_cons]
    by_cases met : first.met
    · rw [and_iff_right met, ← ih]
      constructor
      · rintro ⟨r, unmet | ⟨-, h⟩⟩
        · exact absurd met unmet
        · exact ⟨r, h⟩
      · rintro ⟨r, h⟩
        exact ⟨r, .later met h⟩
    · simp only [met, false_and, not_false_eq_true, iff_true]
      exact ⟨first, .here met⟩

namespace ServerConfig

variable {a : ServerArguments} {config : ServerConfig} {r : Requirement}

def visible (env value : String) : Requirement where
  met := ∃ c ∈ value.toList, Text.isBlank c = false
  complaint := env ++ " must not be empty"

def supported (uri : String) : Requirement where
  met := uri = "memory" ∨ uri = "memory://" ∨ "mongodb://".toList <+: uri.toList ∨
    "mongodb+srv://".toList <+: uri.toList
  complaint := "Invalid configuration: " ++ ("unsupported store URI `" ++ uri ++ "`")

/-- What arguments have to meet, in the order in which it is checked. -/
def requirements (a : ServerArguments) : List Requirement := [
  ⟨0 < a.bufferSize, "STREAM_BUFFER_SIZE must be greater than 0"⟩,
  visible "CREATURE_DATABASE" a.creatureDatabase,
  visible "CREATURE_COLLECTION" a.creatureCollection,
  visible "STORE_DATABASE" a.database,
  visible "STORE_COLLECTION" a.collection,
  visible "LOOKUP_FIELD" a.lookupField,
  supported (Text.trim a.storeUri)]

theorem requirements_eq (a : ServerArguments) : requirements a =
    ⟨0 < a.bufferSize, "STREAM_BUFFER_SIZE must be greater than 0"⟩ ::
      ((names a).map (fun n => visible n.1 n.2) ++ [supported (Text.trim a.storeUri)]) := rfl

theorem met_visible_iff {env value : String} :
    (visible env value).met ↔ Text.allBlank value = false := by
  simp [visible, Text.allBlank]

theorem met_supported_iff {uri : String} :
    (supported uri).met ↔ (uri = "memory" ∨ uri = "memory://") ∨
      (StoreUri.schemes.any fun scheme => scheme.toList.isPrefixOf uri.toList) = true := by
  simp only [supported, StoreUri.schemes, List.any_cons, List.any_nil, Bool.or_false,
    Bool.or_eq_true, List.isPrefixOf_iff_prefix, or_assoc]

theorem parse_of_supported {text : String} (h : (supported (Text.trim text)).met) :
    ∃ store, StoreUri.parse text = .ok store := by
  rw [StoreUri.parse]
  by_cases hmemory : Text.trim text = "memory" ∨ Text.trim text = "memory://"
  · exact ⟨.memory, if_pos hmemory⟩
  · have hscheme := (met_supported_iff.mp h).resolve_left hmemory
    simp only [if_neg hmemory, if_pos hscheme]
    exact ⟨_, rfl⟩

theorem parse_of_not_supported {text : String} (h : ¬ (supported (Text.trim text)).met) :
    ∃ failure, StoreUri.parse text = .error failure ∧
      failure.message = (supported (Text.trim text)).complaint := by
  rw [met_supported_iff, not_or] at h
  rw [StoreUri.parse]
  simp only [if_neg h.1, if_neg h.2]
  exact ⟨_, rfl, rfl⟩

theorem not_unfit_iff :
    ¬ Unfit a ↔ 0 < a.bufferSize ∧ ∀ n ∈ names a, (visible n.1 n.2).met := by
  simp only [Unfit, not_or, not_exists, not_and, Bool.not_eq_true, met_visible_iff, ne_eq,
    Nat.pos_iff_ne_zero]

theorem find?_of_firstUnmet {ns : List (String × String)} {last : Requirement}
    (h : FirstUnmet (ns.map (fun n => visible n.1 n.2) ++ [last]) r) :
    (∃ n, ns.find? (fun n => Text.allBlank n.2) = some n ∧ r = visible n.1 n.2) ∨
      ns.find? (fun n => Text.allBlank n.2) = none ∧ ¬ last.met ∧ r = last := by
  induction ns with
  | nil =>
    cases h with
    | here unmet => exact .inr ⟨rfl, unmet, rfl⟩
    | later _ h => cases h
  | cons n ns ih =>
    cases h with
    | here unmet =>
      rw [met_visible_iff, Bool.not_eq_false] at unmet
      exact .inl ⟨n, List.find?_cons_of_pos unmet, rfl⟩
    | later met h =>
      rw [met_visible_iff] at met
      rw [List.find?_cons_of_neg (by simp [met])]
      exact ih h

theorem exists_error_of_firstUnmet (h : FirstUnmet (requirements a) r) :
    ∃ e, ofArguments a = .error e ∧ e.message = r.complaint := by
  rw [requirements_eq] at h
  cases h with
  | here unmet => exact ⟨.emptyBuffer, if_pos (by simpa using unmet), rfl⟩
  | later met h =>
    have hbuffer : a.bufferSize ≠ 0 := Nat.ne_of_gt met
    rcases find?_of_firstUnmet h with ⟨n, hfind, rfl⟩ | ⟨hfind, unmet, rfl⟩
    · refine ⟨.blankName n.1, ?_, rfl⟩
      simp only [ofArguments, if_neg hbuffer, hfind]
    · obtain ⟨failure, hparse, hmessage⟩ := parse_of_not_supported unmet
      refine ⟨.store failure, ?_, hmessage⟩
      simp only [ofArguments, if_neg hbuffer, hfind, hparse]

theorem exists_ok_iff :
    (∃ config, ofArguments a = .ok config) ↔ ∀ r ∈ requirements a, r.met := by
  constructor
  · rintro ⟨config, hok⟩
    by_contra hunmet
    obtain ⟨r, hfirst⟩ := exists_firstUnmet_iff.mpr hunmet
    obtain ⟨e, herror, -⟩ := exists_error_of_firstUnmet hfirst
    cases hok.symm.trans herror
  · intro hmet
    rw [requirements_eq, List.forall_mem_cons, List.forall_mem_append, List.forall_mem_map] at hmet
    obtain ⟨hbuffer, hnames, hlast⟩ := hmet
    obtain ⟨store, hparse⟩ := parse_of_supported (hlast _ List.mem_cons_self)
    exact ⟨_, ofArguments_eq_ok_iff.mpr ⟨not_unfit_iff.mpr ⟨hbuffer, hnames⟩, store, hparse, rfl⟩⟩

theorem exists_error_iff {text : String} :
    (∃ e, ofArguments a = .error e ∧ e.message = text) ↔
      ∃ r, FirstUnmet (requirements a) r ∧ r.complaint = text := by
  constructor
  · rintro ⟨e, herror, rfl⟩
    have hunmet : ¬ ∀ r ∈ requirements a, r.met := by
      rw [← exists_ok_iff]
      rintro ⟨config, hok⟩
      cases hok.symm.trans herror
    obtain ⟨r, hfirst⟩ := exists_firstUnmet_iff.mpr hunmet
    obtain ⟨e', herror', hmessage⟩ := exists_error_of_firstUnmet hfirst
    cases herror.symm.trans herror'
    exact ⟨r, hfirst, hmessage.symm⟩
  · rintro ⟨r, hfirst, rfl⟩
    exact exists_error_of_firstUnmet hfirst

end ServerConfig

-- ---------------------------------------------------------------------------
-- What the store is asked
-- ---------------------------------------------------------------------------

namespace Service

def Call.finding? : Call → Option Finding
  | .search _ (.finding f) => some f
  | .listing (.finding f _ _) => some f
  | _ => none

namespace Scene

structure Asks (t : Scene) (e : Event) (target : Namespace) (filter : Filter) : Prop where
  once : (t.happen e).service.finds = t.service.finds + 1
  waits : let answer := t.service.backend.find t.service.calls.length target filter
    ∃ call, (t.happen e).service.calls = t.service.calls ++ [call] ∧
      call.finding? = some ⟨t.service.now + answer.delay, answer.result⟩

variable {t : Scene} {config : ServerConfig} {name : String}

theorem asks_search (held : t.service.config = config) (named : name ≠ "") :
    t.Asks (.search name) config.creatures ⟨"name", name⟩ where
  once := by rw [t.finds_search, if_neg named]
  waits := by
    refine ⟨.search name (.finding (t.searchFinding name)), ?_, ?_⟩
    · simp only [happen, act, beginSearch, if_neg named]
      rfl
    · rw [Call.finding?, searchFinding, held]

theorem asks_list (held : t.service.config = config) (opened : t.service.closed = false)
    (timeout : Option Timeout.Duration) :
    t.Asks (.list timeout) config.lookup.target config.lookup.filter where
  once := by simp [happen, act, beginListing, opened, count, note, Service.find, addCall]
  waits := by
    refine ⟨_, calls_list_of_opened opened timeout, ?_⟩
    rw [Call.finding?, lookupFinding, held]
    rfl

theorem finds_list_of_closed (closed : t.service.closed = true)
    (timeout : Option Timeout.Duration) :
    (t.happen (.list timeout)).service.finds = t.service.finds := by
  simp only [happen, act, beginListing, closed]
  rfl

theorem finds_take (t : Scene) (k : Nat) :
    (t.happen (.take k)).service.finds = t.service.finds := by
  unfold happen
  simp only
  split <;> rfl

theorem finds_abort (t : Scene) (n : Nat) :
    (t.happen (.abort n)).service.finds = t.service.finds := by
  show (t.service.abort n).finds = _
  unfold Service.abort
  split <;> rfl

theorem finds_forget (t : Scene) (n : Nat) :
    (t.happen (.forget n)).service.finds = t.service.finds := by
  show (t.service.forget n).finds = _
  unfold Service.forget
  split <;> rfl

end Scene

end Service

namespace ServerConfig

open Service

def question? (a : ServerArguments) (closed : Bool) : Event → Option (Namespace × Filter)
  | .search name =>
    if name = "" then none
    else some (⟨a.creatureDatabase, a.creatureCollection⟩, ⟨"name", name⟩)
  | .list _ =>
    if closed then none
    else some (⟨a.database, a.collection⟩, ⟨a.lookupField, a.lookupValue⟩)
  | _ => none

structure Obeys (a : ServerArguments) (t : Scene) (e : Event) : Prop where
  asks : ∀ target filter, question? a t.service.closed e = some (target, filter) →
    t.Asks e target filter
  silent : question? a t.service.closed e = none → (t.happen e).service.finds = t.service.finds

theorem obeys_of_config {t : Scene} {store : StoreUri}
    (held : t.service.config = withStore a store) (e : Event) : Obeys a t e where
  asks target filter h := by
    cases e with
    | search name =>
      obtain ⟨named, hquestion⟩ := Option.ite_none_left_eq_some.mp h
      cases hquestion
      exact Scene.asks_search held named
    | list timeout =>
      obtain ⟨opened, hquestion⟩ := Option.ite_none_left_eq_some.mp h
      cases hquestion
      exact Scene.asks_list held (Bool.eq_false_iff.mpr opened) timeout
    | step | drain | take | close | drop | abort | forget | insert | pass => cases h
  silent h := by
    cases e with
    | search name =>
      have hname : name = "" := by simpa [question?] using h
      rw [t.finds_search, if_pos hname]
      rfl
    | list timeout =>
      have hclosed : t.service.closed = true := by simpa [question?] using h
      exact Scene.finds_list_of_closed hclosed timeout
    | step task => exact t.finds_step task
    | take k => exact t.finds_take k
    | abort n => exact t.finds_abort n
    | forget n => exact t.finds_forget n
    | drain | close | drop | insert | pass => rfl

/-- Arguments make a configuration exactly if they meet all requirements, else the message is that of
the first one they do not meet. The configuration has every argument as it was given, and whatever
happens, the store is asked with the arguments as they were given. -/
theorem ofArguments_exact (a : ServerArguments) :
    ((∃ config, ofArguments a = .ok config) ↔ ∀ r ∈ requirements a, r.met) ∧
    (∀ text, (∃ e, ofArguments a = .error e ∧ e.message = text) ↔
      ∃ r, FirstUnmet (requirements a) r ∧ r.complaint = text) ∧
    ∀ config, ofArguments a = .ok config →
      (∃ store, StoreUri.parse a.storeUri = .ok store ∧ config = {
        port := a.port
        store
        creatures := ⟨a.creatureDatabase, a.creatureCollection⟩
        lookup := ⟨⟨a.database, a.collection⟩, ⟨a.lookupField, a.lookupValue⟩⟩
        bufferSize := a.bufferSize
        drainTimeout := 1000 * a.shutdownTimeout }) ∧
      ∀ backend events e, Obeys a ((Scene.start config backend).run events) e := by
  refine ⟨exists_ok_iff, fun _ => exists_error_iff, fun config hok => ?_⟩
  obtain ⟨-, store, hparse, rfl⟩ := ofArguments_eq_ok_iff.mp hok
  refine ⟨⟨store, hparse, rfl⟩, fun backend events e => ?_⟩
  exact obeys_of_config (Scene.config_run (Scene.start _ backend) events) e

/-- Names keep their spaces, and of two faults the first is told. -/
theorem ofArguments_exact_of_spaces :
    let a : ServerArguments :=
      ⟨50051, " memory ", " animals", "creatures ", "films", "movies", "title", " ", 8, 3⟩
    (∃ config, ofArguments a = .ok config ∧ config.creatures = ⟨" animals", "creatures "⟩ ∧
      config.lookup = ⟨⟨"films", "movies"⟩, ⟨"title", " "⟩⟩) ∧
    ∃ e, ofArguments { a with creatureCollection := " ", storeUri := "postgres://db" } = .error e ∧
      e.message = "CREATURE_COLLECTION must not be empty" := by
  intro a
  obtain ⟨haccepted, -, hcarried⟩ := ofArguments_exact a
  obtain ⟨-, hrefused, -⟩ :=
    ofArguments_exact { a with creatureCollection := " ", storeUri := "postgres://db" }
  constructor
  · have hmet : ∀ r ∈ requirements a, r.met := by
      simp only [requirements, List.forall_mem_cons]
      exact ⟨by decide, ⟨'a', by decide⟩, ⟨'c', by decide⟩, ⟨'f', by decide⟩, ⟨'m', by decide⟩,
        ⟨'t', by decide⟩, .inl (by decide +kernel), nofun⟩
    obtain ⟨config, hok⟩ := haccepted.mpr hmet
    obtain ⟨⟨store, -, rfl⟩, -⟩ := hcarried config hok
    exact ⟨_, hok, rfl, rfl⟩
  · have hblank : ¬ (visible "CREATURE_COLLECTION" " ").met := by
      rw [met_visible_iff]
      decide
    exact (hrefused _).mpr ⟨_, .later (by decide) (.later ⟨'a', by decide⟩ (.here hblank)), rfl⟩

end ServerConfig

end Menagerie
