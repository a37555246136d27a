import Menagerie.Proofs.Service.Drain
import Menagerie.Proofs.Service.Request
import Menagerie.Proofs.Store.Log
import Menagerie.Proofs.Stream.Documents

/-!
# What the store is asked and what it is given

A store changes only by what is inserted into it, and it is asked only when a search or a request is
taken up. Over the in-memory store a service therefore finds what was inserted before the call,
whatever its tasks have done meanwhile (`find_run_of_memory`), and the stream of a request carries
what was in the store when the request came (`snapshot_of_request`).
-/

namespace Menagerie.Service

def Event.insertion? : Event → Option (Namespace × Document)
  | .insert target d => some (target, d)
  | _ => none

namespace Scene

variable {t : Scene}

theorem finds_step (t : Scene) (task : Task) :
    (t.happen (.step task)).service.finds = t.service.finds := by
  unfold happen
  simp only
  split
  next next hstep => exact (keeps_of_step hstep).finds
  next => rfl

theorem backend_happen (t : Scene) (e : Event) :
    (t.happen e).service.backend =
      (e.insertion?.map fun (target, d) => t.service.backend.insert target d).getD
        t.service.backend := by
  cases e with
  | step task =>
    unfold happen
    simp only
    split
    next next hstep => exact (keeps_of_step hstep).backend
    next => rfl
  | search name =>
    show (t.service.beginSearch name).backend = _
    unfold beginSearch
    simp only
    split <;> rfl
  | list timeout =>
    show (t.service.beginListing timeout).backend = _
    unfold beginListing
    split <;> rfl
  | take k =>
    unfold happen
    simp only
    split <;> rfl
  | abort n =>
    show (t.service.abort n).backend = _
    unfold Service.abort
    split <;> rfl
  | forget n =>
    show (t.service.forget n).backend = _
    unfold Service.forget
    split <;> rfl
  | drain | close | drop | insert | pass => rfl

/-- The store of a service holds what was inserted into it, and nothing else. -/
theorem backend_run_of_memory {memory : Store.Memory} (held : t.service.backend = .memory memory)
    (events : List Event) :
    ∃ m : Store.Memory, (t.run events).service.backend = .memory m ∧
      ∀ n, m.documents n =
        memory.documents n ++ Store.inserted n (events.filterMap Event.insertion?) := by
  induction events generalizing t memory with
  | nil => exact ⟨memory, held, fun n => by simp [Store.inserted]⟩
  | cons e events ih =>
    have hnext := t.backend_happen e
    rw [held] at hnext
    cases he : e.insertion? with
    | none =>
      rw [he] at hnext
      obtain ⟨m, hm, hdocuments⟩ := ih hnext
      exact ⟨m, hm, fun n => by simp [hdocuments, he]⟩
    | some insertion =>
      obtain ⟨target, d⟩ := insertion
      rw [he] at hnext
      have hinserted : (t.happen e).service.backend = .memory (memory.insert target d) := hnext
      obtain ⟨m, hm, hdocuments⟩ := ih hinserted
      refine ⟨m, hm, fun n => ?_⟩
      rw [hdocuments, Store.Memory.documents_insert, List.filterMap_cons, he, List.append_assoc,
        ← Store.inserted_singleton, ← Store.inserted_append]
      rfl

/-- Every cursor that a service gets from its store holds what was inserted before it asked. -/
theorem find_run_of_memory (config : ServerConfig) (events : List Event) (call : Nat)
    (target : Namespace) (filter : Filter) :
    ((start config (.memory .empty)).run events).service.backend.find call target filter =
      ⟨0, .ok (.ofDocuments ((Store.inserted target
        (events.filterMap Event.insertion?)).filter filter.accepts))⟩ := by
  obtain ⟨m, hbackend, hdocuments⟩ :=
    backend_run_of_memory (t := start config (.memory .empty)) rfl events
  have hinserted : m.documents target = Store.inserted target (events.filterMap Event.insertion?) :=
    hdocuments target
  rw [hbackend, Store.Backend.find, Store.Memory.find, hinserted]

end Scene

end Menagerie.Service

namespace Menagerie.Service.Scene

-- ---------------------------------------------------------------------------
-- Streams over the in-memory store
-- ---------------------------------------------------------------------------

def lookupMatches (config : ServerConfig) (events : List Event) : List Document :=
  (Store.inserted config.lookup.target (events.filterMap Event.insertion?)).filter
    config.lookup.filter.accepts

theorem result_lookupFinding_of_memory (config : ServerConfig) (events : List Event) :
    ((start config (.memory .empty)).run events).service.lookupFinding.result =
      .ok (.ofDocuments (lookupMatches config events)) := by
  have hconfig : ((start config (.memory .empty)).run events).service.config = config :=
    config_run (start config (.memory .empty)) events
  rw [lookupFinding, Service.find, hconfig, find_run_of_memory]
  rfl

/-- An in-memory store is a log for each collection, told apart by database and collection, and a
cursor over it yields what its search found in the log, whatever goes on beside it. A stream over
such a store delivers what was found when its request was taken up. -/
theorem snapshot_of_request :
    (∀ history, Store.Scene.Logged history (Store.Scene.run {} history)) ∧
      (∀ (f : Filter) (d : Document),
        f.accepts d = true ↔ d.get? f.field = some (.string f.value)) ∧
      ∀ (config : ServerConfig) (before after : List Event) (timeout : Option Timeout.Duration),
        let s := (start config (.memory .empty)).run before
        let u := (s.happen (.list timeout)).run after
        ∀ k, u.service.calls[s.service.calls.length]? = some (.listing (.opened k)) →
          ∃ st, u.stream? k = some st ∧ st.Delivers (lookupMatches config before) := by
  refine ⟨Store.Scene.logged_run, fun f d => Filter.accepts_iff, ?_⟩
  intro config before after timeout s u k held
  obtain ⟨start, hs, hmake, hst⟩ := origin_of_request
    (recorded_run config (.memory .empty) before)
    (result_lookupFinding_of_memory config before) timeout held
  exact ⟨_, hst, Stream.Scene.delivers_ofDocuments hmake hs⟩

/-- Two collections with one text, and a cursor that is read after another document came; a stream
that begins after another document came. -/
theorem snapshot_of_late_insert :
    let d := Document.empty.insert "" (.string "")
    let n : Namespace := ⟨"a", "b.c"⟩
    let other : Namespace := ⟨"a.b", "c"⟩
    let history : List Store.Request :=
      [.insert n d, .insert other d, .find n ⟨"", ""⟩, .insert n d, .next 0]
    let u := (((start narrow (.memory .empty)).run [.insert ⟨"", ""⟩ d]).happen (.list none)).run
      [.insert ⟨"", ""⟩ d, .step (.call 0)]
    n.text = other.text ∧ Filter.accepts ⟨"", ""⟩ d = true ∧
      (Store.Scene.run {} history).reply (.size n) = .size 2 ∧
      (Store.Scene.run {} history).reply (.size other) = .size 1 ∧
      (Store.Scene.run {} history).reply (.next 0) = .ended ∧
      u.service.calls[0]? = some (.listing (.opened 0)) ∧
      ∃ st, u.stream? 0 = some st ∧ st.Delivers [d] := by
  intro d n other history
  obtain ⟨hlogged, haccepts, hstreams⟩ := snapshot_of_request
  have hreplies := hlogged history
  have hmatches : lookupMatches narrow [.insert ⟨"", ""⟩ d] = [d] := rfl
  refine ⟨by decide, (haccepts ⟨"", ""⟩ d).mpr rfl, (hreplies.size n).trans rfl,
    (hreplies.size other).trans rfl,
    hreplies.next [.insert n d, .insert other d] n ⟨"", ""⟩ [.insert n d, .next 0] rfl, rfl, ?_⟩
  rw [← hmatches]
  exact hstreams narrow [.insert ⟨"", ""⟩ d] [.insert ⟨"", ""⟩ d, .step (.call 0)] none 0 rfl

end Menagerie.Service.Scene
