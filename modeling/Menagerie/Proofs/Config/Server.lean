import Menagerie.Config.Server

/-!
# Arguments that make a configuration

`ofArguments` checks the buffer size and the names before it reads the store URI. What it makes of
arguments that pass is `withStore`: `ofArguments_eq_ok_iff`.
-/

namespace Menagerie.ServerConfig

/-- The arguments are refused whatever the store URI is. -/
def Unfit (a : ServerArguments) : Prop :=
  a.bufferSize = 0 ∨ ∃ n ∈ names a, Text.allBlank n.2 = true

def withStore (a : ServerArguments) (store : StoreUri) : ServerConfig where
  port := a.port
  store
  creatures := ⟨a.creatureDatabase, a.creatureCollection⟩
  lookup := ⟨⟨a.database, a.collection⟩, ⟨a.lookupField, a.lookupValue⟩⟩
  bufferSize := a.bufferSize
  drainTimeout := 1000 * a.shutdownTimeout

variable {a : ServerArguments} {config : ServerConfig}

theorem find?_names_eq_none_iff :
    ((names a).find? fun (_, value) => Text.allBlank value) = none ↔
      ¬ ∃ n ∈ names a, Text.allBlank n.2 = true := by
  simp [List.find?_eq_none]

theorem exists_error_of_unfit (h : Unfit a) :
    ∃ e, ∀ uri, ofArguments { a with storeUri := uri } = .error e := by
  by_cases hbuffer : a.bufferSize = 0
  · exact ⟨.emptyBuffer, fun uri => if_pos hbuffer⟩
  · have hblank := h.resolve_left hbuffer
    cases hfind : (names a).find? fun (_, value) => Text.allBlank value with
    | none => exact absurd hblank (find?_names_eq_none_iff.mp hfind)
    | some n =>
      refine ⟨.blankName n.1, fun uri => ?_⟩
      have hnames : names { a with storeUri := uri } = names a := rfl
      simp only [ofArguments, hnames, hfind, if_neg hbuffer]

theorem ofArguments_of_fit (h : ¬ Unfit a) (uri : String) :
    ofArguments { a with storeUri := uri } =
      ((StoreUri.parse uri).map (withStore a)).mapError .store := by
  obtain ⟨hbuffer, hnames⟩ := not_or.mp h
  have hfind := find?_names_eq_none_iff.mpr hnames
  have hsame : names { a with storeUri := uri } = names a := rfl
  simp only [ofArguments, hsame, hfind, if_neg hbuffer]
  cases StoreUri.parse uri <;> rfl

theorem ofArguments_eq_ok_iff :
    ofArguments a = .ok config ↔
      ¬ Unfit a ∧ ∃ store, StoreUri.parse a.storeUri = .ok store ∧ config = withStore a store := by
  by_cases hunfit : Unfit a
  · obtain ⟨e, he⟩ := exists_error_of_unfit hunfit
    have he : ofArguments a = .error e := he a.storeUri
    simp [he, hunfit]
  · have hfit : ofArguments a = _ := ofArguments_of_fit hunfit a.storeUri
    rw [hfit]
    cases StoreUri.parse a.storeUri with
    | error failure =>
      constructor
      · rintro ⟨⟩
      · rintro ⟨-, store, ⟨⟩, -⟩
    | ok store =>
      constructor
      · rintro ⟨⟩
        exact ⟨hunfit, store, rfl, rfl⟩
      · rintro ⟨-, store, ⟨⟩, rfl⟩
        rfl

end Menagerie.ServerConfig
