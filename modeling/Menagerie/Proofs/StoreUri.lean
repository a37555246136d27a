import Menagerie.StoreUri

/-!
# The parts of a store URI

A URI `scheme://user@hosts…` falls apart at the first `://`, at the end of its authority and at the
last `@` in it. Where these are is not a matter of the user: `mask_ofUser` shows the URI without
it, and `parse_ofUser` says that the scheme alone decides whether the URI is taken.
-/

namespace Menagerie

-- ---------------------------------------------------------------------------
-- Trimming
-- ---------------------------------------------------------------------------

namespace Text

variable {p : Char → Bool} {xs ys : List Char} {c : Char}

theorem dropWhile_append_cons (hc : p c = false) (xs ys : List Char) :
    (xs ++ c :: ys).dropWhile p = xs.dropWhile p ++ c :: ys := by
  induction xs with
  | nil => simp [hc]
  | cons x xs ih =>
    by_cases hx : p x = true
    · simpa [hx] using ih
    · simp [hx]

theorem dropTrailing_append_cons (hc : p c = false) (xs ys : List Char) :
    dropTrailing p (xs ++ c :: ys) = xs ++ c :: dropTrailing p ys := by
  have hsplit : (xs ++ c :: ys).reverse = ys.reverse ++ c :: xs.reverse := by simp
  rw [dropTrailing, hsplit, dropWhile_append_cons hc]
  simp [dropTrailing]

theorem dropTrailing_prefix (p : Char → Bool) (xs : List Char) : dropTrailing p xs <+: xs := by
  have hsuffix := (List.dropWhile_suffix (l := xs.reverse) p).reverse
  rwa [List.reverse_reverse] at hsuffix

theorem mem_takeWhile_of_prefix (hstarts : xs <+: ys) (hc : c ∈ xs.takeWhile p) :
    c ∈ ys.takeWhile p := by
  obtain ⟨rest, rfl⟩ := hstarts
  rw [List.takeWhile_append]
  split
  · exact List.mem_append_left _ ((List.takeWhile_prefix p).subset hc)
  · exact hc

end Text

namespace StoreUri

variable {scheme user user' rest uri : List Char}

-- ---------------------------------------------------------------------------
-- Splitting
-- ---------------------------------------------------------------------------

theorem splitScheme?_of_separator (rest : List Char) :
    splitScheme? (separator ++ rest) = some ([], rest) := rfl

theorem splitScheme?_cons {c : Char} (h : ¬ separator <+: c :: uri) :
    splitScheme? (c :: uri) =
      (splitScheme? uri).map fun (scheme, rest) => (c :: scheme, rest) := by
  rw [splitScheme?]
  rintro rest rfl rfl
  exact h ⟨rest, rfl⟩

theorem splitScheme?_eq_none_iff : splitScheme? uri = none ↔ ¬ separator <:+: uri := by
  induction uri with
  | nil => simp [splitScheme?, separator]
  | cons c uri ih =>
    rw [List.infix_cons_iff, not_or]
    by_cases hstarts : separator <+: c :: uri
    · obtain ⟨rest, hrest⟩ := hstarts
      rw [← hrest]
      simp [splitScheme?_of_separator]
    · rw [splitScheme?_cons hstarts, Option.map_eq_none_iff, ih]
      exact ⟨fun h => ⟨hstarts, h⟩, And.right⟩

theorem not_starts_of_single {c : Char} (h : ¬ separator <:+: c :: scheme) (rest : List Char) :
    ¬ separator <+: c :: (scheme ++ separator ++ rest) := by
  intro hstarts
  rcases scheme with _ | ⟨c₁, _ | ⟨c₂, scheme⟩⟩
  · simp [separator] at hstarts
  · simp [separator] at hstarts
  · refine h (List.IsPrefix.isInfix ?_)
    simpa [separator] using hstarts

theorem splitScheme?_append (h : ¬ separator <:+: scheme) (rest : List Char) :
    splitScheme? (scheme ++ separator ++ rest) = some (scheme, rest) := by
  induction scheme with
  | nil => exact splitScheme?_of_separator rest
  | cons c scheme ih =>
    have hscheme : ¬ separator <:+: scheme := fun hin => h (List.infix_cons hin)
    rw [List.cons_append, List.cons_append, splitScheme?_cons (not_starts_of_single h rest),
      ih hscheme]
    rfl

theorem eq_of_splitScheme? (h : splitScheme? uri = some (scheme, rest)) :
    uri = scheme ++ separator ++ rest := by
  induction uri generalizing scheme with
  | nil => cases h
  | cons c uri ih =>
    by_cases hstarts : separator <+: c :: uri
    · obtain ⟨rest', hrest⟩ := hstarts
      rw [← hrest, splitScheme?_of_separator] at h
      obtain ⟨rfl, rfl⟩ := Prod.mk.inj (Option.some.inj h)
      exact hrest.symm
    · rw [splitScheme?_cons hstarts] at h
      obtain ⟨⟨scheme', rest'⟩, hsplit, heq⟩ := Option.map_eq_some_iff.mp h
      obtain ⟨rfl, rfl⟩ := Prod.mk.inj heq
      rw [ih hsplit]
      rfl

theorem exists_lastAt {authority : List Char} (h : '@' ∈ authority) :
    ∃ info hosts, authority = info ++ '@' :: hosts ∧ '@' ∉ hosts := by
  obtain ⟨hosts, info, hreverse, hlast⟩ := List.eq_append_cons_of_mem (List.mem_reverse.mpr h)
  refine ⟨info.reverse, hosts.reverse, ?_, by simpa using hlast⟩
  rw [← List.reverse_reverse authority, hreverse]
  simp

theorem afterLastAt?_of_not_mem {authority : List Char} (h : '@' ∉ authority) :
    afterLastAt? authority = none := if_neg h

theorem afterLastAt?_append (user : List Char) {hosts : List Char} (h : '@' ∉ hosts) :
    afterLastAt? (user ++ '@' :: hosts) = some hosts := by
  have hreverse : (user ++ '@' :: hosts).reverse = hosts.reverse ++ '@' :: user.reverse := by simp
  have hall : ∀ c ∈ hosts.reverse, decide (c ≠ '@') = true := by
    intro c hc
    simp only [decide_eq_true_eq]
    rintro rfl
    exact h (List.mem_reverse.mp hc)
  rw [afterLastAt?, if_pos (by simp), hreverse, List.takeWhile_append_of_pos hall]
  simp

def ofUser (scheme user rest : List Char) : List Char :=
  scheme ++ separator ++ (user ++ '@' :: rest)

theorem ofUser_injective (h : ofUser scheme user rest = ofUser scheme user' rest) :
    user = user' :=
  List.append_cancel_right (List.append_cancel_left h)

/-- Whoever the user is, three stars stand for it. -/
theorem mask_ofUser (single : ¬ separator <:+: scheme)
    (plain : ∀ c ∈ user, endsAuthority c = false)
    (hosts : '@' ∉ rest.takeWhile (! endsAuthority ·)) :
    mask (ofUser scheme user rest) = ofUser scheme "***".toList rest := by
  have hall : ∀ c ∈ user, (! endsAuthority c) = true := fun c hc => by simp [plain c hc]
  have hauthority : (user ++ '@' :: rest).takeWhile (! endsAuthority ·) =
      user ++ '@' :: rest.takeWhile (! endsAuthority ·) := by
    rw [List.takeWhile_append_of_pos hall]
    rfl
  have htail : (user ++ '@' :: rest).dropWhile (! endsAuthority ·) =
      rest.dropWhile (! endsAuthority ·) := by
    rw [List.dropWhile_append_of_pos hall]
    rfl
  simp only [mask, ofUser, splitScheme?_append single, hauthority, htail,
    afterLastAt?_append user hosts]
  rw [List.append_assoc, List.takeWhile_append_dropWhile, List.append_assoc]
  rfl

-- ---------------------------------------------------------------------------
-- Reading
-- ---------------------------------------------------------------------------

def Supported (scheme : List Char) : Prop := String.ofList (scheme ++ separator) ∈ schemes

instance : Decidable (Supported scheme) := inferInstanceAs (Decidable (_ ∈ _))

theorem prefix_iff_eq {scheme' : List Char} (single' : ¬ separator <:+: scheme')
    (single : ¬ separator <:+: scheme) :
    scheme' ++ separator <+: scheme ++ separator ++ rest ↔ scheme' = scheme := by
  constructor
  · rintro ⟨rest', heq⟩
    have hsplit := congrArg splitScheme? heq
    rw [splitScheme?_append single', splitScheme?_append single] at hsplit
    exact congrArg Prod.fst (Option.some.inj hsplit)
  · rintro rfl
    exact List.prefix_append _ _

theorem exists_of_mem_schemes {s : String} (h : s ∈ schemes) :
    ∃ scheme', s.toList = scheme' ++ separator ∧ ¬ separator <:+: scheme' := by
  simp only [schemes, List.mem_cons, List.not_mem_nil, or_false] at h
  rcases h with rfl | rfl
  · exact ⟨"mongodb".toList, rfl, splitScheme?_eq_none_iff.mp rfl⟩
  · exact ⟨"mongodb+srv".toList, rfl, splitScheme?_eq_none_iff.mp rfl⟩

theorem any_schemes_iff (single : ¬ separator <:+: scheme) :
    (schemes.any fun s => s.toList.isPrefixOf (scheme ++ separator ++ rest)) = true ↔
      Supported scheme := by
  simp only [List.any_eq_true, List.isPrefixOf_iff_prefix]
  constructor
  · rintro ⟨s, hs, hstarts⟩
    obtain ⟨scheme', hsplit, single'⟩ := exists_of_mem_schemes hs
    rw [hsplit, prefix_iff_eq single' single] at hstarts
    rwa [Supported, ← hstarts, ← hsplit, String.ofList_toList]
  · intro h
    exact ⟨_, h, by simp⟩

theorem trimChars_ofUser (scheme user rest : List Char) :
    Text.trimChars (ofUser scheme user rest) =
      ofUser (scheme.dropWhile Text.isBlank) user (Text.dropTrailing Text.isBlank rest) := by
  have hcolon : Text.isBlank ':' = false := by decide
  have hat : Text.isBlank '@' = false := by decide
  have hstart : ofUser scheme user rest =
      scheme ++ ':' :: ('/' :: '/' :: user ++ '@' :: rest) := by simp [ofUser, separator]
  rw [Text.trimChars, hstart, Text.dropWhile_append_cons hcolon, ← List.cons_append,
    ← List.append_assoc, Text.dropTrailing_append_cons hat]
  simp [ofUser, separator]

/-- The scheme decides whether a URI with a user is taken, and it is kept as it is. -/
theorem parse_ofUser (single : ¬ separator <:+: scheme) (user rest : List Char) :
    let uri := String.ofList
      (ofUser (scheme.dropWhile Text.isBlank) user (Text.dropTrailing Text.isBlank rest))
    parse (String.ofList (ofUser scheme user rest)) =
      if Supported (scheme.dropWhile Text.isBlank) then .ok (.mongo uri)
      else .error (.invalidConfig ("unsupported store URI `" ++ uri ++ "`")) := by
  intro uri
  have htrim : Text.trim (String.ofList (ofUser scheme user rest)) = uri := by
    rw [Text.trim, String.toList_ofList, trimChars_ofUser]
  have hstart : ¬ separator <:+: scheme.dropWhile Text.isBlank := fun h =>
    single (h.trans (List.dropWhile_suffix _).isInfix)
  have hsplit : splitScheme? uri.toList = some (scheme.dropWhile Text.isBlank,
      user ++ '@' :: Text.dropTrailing Text.isBlank rest) := by
    rw [String.toList_ofList, ofUser, splitScheme?_append hstart]
  have hmemory : ¬ (uri = "memory" ∨ uri = "memory://") := by
    rintro (h | h)
    · rw [h] at hsplit
      cases hsplit
    · rw [h] at hsplit
      have hnone := congrArg Prod.snd (Option.some.inj hsplit)
      simp at hnone
  have hany : (schemes.any fun s => s.toList.isPrefixOf uri.toList) = true ↔
      Supported (scheme.dropWhile Text.isBlank) := by
    rw [String.toList_ofList]
    exact any_schemes_iff hstart
  rw [parse]
  simp only [htrim, if_neg hmemory, hany]

end StoreUri

end Menagerie
