import Mathlib.Data.List.DropRight
import Menagerie.Proofs.StoreUri.Bytes

/-!
# How store URIs are shown

`Parts` cuts a URI at its first separator and at the end of its authority, and `Named` also at the
last at sign of the authority. A URI has no other parts than these, so what `mask` finds is what they
say. `display_exact`: a URI that is taken is shown as it was given, but for who is named in its
authority; what is shown is taken again and shown as it is.
-/

namespace Menagerie

-- ---------------------------------------------------------------------------
-- Trimming twice
-- ---------------------------------------------------------------------------

namespace Text

theorem dropTrailing_dropTrailing (p : Char → Bool) (cs : List Char) :
    dropTrailing p (dropTrailing p cs) = dropTrailing p cs := by
  rw [dropTrailing, dropTrailing, List.reverse_reverse, List.dropWhile_idempotent]

theorem trimChars_trimChars (cs : List Char) : trimChars (trimChars cs) = trimChars cs := by
  unfold trimChars
  cases hstart : cs.dropWhile isBlank with
  | nil => rfl
  | cons c rest =>
    have hc : isBlank c = false := by
      simpa [hstart] using List.head?_dropWhile_not isBlank cs
    have hkeep : dropTrailing isBlank (c :: rest) = c :: dropTrailing isBlank rest :=
      dropTrailing_append_cons hc [] rest
    have hstop : (dropTrailing isBlank (c :: rest)).dropWhile isBlank =
        dropTrailing isBlank (c :: rest) := by
      rw [hkeep, List.dropWhile_cons_of_neg (by simp [hc])]
    rw [hstop, dropTrailing_dropTrailing]

theorem trim_trim (s : String) : trim (trim s) = trim s := by
  rw [trim, trim, String.toList_ofList, trimChars_trimChars]

end Text

namespace StoreUri

open Text

-- ---------------------------------------------------------------------------
-- Parts
-- ---------------------------------------------------------------------------

/-- `scheme://authority`, and what follows. -/
@[ext]
structure Parts where
  scheme : List Char
  authority : List Char
  tail : List Char

def Parts.text (parts : Parts) : List Char :=
  parts.scheme ++ separator ++ (parts.authority ++ parts.tail)

structure Parts.Of (parts : Parts) (uri : List Char) : Prop where
  whole : uri = parts.text
  first : ¬ separator <:+: parts.scheme
  inside : '/' ∉ parts.authority ∧ '?' ∉ parts.authority
  ends : parts.tail = [] ∨ parts.tail.head? = some '/' ∨ parts.tail.head? = some '?'

/-- `scheme://info@hosts`, and what follows; the authority is `info@hosts`. -/
@[ext]
structure Named where
  scheme : List Char
  info : List Char
  hosts : List Char
  tail : List Char

def Named.parts (named : Named) : Parts :=
  ⟨named.scheme, named.info ++ '@' :: named.hosts, named.tail⟩

structure Named.Of (named : Named) (uri : List Char) : Prop where
  parts : named.parts.Of uri
  last : '@' ∉ named.hosts

/-- The same URI, with three stars for who is named. -/
def Named.masked (named : Named) : Named := { named with info := "***".toList }

variable {uri scheme rest : List Char} {parts parts' : Parts} {named named' : Named}

theorem endsAuthority_eq_false_iff {c : Char} : endsAuthority c = false ↔ c ≠ '/' ∧ c ≠ '?' := by
  simp [endsAuthority]

theorem Parts.Of.splitScheme? (h : parts.Of uri) :
    splitScheme? uri = some (parts.scheme, parts.authority ++ parts.tail) := by
  rw [h.whole]
  exact splitScheme?_append h.first _

theorem Parts.Of.goesOn (h : parts.Of uri) : ∀ c ∈ parts.authority, (! endsAuthority c) = true := by
  intro c hc
  rw [Bool.not_eq_true', endsAuthority_eq_false_iff]
  constructor
  · rintro rfl
    exact h.inside.1 hc
  · rintro rfl
    exact h.inside.2 hc

theorem Parts.Of.stops (h : parts.Of uri) :
    parts.tail.takeWhile (! endsAuthority ·) = [] ∧
      parts.tail.dropWhile (! endsAuthority ·) = parts.tail := by
  cases htail : parts.tail with
  | nil => exact ⟨rfl, rfl⟩
  | cons c tail =>
    have hc : c = '/' ∨ c = '?' := by simpa [htail] using h.ends
    rcases hc with rfl | rfl <;> exact ⟨rfl, rfl⟩

theorem Parts.Of.takeWhile (h : parts.Of uri) :
    (parts.authority ++ parts.tail).takeWhile (! endsAuthority ·) = parts.authority := by
  rw [List.takeWhile_append_of_pos h.goesOn, h.stops.1, List.append_nil]

theorem Parts.Of.dropWhile (h : parts.Of uri) :
    (parts.authority ++ parts.tail).dropWhile (! endsAuthority ·) = parts.tail := by
  rw [List.dropWhile_append_of_pos h.goesOn, h.stops.2]

theorem Parts.Of.unique (h : parts.Of uri) (h' : parts'.Of uri) : parts = parts' := by
  have hsplit := h.splitScheme?.symm.trans h'.splitScheme?
  obtain ⟨hscheme, hrest⟩ := Prod.mk.inj (Option.some.inj hsplit)
  have hauthority : parts.authority = parts'.authority := by
    rw [← h.takeWhile, hrest, h'.takeWhile]
  have htail : parts.tail = parts'.tail := by
    rw [← h.dropWhile, hrest, h'.dropWhile]
  exact Parts.ext hscheme hauthority htail

theorem exists_parts (first : ¬ separator <:+: scheme) (rest : List Char) :
    ∃ parts : Parts, parts.scheme = scheme ∧ parts.Of (scheme ++ separator ++ rest) := by
  refine ⟨⟨scheme, rest.takeWhile (! endsAuthority ·), rest.dropWhile (! endsAuthority ·)⟩, rfl,
    ?_, first, ?_, ?_⟩
  · rw [Parts.text, List.takeWhile_append_dropWhile]
  · constructor
    · intro h
      exact absurd (List.mem_takeWhile_imp h) (by decide)
    · intro h
      exact absurd (List.mem_takeWhile_imp h) (by decide)
  · have hstop := List.head?_dropWhile_not (! endsAuthority ·) rest
    cases htail : rest.dropWhile (! endsAuthority ·) with
    | nil => exact .inl rfl
    | cons c tail =>
      have hc : endsAuthority c = true := by simpa [htail] using hstop
      exact .inr (by simpa [endsAuthority] using hc)

theorem Named.Of.unique (h : named.Of uri) (h' : named'.Of uri) : named = named' := by
  have hparts := h.parts.unique h'.parts
  simp only [Named.parts, Parts.mk.injEq] at hparts
  obtain ⟨hscheme, hauthority, htail⟩ := hparts
  have hhosts : named.hosts = named'.hosts := by
    have hlast := congrArg afterLastAt? hauthority
    rw [afterLastAt?_append _ h.last, afterLastAt?_append _ h'.last] at hlast
    exact Option.some.inj hlast
  have hinfo : named.info = named'.info := by
    rw [hhosts] at hauthority
    exact List.append_cancel_right hauthority
  exact Named.ext hscheme hinfo hhosts htail

theorem Parts.Of.exists_named (h : parts.Of uri) (hat : '@' ∈ parts.authority) :
    ∃ named : Named, named.parts = parts ∧ named.Of uri := by
  obtain ⟨info, hosts, hauthority, hlast⟩ := exists_lastAt hat
  have hparts : Named.parts ⟨parts.scheme, info, hosts, parts.tail⟩ = parts := by
    rw [Named.parts, ← hauthority]
  exact ⟨_, hparts, hparts ▸ h, hlast⟩

theorem Named.Of.masked (h : named.Of uri) : named.masked.Of named.masked.parts.text := by
  obtain ⟨⟨-, first, ⟨hslash, hquery⟩, ends⟩, last⟩ := h
  simp only [Named.parts, List.mem_append, List.mem_cons, not_or] at hslash hquery
  refine ⟨⟨rfl, first, ?_, ends⟩, last⟩
  simp [Named.parts, Named.masked, hslash, hquery]

-- ---------------------------------------------------------------------------
-- Masking
-- ---------------------------------------------------------------------------

theorem Parts.Of.mask (h : parts.Of uri) (hat : '@' ∉ parts.authority) : mask uri = uri := by
  simp only [StoreUri.mask, h.splitScheme?, h.takeWhile, afterLastAt?_of_not_mem hat]

theorem Named.Of.mask (h : named.Of uri) : mask uri = named.masked.parts.text := by
  have hlast : afterLastAt? named.parts.authority = some named.hosts :=
    afterLastAt?_append _ h.last
  simp only [StoreUri.mask, h.parts.splitScheme?, h.parts.takeWhile, h.parts.dropWhile, hlast]
  simp [Named.parts, Named.masked, Parts.text]

-- ---------------------------------------------------------------------------
-- Reading
-- ---------------------------------------------------------------------------

theorem parse_trim (text : String) : parse (trim text) = parse text := by
  rw [parse, parse, trim_trim]

theorem parse_memory_display : parse (display .memory) = .ok .memory := rfl

theorem exists_of_any_schemes (h : (schemes.any fun s => s.toList.isPrefixOf uri) = true) :
    ∃ scheme rest, uri = scheme ++ separator ++ rest ∧ ¬ separator <:+: scheme := by
  obtain ⟨s, hs, hstarts⟩ := List.any_eq_true.mp h
  obtain ⟨scheme, hscheme, single⟩ := exists_of_mem_schemes hs
  rw [List.isPrefixOf_iff_prefix, hscheme] at hstarts
  obtain ⟨rest, rfl⟩ := hstarts
  exact ⟨scheme, rest, rfl, single⟩

theorem of_parse_eq_mongo {text uri : String} (h : parse text = .ok (.mongo uri)) :
    uri = trim text ∧ ∃ parts : Parts, parts.Of uri.toList ∧ Supported parts.scheme := by
  rw [parse] at h
  split at h
  next => cases h
  next =>
    split at h
    next hany =>
      obtain rfl : trim text = uri := by simpa using h
      obtain ⟨scheme, rest, huri, single⟩ := exists_of_any_schemes hany
      obtain ⟨parts, hscheme, hparts⟩ := exists_parts single rest
      rw [huri, any_schemes_iff single, ← hscheme] at hany
      rw [← huri] at hparts
      exact ⟨rfl, parts, hparts, hany⟩
    next => cases h

theorem dropWhile_isBlank_of_supported (h : Supported scheme) :
    scheme.dropWhile isBlank = scheme := by
  have hstart : ∀ s ∈ schemes, s.toList.head?.any isBlank = false := by decide
  cases scheme with
  | nil => rfl
  | cons c scheme =>
    have hc : isBlank c = false := by simpa using hstart _ h
    rw [List.dropWhile_cons_of_neg (by simp [hc])]

theorem Named.text_eq_ofUser (named : Named) :
    named.parts.text = ofUser named.scheme named.info (named.hosts ++ named.tail) := by
  simp [Named.parts, Parts.text, ofUser]

/-- Masking leaves a trimmed URI trimmed. -/
theorem Named.Of.parse_masked {uri : String} (h : named.Of uri.toList)
    (supported : Supported named.scheme) (trimmed : trim uri = uri) :
    parse (String.ofList named.masked.parts.text) =
      .ok (.mongo (String.ofList named.masked.parts.text)) := by
  have hscheme := dropWhile_isBlank_of_supported supported
  have hchars : trimChars uri.toList = uri.toList := by
    rw [← String.toList_ofList (l := trimChars uri.toList)]
    exact congrArg String.toList trimmed
  have hrest : dropTrailing isBlank (named.hosts ++ named.tail) = named.hosts ++ named.tail := by
    rw [h.parts.whole, Named.text_eq_ofUser, trimChars_ofUser, hscheme] at hchars
    simpa [ofUser] using hchars
  have hparse := parse_ofUser h.parts.first "***".toList (named.hosts ++ named.tail)
  simp only [Named.parts, hscheme, hrest, if_pos supported] at hparse
  rw [Named.text_eq_ofUser]
  exact hparse

-- ---------------------------------------------------------------------------
-- Showing
-- ---------------------------------------------------------------------------

structure Shown (uri shown : String) : Prop where
  apart : ∃! parts : Parts, parts.Of uri.toList
  plain : ∀ parts : Parts, parts.Of uri.toList → '@' ∉ parts.authority →
    shown = uri ∧ parse shown = .ok (.mongo uri)
  named : ∀ parts : Parts, parts.Of uri.toList → '@' ∈ parts.authority →
    ∃! named : Named, named.Of uri.toList
  masked : ∀ named : Named, named.Of uri.toList →
    shown = String.ofList (named.scheme ++ "://***@".toList ++ named.hosts ++ named.tail)
  again : parse shown = .ok (.mongo shown)
  stable : (StoreUri.mongo shown).display = shown ∧ (StoreUri.mongo shown).detail = shown
  bytes : maskBytes uri.toUTF8.toList = .ok shown.toUTF8.toList

theorem Named.text_masked (named : Named) :
    named.masked.parts.text = named.scheme ++ "://***@".toList ++ named.hosts ++ named.tail := by
  simp [Named.parts, Named.masked, Parts.text, separator]

theorem Parts.Of.display {uri : String} (h : parts.Of uri.toList) (hat : '@' ∉ parts.authority) :
    display (.mongo uri) = uri := by
  rw [StoreUri.display, h.mask hat, String.ofList_toList]

theorem Named.Of.display {uri : String} (h : named.Of uri.toList) :
    display (.mongo uri) = String.ofList named.masked.parts.text := by
  rw [StoreUri.display, h.mask]

theorem display_display {uri : String} (h : parts.Of uri.toList) :
    display (.mongo (display (.mongo uri))) = display (.mongo uri) := by
  by_cases hat : '@' ∈ parts.authority
  · obtain ⟨named, -, hnamed⟩ := h.exists_named hat
    -- what is masked has parts of its own, and masking them again changes none
    have hmasked := hnamed.masked
    rw [← String.toList_ofList (l := named.masked.parts.text)] at hmasked
    rw [hnamed.display, hmasked.display]
    rfl
  · rw [h.display hat, h.display hat]

theorem parse_display {uri : String} (h : parts.Of uri.toList) (supported : Supported parts.scheme)
    (trimmed : trim uri = uri) (accepted : parse uri = .ok (.mongo uri)) :
    parse (display (.mongo uri)) = .ok (.mongo (display (.mongo uri))) := by
  by_cases hat : '@' ∈ parts.authority
  · obtain ⟨named, rfl, hnamed⟩ := h.exists_named hat
    rw [hnamed.display]
    exact hnamed.parse_masked supported trimmed
  · rw [h.display hat]
    exact accepted

theorem shown_display {uri : String} (h : parts.Of uri.toList) (supported : Supported parts.scheme)
    (trimmed : trim uri = uri) (accepted : parse uri = .ok (.mongo uri)) :
    Shown uri (display (.mongo uri)) where
  apart := ⟨parts, h, fun other hother => hother.unique h⟩
  plain parts' h' hat := by
    rw [h'.display hat]
    exact ⟨rfl, accepted⟩
  named parts' h' hat := by
    obtain ⟨named, -, hnamed⟩ := h'.exists_named hat
    exact ⟨named, hnamed, fun other hother => hother.unique hnamed⟩
  masked named hnamed := by rw [hnamed.display, Named.text_masked]
  again := parse_display h supported trimmed accepted
  stable := ⟨display_display h, display_display h⟩
  bytes := by
    rw [toList_toUTF8, toList_toUTF8, maskBytes_encode, StoreUri.display, String.toList_ofList]

/-- What is read is shown without who is named in it, and can be read again from what is shown. -/
theorem display_exact {text : String} {store : StoreUri} (accepted : parse text = .ok store) :
    store.detail = store.display ∧
      ((store = .memory ∧ parse store.display = .ok .memory) ∨
        ∃ uri, store = .mongo uri ∧ uri = trim text ∧ Shown uri store.display) := by
  refine ⟨rfl, ?_⟩
  cases store with
  | memory => exact .inl ⟨rfl, parse_memory_display⟩
  | mongo uri =>
    obtain ⟨rfl, parts, hparts, supported⟩ := of_parse_eq_mongo accepted
    rw [← parse_trim] at accepted
    exact .inr ⟨_, rfl, rfl, shown_display hparts supported (trim_trim text) accepted⟩

theorem display_exact_of_many_signs :
    let text := " mongodb://jörg@home:p@ss@db.local/a@b?c=d://e@f\n"
    let uri := "mongodb://jörg@home:p@ss@db.local/a@b?c=d://e@f"
    let shown := "mongodb://***@db.local/a@b?c=d://e@f"
    parse text = .ok (.mongo uri) ∧ (StoreUri.mongo uri).display = shown ∧ Shown uri shown := by
  intro text uri shown
  have haccepted : parse text = .ok (.mongo uri) := by decide +kernel
  have hshown : (StoreUri.mongo uri).display = shown := by decide +kernel
  refine ⟨haccepted, hshown, ?_⟩
  obtain ⟨-, ⟨hmemory, -⟩ | ⟨_, huri, -, h⟩⟩ := display_exact haccepted
  · cases hmemory
  · obtain rfl := StoreUri.mongo.inj huri
    rwa [hshown] at h

end StoreUri

end Menagerie
