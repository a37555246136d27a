import Mathlib.Data.List.Induction
import Mathlib.Data.List.Nodup
import Menagerie.Document

/-!
# Creatures of documents

`Describes` says of a creature and of the values under some keys that the creature is what these
values stand for, each field by itself; what a value stands for is a parameter, the `Sense`.
`toCreature_exact`: the creature of a document is the one that its values describe. Seven keys matter,
each of them for one field; neither the other keys nor the order of insertion do.
-/

namespace Menagerie

-- ---------------------------------------------------------------------------
-- What values stand for
-- ---------------------------------------------------------------------------

def FoundOr {α : Type} (p : α → Prop) (default a : α) : Prop := p a ∨ a = default ∧ ∀ b, ¬ p b

theorem foundOr_iff {α : Type} {p : α → Prop} {o : Option α} (h : ∀ b, p b ↔ o = some b)
    (default a : α) : FoundOr p default a ↔ a = o.getD default := by
  cases o with
  | none => simp [FoundOr, h]
  | some b => simp [FoundOr, h, eq_comm]

/-- What values of some kind stand for, where they stand for anything. -/
structure Sense (V : Type) where
  identity : V → String → Prop
  text : V → String → Prop
  count : V → UInt32 → Prop

def Under {V α : Type} (get? : String → Option V) (key : String) (stands : V → α → Prop) (a : α) :
    Prop :=
  ∃ v, get? key = some v ∧ stands v a

/-- Each field of the creature is what the values under its keys stand for. The second key of the
identity is read when there is no value under the first, that of the name when there is no text. -/
structure Describes {V : Type} (s : Sense V) (get? : String → Option V) (c : Creature) : Prop where
  id : FoundOr (fun t => Under get? "_id" s.identity t ∨
    get? "_id" = none ∧ Under get? "id" s.identity t) "" c.id
  name : FoundOr (fun t => Under get? "name" s.text t ∨
    (∀ t', ¬ Under get? "name" s.text t') ∧ Under get? "title" s.text t) "" c.name
  channelOffset : FoundOr (Under get? "channel_offset" s.count) 0 c.channelOffset
  audioChannel : FoundOr (Under get? "audio_channel" s.count) 0 c.audioChannel
  notes : FoundOr (Under get? "notes" s.text) "" c.notes

section Map

variable {V W : Type} {f : V → W} {get? : String → Option V}

structure Sense.Kept (f : V → W) (before : Sense V) (after : Sense W) : Prop where
  identity : ∀ v t, after.identity (f v) t ↔ before.identity v t
  text : ∀ v t, after.text (f v) t ↔ before.text v t
  count : ∀ v n, after.count (f v) n ↔ before.count v n

theorem under_map {α : Type} {before : V → α → Prop} {after : W → α → Prop}
    (h : ∀ v a, after (f v) a ↔ before v a) (get? : String → Option V) (key : String) :
    Under (fun key => (get? key).map f) key after = Under get? key before := by
  funext a
  simp [Under, h]

theorem describes_map {before : Sense V} {after : Sense W} (h : Sense.Kept f before after)
    {c : Creature} :
    Describes after (fun key => (get? key).map f) c ↔ Describes before get? c := by
  have hidentity := under_map h.identity get?
  have htext := under_map h.text get?
  have hcount := under_map h.count get?
  constructor
  · rintro ⟨hid, hname, hoffset, haudio, hnotes⟩
    simp only [hidentity, htext, hcount, Option.map_eq_none_iff] at hid hname hoffset haudio hnotes
    exact ⟨hid, hname, hoffset, haudio, hnotes⟩
  · rintro ⟨hid, hname, hoffset, haudio, hnotes⟩
    constructor <;> simpa only [hidentity, htext, hcount, Option.map_eq_none_iff]

end Map

namespace Json

inductive Identity : Value → String → Prop where
  | string (s : String) : Identity (.string s) s
  | number (n : Number) : Identity (.number n) n.text
  | object {members : Members} {s : String} (h : members.get? "$oid" = some (.string s)) :
      Identity (.object members) s

def sense : Sense Value where
  identity := Identity
  text v t := v = .string t
  count v n := v = .number (.integer n.toNat)

end Json

namespace Document

variable {d d' : Document} {key : String}

theorem string?_eq_some_iff {v : Json.Value} {t : String} : v.string? = some t ↔ v = .string t := by
  cases v <;> simp [Json.Value.string?]

theorem natural?_eq_some_iff {v : Json.Value} {n : Nat} :
    v.natural? = some n ↔ v = .number (.integer n) := by
  constructor
  · intro h
    unfold Json.Value.natural? at h
    split at h <;> cases h
    rfl
  · rintro rfl
    rfl

theorem identity?_eq_some_iff {v : Json.Value} {t : String} :
    identity? v = some t ↔ Json.Identity v t := by
  constructor
  · intro h
    cases v with
    | string s =>
      obtain rfl : s = t := Option.some.inj h
      exact .string s
    | number n =>
      obtain rfl : n.text = t := Option.some.inj h
      exact .number n
    | object members =>
      obtain ⟨v, hv, ht⟩ := Option.bind_eq_some_iff.mp h
      rw [string?_eq_some_iff.mp ht] at hv
      exact .object hv
    | null | bool | array => cases h
  · rintro (_ | _ | hoid)
    · rfl
    · rfl
    · rw [identity?, hoid]
      rfl

theorem text?_eq_some_iff {t : String} :
    d.text? key = some t ↔ Under d.get? key Json.sense.text t := by
  simp only [text?, Option.bind_eq_some_iff, string?_eq_some_iff, Under, Json.sense]

-- ---------------------------------------------------------------------------
-- The fields
-- ---------------------------------------------------------------------------

theorem foundOr_id_iff {t : String} :
    FoundOr (fun t => Under d.get? "_id" Json.sense.identity t ∨
      d.get? "_id" = none ∧ Under d.get? "id" Json.sense.identity t) "" t ↔ t = d.id := by
  refine foundOr_iff (fun t => ?_) "" t
  cases h : d.get? "_id" with
  | none => simp [Under, Json.sense, Option.bind_eq_some_iff, identity?_eq_some_iff, h]
  | some v => simp [Under, Json.sense, identity?_eq_some_iff, h]

theorem foundOr_name_iff {t : String} :
    FoundOr (fun t => Under d.get? "name" Json.sense.text t ∨
      (∀ t', ¬ Under d.get? "name" Json.sense.text t') ∧
        Under d.get? "title" Json.sense.text t) "" t ↔ t = d.name := by
  refine foundOr_iff (fun t => ?_) "" t
  simp only [← text?_eq_some_iff]
  cases d.text? "name" <;> simp

theorem foundOr_text_iff {t : String} :
    FoundOr (Under d.get? key Json.sense.text) "" t ↔ t = (d.text? key).getD "" :=
  foundOr_iff (fun _ => text?_eq_some_iff.symm) "" t

theorem foundOr_channel_iff {n : UInt32} :
    FoundOr (Under d.get? key Json.sense.count) 0 n ↔ n = d.channel key := by
  have hchannel : d.channel key = (((d.get? key).bind (·.natural?)).bind fun n =>
      if n < UInt32.size then some (UInt32.ofNat n) else none).getD 0 := by
    rw [channel]
    cases (d.get? key).bind (·.natural?) with
    | none => rfl
    | some n => by_cases h : n < UInt32.size <;> simp [h]
  rw [hchannel]
  refine foundOr_iff (fun n => ?_) 0 n
  simp only [Under, Json.sense, Option.bind_eq_some_iff, natural?_eq_some_iff]
  constructor
  · rintro ⟨v, hv, rfl⟩
    exact ⟨n.toNat, ⟨_, hv, rfl⟩, by simp [n.toNat_lt_size]⟩
  · rintro ⟨m, ⟨v, hv, rfl⟩, hm⟩
    split at hm
    next hlt =>
      cases hm
      exact ⟨_, hv, by rw [UInt32.toNat_ofNat_of_lt' hlt]⟩
    next => cases hm

theorem describes_iff {c : Creature} : Describes Json.sense d.get? c ↔ c = d.toCreature := by
  constructor
  · rintro ⟨hid, hname, hoffset, haudio, hnotes⟩
    cases c
    rw [toCreature, Creature.mk.injEq]
    exact ⟨foundOr_id_iff.mp hid, foundOr_name_iff.mp hname, foundOr_channel_iff.mp hoffset,
      foundOr_channel_iff.mp haudio, foundOr_text_iff.mp hnotes⟩
  · rintro rfl
    exact ⟨foundOr_id_iff.mpr rfl, foundOr_name_iff.mpr rfl, foundOr_channel_iff.mpr rfl,
      foundOr_channel_iff.mpr rfl, foundOr_text_iff.mpr rfl⟩

-- ---------------------------------------------------------------------------
-- Keys
-- ---------------------------------------------------------------------------

def DependsOn {α : Type} (keys : List String) (f : Document → α) : Prop :=
  ∀ d d' : Document, (∀ key ∈ keys, d.get? key = d'.get? key) → f d = f d'

theorem DependsOn.mono {α : Type} {keys keys' : List String} {f : Document → α}
    (h : DependsOn keys f) (sub : keys ⊆ keys') : DependsOn keys' f :=
  fun d d' hsame => h d d' fun key hkey => hsame key (sub hkey)

theorem dependsOn_text? (key : String) : DependsOn [key] (·.text? key) := by
  intro d d' h
  simp only [text?, h key List.mem_cons_self]

theorem dependsOn_channel (key : String) : DependsOn [key] (·.channel key) := by
  intro d d' h
  simp only [channel, h key List.mem_cons_self]

theorem dependsOn_id : DependsOn ["_id", "id"] id := by
  intro d d' h
  simp only [id, h "_id" (by simp), h "id" (by simp)]

theorem dependsOn_name : DependsOn ["name", "title"] name := by
  intro d d' h
  simp only [name, text?, h "name" (by simp), h "title" (by simp)]

def creatureKeys : List String :=
  ["_id", "id", "name", "title", "channel_offset", "audio_channel", "notes"]

theorem dependsOn_toCreature : DependsOn creatureKeys toCreature := by
  intro d d' h
  rw [toCreature, toCreature, Creature.mk.injEq]
  exact ⟨dependsOn_id.mono (by decide) d d' h, dependsOn_name.mono (by decide) d d' h,
    (dependsOn_channel _).mono (by decide) d d' h, (dependsOn_channel _).mono (by decide) d d' h,
    congrArg (·.getD "") ((dependsOn_text? _).mono (by decide) d d' h)⟩

theorem toCreature_insert (h : key ∉ creatureKeys) (d : Document) (value : Json.Value) :
    (d.insert key value).toCreature = d.toCreature := by
  refine dependsOn_toCreature _ _ fun other hother => ?_
  rw [get?_insert, if_neg]
  rintro rfl
  exact h hother

def without (d : Document) (key : String) : Document := ⟨d.members.filter (·.1 ≠ key)⟩

theorem get?_without (d : Document) (key other : String) :
    (d.without key).get? other = if other = key then none else d.get? other := by
  obtain ⟨members⟩ := d
  simp only [without, get?]
  induction members with
  | nil => simp [Json.Members.get?]
  | cons head rest ih =>
    obtain ⟨k, v⟩ := head
    by_cases hk : k = key <;> by_cases ho : k = other <;> grind [Json.Members.get?]

theorem toCreature_without (h : key ∉ creatureKeys) (d : Document) :
    (d.without key).toCreature = d.toCreature := by
  refine dependsOn_toCreature _ _ fun other hother => ?_
  rw [get?_without, if_neg]
  rintro rfl
  exact h hother

-- ---------------------------------------------------------------------------
-- Orders of insertion
-- ---------------------------------------------------------------------------

variable {entries entries' : List (String × Json.Value)}

def ofEntries (entries : List (String × Json.Value)) : Document :=
  entries.foldl (fun d e => d.insert e.1 e.2) empty

theorem get?_ofEntries (entries : List (String × Json.Value)) (key : String) :
    (ofEntries entries).get? key = entries.reverse.lookup key := by
  induction entries using List.reverseRecOn with
  | nil => rfl
  | append_singleton entries e ih =>
    rw [ofEntries, List.foldl_append, List.foldl_cons, List.foldl_nil, ← ofEntries, get?_insert, ih,
      List.reverse_concat, List.lookup_cons]
    by_cases h : key = e.1
    · simp [h]
    · have hne : (key == e.1) = false := by simp [h]
      simp [h, hne]

theorem lookup_eq_some_iff_mem {value : Json.Value} (nodup : (entries.map Prod.fst).Nodup) :
    entries.lookup key = some value ↔ (key, value) ∈ entries := by
  induction entries with
  | nil => simp
  | cons e rest ih =>
    obtain ⟨k, v⟩ := e
    obtain ⟨hhead, hrest⟩ := List.nodup_cons.mp nodup
    by_cases h : key = k
    · subst h
      have hother : (key, value) ∉ rest := fun hmem => hhead (List.mem_map.mpr ⟨_, hmem, rfl⟩)
      simp [hother, eq_comm]
    · have hne : (key == k) = false := by simp [h]
      simp [List.lookup_cons, hne, h, ih hrest]

theorem get?_ofEntries_perm (perm : entries.Perm entries') (nodup : (entries.map Prod.fst).Nodup)
    (key : String) : (ofEntries entries).get? key = (ofEntries entries').get? key := by
  have nodup' : (entries'.map Prod.fst).Nodup := (perm.map Prod.fst).nodup_iff.mp nodup
  refine Option.ext fun value => ?_
  rw [get?_ofEntries, get?_ofEntries,
    lookup_eq_some_iff_mem (by rwa [List.map_reverse, List.nodup_reverse]),
    lookup_eq_some_iff_mem (by rwa [List.map_reverse, List.nodup_reverse]), List.mem_reverse,
    List.mem_reverse, perm.mem_iff]

/-- A creature is what the values of its document describe. No more than seven keys matter, each for
one field, and documents that differ in other keys or in the order of insertion have the same
creature. -/
theorem toCreature_exact (d : Document) :
    (∀ c, Describes Json.sense d.get? c ↔ c = d.toCreature) ∧
      (DependsOn ["_id", "id"] (·.toCreature.id) ∧ DependsOn ["name", "title"] (·.toCreature.name) ∧
        DependsOn ["channel_offset"] (·.toCreature.channelOffset) ∧
        DependsOn ["audio_channel"] (·.toCreature.audioChannel) ∧
        DependsOn ["notes"] (·.toCreature.notes)) ∧
      (∀ key, key ∉ creatureKeys → (∀ value, (d.insert key value).toCreature = d.toCreature) ∧
        (d.without key).toCreature = d.toCreature) ∧
      ∀ entries entries' : List (String × Json.Value), entries.Perm entries' →
        (entries.map Prod.fst).Nodup →
        (ofEntries entries).toCreature = (ofEntries entries').toCreature := by
  refine ⟨fun c => describes_iff, ⟨dependsOn_id, dependsOn_name, dependsOn_channel _,
    dependsOn_channel _, fun d d' h => congrArg (·.getD "") (dependsOn_text? "notes" d d' h)⟩,
    fun key h => ⟨toCreature_insert h d, toCreature_without h d⟩, ?_⟩
  intro entries entries' perm nodup
  exact dependsOn_toCreature _ _ fun key _ => get?_ofEntries_perm perm nodup key

end Document

end Menagerie
