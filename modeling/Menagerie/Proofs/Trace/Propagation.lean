import Mathlib
import Menagerie.Proofs.Metadata
import Menagerie.Trace.Propagation

/-!
# Traces carried across calls

A context that is written as a parent reads as itself: `read?_parentText`. Carrying it changes
nothing else in the metadata: `interceptors_frame`. Whether a handler goes on with the caller's
trace is a matter of when its span starts: `continues_iff`.
-/

namespace Menagerie

namespace Trace

variable {c parent : Context} {m incoming outgoing : Metadata} {subscriber : Subscriber}
  {ids : Identifiers} {key : String}

-- ---------------------------------------------------------------------------
-- Parents
-- ---------------------------------------------------------------------------

namespace Context

theorem readId?_hexText {bound width n : Nat} (small : n < bound) :
    readId? bound (Text.hexText width n).toList = some n := by
  have hupper : ∀ c ∈ "0123456789abcdef".toList, c.isUpper = false := by simp
  rw [readId?, if_neg, Text.readHex?_hexText small]
  simp only [List.any_eq_true, not_exists, not_and, Bool.not_eq_true]
  exact fun c hc => hupper c (Text.mem_hexText hc)

def flagsText (c : Context) : String := if c.sampled then "01" else "00"

theorem parentText_toList (c : Context) :
    c.parentText.toList = "00".toList ++ '-' :: (c.traceText.toList ++ '-' ::
      (c.spanText.toList ++ '-' :: c.flagsText.toList)) := by
  simp [parentText, flagsText]

theorem flagsText_cases (c : Context) : c.flagsText = "00" ∨ c.flagsText = "01" := by
  unfold flagsText
  split
  · exact .inr rfl
  · exact .inl rfl

theorem mem_flagsText {d : Char} (h : d ∈ c.flagsText.toList) :
    d ∈ "0123456789abcdef".toList := by
  have hdigits : (∀ d ∈ "00".toList, d ∈ "0123456789abcdef".toList) ∧
      ∀ d ∈ "01".toList, d ∈ "0123456789abcdef".toList := by simp
  rcases c.flagsText_cases with hflags | hflags
  · exact hdigits.1 d (hflags ▸ h)
  · exact hdigits.2 d (hflags ▸ h)

theorem mem_parentText {d : Char} (h : d ∈ c.parentText.toList) :
    d ∈ "-0123456789abcdef".toList := by
  have hdigit : ∀ d ∈ "0123456789abcdef".toList, d ∈ "-0123456789abcdef".toList := by simp
  simp only [parentText_toList, List.mem_append, List.mem_cons] at h
  rcases h with hversion | rfl | htrace | rfl | hspan | rfl | hflags
  · have hzero : ∀ d ∈ "00".toList, d ∈ "-0123456789abcdef".toList := by simp
    exact hzero d hversion
  · decide
  · exact hdigit d (Text.mem_hexText htrace)
  · decide
  · exact hdigit d (Text.mem_hexText hspan)
  · decide
  · exact hdigit d (mem_flagsText hflags)

theorem splitTerminated_parentText (c : Context) :
    Text.splitTerminated '-' c.parentText.toList =
      ["00".toList, c.traceText.toList, c.spanText.toList, c.flagsText.toList] := by
  have hdash : '-' ∉ "0123456789abcdef".toList := by decide
  have htrace : '-' ∉ c.traceText.toList := fun h => hdash (Text.mem_hexText h)
  have hspan : '-' ∉ c.spanText.toList := fun h => hdash (Text.mem_hexText h)
  have hflags : '-' ∉ c.flagsText.toList := fun h => hdash (mem_flagsText h)
  have hparts : Text.split '-' c.parentText.toList =
      ["00".toList, c.traceText.toList, c.spanText.toList, c.flagsText.toList] := by
    rw [parentText_toList, Text.split_append_cons (by decide), Text.split_append_cons htrace,
      Text.split_append_cons hspan, Text.split_of_not_mem hflags]
  have hlast : c.flagsText.toList ≠ [] := by
    rcases c.flagsText_cases with h | h <;> rw [h] <;> decide
  simp [Text.splitTerminated, hparts, hlast]

/-- A context that is written reads as itself, with the vendors' entries that come beside it. -/
theorem read?_parentText (valid : c.isValid = true) (vendors : List Char) :
    read? c.parentText.toList vendors = some { c with vendors := Vendors.read vendors } := by
  have hblank : ∀ d ∈ "-0123456789abcdef".toList, Text.isBlank d = false := by
    simp [Text.isBlank]
  have htrim : Text.trimChars c.parentText.toList = c.parentText.toList :=
    Text.trimChars_of_not_blank fun d hd => hblank d (mem_parentText hd)
  have htrace : readId? (1 <<< 128) c.traceText.toList = some c.trace.toNat :=
    readId?_hexText c.trace.isLt
  have hspan : readId? (1 <<< 64) c.spanText.toList = some c.span.toNat :=
    readId?_hexText c.span.isLt
  have hflags : Text.readHex? 256 c.flagsText.toList = some (if c.sampled then 1 else 0) := by
    unfold flagsText
    split <;> decide
  have hversion : Text.readHex? 256 "00".toList = some 0 := by decide
  rw [read?, htrim, splitTerminated_parentText, readParts?]
  simp only [hversion, htrace, hspan, hflags, lastVersion, Option.bind_eq_bind, Option.bind_some]
  have hvalid : ∀ sampled vendors, isValid ⟨c.trace, c.span, sampled, vendors⟩ = true :=
    fun _ _ => valid
  cases hsampled : c.sampled <;> simp [hvalid]

end Context

-- ---------------------------------------------------------------------------
-- Headers
-- ---------------------------------------------------------------------------

open Metadata

theorem textKey_parentHeader : TextKey parentHeader :=
  ⟨by decide, by decide, by simp [parentHeader, isKeyChar], by decide⟩

theorem lowerCase_parentHeader : lowerCase parentHeader = parentHeader := by decide

theorem lowerCase_vendorHeader : lowerCase vendorHeader = vendorHeader := by decide

theorem plain_parentText (c : Context) : Plain c.parentText := by
  have hprintable : ∀ d ∈ "-0123456789abcdef".toList, 32 ≤ d.toNat ∧ d.toNat < 127 := by simp
  exact fun d hd => .inr (hprintable d (Context.mem_parentText hd))

theorem injectBy_of_valid (rules : Rules) (m : Metadata) (valid : c.isValid = true) :
    injectBy rules (some c) m =
      (m.setBy rules parentHeader c.parentText).setBy rules vendorHeader
        (String.ofList c.vendors.text) :=
  if_pos valid

section

variable {rules : Rules} (lawful : rules.Lawful) (m : Metadata) (valid : c.isValid = true)

include lawful valid

theorem getAll_parent_injectBy (hkey : lowerCase key = parentHeader) :
    (injectBy rules (some c) m).getAll key = [bytesOf c.parentText] := by
  have hother : lowerCase key ≠ lowerCase vendorHeader := by
    rw [hkey, lowerCase_vendorHeader]
    decide
  have hallowed : rules.Allows parentHeader c.parentText :=
    lawful.allows textKey_parentHeader (plain_parentText c)
  rw [injectBy_of_valid rules m valid, getAll_setBy_of_ne _ _ _ hother]
  exact (replaces_setBy m hallowed).replaced key (hkey.trans lowerCase_parentHeader.symm)

theorem ofMetadata?_injectBy :
    ∃ vendors, Context.ofMetadata? (injectBy rules (some c) m) = some { c with vendors } := by
  have htext : (injectBy rules (some c) m).text? parentHeader = some c.parentText := by
    rw [text?, get?, getAll_parent_injectBy lawful m valid lowerCase_parentHeader]
    exact textOf?_bytesOf (plain_parentText c)
  refine ⟨Vendors.read (((injectBy rules (some c) m).text? vendorHeader).getD "").toList, ?_⟩
  simp only [Context.ofMetadata?, htext, Option.getD_some, Context.read?_parentText valid]

end

theorem Context.isValid_of_readParts? {parts : List (List Char)} {vendors : Vendors}
    (h : readParts? parts vendors = some c) : c.isValid = true := by
  unfold readParts? at h
  split at h
  next version trace span flags more =>
    obtain ⟨version, -, h⟩ := Option.bind_eq_some_iff.mp h
    split at h
    · cases h
    obtain ⟨trace, -, h⟩ := Option.bind_eq_some_iff.mp h
    obtain ⟨span, -, h⟩ := Option.bind_eq_some_iff.mp h
    obtain ⟨flags, -, h⟩ := Option.bind_eq_some_iff.mp h
    split at h
    · cases h
    obtain ⟨valid, hc⟩ := Option.ite_none_right_eq_some.mp h
    exact Option.some.inj hc ▸ valid
  next => cases h

structure Carries (m : Metadata) (trace : TraceId) (span : SpanId) : Prop where
  one : (m.getAll parentHeader).length = 1
  names : ∃ c, Context.ofMetadata? m = some c ∧ c.trace = trace ∧ c.span = span

theorem Carries.unique {trace trace' : TraceId} {span span' : SpanId} (h : Carries m trace span)
    (h' : Carries m trace' span') : trace = trace' ∧ span = span' := by
  obtain ⟨c, hc, rfl, rfl⟩ := h.names
  obtain ⟨c', hc', rfl, rfl⟩ := h'.names
  obtain rfl : c = c' := Option.some.inj (hc.symm.trans hc')
  exact ⟨rfl, rfl⟩

theorem carries_inject (m : Metadata) (valid : c.isValid = true) :
    Carries (inject (some c) m) c.trace c.span := by
  obtain ⟨vendors, hread⟩ := ofMetadata?_injectBy Rules.http_lawful m valid
  refine ⟨?_, _, hread, rfl, rfl⟩
  rw [inject, getAll_parent_injectBy Rules.http_lawful m valid lowerCase_parentHeader]
  rfl

/-- The identifiers are not those of the caller. -/
structure Identifiers.Fresh (ids : Identifiers) (incoming : Metadata) : Prop where
  trace_ne_zero : ids.trace ≠ 0
  span_ne_zero : ids.span ≠ 0
  apart : ∀ parent, Context.ofMetadata? incoming = some parent →
    ids.trace ≠ parent.trace ∧ ids.span ≠ parent.span

/-- A request that is sent from the span in which another one is handled. -/
def onward (subscriber : Subscriber) (ids : Identifiers) (incoming outgoing : Metadata) :
    Metadata :=
  inject (some (handling subscriber ids (arrive incoming))) outgoing

/-- What a caller expects of a request that is sent on: its own trace and another span, or a new
trace if the caller has none. -/
def Continues (ids : Identifiers) (incoming sent : Metadata) : Prop :=
  match Context.ofMetadata? incoming with
  | some parent => ∃ span, span ≠ parent.span ∧ Carries sent parent.trace span
  | none => Carries sent ids.trace ids.span

theorem handling_of_startsOnEntry (ids : Identifiers) (request : Arrived)
    (h : subscriber.startsOnEntry = true) :
    handling subscriber ids request = { trace := ids.trace, span := ids.span, sampled := true } := by
  simp [handling, Span.enter, h, Span.adopt, Span.context]

theorem handling_of_not_startsOnEntry (ids : Identifiers) (request : Arrived)
    (h : subscriber.startsOnEntry = false) :
    handling subscriber ids request = (Span.waiting request.parent).context ids := by
  simp [handling, Span.enter, h, Span.adopt]

theorem carries_onward_of_startsOnEntry (fresh : ids.Fresh incoming)
    (h : subscriber.startsOnEntry = true) :
    Carries (onward subscriber ids incoming outgoing) ids.trace ids.span := by
  rw [onward, handling_of_startsOnEntry ids _ h]
  exact carries_inject _ (decide_eq_true ⟨fresh.trace_ne_zero, fresh.span_ne_zero⟩)

theorem carries_onward_of_no_parent (fresh : ids.Fresh incoming)
    (hparent : Context.ofMetadata? incoming = none) :
    Carries (onward subscriber ids incoming outgoing) ids.trace ids.span := by
  cases hstarts : subscriber.startsOnEntry with
  | true => exact carries_onward_of_startsOnEntry fresh hstarts
  | false =>
    rw [onward, handling_of_not_startsOnEntry ids _ hstarts, arrive, hparent]
    exact carries_inject _ (decide_eq_true ⟨fresh.trace_ne_zero, fresh.span_ne_zero⟩)

theorem carries_onward_of_parent (fresh : ids.Fresh incoming)
    (h : subscriber.startsOnEntry = false) (hparent : Context.ofMetadata? incoming = some parent) :
    Carries (onward subscriber ids incoming outgoing) parent.trace ids.span := by
  have hvalid : parent.trace ≠ 0 ∧ parent.span ≠ 0 :=
    of_decide_eq_true (Context.isValid_of_readParts? hparent)
  rw [onward, handling_of_not_startsOnEntry ids _ h, arrive, hparent]
  exact carries_inject _ (decide_eq_true ⟨hvalid.1, fresh.span_ne_zero⟩)

/-- The caller's trace goes on exactly if there is none or the span has not started when the parent
is given to it. -/
theorem continues_iff (fresh : ids.Fresh incoming) :
    Continues ids incoming (onward subscriber ids incoming outgoing) ↔
      subscriber.startsOnEntry = false ∨ Context.ofMetadata? incoming = none := by
  unfold Continues
  cases hparent : Context.ofMetadata? incoming with
  | none => simpa using carries_onward_of_no_parent fresh hparent
  | some parent =>
    obtain ⟨htrace, hspan⟩ := fresh.apart parent hparent
    simp only [reduceCtorEq, or_false]
    constructor
    · rintro ⟨span, -, hcarries⟩
      by_contra hstarts
      have hnew : Carries (onward subscriber ids incoming outgoing) ids.trace ids.span :=
        carries_onward_of_startsOnEntry fresh (Bool.of_not_eq_false hstarts)
      exact htrace (hnew.unique hcarries).1
    · intro hstarts
      exact ⟨ids.span, hspan, carries_onward_of_parent fresh hstarts hparent⟩

def callerHeaders : Metadata :=
  ⟨[(parentHeader, bytesOf "00-0af7651916cd43dd8448eb211c80319c-b7ad6b7169203331-01")]⟩

def spareIdentifiers : Identifiers := ⟨0x9d3c5a1be07f4628b1c4d2e6f8a09375, 0xe1b7c4925d08f36a⟩

theorem ofMetadata?_callerHeaders : Context.ofMetadata? callerHeaders =
    some ⟨0x0af7651916cd43dd8448eb211c80319c, 0xb7ad6b7169203331, true, []⟩ := by
  cbv

theorem fresh_spareIdentifiers : spareIdentifiers.Fresh callerHeaders where
  trace_ne_zero := by decide
  span_ne_zero := by decide
  apart parent hparent := by
    cases ofMetadata?_callerHeaders.symm.trans hparent
    decide

theorem continues_iff_of_waiting :
    spareIdentifiers.Fresh callerHeaders ∧
      Continues spareIdentifiers callerHeaders
        (onward ⟨false⟩ spareIdentifiers callerHeaders Metadata.empty) :=
  ⟨fresh_spareIdentifiers, (continues_iff fresh_spareIdentifiers).mpr (.inl rfl)⟩

/-- With what the programs install, the caller's trace ends at the server. -/
theorem not_continues_of_installed :
    spareIdentifiers.Fresh callerHeaders ∧
      ¬ Continues spareIdentifiers callerHeaders
        (onward .installed spareIdentifiers callerHeaders Metadata.empty) := by
  refine ⟨fresh_spareIdentifiers, ?_⟩
  rw [Continues, ofMetadata?_callerHeaders]
  rintro ⟨span, -, hcarries⟩
  have hnew : Carries (onward .installed spareIdentifiers callerHeaders Metadata.empty)
      spareIdentifiers.trace spareIdentifiers.span :=
    carries_onward_of_startsOnEntry fresh_spareIdentifiers rfl
  exact absurd (hnew.unique hcarries).1 (by decide)

end Trace

end Menagerie
