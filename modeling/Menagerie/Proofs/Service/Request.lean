import Menagerie.Proofs.Service.Admission
import Menagerie.Proofs.Service.Projection

/-!
# From a request to its stream

What is known of a request while it waits for the store, of its finding and of its deadline, holds
until it has its stream (`Pending`), and so decides how the stream begins. `stream?_of_pending`
carries it on from there to every later state of the stream.
-/

namespace Menagerie.Service

def lookupFinding (s : Service) : Finding :=
  (s.find s.config.lookup.target s.config.lookup.filter).2

namespace Scene

variable {t : Scene} {n k : Nat} {W : Finding → Option Nat → Prop} {R : Stream.Scene → Prop}

/-- The call `n` has been taken up, and if it is a request that waits, then with a finding and a
deadline like these. -/
structure Pending (W : Finding → Option Nat → Prop) (n : Nat) (t : Scene) : Prop where
  there : n < t.service.calls.length
  waits : ∀ f deadline forgotten,
    t.service.calls[n]? = some (.listing (.finding f deadline forgotten)) → W f deadline

theorem Pending.happen (h : t.Pending W n) (e : Event) : (t.happen e).Pending W n := by
  refine ⟨Nat.lt_of_lt_of_le h.there (t.change e).length_calls, fun f d forgotten hnext => ?_⟩
  cases (t.change e).comes hnext with
  | same held => exact h.waits f d forgotten held
  | released held _ release =>
    rw [Call.release_eq_listing_iff.mp release.symm] at held
    exact h.waits f d forgotten held
  | steps _ step =>
    obtain ⟨-, steps, -⟩ := step
    cases steps
  | leaves _ held leaves =>
    cases leaves with
    | forgotten => exact h.waits f d _ held
  | enters place => exact absurd h.there (by omega)

/-- What is kept by all that happens to a stream holds of the stream of a request, if it holds from
the beginning, or from now on if the stream is there. -/
theorem stream?_of_pending (keep : ∀ st h, R st → R (Stream.Scene.happen st h))
    (pending : t.Pending W n) (recorded : t.Recorded)
    (already : t.service.calls[n]? = some (.listing (.opened k)) →
      ∃ st, t.stream? k = some st ∧ R st)
    (begins : t.service.streams.length ≤ k → ∀ f deadline, W f deadline →
      ∀ cursor channel forgotten now cancelled, f.result = .ok cursor →
        Stream.Channel.make? t.service.config.bufferSize = some channel → t.service.now ≤ now →
          R { feeder := fresh cursor deadline channel forgotten, now, cancelled })
    {events : List Event} (held : (t.run events).service.calls[n]? = some (.listing (.opened k))) :
    ∃ st, (t.run events).stream? k = some st ∧ R st := by
  -- The stream may begin at any event of the run, so what is known of the waiting call goes along.
  refine (Runs.invariant run (P := fun u => u.Pending W n ∧ u.Recorded ∧
    u.service.config = t.service.config ∧ t.service.now ≤ u.service.now ∧
    t.service.streams.length ≤ u.service.streams.length ∧
    (u.service.calls[n]? = some (.listing (.opened k)) → ∃ st, u.stream? k = some st ∧ R st))
    ?_ events ⟨pending, recorded, rfl, Nat.le_refl _, Nat.le_refl _, already⟩).2.2.2.2.2 held
  rintro u e ⟨hpending, hrecorded, hconfig, hnow, hlength, hstream⟩
  refine ⟨hpending.happen e, hrecorded.happen e, (u.config_happen e).trans hconfig,
    Nat.le_trans hnow (u.now_le_happen e), Nat.le_trans hlength (u.move e).length_streams,
    fun held => ?_⟩
  have goes_on (hopened : u.service.calls[n]? = some (.listing (.opened k))) :
      ∃ st, (u.happen e).stream? k = some st ∧ R st := by
    obtain ⟨st, hst, hr⟩ := hstream hopened
    obtain ⟨hs, hrun⟩ := stream?_run hst [e]
    exact ⟨_, hrun, Runs.invariant Stream.Scene.run keep hs hr⟩
  cases (u.change e).comes held with
  | same held => exact goes_on held
  | released held _ release =>
    rw [Call.release_eq_listing_iff.mp release.symm] at held
    exact goes_on held
  | steps own step =>
    obtain ⟨rfl, f, d, cursor, channel, forgotten, hopens⟩ := step.opens
    have hw := hpending.waits f d forgotten hopens.held
    have hmade := hopens.made
    rw [hconfig] at hmade
    subst own
    exact ⟨_, stream?_of_opens hopens (hrecorded.unheard _ (Nat.le_refl _)),
      begins hlength f d hw cursor channel forgotten _ _ hopens.result hmade hnow⟩
  | leaves _ _ leaves => cases leaves
  | enters _ enters => cases enters

-- ---------------------------------------------------------------------------
-- Requests that are taken up
-- ---------------------------------------------------------------------------

theorem calls_list_of_closed (closed : t.service.closed = true)
    (timeout : Option Timeout.Duration) :
    (t.happen (.list timeout)).service.calls = t.service.calls ++ [.listing .refused] := by
  simp only [happen, act, beginListing, closed]
  rfl

theorem calls_list_of_opened (opened : t.service.closed = false)
    (timeout : Option Timeout.Duration) :
    (t.happen (.list timeout)).service.calls = t.service.calls ++
      [.listing (.finding t.service.lookupFinding (timeout.map t.service.deadline) false)] := by
  simp only [happen, act, beginListing, opened]
  rfl

theorem pending_list (t : Scene) (timeout : Option Timeout.Duration) :
    (t.happen (.list timeout)).Pending (fun f deadline => f = t.service.lookupFinding ∧
        deadline = timeout.map t.service.deadline) t.service.calls.length ∧
      ∀ k, (t.happen (.list timeout)).service.calls[t.service.calls.length]? ≠
        some (.listing (.opened k)) := by
  cases hclosed : t.service.closed with
  | true =>
    have hcalls := calls_list_of_closed hclosed timeout
    refine ⟨⟨by simp [hcalls], fun f deadline forgotten held => ?_⟩, fun k held => ?_⟩ <;>
    · rw [hcalls, List.getElem?_concat_length] at held
      cases held
  | false =>
    have hcalls := calls_list_of_opened hclosed timeout
    refine ⟨⟨by simp [hcalls], fun f deadline forgotten held => ?_⟩, fun k held => ?_⟩
    · rw [hcalls, List.getElem?_concat_length] at held
      cases held
      exact ⟨rfl, rfl⟩
    · rw [hcalls, List.getElem?_concat_length] at held
      cases held

/-- The stream of a request began with the cursor that the store had for it when it was taken up. -/
theorem origin_of_request {cursor : Stream.Cursor} (recorded : t.Recorded)
    (result : t.service.lookupFinding.result = .ok cursor) (timeout : Option Timeout.Duration)
    {events : List Event}
    (held : ((t.happen (.list timeout)).run events).service.calls[t.service.calls.length]? =
      some (.listing (.opened k))) :
    ∃ start hs, Stream.Scene.make? cursor t.service.config.bufferSize
        (timeout.map t.service.deadline) = some start ∧
      ((t.happen (.list timeout)).run events).stream? k = some (start.run hs) := by
  obtain ⟨hpending, hunopened⟩ := t.pending_list timeout
  have hstream := stream?_of_pending
    (R := fun st => ∃ start hs, Stream.Scene.make? cursor t.service.config.bufferSize
      (timeout.map t.service.deadline) = some start ∧ st = start.run hs)
    ?keep hpending (recorded.happen (.list timeout)) (fun opened => absurd opened (hunopened k))
    ?begins held
  case keep =>
    rintro st h ⟨start, hs, hmake, rfl⟩
    exact ⟨start, hs ++ [h], hmake, (Runs.append Stream.Scene.run start hs [h]).symm⟩
  case begins =>
    rintro - f deadline ⟨rfl, rfl⟩ cursor' channel forgotten now cancelled result' made -
    cases result.symm.trans result'
    rw [t.config_happen (.list timeout)] at made
    obtain ⟨start, hs, hmake, hrun⟩ :=
      exists_origin_of_fresh made cursor (timeout.map t.service.deadline) forgotten now cancelled
    exact ⟨start, hs, hmake, hrun.symm⟩
  obtain ⟨st, hst, start, hs, hmake, rfl⟩ := hstream
  exact ⟨start, hs, hmake, hst⟩

end Scene

end Menagerie.Service
