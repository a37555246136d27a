import Menagerie.Proofs.Service.Move

/-!
# Shutdowns that come to an end

`Drain.Sound` is the invariant of one shutdown: it is through only once all streams that it found
have ended, and it gives up its patience only by cancelling. In a quiet state at its limit or later
it has therefore returned, unless a feeder is `Stuck`: it forwards a failure of its cursor to a
caller that does not read, and a cancellation does not reach it there. `shutdown_completes_iff` says
that this is the only reason not to return; with streams that began after the shutdown, which the
shutdown need not wait for, it says when none is left.
-/

namespace Menagerie.Service

def Drain.Done : Drain → Prop
  | .draining _ released | .clearing released => released = true
  | .stopped => True

/-- What is known of a shutdown that found `found` streams. -/
structure Drain.Sound (limit found : Nat) (v : View) (d : Drain) : Prop where
  ended : d.Done → ∀ k < found, v.Finished k
  cancelled : ∀ released, d = .clearing released → v.cancelled = true
  limit : ∀ tick released, d = .draining tick released → tick = limit

namespace Drain.Sound

variable {s : Service} {v : View} {d : Drain} {call : Call} {n limit found : Nat}

theorem draining {released : Bool} (ended : released = true → ∀ k < found, v.Finished k) :
    Drain.Sound limit found v (.draining limit released) where
  ended := ended
  cancelled released h := by cases h
  limit tick released h := by cases h; rfl

theorem clearing {released : Bool} (ended : released = true → ∀ k < found, v.Finished k)
    (cancelled : v.cancelled = true) : Drain.Sound limit found v (.clearing released) where
  ended := ended
  cancelled _ _ := cancelled
  limit tick released h := by cases h

theorem stopped (ended : ∀ k < found, v.Finished k) : Drain.Sound limit found v .stopped where
  ended _ := ended
  cancelled released h := by cases h
  limit tick released h := by cases h

theorem of_advances (h : d.Sound limit found s.view) (hm : Move s v)
    (hfound : found ≤ s.streams.length) (advances : Call.Advances s.view (.drain d) call) :
    ∃ d', call = .drain d' ∧ d'.Sound limit found v := by
  have hended (done : d.Done ∨ s.view.Idle) : ∀ k < found, v.Finished k := by
    intro k hk
    rcases done with done | idle
    · exact hm.finished (h.ended done k hk)
    · exact hm.finished (View.idle_iff.mp idle k (Nat.lt_of_lt_of_le hk hfound))
  cases advances with
  | drained done => exact ⟨_, rfl, stopped (hended done)⟩
  | cleared done => exact ⟨_, rfl, stopped (hended done)⟩

theorem of_release (h : d.Sound limit found v) (hfound : found ≤ v.streams.length)
    (idle : v.Idle) : ∃ d', Call.release (.drain d) = .drain d' ∧ d'.Sound limit found v := by
  have hended : ∀ k < found, v.Finished k := fun k hk =>
    View.idle_iff.mp idle k (Nat.lt_of_lt_of_le hk hfound)
  cases d with
  | draining tick released =>
    obtain rfl := h.limit tick released rfl
    exact ⟨_, rfl, draining fun _ => hended⟩
  | clearing released => exact ⟨_, rfl, clearing (fun _ => hended) (h.cancelled released rfl)⟩
  | stopped => exact ⟨_, rfl, h⟩

theorem of_move (h : d.Sound limit found s.view) (hm : Move s v) : d.Sound limit found v where
  ended done k hk := hm.finished (h.ended done k hk)
  cancelled released hd := hm.cancelled (h.cancelled released hd)
  limit := h.limit

theorem move (h : d.Sound limit found s.view) (hm : Move s v)
    (hfound : found ≤ s.streams.length) (held : s.calls[n]? = some (.drain d)) :
    ∃ d', v.calls[n]? = some (.drain d') ∧ d'.Sound limit found v := by
  obtain ⟨call, hcall, turns⟩ := hm.call_turns held
  have hkeep : d.Sound limit found v := h.of_move hm
  have hsound : ∃ d', call = .drain d' ∧ d'.Sound limit found v := by
    cases turns with
    | same => exact ⟨d, rfl, hkeep⟩
    | advances advances => exact h.of_advances hm hfound advances
    | cancels cancelled => exact ⟨_, rfl, clearing (by simp) cancelled⟩
    | releases idle => exact hkeep.of_release (Nat.le_trans hfound hm.length_streams) idle
  obtain ⟨d', rfl, hd'⟩ := hsound
  exact ⟨d', hcall, hd'⟩

end Drain.Sound

namespace Scene

variable {s t : Scene} {n k limit found : Nat}

def Drains (limit found n : Nat) (t : Scene) : Prop :=
  found ≤ t.service.streams.length ∧
    ∃ d, t.service.calls[n]? = some (.drain d) ∧ d.Sound limit found t.service.view

theorem drains_happen (e : Event) (h : t.Drains limit found n) :
    (t.happen e).Drains limit found n := by
  obtain ⟨hfound, d, held, hsound⟩ := h
  have hm := t.move e
  exact ⟨Nat.le_trans hfound hm.length_streams, hsound.move hm hfound held⟩

theorem drains_begin (s : Scene) :
    (s.happen .drain).Drains (s.service.now + s.service.config.drainTimeout)
      s.service.streams.length s.service.calls.length := by
  refine ⟨Nat.le_refl _, .draining _ false, ?_, .draining fun h => by cases h⟩
  show (s.service.calls ++ [_])[s.service.calls.length]? = _
  exact List.getElem?_concat_length

theorem drains_run (s : Scene) (events : List Event) :
    ((s.happen .drain).run events).Drains (s.service.now + s.service.config.drainTimeout)
      s.service.streams.length s.service.calls.length :=
  Runs.invariant run (fun _ e h => drains_happen e h) events s.drains_begin

-- ---------------------------------------------------------------------------
-- Quiet states
-- ---------------------------------------------------------------------------

theorem quiet_iff :
    t.Quiet ↔ (∀ n < t.service.calls.length, (t.service.step (.call n)).isNone = true) ∧
      ∀ k < t.service.streams.length, (t.service.step (.stream k)).isNone = true := by
  simp only [Option.isNone_iff_eq_none]
  constructor
  · exact fun h => ⟨fun n _ => h (.call n), fun k _ => h (.stream k)⟩
  · rintro ⟨hcalls, hstreams⟩ (n | k)
    · rcases Nat.lt_or_ge n t.service.calls.length with hn | hn
      · exact hcalls n hn
      · simp [step, stepCall, List.getElem?_eq_none hn]
    · rcases Nat.lt_or_ge k t.service.streams.length with hk | hk
      · exact hstreams k hk
      · simp [step, stepStream, List.getElem?_eq_none hk]

instance : Decidable t.Quiet := decidable_of_iff _ quiet_iff.symm

theorem Quiet.finished_or_stuck (h : t.Quiet) (hc : t.service.cancelled = true)
    {f : Stream.Feeder} (hf : f ∈ t.service.streams) : f.isFinished = true ∨ f.Stuck := by
  obtain ⟨k, held⟩ := List.getElem?_of_mem hf
  exact (Stream.Feeder.step_eq_none_iff_of_cancelled hc).mp
    (step_eq_none_of_stepStream (h (.stream k)) held)

theorem Quiet.drain {d : Drain} (h : t.Quiet) (held : t.service.calls[n]? = some (.drain d)) :
    t.service.stepDrain n d = none := by
  have hstep : t.service.stepCall n = none := h (.call n)
  simpa [stepCall, held] using hstep

/-- A shutdown that is not over waits for its limit, or for streams that it has cancelled. -/
theorem Quiet.stopped_or_waits {d : Drain} (h : t.Quiet)
    (held : t.service.calls[n]? = some (.drain d)) :
    d = .stopped ∨ t.service.active ≠ 0 ∧
      ((∃ tick released, d = .draining tick released ∧ t.service.now < tick) ∨
        ∃ released, d = .clearing released) := by
  have hstep := h.drain held
  cases d with
  | draining tick released =>
    simp only [stepDrain] at hstep
    split at hstep
    · simp at hstep
    next hwaits =>
      split at hstep
      · simp at hstep
      next hearly => exact .inr ⟨fun h => hwaits (.inr h), .inl ⟨_, _, rfl, by omega⟩⟩
  | clearing released =>
    simp only [stepDrain] at hstep
    split at hstep
    · simp at hstep
    next hwaits => exact .inr ⟨fun h => hwaits (.inr h), .inr ⟨_, rfl⟩⟩
  | stopped => exact .inl rfl

def Returned (t : Scene) (n : Nat) : Prop := t.service.calls[n]? = some (.drain .stopped)

theorem Quiet.idle_of_cancelled (h : t.Quiet) (hc : t.service.cancelled = true)
    (hfree : ∀ f ∈ t.service.streams, ¬ f.Stuck) : t.service.view.Idle := fun f hf =>
  (h.finished_or_stuck hc hf).resolve_right (hfree f hf)

theorem Drains.returned (h : t.Drains limit found n) (quiet : t.Quiet)
    (late : limit ≤ t.service.now) (hfree : ∀ f ∈ t.service.streams, ¬ f.Stuck) :
    t.Returned n := by
  obtain ⟨-, d, held, hsound⟩ := h
  rcases quiet.stopped_or_waits held with rfl | ⟨hactive, ⟨tick, released, rfl, hearly⟩ |
    ⟨released, rfl⟩⟩
  · exact held
  · rw [hsound.limit tick released rfl] at hearly
    omega
  · have hidle := quiet.idle_of_cancelled (hsound.cancelled released rfl) hfree
    exact absurd (active_eq_zero_iff.mpr hidle) hactive

theorem Drains.finished (h : t.Drains limit found n) (returned : t.Returned n) :
    ∀ k < found, t.service.view.Finished k := by
  obtain ⟨-, d, held, hsound⟩ := h
  rw [returned] at held
  cases held
  exact hsound.ended trivial

def SpareNone (t : Scene) (found : Nat) : Prop :=
  ∀ k < t.service.streams.length, found ≤ k → t.service.view.Finished k

/-- At its limit or later, in a quiet state, a shutdown has returned and left no stream exactly when
no feeder is stuck and every stream that began after it has ended or was cancelled. A single feeder
that is cancelled and can do nothing has returned exactly when it is not stuck. -/
theorem shutdown_completes_iff (s : Scene) (events : List Event)
    (quiet : ((s.happen .drain).run events).Quiet)
    (late : s.service.now + s.service.config.drainTimeout ≤
      ((s.happen .drain).run events).service.now) :
    let t := (s.happen .drain).run events
    ((t.Returned s.service.calls.length ∧ t.service.active = 0) ↔
      (∀ f ∈ t.service.streams, ¬ f.Stuck) ∧
        (t.service.cancelled = true ∨ t.SpareNone s.service.streams.length)) ∧
      ∀ feed : Stream.Scene, feed.Quiet → feed.cancelled = true →
        (feed.feeder.isFinished = true ↔ ¬ feed.feeder.Stuck) := by
  intro t
  have hdrains : t.Drains _ _ _ := drains_run s events
  refine ⟨⟨?_, ?_⟩, ?_⟩
  · rintro ⟨-, hactive⟩
    have hidle := active_eq_zero_iff.mp hactive
    exact ⟨fun f hf hstuck => hstuck.not_finished (hidle f hf),
      .inr fun k hk _ => View.idle_iff.mp hidle k hk⟩
  · rintro ⟨hfree, hrest⟩
    have hreturned := hdrains.returned quiet late hfree
    refine ⟨hreturned, active_eq_zero_iff.mpr ?_⟩
    rcases hrest with hcancelled | hspare
    · exact quiet.idle_of_cancelled hcancelled hfree
    · refine View.idle_iff.mpr fun k hk => ?_
      rcases Nat.lt_or_ge k s.service.streams.length with hfound | hnew
      · exact hdrains.finished hreturned k hfound
      · exact hspare k hk hnew
  · intro feed hquiet hcancelled
    constructor
    · exact fun hf hstuck => hstuck.not_finished hf
    · exact ((Stream.Feeder.step_eq_none_iff_of_cancelled hcancelled).mp hquiet).resolve_right

-- ---------------------------------------------------------------------------
-- Two shutdowns with one stream
-- ---------------------------------------------------------------------------

def start (config : ServerConfig) (backend : Store.Backend) : Scene :=
  { service := { config, backend } }

def narrow : ServerConfig := { (default : ServerConfig) with bufferSize := 1, drainTimeout := 100 }

def answering (delay : Nat) (cursor : Stream.Cursor) : Store.Backend :=
  .scripted fun _ _ _ => ⟨delay, .ok cursor⟩

def withStream (cursor : Stream.Cursor) : Scene :=
  (start narrow (answering 0 cursor)).run [.list none, .step (.call 0)]

theorem shutdown_completes_of_hanging :
    let s := withStream (.ofList [.hang])
    let events : List Event := [.pass 100, .step (.call 1), .step (.stream 0), .step (.call 1)]
    let t := (s.happen .drain).run events
    t.Quiet ∧ s.service.now + s.service.config.drainTimeout ≤ t.service.now ∧
      ((t.Returned s.service.calls.length ∧ t.service.active = 0) ↔
        (∀ f ∈ t.service.streams, ¬ f.Stuck) ∧
          (t.service.cancelled = true ∨ t.SpareNone s.service.streams.length)) ∧
        ∀ feed : Stream.Scene, feed.Quiet → feed.cancelled = true →
          (feed.feeder.isFinished = true ↔ ¬ feed.feeder.Stuck) := by
  intro s events t
  have hquiet : t.Quiet := by decide +kernel
  have hlate : s.service.now + s.service.config.drainTimeout ≤ t.service.now := by decide
  refine ⟨hquiet, hlate, ?_⟩
  apply shutdown_completes_iff s events
  · exact hquiet
  · exact hlate

/-- A failure of the cursor that finds no room keeps its feeder, and with it the shutdown, for as
long as the caller does not read. -/
theorem shutdown_waits_for_reader :
    let s := withStream (.ofList [.document .empty, .failure (.store "cursor killed")])
    let t := (s.happen .drain).run [.step (.stream 0), .step (.stream 0), .step (.stream 0),
      .pass 100, .step (.call 1), .pass 1000]
    t.Quiet ∧ s.service.now + s.service.config.drainTimeout ≤ t.service.now ∧
      t.service.cancelled = true ∧ ¬ t.Returned s.service.calls.length ∧ t.service.active = 1 := by
  intro s t
  have hquiet : t.Quiet := by decide +kernel
  have hcall : t.service.calls[s.service.calls.length]? = some (.drain (.clearing false)) := rfl
  refine ⟨hquiet, by decide, rfl, ?_, rfl⟩
  intro hreturned
  rw [Returned, hcall] at hreturned
  cases hreturned

end Scene

end Menagerie.Service
