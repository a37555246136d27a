import Mathlib.Algebra.GroupWithZero.Nat
import Menagerie.Proofs.Service.Drain
import Menagerie.Proofs.Service.Change
import Menagerie.Proofs.Stream.Frame

/-!
# One stream of a service

`Scene.stream?` cuts one stream out of the scene of a service, as a scene of its own. What an event
does to it depends on the stream and the event alone (`stream?_happen`): it is what `Event.seen`
reads off the event, and the service may cancel. A run of the service is therefore a run of each of
its streams (`stream?_run`), the same one in every service that does not cancel
(`stream?_run_of_running`), and a stream that has ended does not care whether the service cancels
(`stream?_run_of_finished`). Every stream begins as `Stream.Scene.make?` says (`recorded_run`).
-/

namespace Menagerie.Service

/-- What a stream notices of an event, apart from a cancellation. -/
def Event.seen (k : Nat) : Event → List Stream.Happening
  | .step (.stream j) => if j = k then [.step] else []
  | .take j => if j = k then [.take] else []
  | .close j => if j = k then [.close] else []
  | .drop j => if j = k then [.drop] else []
  | .pass ms => [.pass ms]
  | .step (.call _) | .search _ | .list _ | .drain | .abort _ | .forget _ | .insert .. => []

def Event.elapsed : Event → Nat
  | .pass ms => ms
  | _ => 0

theorem Event.ne_cancel_of_seen {k : Nat} {e : Event} {h : Stream.Happening} (hm : h ∈ e.seen k) :
    h ≠ .cancel := by
  rintro rfl
  revert hm
  unfold seen
  split <;> (try split) <;> simp

/-- The request `n` has got its cursor, and the feeding of its stream begins. -/
structure Opens (s : Service) (n : Nat) (s' : Service) (f : Finding) (deadline : Option Nat)
    (cursor : Stream.Cursor) (channel : Stream.Channel) (forgotten : Bool) : Prop where
  held : s.calls[n]? = some (.listing (.finding f deadline forgotten))
  due : f.due ≤ s.now
  result : f.result = .ok cursor
  made : Stream.Channel.make? s.config.bufferSize = some channel
  streams : s'.streams = s.streams ++ [fresh cursor deadline channel forgotten]
  calls : s'.calls = s.calls.set n (.listing (.opened s.streams.length))
  cancelled : s'.cancelled = s.cancelled
  now : s'.now = s.now

theorem CallStep.streams_eq_or_opens {s s' : Service} {n : Nat} {old new : Call} {effect : Effect}
    (step : CallStep s n s' old new effect) :
    s'.streams = s.streams ∨
      ∃ f deadline cursor channel forgotten, Opens s n s' f deadline cursor channel forgotten := by
  obtain ⟨held, steps, calls, streams, -, cancelled, keeps⟩ := step
  cases steps with
  | opened due result made =>
    exact .inr ⟨_, _, _, _, _, held, due, result, made, streams, calls, by simpa using cancelled,
      keeps.now⟩
  | _ => exact .inl (streams.trans (List.append_nil _))

theorem CallStep.opens {s s' : Service} {n k : Nat} {old : Call} {effect : Effect}
    (step : CallStep s n s' old (.listing (.opened k)) effect) :
    k = s.streams.length ∧
      ∃ f deadline cursor channel forgotten, Opens s n s' f deadline cursor channel forgotten := by
  obtain ⟨held, steps, calls, streams, -, cancelled, keeps⟩ := step
  cases steps with
  | opened due result made =>
    exact ⟨rfl, _, _, _, _, _, held, due, result, made, streams, calls, by simpa using cancelled,
      keeps.now⟩

namespace Scene

variable {t : Scene} {st : Stream.Scene} {k n : Nat} {f : Stream.Feeder} {events : List Event}

/-- A stream, with what it sees of the service and with its record. -/
def stream? (t : Scene) (k : Nat) : Option Stream.Scene :=
  t.service.streams[k]?.map fun feeder =>
    { feeder, now := t.service.now, cancelled := t.service.cancelled
      received := t.received k, enqueued := t.enqueued k }

theorem stream?_eq_some_iff :
    t.stream? k = some st ↔ ∃ f, t.service.streams[k]? = some f ∧
      { feeder := f, now := t.service.now, cancelled := t.service.cancelled
        received := t.received k, enqueued := t.enqueued k } = st := by
  simp only [stream?, Option.map_eq_some_iff]

theorem exists_stream? (there : k < t.service.streams.length) : ∃ st, t.stream? k = some st :=
  ⟨_, stream?_eq_some_iff.mpr ⟨_, List.getElem?_eq_getElem there, rfl⟩⟩

theorem with_cancelled_of_stream? (h : t.stream? k = some st) :
    { st with cancelled := t.service.cancelled } = st := by
  obtain ⟨f, -, rfl⟩ := stream?_eq_some_iff.mp h
  rfl

-- ---------------------------------------------------------------------------
-- One event
-- ---------------------------------------------------------------------------

theorem stream?_step_call (h : t.stream? k = some st) (n : Nat) :
    (t.happen (.step (.call n))).stream? k =
      some { st with cancelled := (t.happen (.step (.call n))).service.cancelled } := by
  obtain ⟨f, held, rfl⟩ := stream?_eq_some_iff.mp h
  cases hstep : t.service.step (.call n) with
  | none => simp [happen, hstep, stream?, held]
  | some s' =>
    obtain ⟨old, new, effect, callStep⟩ := stepCall_cases hstep
    have hnow := callStep.keeps.now
    have hstreams : s'.streams[k]? = some f := by
      rw [callStep.streams, List.getElem?_append_left (List.getElem?_eq_some_iff.mp held).1, held]
    simp [happen, hstep, stream?, hstreams, hnow, added, held, Stream.Feeder.added]

theorem stream?_step_stream (h : t.stream? k = some st) (j : Nat) :
    (t.happen (.step (.stream j))).stream? k = some (if j = k then st.happen .step else st) := by
  obtain ⟨f, held, rfl⟩ := stream?_eq_some_iff.mp h
  have hmoment : Stream.Scene.moment
      { feeder := f, now := t.service.now, cancelled := t.service.cancelled
        received := t.received k, enqueued := t.enqueued k } = t.service.moment := rfl
  cases hstep : t.service.stepStream j with
  | none =>
    have hsame : t.happen (.step (.stream j)) = t := by simp [happen, step, hstep]
    rw [hsame, h]
    split
    next hj =>
      subst hj
      have hnone := step_eq_none_of_stepStream hstep held
      simp [Stream.Scene.happen, hmoment, hnone]
    next => rfl
  | some s' =>
    obtain ⟨g, g', streamStep⟩ := stepStream_cases hstep
    obtain ⟨lines, hadvance⟩ := streamStep.steps
    have hstreams := streamStep.streams
    have hcancelled := streamStep.cancelled
    have hnow := streamStep.keeps.now
    split
    next hj =>
      subst hj
      cases held.symm.trans streamStep.held
      obtain ⟨hlength, hget⟩ := List.getElem?_eq_some_iff.mp held
      simp [happen, step, hstep, stream?, hstreams, hnow, hcancelled, added, hlength, hget,
        Stream.Scene.happen, hmoment, hadvance]
    next hj =>
      simp [happen, step, hstep, stream?, hstreams, hnow, hcancelled, added, held, hj,
        Stream.Feeder.added]

theorem stream?_act_updateStream (h : t.stream? k = some st) (j : Nat)
    (update : Stream.Feeder → Stream.Feeder) :
    (t.act (·.updateStream j update)).stream? k =
      some (if j = k then { st with feeder := update st.feeder } else st) := by
  obtain ⟨f, held, rfl⟩ := stream?_eq_some_iff.mp h
  by_cases hj : j = k
  · subst hj
    simp [stream?, act, updateStream, held]
  · simp [stream?, act, updateStream, held, hj]

theorem stream?_take (h : t.stream? k = some st) (j : Nat) :
    (t.happen (.take j)).stream? k = some (if j = k then st.happen .take else st) := by
  by_cases hj : j = k
  · subst hj
    obtain ⟨f, held, rfl⟩ := stream?_eq_some_iff.mp h
    cases htake : f.take with
    | item item rest =>
      simp [happen, held, htake, stream?, updateStream, Stream.Scene.happen]
    | _ => simp [happen, held, htake, h, Stream.Scene.happen]
  · rw [if_neg hj]
    unfold happen
    simp only
    split
    next item rest _ =>
      have hother : ¬ k = j := fun hk => hj hk.symm
      have hact := stream?_act_updateStream h j fun _ => rest
      rw [if_neg hj] at hact
      rw [← hact]
      simp [stream?, act, hother]
    next => exact h

theorem stream?_act {update : Service → Service} (h : t.stream? k = some st)
    (streams : (update t.service).streams = t.service.streams)
    (now : (update t.service).now = t.service.now) :
    (t.act update).stream? k = some { st with cancelled := (t.act update).service.cancelled } := by
  obtain ⟨f, held, rfl⟩ := stream?_eq_some_iff.mp h
  simp [stream?, act, streams, now, held]

theorem frame_beginSearch (s : Service) (name : String) :
    (s.beginSearch name).streams = s.streams ∧ (s.beginSearch name).now = s.now := by
  unfold beginSearch
  simp only
  split <;> exact ⟨rfl, rfl⟩

theorem frame_beginListing (s : Service) (timeout : Option Timeout.Duration) :
    (s.beginListing timeout).streams = s.streams ∧ (s.beginListing timeout).now = s.now := by
  unfold beginListing
  split <;> exact ⟨rfl, rfl⟩

theorem frame_abort (s : Service) (n : Nat) :
    (s.abort n).streams = s.streams ∧ (s.abort n).now = s.now := by
  unfold abort
  split <;> exact ⟨rfl, rfl⟩

theorem frame_forget (s : Service) (n : Nat) :
    (s.forget n).streams = s.streams ∧ (s.forget n).now = s.now := by
  unfold forget
  split <;> exact ⟨rfl, rfl⟩

theorem now_happen (t : Scene) (e : Event) :
    (t.happen e).service.now = t.service.now + e.elapsed := by
  cases e with
  | step task =>
    unfold happen
    simp only
    split
    next next h => exact (keeps_of_step h).now
    next => rfl
  | search name => exact (frame_beginSearch t.service name).2
  | list timeout => exact (frame_beginListing t.service timeout).2
  | abort n => exact (frame_abort t.service n).2
  | forget n => exact (frame_forget t.service n).2
  | take k =>
    unfold happen
    simp only
    split <;> rfl
  | pass ms => exact Nat.max_eq_right (Nat.le_add_right _ _)
  | _ => rfl

theorem now_le_happen (t : Scene) (e : Event) : t.service.now ≤ (t.happen e).service.now := by
  rw [t.now_happen e]
  exact Nat.le_add_right _ _

theorem now_run (t : Scene) (events : List Event) :
    (t.run events).service.now = t.service.now + (events.map Event.elapsed).sum := by
  induction events generalizing t with
  | nil => rfl
  | cons e events ih =>
    rw [Runs.cons run, ih, t.now_happen e, List.map_cons, List.sum_cons, Nat.add_assoc]

/-- A stream after an event: what it has noticed, in a service that may have cancelled. -/
theorem stream?_happen (h : t.stream? k = some st) (e : Event) :
    (t.happen e).stream? k =
      some { st.run (e.seen k) with cancelled := (t.happen e).service.cancelled } := by
  have of_run {st' : Stream.Scene} (hrun : (t.happen e).stream? k = some st') :
      (t.happen e).stream? k =
        some { st' with cancelled := (t.happen e).service.cancelled } := by
    rw [with_cancelled_of_stream? hrun, hrun]
  have hnone (st : Stream.Scene) : st.run [] = st := rfl
  have hone (st : Stream.Scene) (h : Stream.Happening) : st.run [h] = st.happen h := rfl
  cases e with
  | step task =>
    cases task with
    | call n => exact stream?_step_call h n
    | stream j =>
      have hrun := of_run (stream?_step_stream h j)
      by_cases hj : j = k <;> simpa [Event.seen, hj, hone, hnone] using hrun
  | search name => exact stream?_act h (frame_beginSearch _ _).1 (frame_beginSearch _ _).2
  | list timeout => exact stream?_act h (frame_beginListing _ _).1 (frame_beginListing _ _).2
  | drain => exact stream?_act h rfl rfl
  | take j =>
    have hrun := of_run (stream?_take h j)
    by_cases hj : j = k <;> simpa [Event.seen, hj, hone, hnone] using hrun
  | close j =>
    have hrun := of_run (stream?_act_updateStream h j Stream.Feeder.close)
    by_cases hj : j = k <;> simpa [Event.seen, hj, hone, hnone, Stream.Scene.happen] using hrun
  | drop j =>
    have hrun := of_run (stream?_act_updateStream h j Stream.Feeder.drop)
    by_cases hj : j = k <;> simpa [Event.seen, hj, hone, hnone, Stream.Scene.happen] using hrun
  | abort n => exact stream?_act h (frame_abort _ _).1 (frame_abort _ _).2
  | forget n => exact stream?_act h (frame_forget _ _).1 (frame_forget _ _).2
  | insert target d => exact stream?_act h rfl rfl
  | pass ms =>
    obtain ⟨f, held, rfl⟩ := stream?_eq_some_iff.mp h
    simp [stream?, happen, act, advance, held, Event.seen, hone, Stream.Scene.happen]

-- ---------------------------------------------------------------------------
-- Runs
-- ---------------------------------------------------------------------------

theorem ne_cancel_of_mem_seen {h : Stream.Happening} (hm : h ∈ events.flatMap (Event.seen k)) :
    h ≠ .cancel := by
  obtain ⟨e, -, he⟩ := List.mem_flatMap.mp hm
  exact Event.ne_cancel_of_seen he

theorem cancelled_of_stream? (h : t.stream? k = some st) : st.cancelled = t.service.cancelled := by
  obtain ⟨f, -, rfl⟩ := stream?_eq_some_iff.mp h
  rfl

theorem stream?_happen_cases (h : t.stream? k = some st) (e : Event) :
    (t.happen e).stream? k = some (st.run (e.seen k)) ∧
        (t.happen e).service.cancelled = t.service.cancelled ∨
      (t.happen e).stream? k = some (st.run (e.seen k ++ [.cancel])) ∧
        t.service.cancelled = false ∧ (t.happen e).service.cancelled = true := by
  have hnext := stream?_happen h e
  have hseen : (st.run (e.seen k)).cancelled = t.service.cancelled := by
    rw [Stream.Scene.cancelled_run fun _ => Event.ne_cancel_of_seen, cancelled_of_stream? h]
  by_cases hc : (t.happen e).service.cancelled = t.service.cancelled
  · rw [hc, ← hseen] at hnext
    exact .inl ⟨hnext, hc⟩
  · have hbefore : t.service.cancelled = false := by
      cases hold : t.service.cancelled with
      | false => rfl
      | true => exact absurd ((t.move e).cancelled hold |>.trans hold.symm) hc
    have hafter : (t.happen e).service.cancelled = true := by simpa [hbefore] using hc
    rw [hafter] at hnext
    exact .inr ⟨by rw [hnext, Runs.append Stream.Scene.run]; rfl, hbefore, hafter⟩

/-- Every run of the service is a run of each of its streams. -/
theorem stream?_run (h : t.stream? k = some st) (events : List Event) :
    ∃ hs, (t.run events).stream? k = some (st.run hs) := by
  induction events generalizing t st with
  | nil => exact ⟨[], h⟩
  | cons e events ih =>
    rcases stream?_happen_cases h e with ⟨hnext, -⟩ | ⟨hnext, -⟩
    · obtain ⟨hs, hrest⟩ := ih hnext
      exact ⟨_, by rw [Runs.cons run, hrest, ← Runs.append Stream.Scene.run]⟩
    · obtain ⟨hs, hrest⟩ := ih hnext
      exact ⟨_, by rw [Runs.cons run, hrest, ← Runs.append Stream.Scene.run]⟩

theorem cancelled_run_of_cancelled (hc : t.service.cancelled = true) (events : List Event) :
    (t.run events).service.cancelled = true :=
  Runs.invariant run (P := fun t => t.service.cancelled = true) (fun t e h => (t.move e).cancelled h)
    events hc

/-- As long as the service does not cancel, only the events for a stream matter to it. -/
theorem stream?_run_of_running (h : t.stream? k = some st)
    (running : (t.run events).service.cancelled = false) :
    (t.run events).stream? k = some (st.run (events.flatMap (Event.seen k))) := by
  induction events generalizing t st with
  | nil => exact h
  | cons e events ih =>
    rcases stream?_happen_cases h e with ⟨hnext, -⟩ | ⟨-, -, hcancelled⟩
    · rw [Runs.cons run, ih hnext running, List.flatMap_cons, Runs.append Stream.Scene.run]
    · have hstays := cancelled_run_of_cancelled hcancelled events
      rw [Runs.cons run] at running
      rw [running] at hstays
      cases hstays

theorem stream?_run_of_finished (h : t.stream? k = some st)
    (finished : st.feeder.isFinished = true) (events : List Event) :
    (t.run events).stream? k = some
      { st.run (events.flatMap (Event.seen k)) with
        cancelled := (t.run events).service.cancelled } := by
  induction events generalizing t st with
  | nil => exact h.trans (congrArg some (with_cancelled_of_stream? h).symm)
  | cons e events ih =>
    have hseen := Stream.Scene.isFinished_run finished (e.seen k)
    have hrest := ih (stream?_happen h e) hseen
    rw [Stream.Scene.run_with_cancelled hseen fun _ => ne_cancel_of_mem_seen] at hrest
    rw [Runs.cons run, hrest, List.flatMap_cons, Runs.append Stream.Scene.run]

-- ---------------------------------------------------------------------------
-- Beginnings
-- ---------------------------------------------------------------------------

theorem length_streams_happen (t : Scene) (e : Event) :
    (t.happen e).service.streams.length = t.service.streams.length ∨
      ∃ n f deadline cursor channel forgotten, e = .step (.call n) ∧
        Opens t.service n (t.happen e).service f deadline cursor channel forgotten := by
  generalize hs' : (t.happen e).service = s'
  cases hs' ▸ t.change e with
  | wait | touch => exact .inl (by simp)
  | call step =>
    rcases step.streams_eq_or_opens with hsame | ⟨f, deadline, cursor, channel, forgotten, hopens⟩
    · exact .inl (congrArg List.length hsame)
    · exact .inr ⟨_, f, deadline, cursor, channel, forgotten, rfl, hopens⟩
  | stream step => exact .inl (by simp [step.streams])
  | enter _ _ streams | pass _ _ streams => exact .inl (congrArg List.length streams)
  | leave => exact .inl rfl

theorem record_happen_of_none (hnone : t.service.streams[k]? = none) (e : Event) :
    (t.happen e).received k = t.received k ∧ (t.happen e).enqueued k = t.enqueued k := by
  cases e with
  | step task =>
    unfold happen
    simp only
    split
    · exact ⟨rfl, by simp [added, hnone]⟩
    · exact ⟨rfl, rfl⟩
  | take j =>
    unfold happen
    simp only
    split
    next item rest htake =>
      refine ⟨if_neg ?_, rfl⟩
      rintro rfl
      simp [hnone] at htake
    next => exact ⟨rfl, rfl⟩
  | _ => exact ⟨rfl, rfl⟩

theorem exists_origin_of_fresh {capacity : Nat} {channel : Stream.Channel}
    (made : Stream.Channel.make? capacity = some channel) (cursor : Stream.Cursor)
    (deadline : Option Nat) (forgotten : Bool) (now : Nat) (cancelled : Bool) :
    ∃ start hs, Stream.Scene.make? cursor capacity deadline = some start ∧
      start.run hs = { feeder := fresh cursor deadline channel forgotten, now, cancelled } := by
  have hmake : Stream.Scene.make? cursor capacity deadline =
      some { feeder := { reading := { cursor }, deadline, channel } } := by
    simp [Stream.Scene.make?, made]
  cases forgotten with
  | false =>
    obtain ⟨hs, hrun⟩ := Stream.Scene.exists_run_eq _ now cancelled
    exact ⟨_, hs, hmake, hrun⟩
  | true =>
    obtain ⟨hs, hrun⟩ := Stream.Scene.exists_run_eq _ now cancelled
    exact ⟨_, .drop :: hs, hmake, hrun⟩

section

variable {finding : Finding} {deadline : Option Nat} {cursor : Stream.Cursor}
  {channel : Stream.Channel} {forgotten : Bool}
  (hopens : Opens t.service n (t.happen (.step (.call n))).service finding deadline cursor channel
    forgotten)
  (unheard : t.received t.service.streams.length = [] ∧ t.enqueued t.service.streams.length = [])

include hopens unheard

theorem stream?_of_opens :
    (t.happen (.step (.call n))).stream? t.service.streams.length = some
      { feeder := fresh cursor deadline channel forgotten, now := t.service.now
        cancelled := t.service.cancelled } := by
  have hrecord := record_happen_of_none (t := t) (k := t.service.streams.length) (by simp)
    (.step (.call n))
  simp [stream?, hopens.streams, hopens.now, hopens.cancelled, hrecord, unheard]

/-- A stream that begins has missed the time before it, and perhaps a cancellation and its
caller. -/
theorem exists_origin_of_opens :
    ∃ start hs, Stream.Scene.make? cursor t.service.config.bufferSize deadline = some start ∧
      (t.happen (.step (.call n))).stream? t.service.streams.length = some (start.run hs) := by
  obtain ⟨start, hs, hmake, hrun⟩ := exists_origin_of_fresh hopens.made cursor deadline forgotten
    t.service.now t.service.cancelled
  exact ⟨start, hs, hmake, (stream?_of_opens hopens unheard).trans (congrArg some hrun.symm)⟩

end

/-- Every stream began with an empty channel of the configured size, and the record has it from
there on. -/
structure Recorded (t : Scene) : Prop where
  origin : ∀ k st, t.stream? k = some st → ∃ cursor deadline start hs,
    Stream.Scene.make? cursor t.service.config.bufferSize deadline = some start ∧
      st = start.run hs
  unheard : ∀ k, t.service.streams.length ≤ k → t.received k = [] ∧ t.enqueued k = []

theorem Recorded.happen (h : t.Recorded) (e : Event) : (t.happen e).Recorded := by
  have hconfig := t.config_happen e
  constructor
  · intro k st hk
    rw [hconfig]
    cases hold : t.stream? k with
    | some st₀ =>
      obtain ⟨cursor, deadline, start, hs, hmake, rfl⟩ := h.origin k st₀ hold
      obtain ⟨hs', hrun⟩ := stream?_run hold [e]
      rw [Runs.cons run, Runs.nil run, hk] at hrun
      exact ⟨cursor, deadline, start, hs ++ hs', hmake, by
        rw [Option.some.inj hrun, Runs.append Stream.Scene.run]⟩
    | none =>
      have hlate : t.service.streams.length ≤ k := by simpa [stream?] using hold
      have hearly : k < (t.happen e).service.streams.length := by
        obtain ⟨f, held, -⟩ := stream?_eq_some_iff.mp hk
        exact (List.getElem?_eq_some_iff.mp held).1
      rcases length_streams_happen t e with
        hsame | ⟨n, f, deadline, cursor, channel, forgotten, rfl, hopens⟩
      · omega
      · have hlength : (t.happen (.step (.call n))).service.streams.length =
            t.service.streams.length + 1 := by simp [hopens.streams]
        obtain rfl : k = t.service.streams.length := by omega
        obtain ⟨start, hs, hmake, hrun⟩ :=
          exists_origin_of_opens hopens (h.unheard _ (Nat.le_refl _))
        rw [hk] at hrun
        exact ⟨cursor, deadline, start, hs, hmake, Option.some.inj hrun⟩
  · intro k hk
    have hlate := Nat.le_trans (t.move e).length_streams hk
    obtain ⟨hreceived, henqueued⟩ :=
      record_happen_of_none (List.getElem?_eq_none hlate) e
    rw [hreceived, henqueued]
    exact h.unheard k hlate

theorem recorded_run (config : ServerConfig) (backend : Store.Backend) (events : List Event) :
    Recorded ((start config backend).run events) := by
  refine Runs.invariant run (fun t e h => h.happen e) events ⟨?_, fun k _ => ⟨rfl, rfl⟩⟩
  intro k st hk
  cases hk

end Scene

end Menagerie.Service
