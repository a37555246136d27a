import Menagerie.Proofs.Config.Server
import Menagerie.Proofs.Service.Ledger
import Menagerie.Proofs.Service.Request

/-!
# Buffer sizes that a channel can have

Of the buffer sizes a configuration refuses only zero; a channel refuses those above its limit, too.
Up to the limit every request that the store answers with a cursor gets its stream (`Answered`), and
the streams in flight are counted down to zero. Beyond it each such request panics after it has been
counted, and nothing is ever counted down (`Leaks`). `canStream_iff` joins the two.
-/

namespace Menagerie

namespace Service

namespace Scene

variable {t : Scene} {n due : Nat} {cursor : Stream.Cursor} {config : ServerConfig}
  {backend : Store.Backend}

-- ---------------------------------------------------------------------------
-- Requests that get their streams
-- ---------------------------------------------------------------------------

def Feeds (t : Scene) (n : Nat) (cursor : Stream.Cursor) : Prop :=
  ∃ k f, t.service.calls[n]? = some (.listing (.opened k)) ∧ t.service.streams[k]? = some f ∧
    f.reading.cursor = cursor

def Waits (t : Scene) (n due : Nat) (cursor : Stream.Cursor) : Prop :=
  ∃ deadline forgotten,
    t.service.calls[n]? = some (.listing (.finding ⟨due, .ok cursor⟩ deadline forgotten))

/-- The request `n` gets a stream of this cursor, or has got it. -/
def Answered (t : Scene) (n due : Nat) (cursor : Stream.Cursor) : Prop :=
  t.Waits n due cursor ∨ t.Feeds n cursor

theorem Feeds.happen (h : t.Feeds n cursor) (e : Event) : (t.happen e).Feeds n cursor := by
  obtain ⟨k, f, held, hf, hcursor⟩ := h
  obtain ⟨hs, hrun⟩ := stream?_run (t := t) (stream?_eq_some_iff.mpr ⟨f, hf, rfl⟩) [e]
  obtain ⟨f', hf', hst⟩ := stream?_eq_some_iff.mp hrun
  refine ⟨k, f', opened_happen held e, hf', ?_⟩
  refine (congrArg (·.feeder.reading.cursor) hst).trans ?_
  exact Runs.invariant Stream.Scene.run (P := fun st => st.feeder.reading.cursor = cursor)
    (fun st h hc => (st.cursor_happen h).trans hc) hs hcursor

theorem Waits.feeds (h : t.Waits n due cursor) (late : due ≤ t.service.now)
    (made : (Stream.Channel.make? t.service.config.bufferSize).isSome = true) :
    (t.happen (.step (.call n))).Feeds n cursor := by
  obtain ⟨deadline, forgotten, held⟩ := h
  obtain ⟨channel, hchannel⟩ := Option.isSome_iff_exists.mp made
  have hnext : (t.happen (.step (.call n))).service =
      t.service.openStream n cursor deadline forgotten := by
    simp [Scene.happen, step, stepCall_finding held late rfl]
  have hopened := callStep_opened held late rfl hchannel
  rw [← hnext] at hopened
  refine ⟨t.service.streams.length, fresh cursor deadline channel forgotten, ?_, ?_, rfl⟩
  · rw [hopened.calls, List.getElem?_set_self (List.getElem?_eq_some_iff.mp held).1]
  · rw [hopened.streams]
    exact List.getElem?_concat_length

theorem Waits.happen_of_early (h : t.Waits n due cursor) (early : t.service.now < due) :
    t.happen (.step (.call n)) = t := by
  obtain ⟨deadline, forgotten, held⟩ := h
  simp [Scene.happen, step, stepCall, held, stepListing, Nat.not_le.mpr early]

theorem Waits.forget (h : t.Waits n due cursor) : (t.happen (.forget n)).Waits n due cursor := by
  obtain ⟨deadline, forgotten, held⟩ := h
  refine ⟨deadline, true, ?_⟩
  simp only [Scene.happen, act, Service.forget, held]
  exact List.getElem?_set_self (List.getElem?_eq_some_iff.mp held).1

theorem Answered.happen (h : t.Answered n due cursor)
    (made : (Stream.Channel.make? t.service.config.bufferSize).isSome = true) {e : Event}
    (wanted : e ≠ .abort n) : (t.happen e).Answered n due cursor := by
  rcases h with waits | feeds
  · by_cases hfor : e.Concerns n
    · cases e with
      | step task =>
        cases task with
        | call m =>
          obtain rfl : m = n := hfor
          rcases Nat.lt_or_ge t.service.now due with early | late
          · rw [waits.happen_of_early early]
            exact .inl waits
          · exact .inr (waits.feeds late made)
        | stream => exact hfor.elim
      | forget m =>
        obtain rfl : m = n := hfor
        exact .inl waits.forget
      | abort m =>
        obtain rfl : m = n := hfor
        exact absurd rfl wanted
      | _ => exact hfor.elim
    · obtain ⟨deadline, forgotten, held⟩ := waits
      exact .inl ⟨deadline, forgotten, call_happen_of_foreign held (by simp [Call.kind]) hfor⟩
  · exact .inr (feeds.happen e)

theorem Answered.run (h : t.Answered n due cursor)
    (made : (Stream.Channel.make? t.service.config.bufferSize).isSome = true)
    {events : List Event} (wanted : .abort n ∉ events) : (t.run events).Answered n due cursor := by
  induction events generalizing t with
  | nil => exact h
  | cons e events ih =>
    exact ih (h.happen made (List.ne_of_not_mem_cons wanted).symm) (t.config_happen e ▸ made)
      (List.not_mem_of_not_mem_cons wanted)

theorem Answered.feeds (h : t.Answered n due cursor) (late : due ≤ t.service.now)
    (made : (Stream.Channel.make? t.service.config.bufferSize).isSome = true) :
    (t.happen (.step (.call n))).Feeds n cursor := by
  rcases h with waits | feeds
  · exact waits.feeds late made
  · exact feeds.happen _

theorem answered_list (opened : t.service.closed = false)
    (result : t.service.lookupFinding.result = .ok cursor)
    (timeout : Option Timeout.Duration) :
    (t.happen (.list timeout)).Answered t.service.calls.length t.service.lookupFinding.due
      cursor := by
  have hfinding : t.service.lookupFinding = ⟨t.service.lookupFinding.due, .ok cursor⟩ := by
    rw [← result]
  refine .inl ⟨timeout.map t.service.deadline, false, ?_⟩
  rw [calls_list_of_opened opened timeout, List.getElem?_concat_length, ← hfinding]

-- ---------------------------------------------------------------------------
-- Requests that panic
-- ---------------------------------------------------------------------------

theorem Waits.panics (h : t.Waits n due cursor) (late : due ≤ t.service.now)
    (unmade : Stream.Channel.make? t.service.config.bufferSize = none) :
    (t.happen (.step (.call n))).service.calls[n]? = some (.listing .panicked) := by
  obtain ⟨deadline, forgotten, held⟩ := h
  have hnext : (t.happen (.step (.call n))).service =
      t.service.openStream n cursor deadline forgotten := by
    simp [Scene.happen, step, stepCall_finding held late rfl]
  rw [hnext, (callStep_panicked held late rfl unmade).calls,
    List.getElem?_set_self (List.getElem?_eq_some_iff.mp held).1]

theorem streams_run_of_unmade (unmade : Stream.Channel.make? t.service.config.bufferSize = none)
    (fresh : t.service.streams = []) (events : List Event) :
    (t.run events).service.streams = [] := by
  refine (Runs.invariant run (P := fun u => u.service.config = t.service.config ∧
    u.service.streams = []) ?_ events ⟨rfl, fresh⟩).2
  rintro u e ⟨hconfig, hnone⟩
  refine ⟨(u.config_happen e).trans hconfig, List.eq_nil_iff_length_eq_zero.mpr ?_⟩
  rcases length_streams_happen u e with
    hsame | ⟨m, f, deadline, cursor, channel, forgotten, -, hopens⟩
  · rw [hsame, hnone]
    rfl
  · have hmade := hopens.made
    rw [hconfig, unmade] at hmade
    cases hmade

/-- The requests that have panicked and the streams that are being fed. -/
theorem inflight_run (config : ServerConfig) (backend : Store.Backend) (events : List Event) :
    let t := (start config backend).run events
    t.service.metrics.inflight =
      t.service.calls.countP (· matches .listing .panicked) + t.service.active := by
  intro t
  have hbalanced : t.service.metrics = t.service.ledger :=
    balanced_run (t := start config backend) rfl events
  rw [hbalanced, ledger, sum_account_calls, sum_account_streams]
  rfl

-- ---------------------------------------------------------------------------
-- All requests of a service
-- ---------------------------------------------------------------------------

/-- No request ever panics. One that is not refused, for which the store finds a cursor and which
its caller does not give up, waits for the store and then gets a stream of that cursor in its next
step. Once no stream is being fed none is counted. -/
structure CanStream (config : ServerConfig) : Prop where
  unbroken : ∀ (backend : Store.Backend) (events : List Event) (n : Nat),
    ((start config backend).run events).service.calls[n]? ≠ some (.listing .panicked)
  answered : ∀ (backend : Store.Backend) (before after : List Event)
    (timeout : Option Timeout.Duration) (cursor : Stream.Cursor),
    let s := (start config backend).run before
    let n := s.service.calls.length
    let due := s.service.lookupFinding.due
    let t := (s.happen (.list timeout)).run after
    s.service.closed = false → s.service.lookupFinding.result = .ok cursor → .abort n ∉ after →
      t.Answered n due cursor ∧
        (due ≤ t.service.now → (t.happen (.step (.call n))).Feeds n cursor)
  settled : ∀ (backend : Store.Backend) (events : List Event),
    let t := (start config backend).run events
    t.service.active = 0 → t.service.metrics.inflight = 0

/-- No stream ever begins; every request that gets a cursor panics, and stays counted as a stream in
flight. -/
structure Leaks (config : ServerConfig) : Prop where
  streamless : ∀ (backend : Store.Backend) (events : List Event),
    ((start config backend).run events).service.streams = []
  panics : ∀ (backend : Store.Backend) (events : List Event) (n due : Nat) (cursor : Stream.Cursor),
    let t := (start config backend).run events
    t.Waits n due cursor → due ≤ t.service.now →
      (t.happen (.step (.call n))).service.calls[n]? = some (.listing .panicked)
  counted : ∀ (backend : Store.Backend) (events : List Event),
    let t := (start config backend).run events
    t.service.metrics.inflight = t.service.calls.countP (· matches .listing .panicked)

theorem canStream_of_made (made : (Stream.Channel.make? config.bufferSize).isSome = true) :
    CanStream config where
  unbroken backend events n held := by
    have hnone := not_panicked_run (t := start config backend) made rfl events
    exact List.countP_eq_zero.mp hnone _ (List.mem_of_getElem? held) rfl
  answered := by
    intro backend before after timeout cursor s n due t opened result wanted
    have hconfig : s.service.config = config := config_run (start config backend) before
    have hfirst : (s.happen (.list timeout)).service.config = config :=
      (s.config_happen (.list timeout)).trans hconfig
    have hlast : t.service.config = config := (config_run _ after).trans hfirst
    have hanswered : t.Answered n due cursor :=
      (answered_list opened result timeout).run (hfirst ▸ made) wanted
    exact ⟨hanswered, fun late => hanswered.feeds late (hlast ▸ made)⟩
  settled := by
    intro backend events t idle
    have hnone := not_panicked_run (t := start config backend) made rfl events
    have hinflight : t.service.metrics.inflight = _ := inflight_run config backend events
    rw [hinflight, idle]
    exact congrArg (fun count : Nat => (count : Int) + 0) hnone

theorem leaks_of_unmade (unmade : Stream.Channel.make? config.bufferSize = none) :
    Leaks config where
  streamless backend events := streams_run_of_unmade unmade rfl events
  panics := by
    intro backend events n due cursor t waits late
    have hconfig : t.service.config = config := config_run (start config backend) events
    exact waits.panics late (hconfig ▸ unmade)
  counted := by
    intro backend events t
    have hstreams : t.service.streams = [] := streams_run_of_unmade unmade rfl events
    have hinflight : t.service.metrics.inflight = _ := inflight_run config backend events
    rw [hinflight, active, hstreams]
    exact Int.add_zero _

theorem Leaks.first_panics (h : Leaks config) (cursor : Stream.Cursor) :
    ((start config (answering 0 cursor)).run [.list none, .step (.call 0)]).service.calls[0]? =
      some (.listing .panicked) :=
  h.panics (answering 0 cursor) [.list none] 0 0 cursor ⟨none, false, rfl⟩ (Nat.le_refl 0)

/-- An accepted configuration can stream exactly if its buffer size is one that a channel can have;
otherwise it panics and leaks with every request. -/
theorem canStream_iff {a : ServerArguments} (accepted : ServerConfig.ofArguments a = .ok config) :
    (CanStream config ↔ a.bufferSize ≤ Stream.Channel.capacityLimit) ∧
      (Stream.Channel.capacityLimit < a.bufferSize → Leaks config) := by
  obtain ⟨fit, store, -, rfl⟩ := ServerConfig.ofArguments_eq_ok_iff.mp accepted
  have hpositive : 0 < a.bufferSize := Nat.pos_of_ne_zero (not_or.mp fit).1
  have hsize : (ServerConfig.withStore a store).bufferSize = a.bufferSize := rfl
  have hleaks (large : Stream.Channel.capacityLimit < a.bufferSize) :
      Leaks (ServerConfig.withStore a store) := by
    refine leaks_of_unmade (Option.not_isSome_iff_eq_none.mp fun made => ?_)
    have hsmall := (Stream.Channel.isSome_make?_iff.mp made).2
    omega
  refine ⟨⟨fun can => ?_, fun small => ?_⟩, hleaks⟩
  · refine Nat.le_of_not_lt fun large => ?_
    exact can.unbroken _ _ 0 ((hleaks large).first_panics default)
  · exact canStream_of_made (Stream.Channel.isSome_make?_iff.mpr ⟨hpositive, small⟩)

theorem canStream_at_limit :
    let a : ServerArguments :=
      ⟨50051, "memory", "animals", "creatures", "films", "movies", "title", "", 2 ^ 61 - 1, 3⟩
    ServerConfig.ofArguments a = .ok (ServerConfig.withStore a .memory) ∧
      CanStream (ServerConfig.withStore a .memory) := by
  intro a
  have haccepted : ServerConfig.ofArguments a = .ok (ServerConfig.withStore a .memory) := by
    decide +kernel
  exact ⟨haccepted, (canStream_iff haccepted).1.mpr (by decide)⟩

/-- One more is accepted, and the first request panics and stays counted. -/
theorem request_panics_beyond_limit :
    let a : ServerArguments :=
      ⟨50051, "memory", "animals", "creatures", "films", "movies", "title", "", 2 ^ 61, 3⟩
    let config := ServerConfig.withStore a .memory
    let t := (start config (answering 0 (.ofList []))).run [.list none, .step (.call 0)]
    ServerConfig.ofArguments a = .ok config ∧ a.bufferSize < UInt64.size ∧
      t.service.calls[0]? = some (.listing .panicked) ∧ t.service.active = 0 ∧
      t.service.metrics.inflight = 1 :=
  ⟨by decide +kernel, by decide, rfl, rfl, rfl⟩

end Scene

end Service

end Menagerie
