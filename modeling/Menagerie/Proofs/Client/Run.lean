import Menagerie.Client.Calls
import Menagerie.Proofs.Timeout

/-!
# Runs of the client

What the two calls of a run come to is a matter of what the server sends and when: `Searches` for
the first call, `Lists` for the second. `run_settles` reads a run off these: when the second request
is sent, what each header allows, and which report or which failure the run ends with.
-/

namespace Menagerie.Client

variable {μ : Type} {now deadline : Instant}

-- ---------------------------------------------------------------------------
-- Requests
-- ---------------------------------------------------------------------------

def Request.Allows (request : Request μ) (limit : Timeout.Duration) : Prop :=
  ∃ timeout, Timeout.ofMetadata? request.metadata = some timeout ∧ timeout ≤ limit

theorem prepare_of_le (late : deadline ≤ now) (message : μ) :
    Deadline.prepare ⟨deadline⟩ now message = .expired := by
  simp [Deadline.prepare, Deadline.remaining?, Nat.not_lt.mpr late]

theorem prepare_of_lt (early : now < deadline)
    (fits : (Timeout.write? (deadline - now)).isSome = true) (message : μ) :
    ∃ request, Deadline.prepare ⟨deadline⟩ now message = .request request ∧
      request.message = message ∧ request.Allows (deadline - now) := by
  obtain ⟨text, htext⟩ := Option.isSome_iff_exists.mp fits
  obtain ⟨u, -, hread⟩ := Timeout.ofMetadata?_of_write? .empty htext
  refine ⟨⟨message, Metadata.empty.insert Timeout.header (Metadata.bytesOf (String.ofList text))⟩,
    ?_, rfl, _, hread, Nat.div_mul_le_self _ _⟩
  simp [Deadline.prepare, Deadline.remaining?, early, htext]

-- ---------------------------------------------------------------------------
-- The first call
-- ---------------------------------------------------------------------------

/-- What an answer says of the creature; that there is none is an answer as well. -/
inductive Tolerates : Except Status Creature → Option Creature → Prop where
  | found {creature : Creature} : Tolerates (.ok creature) (some creature)
  | missing {status : Status} (code : status.code = .notFound) : Tolerates (.error status) none

inductive Searches (now deadline : Instant) :
    Option (Reply (Except Status Creature)) → Except CallError (Option Creature) → Instant →
      Prop where
  | answered {delay : Timeout.Duration} {answer : Except Status Creature}
      {creature : Option Creature} (timely : now + delay ≤ deadline)
      (tolerates : Tolerates answer creature) :
      Searches now deadline (some ⟨delay, answer⟩) (.ok creature) (now + delay)
  | failed {delay : Timeout.Duration} {status : Status} (timely : now + delay ≤ deadline)
      (code : status.code ≠ .notFound) :
      Searches now deadline (some ⟨delay, .error status⟩) (.error (.ofStatus searchCall status))
        (now + delay)
  | late {delay : Timeout.Duration} {answer : Except Status Creature}
      (late : deadline < now + delay) :
      Searches now deadline (some ⟨delay, answer⟩) (.error (.timeout searchCall)) deadline
  | silent : Searches now deadline none (.error (.timeout searchCall)) deadline

theorem tolerate_ofStatus (status : Status) :
    tolerate (.error (.ofStatus searchCall status)) =
      if status.code = .notFound then .ok none else .error (.ofStatus searchCall status) := by
  unfold CallError.ofStatus
  split
  next h => simp [tolerate, h]
  next =>
    split
    next h => simp [tolerate, h.1]
    next =>
      split
      next => simp [tolerate]
      next => simp [tolerate]

theorem searches_await (now deadline : Instant) (reply : Option (Reply (Except Status Creature))) :
    Searches now deadline reply (tolerate (Deadline.await ⟨deadline⟩ now searchCall reply).1)
      (Deadline.await ⟨deadline⟩ now searchCall reply).2 := by
  unfold Deadline.await
  split
  next => exact .silent
  next reply =>
    obtain ⟨delay, answer⟩ := reply
    split
    next timely =>
      cases answer with
      | ok creature => exact .answered timely .found
      | error status =>
        show Searches now deadline _ (tolerate (.error (.ofStatus searchCall status))) _
        rw [tolerate_ofStatus]
        split
        next code => exact .answered timely (.missing code)
        next code => exact .failed timely code
    next late => exact .late (Nat.lt_of_not_le late)

section

variable {reply : Option (Reply (Except Status Creature))}
  {result result' : Except CallError (Option Creature)} {instant instant' : Instant}

theorem Searches.le (h : Searches now deadline reply result instant) : instant ≤ deadline := by
  cases h with
  | answered timely | failed timely => exact timely
  | late | silent => exact Nat.le_refl _

theorem Searches.ge (h : Searches now deadline reply result instant) (early : now ≤ deadline) :
    now ≤ instant := by
  cases h with
  | answered | failed => exact Nat.le_add_right _ _
  | late | silent => exact early

theorem Searches.unique (h : Searches now deadline reply result instant)
    (h' : Searches now deadline reply result' instant') :
    result = result' ∧ instant = instant' := by
  cases h with
  | answered timely tolerates =>
    cases h' with
    | answered _ tolerates' =>
      cases tolerates <;> cases tolerates' <;> exact ⟨rfl, rfl⟩
    | failed _ code =>
      cases tolerates with
      | missing code' => exact absurd code' code
    | late late => exact absurd timely (Nat.not_le.mpr late)
  | failed timely code =>
    cases h' with
    | answered _ tolerates =>
      cases tolerates with
      | missing code' => exact absurd code' code
    | failed => exact ⟨rfl, rfl⟩
    | late late => exact absurd timely (Nat.not_le.mpr late)
  | late late =>
    cases h' with
    | answered timely | failed timely => exact absurd timely (Nat.not_le.mpr late)
    | late => exact ⟨rfl, rfl⟩
  | silent =>
    cases h' with
    | silent => exact ⟨rfl, rfl⟩

end

-- ---------------------------------------------------------------------------
-- The second call
-- ---------------------------------------------------------------------------

/-- The stream brings these creatures, one after the other, and then this event at this instant. -/
inductive Brings : Instant → List Arrival → List Creature → Event → Instant → Prop where
  | last {now : Instant} {gap : Timeout.Duration} {event : Event} {rest : List Arrival}
      (final : ∀ creature, event ≠ .creature creature) :
      Brings now (⟨gap, event⟩ :: rest) [] event (now + gap)
  | next {now instant : Instant} {gap : Timeout.Duration} {creature : Creature}
      {rest : List Arrival} {creatures : List Creature} {event : Event}
      (brings : Brings (now + gap) rest creatures event instant) :
      Brings now (⟨gap, .creature creature⟩ :: rest) (creature :: creatures) event instant

inductive Lists (now deadline : Instant) :
    List Arrival → Except CallError (List Creature) → Instant → Prop where
  | complete {arrivals : List Arrival} {creatures : List Creature} {instant : Instant}
      (timely : instant ≤ deadline) (brings : Brings now arrivals creatures .finish instant) :
      Lists now deadline arrivals (.ok creatures) instant
  | failed {arrivals : List Arrival} {creatures : List Creature} {status : Status}
      {instant : Instant} (timely : instant ≤ deadline)
      (brings : Brings now arrivals creatures (.failed status) instant) :
      Lists now deadline arrivals (.error (.ofStatus listCall status)) instant
  | late {arrivals : List Arrival}
      (late : ∀ creatures event instant, Brings now arrivals creatures event instant →
        deadline < instant) :
      Lists now deadline arrivals (.error (.timeout listCall)) deadline

section

variable {arrivals : List Arrival} {creatures creatures' : List Creature} {event event' : Event}
  {instant instant' : Instant} {result result' : Except CallError (List Creature)}

theorem Brings.le (h : Brings now arrivals creatures event instant) : now ≤ instant := by
  induction h with
  | last => exact Nat.le_add_right _ _
  | next _ ih => exact Nat.le_trans (Nat.le_add_right _ _) ih

theorem Brings.unique (h : Brings now arrivals creatures event instant)
    (h' : Brings now arrivals creatures' event' instant') :
    creatures = creatures' ∧ event = event' ∧ instant = instant' := by
  induction h generalizing creatures' with
  | last final =>
    cases h' with
    | last => exact ⟨rfl, rfl, rfl⟩
    | next => exact absurd rfl (final _)
  | next _ ih =>
    cases h' with
    | last final => exact absurd rfl (final _)
    | next brings =>
      obtain ⟨rfl, hevent, hinstant⟩ := ih brings
      exact ⟨rfl, hevent, hinstant⟩

theorem Lists.le (h : Lists now deadline arrivals result instant) : instant ≤ deadline := by
  cases h with
  | complete timely | failed timely => exact timely
  | late => exact Nat.le_refl _

theorem Lists.unique (h : Lists now deadline arrivals result instant)
    (h' : Lists now deadline arrivals result' instant') :
    result = result' ∧ instant = instant' := by
  cases h with
  | complete timely brings =>
    cases h' with
    | complete _ brings' =>
      obtain ⟨rfl, -, rfl⟩ := brings.unique brings'
      exact ⟨rfl, rfl⟩
    | failed _ brings' => cases (brings.unique brings').2.1
    | late late => exact absurd timely (Nat.not_le.mpr (late _ _ _ brings))
  | failed timely brings =>
    cases h' with
    | complete _ brings' => cases (brings.unique brings').2.1
    | failed _ brings' =>
      obtain ⟨-, hevent, rfl⟩ := brings.unique brings'
      cases hevent
      exact ⟨rfl, rfl⟩
    | late late => exact absurd timely (Nat.not_le.mpr (late _ _ _ brings))
  | late late =>
    cases h' with
    | complete timely brings | failed timely brings =>
      exact absurd timely (Nat.not_le.mpr (late _ _ _ brings))
    | late => exact ⟨rfl, rfl⟩

end

def listed (creatures : List Creature) : Option CallError → Except CallError (List Creature)
  | none => .ok creatures
  | some e => .error e

theorem Lists.cons {gap : Timeout.Duration} {creature : Creature} {rest : List Arrival}
    {creatures : List Creature} {failure : Option CallError} {instant : Instant}
    (h : Lists (now + gap) deadline rest (listed creatures failure) instant) :
    Lists now deadline (⟨gap, .creature creature⟩ :: rest)
      (listed (creature :: creatures) failure) instant := by
  cases failure with
  | none =>
    cases h with
    | complete timely brings => exact .complete timely (.next brings)
  | some e =>
    generalize hresult : listed creatures (some e) = result at h
    cases h with
    | complete => cases hresult
    | failed timely brings =>
      cases hresult
      exact .failed timely (.next brings)
    | late late =>
      cases hresult
      refine .late fun creatures event instant brings => ?_
      cases brings with
      | last final => exact absurd rfl (final _)
      | next brings => exact late _ _ _ brings

theorem lists_drain (now deadline : Instant) (arrivals : List Arrival) :
    Lists now deadline arrivals
      (listed (Deadline.drain ⟨deadline⟩ now arrivals).1
        (Deadline.drain ⟨deadline⟩ now arrivals).2.1)
      (Deadline.drain ⟨deadline⟩ now arrivals).2.2 := by
  induction arrivals generalizing now with
  | nil => exact .late fun _ _ _ brings => by cases brings
  | cons arrival rest ih =>
    obtain ⟨gap, event⟩ := arrival
    unfold Deadline.drain
    split
    next timely =>
      cases event with
      | creature creature => exact (ih (now + gap)).cons
      | finish => exact .complete timely (.last (by simp))
      | failed status => exact .failed timely (.last (by simp))
    next late =>
      refine .late fun creatures event instant brings => ?_
      apply Nat.lt_of_lt_of_le (Nat.lt_of_not_le late)
      cases brings with
      | last => exact Nat.le_refl _
      | next brings => exact brings.le

-- ---------------------------------------------------------------------------
-- Runs
-- ---------------------------------------------------------------------------

theorem ofArguments_eq_ok_iff {a : ClientArguments} {config : ClientConfig} :
    ClientConfig.ofArguments a = .ok config ↔ a.timeout ≠ 0 ∧
      ∃ address, ClientConfig.readAddress a.address = .ok address ∧
        config = ⟨address, a.name, a.timeout⟩ := by
  unfold ClientConfig.ofArguments ClientConfig.make
  split
  next hzero => simp [hzero]
  next hpos =>
    cases ClientConfig.readAddress a.address with
    | error e =>
      constructor
      · rintro ⟨⟩
      · rintro ⟨-, address, ⟨⟩, -⟩
    | ok address =>
      constructor
      · rintro ⟨⟩
        exact ⟨hpos, address, rfl, rfl⟩
      · rintro ⟨-, address, ⟨⟩, rfl⟩
        rfl

theorem timeout_pos {a : ClientArguments} {config : ClientConfig}
    (accepted : ClientConfig.ofArguments a = .ok config) : 0 < config.timeout := by
  obtain ⟨hzero, address, -, rfl⟩ := ofArguments_eq_ok_iff.mp accepted
  exact Nat.pos_of_ne_zero hzero

def Run.requested (r : Run) : Option (Request CreaturesRequest) :=
  r.second.bind (·.request)

section

variable {σ : Type} {server : Server σ} {s s₁ s₂ : σ}

theorem search?_of_lt (server : Server σ) (s : σ) (early : now < deadline)
    (fits : (Timeout.write? (deadline - now)).isSome = true) (name : String) :
    ∃ (request : Request CreatureName) (first : Exchange CreatureName Creature),
      search? server s ⟨deadline⟩ now name = some ((server.search s request).1, first) ∧
        first.request = some request ∧ request.message = ⟨name⟩ ∧
        request.Allows (deadline - now) ∧
        Searches now deadline (server.search s request).2 (tolerate first.result)
          first.instant := by
  obtain ⟨request, hrequest, hmessage, hallows⟩ := prepare_of_lt early fits (⟨name⟩ : CreatureName)
  exact ⟨request, _, by rw [search?, hrequest], rfl, hmessage, hallows, searches_await ..⟩

theorem list?_of_le (late : deadline ≤ now) :
    list? server s ⟨deadline⟩ now =
      some (s, { request := none, result := .error (.timeout listCall), instant := now }) := by
  rw [list?, prepare_of_le late]

theorem list?_of_lt (server : Server σ) (s : σ) (early : now < deadline)
    (fits : (Timeout.write? (deadline - now)).isSome = true) :
    ∃ (request : Request CreaturesRequest) (second : Exchange CreaturesRequest (List Creature)),
      list? server s ⟨deadline⟩ now = some ((server.list s request).1, second) ∧
        second.request = some request ∧ request.Allows (deadline - now) ∧
        Lists now deadline (server.list s request).2 second.result second.instant := by
  obtain ⟨request, hrequest, -, hallows⟩ := prepare_of_lt early fits ({} : CreaturesRequest)
  exact ⟨request, _, by rw [list?, hrequest], rfl, hallows, lists_drain ..⟩

variable {config : ClientConfig} {start : Instant} {first : Exchange CreatureName Creature}

theorem run?_of_error {e : CallError}
    (hfirst : search? server s (.ofConfig config start) start config.name = some (s₁, first))
    (herror : tolerate first.result = .error e) :
    ∃ r, run? server s config start = some (s₁, r) ∧
      r.first = first ∧ r.second = none ∧ r.result = .error e := by
  simp only [run?, hfirst, herror, Option.bind_eq_bind, Option.bind_some]
  exact ⟨_, rfl, rfl, rfl, rfl⟩

theorem run?_of_ok {creature : Option Creature}
    {second : Exchange CreaturesRequest (List Creature)}
    (hfirst : search? server s (.ofConfig config start) start config.name = some (s₁, first))
    (hok : tolerate first.result = .ok creature)
    (hsecond : list? server s₁ (.ofConfig config start) first.instant = some (s₂, second)) :
    ∃ r, run? server s config start = some (s₂, r) ∧ r.first = first ∧ r.second = some second ∧
      r.result = second.result.map (Report.mk creature) := by
  simp only [run?, hfirst, hok, Option.bind_eq_bind, Option.bind_some, hsecond]
  split
  next hresult => exact ⟨_, rfl, rfl, rfl, by rw [hresult]; rfl⟩
  next hresult => exact ⟨_, rfl, rfl, rfl, by rw [hresult]; rfl⟩

end

/-- What a run comes to that starts at this instant with this request, in terms of what the server
sends. -/
structure Settles {σ : Type} (server : Server σ) (s : σ) (start deadline : Instant)
    (request : Request CreatureName) (s' : σ) (r : Run) : Prop where
  timely : r.instant ≤ deadline
  requested_iff : r.requested.isSome = true ↔ ∃ creature instant,
    Searches start deadline (server.search s request).2 (.ok creature) instant ∧ instant < deadline
  allows : ∀ creature instant,
    Searches start deadline (server.search s request).2 (.ok creature) instant →
      ∀ second, r.requested = some second → second.Allows (deadline - instant)
  ok_iff : ∀ report, r.result = .ok report ↔ ∃ instant second last,
    Searches start deadline (server.search s request).2 (.ok report.creature) instant ∧
      r.requested = some second ∧
      Lists instant deadline (server.list (server.search s request).1 second).2
        (.ok report.creatures) last
  error_iff : ∀ e, r.result = .error e ↔
    (∃ instant, Searches start deadline (server.search s request).2 (.error e) instant) ∨
      ∃ creature instant,
        Searches start deadline (server.search s request).2 (.ok creature) instant ∧
          (instant = deadline ∧ e = .timeout listCall ∨
            ∃ second last, r.requested = some second ∧
              Lists instant deadline (server.list (server.search s request).1 second).2 (.error e)
                last)
  /-- Nothing else is asked of the server. -/
  state : s' = match r.requested with
    | none => (server.search s request).1
    | some second => (server.list (server.search s request).1 second).1

section

variable {σ : Type} {server : Server σ} {s s' : σ} {start deadline instant last : Instant}
  {request : Request CreatureName} {r : Run} {creature : Option Creature}

theorem settles_of_failed {e : CallError}
    (searches : Searches start deadline (server.search s request).2 (.error e) instant)
    (hinstant : r.instant = instant) (hsecond : r.requested = none) (hresult : r.result = .error e) :
    Settles server s start deadline request (server.search s request).1 r where
  timely := hinstant ▸ searches.le
  requested_iff := by
    simp only [hsecond, Option.isSome_none, Bool.false_eq_true, false_iff]
    rintro ⟨creature, instant', searches', -⟩
    cases (searches.unique searches').1
  allows := by simp [hsecond]
  ok_iff := by simp [hsecond, hresult]
  error_iff e' := by
    rw [hresult]
    constructor
    · rintro ⟨⟩
      exact .inl ⟨_, searches⟩
    · rintro (⟨instant', searches'⟩ | ⟨creature, instant', searches', -⟩)
      · cases (searches.unique searches').1
        rfl
      · cases (searches.unique searches').1
  state := by rw [hsecond]

theorem settles_of_exhausted
    (searches : Searches start deadline (server.search s request).2 (.ok creature) deadline)
    (hinstant : r.instant = deadline) (hsecond : r.requested = none)
    (hresult : r.result = .error (.timeout listCall)) :
    Settles server s start deadline request (server.search s request).1 r where
  timely := hinstant ▸ Nat.le_refl _
  requested_iff := by
    simp only [hsecond, Option.isSome_none, Bool.false_eq_true, false_iff]
    rintro ⟨creature, instant', searches', early⟩
    exact absurd (searches.unique searches').2 (Nat.ne_of_gt early)
  allows := by simp [hsecond]
  ok_iff := by simp [hsecond, hresult]
  error_iff e := by
    rw [hresult]
    constructor
    · rintro ⟨⟩
      exact .inr ⟨_, _, searches, .inl ⟨rfl, rfl⟩⟩
    · rintro (⟨instant', searches'⟩ | ⟨creature, instant', -, ⟨-, rfl⟩ | ⟨second, last, h, -⟩⟩)
      · cases (searches.unique searches').1
      · rfl
      · cases hsecond.symm.trans h
  state := by rw [hsecond]

theorem settles_of_listed {second : Request CreaturesRequest}
    {result : Except CallError (List Creature)}
    (searches : Searches start deadline (server.search s request).2 (.ok creature) instant)
    (early : instant < deadline)
    (lists : Lists instant deadline (server.list (server.search s request).1 second).2 result last)
    (allows : second.Allows (deadline - instant)) (hinstant : r.instant = last)
    (hsecond : r.requested = some second) (hresult : r.result = result.map (Report.mk creature)) :
    Settles server s start deadline request
      (server.list (server.search s request).1 second).1 r where
  timely := hinstant ▸ lists.le
  requested_iff := by
    simp only [hsecond, Option.isSome_some, true_iff]
    exact ⟨_, _, searches, early⟩
  allows creature' instant' searches' second' hsecond' := by
    obtain rfl := (searches.unique searches').2
    cases hsecond.symm.trans hsecond'
    exact allows
  ok_iff report := by
    rw [hresult]
    constructor
    · cases result with
      | error e => rintro ⟨⟩
      | ok creatures =>
        rintro ⟨⟩
        exact ⟨_, _, _, searches, hsecond, lists⟩
    · rintro ⟨instant', second', last', searches', hsecond', lists'⟩
      obtain ⟨hcreature, rfl⟩ := searches.unique searches'
      cases hsecond.symm.trans hsecond'
      cases hcreature
      rw [(lists.unique lists').1]
      rfl
  error_iff e := by
    rw [hresult]
    constructor
    · cases result with
      | ok creatures => rintro ⟨⟩
      | error e' =>
        rintro ⟨⟩
        exact .inr ⟨_, _, searches, .inr ⟨_, _, hsecond, lists⟩⟩
    · rintro (⟨instant', searches'⟩ |
        ⟨creature', instant', searches', ⟨rfl, -⟩ | ⟨second', last', hsecond', lists'⟩⟩)
      · cases (searches.unique searches').1
      · exact absurd (searches.unique searches').2 (Nat.ne_of_lt early)
      · obtain rfl := (searches.unique searches').2
        cases hsecond.symm.trans hsecond'
        rw [(lists.unique lists').1]
        rfl
  state := by rw [hsecond]

end

/-- A run under an accepted configuration whose timeout a header can say. -/
theorem run_settles {a : ClientArguments} {config : ClientConfig}
    (accepted : ClientConfig.ofArguments a = .ok config)
    (fits : (Timeout.write? (config.timeout * 1000000)).isSome = true) {σ : Type}
    (server : Server σ) (s : σ) (start : Instant) :
    ∃ (s' : σ) (r : Run) (request : Request CreatureName),
      run? server s config start = some (s', r) ∧
        r.first.request = some request ∧ request.message = ⟨config.name⟩ ∧
        request.Allows (config.timeout * 1000000) ∧
        Settles server s start (start + config.timeout * 1000000) request s' r := by
  have hpos : 0 < config.timeout * 1000000 := by
    have := timeout_pos accepted
    omega
  have hleft : start + config.timeout * 1000000 - start = config.timeout * 1000000 :=
    Nat.add_sub_cancel_left ..
  obtain ⟨request, first, hfirst, hrequest, hmessage, hallows, searches⟩ :=
    search?_of_lt server s (Nat.lt_add_of_pos_right hpos) (hleft ▸ fits) config.name
  rw [hleft] at hallows
  cases hresult : tolerate first.result with
  | error e =>
    rw [hresult] at searches
    obtain ⟨r, hrun, rfl, hnone, herror⟩ := run?_of_error hfirst hresult
    refine ⟨_, r, request, hrun, hrequest, hmessage, hallows,
      settles_of_failed searches ?_ ?_ herror⟩
    · rw [Run.instant, hnone]
    · rw [Run.requested, hnone, Option.bind_none]
  | ok creature =>
    rw [hresult] at searches
    rcases Nat.lt_or_eq_of_le searches.le with early | hdeadline
    · have hspent :
          start + config.timeout * 1000000 - first.instant ≤ config.timeout * 1000000 := by
        rw [Nat.sub_le_iff_le_add, Nat.add_comm]
        exact Nat.add_le_add_left (searches.ge (Nat.le_add_right ..)) _
      obtain ⟨second, exchange, hlist, hsecond, hallows', lists⟩ :=
        list?_of_lt server (server.search s request).1 early
          (Timeout.isSome_write?_of_le hspent fits)
      obtain ⟨r, hrun, rfl, hsome, hreport⟩ := run?_of_ok hfirst hresult hlist
      refine ⟨_, r, request, hrun, hrequest, hmessage, hallows,
        settles_of_listed searches early lists hallows' ?_ ?_ hreport⟩
      · rw [Run.instant, hsome]
      · rw [Run.requested, hsome, Option.bind_some, hsecond]
    · obtain ⟨r, hrun, rfl, hsome, hreport⟩ :=
        run?_of_ok hfirst hresult (list?_of_le (Nat.le_of_eq hdeadline.symm))
      rw [hdeadline] at searches
      refine ⟨_, r, request, hrun, hrequest, hmessage, hallows,
        settles_of_exhausted searches ?_ ?_ hreport⟩
      · rw [Run.instant, hsome]
        exact hdeadline
      · rw [Run.requested, hsome, Option.bind_some]

theorem run_settles_of_missing :
    let a : ClientArguments := ⟨"localhost:50051", "April", 1000⟩
    let config : ClientConfig := ⟨⟨some "http", "localhost:50051", ""⟩, "April", 1000⟩
    let server : Server Unit :=
      { search := fun s _ => (s, some ⟨5, .error ⟨.notFound, "no such creature"⟩⟩)
        list := fun s _ => (s, [⟨7, .finish⟩]) }
    ClientConfig.ofArguments a = .ok config ∧
      (Timeout.write? (config.timeout * 1000000)).isSome = true ∧
        ∃ (s' : Unit) (r : Run) (request : Request CreatureName),
          run? server () config 0 = some (s', r) ∧
            r.first.request = some request ∧ request.message = ⟨config.name⟩ ∧
            request.Allows (config.timeout * 1000000) ∧
            Settles server () 0 (0 + config.timeout * 1000000) request s' r :=
  ⟨rfl, by decide +kernel,
    run_settles (a := ⟨"localhost:50051", "April", 1000⟩) rfl (by decide +kernel) _ () 0⟩

end Menagerie.Client
