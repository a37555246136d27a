import Menagerie.Proofs.Client.Run

/-!
# Timeouts that a client can send

Of the timeouts a client configuration refuses only zero. Below `Timeout.limit` the time left can be
written into the header of every request that is sent before the deadline, and read back by the
server. A longer timeout is too much for the header of the first request, so that no run gets
anywhere: `sendable_iff`.
-/

namespace Menagerie.Client

/-- The first instant that a clock cannot tell: its seconds have 63 bits. -/
def Instant.limit : Instant := Nat.pow 2 63 * 1000000000

/-- The deadline is one that the clock can tell, if the clock is not at its end; every request that
is made before the deadline carries a timeout that the server reads, no longer than the time left;
and every run comes to something. -/
structure Sendable (config : ClientConfig) : Prop where
  reachable : ∀ start : Instant, start + UInt64.size * 1000000 ≤ Instant.limit →
    (Deadline.ofConfig config start).instant < Instant.limit
  writable : ∀ {μ : Type} (message : μ) (start now : Instant), start ≤ now →
    now < (Deadline.ofConfig config start).instant →
      ∃ request, (Deadline.ofConfig config start).prepare now message = .request request ∧
        request.message = message ∧
          request.Allows ((Deadline.ofConfig config start).instant - now)
  runs : ∀ {σ : Type} (server : Server σ) (s : σ) (start : Instant),
    (run? server s config start).isSome = true

section

variable {σ μ : Type} {server : Server σ} {s : σ} {config : ClientConfig} {start now : Instant}

theorem prepare_eq_unwritable_iff {deadline : Instant} {message : μ} :
    Deadline.prepare ⟨deadline⟩ now message = .unwritable ↔ Timeout.limit ≤ deadline - now := by
  have hpos : 0 < Timeout.limit := by decide
  rcases Nat.lt_or_ge now deadline with early | late
  · rcases Nat.lt_or_ge (deadline - now) Timeout.limit with fits | large
    · obtain ⟨request, hrequest, -⟩ :=
        prepare_of_lt early (Timeout.isSome_write?_iff.mpr fits) message
      simp [hrequest, fits]
    · have hnone : Timeout.write? (deadline - now) = none := by
        simpa [← Timeout.isSome_write?_iff] using Nat.not_lt.mpr large
      simp [Deadline.prepare, Deadline.remaining?, early, hnone, large]
  · rw [prepare_of_le late, Nat.sub_eq_zero_of_le late]
    simp [Nat.ne_of_gt hpos]

-- ---------------------------------------------------------------------------
-- Short timeouts
-- ---------------------------------------------------------------------------

section

variable (fits : config.timeout * 1000000 < Timeout.limit) (later : start ≤ now)

include fits later

theorem isSome_write?_left :
    (Timeout.write? (start + config.timeout * 1000000 - now)).isSome = true := by
  refine Timeout.isSome_write?_iff.mpr (Nat.lt_of_le_of_lt ?_ fits)
  calc start + config.timeout * 1000000 - now
      ≤ start + config.timeout * 1000000 - start := Nat.sub_le_sub_left later _
    _ = config.timeout * 1000000 := Nat.add_sub_cancel_left ..

theorem exists_search? (server : Server σ) (s : σ) (name : String) :
    ∃ s' first, search? server s (.ofConfig config start) now name = some (s', first) ∧
      now ≤ first.instant := by
  rcases Nat.lt_or_ge now (start + config.timeout * 1000000) with early | late
  · obtain ⟨request, first, hsearch, -, -, -, searches⟩ :=
      search?_of_lt server s early (isSome_write?_left fits later) name
    exact ⟨_, first, hsearch, searches.ge (Nat.le_of_lt early)⟩
  · have hsearch : search? server s (.ofConfig config start) now name =
        some (s, { request := none, result := .error (.timeout searchCall), instant := now }) := by
      rw [search?, Deadline.ofConfig, Deadline.after, prepare_of_le late]
    exact ⟨s, _, hsearch, Nat.le_refl now⟩

theorem exists_list? (server : Server σ) (s : σ) :
    ∃ s' second, list? server s (.ofConfig config start) now = some (s', second) := by
  rcases Nat.lt_or_ge now (start + config.timeout * 1000000) with early | late
  · obtain ⟨request, second, hlist, -⟩ :=
      list?_of_lt server s early (isSome_write?_left fits later)
    exact ⟨_, second, hlist⟩
  · exact ⟨s, _, list?_of_le late⟩

end

theorem isSome_run? (fits : config.timeout * 1000000 < Timeout.limit) (server : Server σ) (s : σ)
    (start : Instant) : (run? server s config start).isSome = true := by
  obtain ⟨s', first, hfirst, hinstant⟩ :=
    exists_search? fits (Nat.le_refl start) server s config.name
  cases hresult : tolerate first.result with
  | error e =>
    obtain ⟨r, hrun, -⟩ := run?_of_error hfirst hresult
    rw [hrun]
    rfl
  | ok creature =>
    obtain ⟨s'', second, hsecond⟩ := exists_list? fits hinstant server s'
    obtain ⟨r, hrun, -⟩ := run?_of_ok hfirst hresult hsecond
    rw [hrun]
    rfl

theorem sendable_of_lt (fits : config.timeout * 1000000 < Timeout.limit)
    (word : config.timeout < UInt64.size) : Sendable config where
  reachable start hroom := by
    have hbudget : config.timeout * 1000000 < UInt64.size * 1000000 :=
      Nat.mul_lt_mul_of_pos_right word (by decide)
    exact Nat.lt_of_lt_of_le (Nat.add_lt_add_left hbudget start) hroom
  writable message start now later early :=
    prepare_of_lt early (isSome_write?_left fits later) message
  runs := isSome_run? fits

-- ---------------------------------------------------------------------------
-- Long timeouts
-- ---------------------------------------------------------------------------

theorem prepare_at_start (large : Timeout.limit ≤ config.timeout * 1000000) (start : Instant)
    (message : μ) : (Deadline.ofConfig config start).prepare start message = .unwritable := by
  have hleft : start + config.timeout * 1000000 - start = config.timeout * 1000000 :=
    Nat.add_sub_cancel_left ..
  rw [Deadline.ofConfig, Deadline.after, prepare_eq_unwritable_iff, hleft]
  exact large

theorem search?_eq_none (large : Timeout.limit ≤ config.timeout * 1000000) (server : Server σ)
    (s : σ) (start : Instant) (name : String) :
    search? server s (.ofConfig config start) start name = none := by
  rw [search?, prepare_at_start large]

theorem run?_eq_none (large : Timeout.limit ≤ config.timeout * 1000000) (server : Server σ) (s : σ)
    (start : Instant) : run? server s config start = none := by
  rw [run?, search?_eq_none large server s start config.name]
  rfl

end

def silent : Server Unit := ⟨fun s _ => (s, none), fun s _ => (s, [])⟩

/-- An accepted timeout, a number of milliseconds in a word, can be sent exactly if a header can say
it; otherwise every run breaks off at its first request. -/
theorem sendable_iff {a : ClientArguments} {config : ClientConfig}
    (accepted : ClientConfig.ofArguments a = .ok config) (word : a.timeout < UInt64.size) :
    (Sendable config ↔ a.timeout * 1000000 < Timeout.limit) ∧
      (Timeout.limit ≤ a.timeout * 1000000 → ∀ {σ : Type} (server : Server σ) (s : σ)
        (start : Instant), run? server s config start = none) := by
  obtain ⟨-, address, -, hconfig⟩ := ofArguments_eq_ok_iff.mp accepted
  have htimeout : config.timeout = a.timeout := by rw [hconfig]
  rw [← htimeout] at word ⊢
  refine ⟨⟨fun sendable => ?_, fun fits => sendable_of_lt fits word⟩,
    fun large => run?_eq_none large⟩
  rcases Nat.lt_or_ge (config.timeout * 1000000) Timeout.limit with fits | large
  · exact fits
  · have hruns := sendable.runs silent () 0
    rw [run?_eq_none large] at hruns
    cases hruns

theorem readAddress_local :
    ClientConfig.readAddress "localhost:50051" = .ok ⟨some "http", "localhost:50051", ""⟩ := rfl

theorem sendable_below_limit :
    let a : ClientArguments := ⟨"localhost:50051", "April", 359999999999999⟩
    let config : ClientConfig := ⟨⟨some "http", "localhost:50051", ""⟩, "April", 359999999999999⟩
    ClientConfig.ofArguments a = .ok config ∧ a.timeout < UInt64.size ∧ Sendable config := by
  intro a config
  have haccepted : ClientConfig.ofArguments a = .ok config :=
    ofArguments_eq_ok_iff.mpr ⟨by simp [a], _, readAddress_local, rfl⟩
  have hword : a.timeout < UInt64.size := by decide
  exact ⟨haccepted, hword, (sendable_iff haccepted hword).1.mpr (by decide)⟩

/-- One millisecond more is accepted, but cannot be sent over any connection. -/
theorem run_breaks_at_limit :
    let a : ClientArguments := ⟨"localhost:50051", "April", 360000000000000⟩
    let config : ClientConfig := ⟨⟨some "http", "localhost:50051", ""⟩, "April", 360000000000000⟩
    ClientConfig.ofArguments a = .ok config ∧ a.timeout < UInt64.size ∧
      (Deadline.ofConfig config 0).prepare 0 (⟨config.name⟩ : CreatureName) = .unwritable ∧
      (search? silent () (.ofConfig config 0) 0 config.name).isNone = true ∧
      (run? silent () config 0).isNone = true := by
  intro a config
  have haccepted : ClientConfig.ofArguments a = .ok config :=
    ofArguments_eq_ok_iff.mpr ⟨by simp [a], _, readAddress_local, rfl⟩
  have hlarge : Timeout.limit ≤ config.timeout * 1000000 := by decide
  refine ⟨haccepted, by decide, prepare_at_start hlarge 0 _, ?_, ?_⟩
  · rw [search?_eq_none hlarge]
    rfl
  · rw [run?_eq_none hlarge]
    rfl

end Menagerie.Client
