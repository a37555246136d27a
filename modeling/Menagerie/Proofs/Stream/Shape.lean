import Menagerie.Proofs.Stream.Delivery

/-!
# The shape of a stream

In every run, `enqueued_shape`: what was ever put into the channel are the images of the first
documents of the cursor, in order, and then at most one status, which is that of the failure with
which the feeder returned. `Scene.Closes` lists the ways to return with a failure and says of each
when the caller is left without a status.
-/

namespace Menagerie.Stream

namespace Scene

variable {c : Cursor} {t : Scene} {documents : List Document} {failure : Failure} {last : List Item}

/-- Why the feeder returns in its next step with this failure, and exactly when it leaves no status:
the caller went away; the service cancelled and there was no room at that moment; the deadline had
passed and the caller left or the service cancelled while the feeder waited for room; the cursor
failed and the caller left. -/
def Closes (t : Scene) (c : Cursor) (documents : List Document) (failure : Failure)
    (last : List Item) : Prop :=
  (failure = .requestCancelled ∧ t.feeder.channel.receiver ≠ .opened ∧ last = []) ∨
  (failure = .serviceShutdown ∧ t.cancelled = true ∧
    (last = [] ↔ t.feeder.channel.receiver ≠ .opened ∨ t.feeder.channel.Full)) ∨
  (failure = .deadlineExceeded ∧ t.feeder.position = .notifying ∧
    (last = [] ↔ t.feeder.channel.receiver ≠ .opened ∨ t.cancelled = true)) ∨
  (t.feeder.position = .forwarding failure ∧ c.Fails documents failure ∧
    (last = [] ↔ t.feeder.channel.receiver ≠ .opened))

theorem Faithful.fails_of_forwarding (h : t.Faithful c documents)
    (hp : t.feeder.position = .forwarding failure) : c.Fails documents failure := by
  have haccount := h.account
  generalize t.enqueued = items at haccount
  rw [hp] at haccount
  cases haccount with
  | forwarding fails => exact fails

theorem Faithful.closes (h : t.Faithful c documents)
    (he : t.feeder.Ending t.moment (.error failure) last) : t.Closes c documents failure last := by
  cases he with
  | left _ _ gone => exact .inl ⟨rfl, gone, rfl⟩
  | stopped _ cancelled room =>
    have hroom : ¬ (t.feeder.channel.receiver ≠ .opened ∨ t.feeder.channel.Full) := fun hno =>
      Channel.not_accepts_iff.mpr hno room
    exact .inr (.inl ⟨rfl, cancelled, by simpa using hroom⟩)
  | stoppedUnheard _ cancelled noRoom =>
    exact .inr (.inl ⟨rfl, cancelled, by simpa using Channel.not_accepts_iff.mp noRoom⟩)
  | told owed running room =>
    rcases Position.owed?_eq_some_iff.mp owed with hp | ⟨hp, rfl⟩
    · exact .inr (.inr (.inr ⟨hp, h.fails_of_forwarding hp, by simp [room.1]⟩))
    · have hrunning : t.cancelled = false := running hp
      exact .inr (.inr (.inl ⟨rfl, hp, by simp [room.1, hrunning]⟩))
  | unheard owed _ gone =>
    rcases Position.owed?_eq_some_iff.mp owed with hp | ⟨hp, rfl⟩
    · exact .inr (.inr (.inr ⟨hp, h.fails_of_forwarding hp, by simp [gone]⟩))
    · exact .inr (.inr (.inl ⟨rfl, hp, by simp [gone]⟩))
  | gaveUp position cancelled =>
    have hcancelled : t.cancelled = true := cancelled
    exact .inr (.inr (.inl ⟨rfl, position, by simp [hcancelled]⟩))

/-- The items of a stream in every reachable state. -/
theorem enqueued_shape {capacity : Nat} {deadline : Option Nat} {start : Scene}
    (hmake : make? c capacity deadline = some start) (hs : List Happening) :
    ∃ documents last, c.Begins documents ∧
      (start.run hs).enqueued = images documents ++ last ∧ (start.run hs).Conserves ∧
      match (start.run hs).feeder.outcome? with
      | none => last = []
      | some (.ok n) => last = [] ∧ c.Yields documents ∧ n = documents.length
      | some (.error failure) =>
        (last = [] ∨ last = [.error failure.status]) ∧
          ∃ before after, hs = before ++ .step :: after ∧
            (start.run before).Closes c documents failure last := by
  have hconserves := conserves_run hmake hs
  cases hout : (start.run hs).feeder.outcome? with
  | none =>
    obtain ⟨documents, hf⟩ := faithful_run hmake hs
    have hitems := hf.account.of_unfinished fun outcome hp => by
      rw [Feeder.outcome?_eq_some_iff.mpr hp] at hout
      cases hout
    exact ⟨documents, [], hf.begins, by simp [hitems], hconserves, rfl⟩
  | some outcome =>
    obtain ⟨before, after, documents, last, hsplit, hf, hending, hitems⟩ :=
      exists_return hmake hout
    refine ⟨documents, last, hf.begins, hitems, hconserves, ?_⟩
    cases outcome with
    | ok n =>
      obtain ⟨rfl, rfl, reads, look⟩ := hending.of_ok
      exact ⟨rfl, hf.yields reads look, hf.sent⟩
    | error failure =>
      exact ⟨hending.last_of_error, before, after, hsplit, hf.closes hending⟩

def brokenCursor : Cursor := .ofList [.document .empty, .failure (.store "cursor killed")]

theorem enqueued_shape_broken :
    ∃ start, make? brokenCursor 1 none = some start ∧
      let hs : List Happening := [.step, .step, .step, .take, .step]
      ∃ documents last, brokenCursor.Begins documents ∧
        (start.run hs).enqueued = images documents ++ last ∧ (start.run hs).Conserves ∧
        let failure : Failure := .store "cursor killed"
        (last = [] ∨ last = [.error failure.status]) ∧
          ∃ before after, hs = before ++ .step :: after ∧
            (start.run before).Closes brokenCursor documents failure last := by
  have hmake : make? brokenCursor 1 none = some _ := rfl
  exact ⟨_, hmake, enqueued_shape hmake [.step, .step, .step, .take, .step]⟩

/-- A failure of the cursor is passed on whatever it is, also one that reads like a departure. -/
theorem status_of_requestCancelled :
    ∃ start, make? (.ofList [.failure .requestCancelled]) 1 none = some start ∧
      (start.run [.step, .step]).feeder.outcome? = some (.error .requestCancelled) ∧
      (start.run [.step, .step]).enqueued = [.error Failure.requestCancelled.status] :=
  ⟨_, rfl, rfl, rfl⟩

end Scene

end Menagerie.Stream
