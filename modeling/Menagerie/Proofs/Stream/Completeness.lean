import Menagerie.Proofs.Stream.Delivery

/-!
# Complete streams and streams cut short

A caller that stays to the end of the stream and sees no error has all documents, unless the service
cancelled the stream and had no room, or no patience, for the status:
`complete_or_silenced_of_ended`. These silent cuts are the only ones; every other stream that is cut
short ends with its status.
-/

namespace Menagerie.Stream.Scene

variable {c : Cursor} {s t start : Scene} {documents : List Document} {hs : List Happening}

/-- The service has cancelled, and the status that the stream is owed does not get into the channel:
it is full, or the feeder was waiting to report the deadline and does not wait on. -/
def Mutes (t : Scene) : Prop :=
  t.cancelled = true ∧
    (t.feeder.position.Racing ∧ t.feeder.channel.Full ∨ t.feeder.position = .notifying)

def Silenced (start : Scene) (hs : List Happening) : Prop :=
  ∃ before after, hs = before ++ .step :: after ∧ (start.run before).Mutes

def Complete (c : Cursor) (s : Scene) : Prop :=
  ∃ documents, s.feeder.outcome? = some (.ok documents.length) ∧ c.Yields documents ∧
    s.received = images documents

def Errorless (s : Scene) : Prop := ∀ item ∈ s.received, ∃ creature, item = .ok creature

def Kept (hs : List Happening) : Prop := ∀ e ∈ hs, e ≠ .close ∧ e ≠ .drop

instance (hs : List Happening) : Decidable (Kept hs) := by
  unfold Kept
  infer_instance

theorem errorless_of_images (h : s.received = images documents) : s.Errorless := by
  intro item hi
  rw [h] at hi
  obtain ⟨d, -, rfl⟩ := List.mem_map.mp hi
  exact ⟨_, rfl⟩

theorem Mutes.unfinished (h : t.Mutes) : ∀ outcome, t.feeder.position ≠ .finished outcome := by
  intro outcome hf
  have hp := h.2
  simp [hf, Position.Racing] at hp

-- ---------------------------------------------------------------------------
-- Receivers that stay
-- ---------------------------------------------------------------------------

theorem receiver_happen {e : Happening} (hc : e ≠ .close) (hd : e ≠ .drop) :
    (s.happen e).feeder.channel.receiver = s.feeder.channel.receiver := by
  cases e with
  | step =>
    rcases s.happen_step with ⟨-, hsame⟩ | ⟨f', added, ht, hnext⟩
    · rw [hsame]
    · rw [hnext, ht.channel, Channel.receiver_put]
  | take =>
    rcases s.happen_take with hsame | ⟨item, rest, -, -, hnext⟩
    · rw [hsame]
    · rw [hnext]
  | close => exact absurd rfl hc
  | drop => exact absurd rfl hd
  | cancel | pass => rfl

theorem receiver_run (h : Kept hs) :
    (s.run hs).feeder.channel.receiver = s.feeder.channel.receiver := by
  induction hs generalizing s with
  | nil => rfl
  | cons e hs ih =>
    have hfirst := h e List.mem_cons_self
    have hrest : Kept hs := fun e he => h e (List.mem_cons_of_mem _ he)
    rw [Runs.cons run, ih hrest, receiver_happen hfirst.1 hfirst.2]

theorem opened_run {capacity : Nat} {deadline : Option Nat}
    (hmake : make? c capacity deadline = some start) (h : Kept hs) :
    (start.run hs).feeder.channel.receiver = .opened := by
  rw [receiver_run h]
  obtain ⟨channel, hc, rfl⟩ := Option.map_eq_some_iff.mp hmake
  exact (Channel.of_make hc).2

/-- With an open receiver the stream ends only once the feeder has returned and all is taken. -/
theorem Ended.drained (h : s.Ended) (ho : s.feeder.channel.receiver = .opened) :
    s.feeder.channel.items = [] ∧ ∃ outcome, s.feeder.outcome? = some outcome := by
  unfold Ended Feeder.take Channel.take? at h
  cases hi : s.feeder.channel.items with
  | nil =>
    have hf : s.feeder.isFinished = true := by simpa [ho, hi] using h
    exact ⟨rfl, Option.isSome_iff_exists.mp hf⟩
  | cons item rest => simp [ho, hi] at h

theorem ended_of_finished (empty : s.feeder.channel.items = [])
    (opened : s.feeder.channel.receiver = .opened) (done : s.feeder.isFinished = true) :
    s.Ended := by
  simp [Ended, Feeder.take, Channel.take?, empty, opened, done]

-- ---------------------------------------------------------------------------
-- Last items
-- ---------------------------------------------------------------------------

/-- With an open receiver a failure leaves no status exactly when the service mutes it. -/
theorem last_of_ending {failure : Failure} {last : List Item}
    (he : t.feeder.Ending t.moment (.error failure) last)
    (ho : t.feeder.channel.receiver = .opened) :
    t.Mutes ∧ last = [] ∨ ¬ t.Mutes ∧ last = [.error failure.status] := by
  cases he with
  | left _ _ gone => exact absurd ho gone
  | stopped racing _ room =>
    refine .inr ⟨?_, rfl⟩
    rintro ⟨-, ⟨-, hfull⟩ | hp⟩
    · exact hfull.not_accepts room
    · rw [hp] at racing
      exact racing
  | stoppedUnheard racing cancelled noRoom =>
    rcases Channel.not_accepts_iff.mp noRoom with hgone | hfull
    · exact absurd ho hgone
    · exact .inl ⟨⟨cancelled, .inl ⟨racing, hfull⟩⟩, rfl⟩
  | told owed running =>
    refine .inr ⟨?_, rfl⟩
    rintro ⟨hc, ⟨hracing, -⟩ | hp⟩
    · cases hp : t.feeder.position <;> simp_all [Position.Racing, Position.owed?]
    · have hrunning : t.cancelled = false := running hp
      simp [hc] at hrunning
  | unheard _ _ gone => exact absurd ho gone
  | gaveUp position cancelled => exact .inl ⟨⟨cancelled, .inr position⟩, rfl⟩

theorem Mutes.happen (h : t.Mutes) (ho : t.feeder.channel.receiver = .opened) :
    ∃ failure, (t.happen .step).feeder.position = .finished (.error failure) ∧
      (t.happen .step).enqueued = t.enqueued := by
  have hmoves : ¬ t.Quiet := by
    intro hq
    have hp := h.2
    rcases (Feeder.step_eq_none_iff_of_cancelled h.1).mp hq with hf | ⟨⟨failure, hf⟩, -⟩
    · obtain ⟨outcome, hf⟩ := Feeder.isFinished_iff.mp hf
      exact h.unfinished outcome hf
    · simp [hf, Position.Racing] at hp
  rcases t.happen_step with ⟨hq, -⟩ | ⟨f', added, ht, hnext⟩
  · exact absurd hq hmoves
  · obtain ⟨failure, hending, rfl⟩ := ht.ending_of_cancelled h.1
    rcases last_of_ending hending ho with ⟨-, rfl⟩ | ⟨hno, -⟩
    · exact ⟨failure, by rw [hnext]; rfl, by rw [hnext, List.append_nil]⟩
    · exact absurd h hno

theorem Silenced.received {capacity : Nat} {deadline : Option Nat} (h : Silenced start hs)
    (hmake : make? c capacity deadline = some start) (hkept : Kept hs) :
    ∃ documents, c.Begins documents ∧ (start.run hs).enqueued = images documents ∧
      ∃ failure, (start.run hs).feeder.outcome? = some (.error failure) := by
  obtain ⟨before, after, rfl, hmutes⟩ := h
  have hbefore : Kept before := fun e he => hkept e (List.mem_append_left _ he)
  obtain ⟨documents, hf⟩ := faithful_run hmake before
  obtain ⟨failure, hp, hq⟩ := hmutes.happen (opened_run hmake hbefore)
  obtain ⟨hp', hq'⟩ := position_run_of_finished hp after
  have hitems : (start.run before).enqueued = images documents :=
    hf.account.of_unfinished hmutes.unfinished
  rw [Runs.append run, Runs.cons run]
  exact ⟨documents, hf.begins, by rw [hq', hq, hitems], failure,
    Feeder.outcome?_eq_some_iff.mpr hp'⟩

/-- The caller of a stream that it reads to the end: no error means that everything arrived or that
the stream was silenced; an unsilenced stream that was cut short says why. -/
theorem complete_or_silenced_of_ended {capacity : Nat} {deadline : Option Nat}
    (hmake : make? c capacity deadline = some start) (hkept : Kept hs)
    (hend : (start.run hs).Ended) :
    ((start.run hs).Errorless ↔ (start.run hs).Complete c ∨ Silenced start hs) ∧
      ∀ failure, (start.run hs).feeder.outcome? = some (.error failure) →
        ∃ documents, c.Begins documents ∧
          (Silenced start hs ∧ (start.run hs).received = images documents ∨
            ¬ Silenced start hs ∧
              (start.run hs).received = images documents ++ [.error failure.status]) := by
  have hopen := opened_run hmake hkept
  obtain ⟨hitems, outcome, hout⟩ := hend.drained hopen
  have hreceived : (start.run hs).received = (start.run hs).enqueued := by
    have hk := (conserves_run hmake hs).kept (by simp [hopen])
    rwa [hitems, List.append_nil] at hk
  obtain ⟨before, after, documents, last, rfl, hf, hending, hall⟩ := exists_return hmake hout
  have hbefore : Kept before := fun e he => hkept e (List.mem_append_left _ he)
  cases outcome with
  | ok n =>
    obtain ⟨rfl, rfl, reads, look⟩ := hending.of_ok
    rw [List.append_nil] at hall
    rw [hf.sent] at hout
    have hcomplete : (start.run (before ++ .step :: after)).Complete c :=
      ⟨documents, hout, hf.yields reads look, hreceived.trans hall⟩
    refine ⟨⟨fun _ => .inl hcomplete, fun _ => errorless_of_images (hreceived.trans hall)⟩, ?_⟩
    intro failure hfailure
    rw [hout] at hfailure
    cases hfailure
  | error failure =>
    rcases last_of_ending hending (opened_run hmake hbefore) with ⟨hmutes, rfl⟩ | ⟨-, rfl⟩
    · rw [List.append_nil] at hall
      have hsilenced : Silenced start (before ++ .step :: after) := ⟨before, after, rfl, hmutes⟩
      refine ⟨⟨fun _ => .inr hsilenced, fun _ => errorless_of_images (hreceived.trans hall)⟩, ?_⟩
      exact fun _ _ => ⟨documents, hf.begins, .inl ⟨hsilenced, hreceived.trans hall⟩⟩
    · have herror : ¬ (start.run (before ++ .step :: after)).Errorless := by
        intro h
        obtain ⟨creature, hc⟩ := h (.error failure.status) (by simp [hreceived, hall])
        cases hc
      have hunsilenced : ¬ Silenced start (before ++ .step :: after) := by
        intro h
        obtain ⟨delivered, -, hdelivered, -⟩ := h.received hmake hkept
        exact herror (errorless_of_images (hreceived.trans hdelivered))
      refine ⟨⟨fun h => absurd h herror, ?_⟩, ?_⟩
      · rintro (⟨delivered, -, -, hdelivered⟩ | h)
        · exact errorless_of_images hdelivered
        · exact absurd h hunsilenced
      · intro failure' hfailure
        rw [hout] at hfailure
        cases hfailure
        exact ⟨documents, hf.begins, .inr ⟨hunsilenced, hreceived.trans hall⟩⟩

theorem complete_or_silenced_of_cancelled :
    ∃ start, make? (.ofDocuments [.empty, .empty]) 1 none = some start ∧
      let hs : List Happening := [.step, .step, .take, .step, .step, .cancel, .step, .take, .take]
      Kept hs ∧ (start.run hs).Ended ∧
        ((start.run hs).Errorless ↔
          (start.run hs).Complete (.ofDocuments [.empty, .empty]) ∨ Silenced start hs) ∧
        ∀ failure, (start.run hs).feeder.outcome? = some (.error failure) →
          ∃ documents, Cursor.Begins (.ofDocuments [.empty, .empty]) documents ∧
            (Silenced start hs ∧ (start.run hs).received = images documents ∨
              ¬ Silenced start hs ∧
                (start.run hs).received = images documents ++ [.error failure.status]) := by
  have hmake : make? (.ofDocuments [.empty, .empty]) 1 none = some _ := rfl
  exact ⟨_, hmake, by decide, rfl, complete_or_silenced_of_ended hmake (by decide) rfl⟩

/-- With room for one, the second of two creatures is still held when the service cancels. -/
theorem incomplete_without_error :
    ∃ start, make? (.ofDocuments [.empty, .empty]) 1 none = some start ∧
      let hs : List Happening := [.step, .step, .step, .cancel, .step, .take]
      Kept hs ∧ (start.run hs).Ended ∧ (start.run hs).received = [.ok {}] ∧
        (start.run hs).feeder.outcome? = some (.error .serviceShutdown) :=
  ⟨_, rfl, by decide, rfl, rfl, rfl⟩

end Menagerie.Stream.Scene
