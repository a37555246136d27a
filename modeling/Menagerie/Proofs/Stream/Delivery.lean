import Menagerie.Proofs.Stream.Reading
import Menagerie.Proofs.Stream.Transition
import Menagerie.Stream.Scene

/-!
# What a stream delivers

Two invariants of every run. `Scene.Faithful` ties the items ever put into the channel to the
documents read: one image for each, in order, and after the return of the feeder at most one status.
`Scene.Conserves` ties them to what the caller took and to what is still queued. The step with which
a feeder returns is found again in the run by `Scene.exists_ending`.
-/

namespace Menagerie.Stream

def images (documents : List Document) : List Item := documents.map fun d => .ok d.toCreature

theorem images_append_singleton (documents : List Document) (d : Document) :
    images (documents ++ [d]) = images documents ++ [.ok d.toCreature] := by simp [images]

/-- How the items ever put into the channel agree with the documents delivered, position by
position; `read` are the documents read, of which one may still be held. -/
inductive Account (c : Cursor) (read documents : List Document) : Position → List Item → Prop where
  | awaiting (all : read = documents) : Account c read documents .awaiting (images documents)
  | holding {d : Document} (all : read = documents ++ [d]) :
      Account c read documents (.holding d.toCreature) (images documents)
  | forwarding {failure : Failure} (fails : c.Fails documents failure) :
      Account c read documents (.forwarding failure) (images documents)
  | notifying : Account c read documents .notifying (images documents)
  | complete (yields : c.Yields documents) :
      Account c read documents (.finished (.ok documents.length)) (images documents)
  | told {failure : Failure} : Account c read documents (.finished (.error failure))
      (images documents ++ [.error failure.status])
  | untold {failure : Failure} :
      Account c read documents (.finished (.error failure)) (images documents)

namespace Account

variable {c : Cursor} {read documents : List Document} {p : Position} {items : List Item}

theorem of_unfinished (h : Account c read documents p items)
    (hp : ∀ outcome, p ≠ .finished outcome) : items = images documents := by
  cases h with
  | complete | told => exact absurd rfl (hp _)
  | _ => rfl

theorem read_of_awaiting (h : Account c read documents .awaiting items) : read = documents := by
  cases h with
  | awaiting all => exact all

theorem read_of_holding {creature : Creature}
    (h : Account c read documents (.holding creature) items) :
    ∃ d : Document, read = documents ++ [d] ∧ creature = d.toCreature := by
  cases h with
  | holding all => exact ⟨_, all, rfl⟩

end Account

namespace Scene

variable {c : Cursor} {s s' : Scene} {documents : List Document} {f' : Feeder} {added : List Item}

-- ---------------------------------------------------------------------------
-- Happenings
-- ---------------------------------------------------------------------------

theorem added_of_transition {m : Moment} {f : Feeder} (h : f.Transition m f' added) :
    f.added f' = added := by
  simp [Feeder.added, h.channel]

/-- Either the feeder has to stay where it is, or it makes a transition. -/
theorem happen_step (s : Scene) :
    s.Quiet ∧ s.happen .step = s ∨
      ∃ f' added, s.feeder.Transition s.moment f' added ∧
        s.happen .step = { s with feeder := f', enqueued := s.enqueued ++ added } := by
  cases hstep : s.feeder.step s.moment with
  | none => exact .inl ⟨hstep, by simp [happen, hstep]⟩
  | some result =>
    obtain ⟨f', lines⟩ := result
    obtain ⟨added, ht⟩ := Feeder.step_transition hstep
    exact .inr ⟨f', added, ht, by simp [happen, hstep, added_of_transition ht]⟩

theorem happen_take_of_cons {item : Item} {rest : List Item}
    (kept : s.feeder.channel.receiver ≠ .dropped)
    (queued : s.feeder.channel.items = item :: rest) :
    s.happen .take =
      { s with
        feeder := { s.feeder with channel := { s.feeder.channel with items := rest } }
        received := s.received ++ [item] } := by
  simp [happen, Feeder.take, Channel.take?, kept, queued]

theorem happen_take (s : Scene) :
    s.happen .take = s ∨
      ∃ item rest, s.feeder.channel.receiver ≠ .dropped ∧ s.feeder.channel.items = item :: rest ∧
        s.happen .take =
          { s with
            feeder := { s.feeder with channel := { s.feeder.channel with items := rest } }
            received := s.received ++ [item] } := by
  cases htake : s.feeder.take with
  | item item f' =>
    unfold Feeder.take at htake
    split at htake
    next => simp at htake
    next hr =>
      split at htake
      next item' channel hc =>
        cases htake
        unfold Channel.take? at hc
        split at hc
        next => simp at hc
        next item' rest hi =>
          cases hc
          exact .inr ⟨_, _, hr, hi, happen_take_of_cons hr hi⟩
      next => split at htake <;> simp at htake
  | _ => exact .inl (by simp [happen, htake])

-- ---------------------------------------------------------------------------
-- Documents
-- ---------------------------------------------------------------------------

/-- The stream has delivered these documents of the cursor so far, and nothing else. -/
structure Faithful (c : Cursor) (s : Scene) (documents : List Document) : Prop where
  cursor : s.feeder.reading.cursor = c
  sound : s.feeder.reading.Sound
  begins : c.Begins documents
  sent : s.feeder.sent = documents.length
  account : Account c s.feeder.reading.documents documents s.feeder.position s.enqueued

theorem Faithful.enqueued_of_racing (h : s.Faithful c documents)
    (hp : s.feeder.position.Racing) : s.enqueued = images documents := by
  refine h.account.of_unfinished fun outcome he => ?_
  rw [he] at hp
  exact hp

theorem Faithful.read_of_awaiting (h : s.Faithful c documents)
    (hp : s.feeder.position = .awaiting) : s.feeder.reading.documents = documents := by
  have haccount := h.account
  rw [hp] at haccount
  exact haccount.read_of_awaiting

theorem Faithful.yields (h : s.Faithful c documents) (hr : s.feeder.Reads s.moment)
    (hl : s.feeder.reading.look s.now = .finish) : c.Yields documents := by
  have hyields := h.sound.yields hl
  rwa [h.cursor, h.read_of_awaiting hr.position] at hyields

theorem Faithful.fails (h : s.Faithful c documents) (hr : s.feeder.Reads s.moment)
    {failure : Failure} (hl : s.feeder.reading.look s.now = .failure failure) :
    c.Fails documents failure := by
  have hfails := h.sound.fails hl
  rwa [h.cursor, h.read_of_awaiting hr.position] at hfails

theorem Faithful.ending (h : s.Faithful c documents) {outcome : Outcome} {last : List Item}
    (he : s.feeder.Ending s.moment outcome last) :
    Account c s.feeder.reading.documents documents (.finished outcome) (s.enqueued ++ last) := by
  rw [h.account.of_unfinished he.unfinished]
  cases he with
  | exhausted reads look =>
    rw [List.append_nil, h.sent]
    exact .complete (h.yields reads look)
  | stopped | told => exact .told
  | left | stoppedUnheard | unheard | gaveUp =>
    rw [List.append_nil]
    exact .untold

theorem Faithful.transition (h : s.Faithful c documents)
    (ht : s.feeder.Transition s.moment f' added) :
    ∃ documents, Faithful c { s with feeder := f', enqueued := s.enqueued ++ added } documents := by
  cases ht with
  | pause reads look =>
    obtain ⟨hsound, hcursor, hread⟩ := h.sound.of_moved look
    refine ⟨documents, hcursor.trans h.cursor, hsound, h.begins, h.sent, ?_⟩
    simpa [hread] using h.account
  | read reads look =>
    obtain ⟨hsound, hcursor, hread⟩ := h.sound.of_document look
    refine ⟨documents, hcursor.trans h.cursor, hsound, h.begins, h.sent, ?_⟩
    rw [h.enqueued_of_racing (by rw [reads.position]; trivial), List.append_nil]
    exact .holding (by rw [hread, h.read_of_awaiting reads.position])
  | fail reads look =>
    refine ⟨documents, h.cursor, h.sound, h.begins, h.sent, ?_⟩
    rw [h.enqueued_of_racing (by rw [reads.position]; trivial), List.append_nil]
    exact .forwarding (h.fails reads look)
  | expire racing =>
    refine ⟨documents, h.cursor, h.sound, h.begins, h.sent, ?_⟩
    rw [h.enqueued_of_racing racing, List.append_nil]
    exact .notifying
  | send position =>
    -- The creature that was held is the image of the last document read.
    have haccount := h.account
    rw [position] at haccount
    obtain ⟨d, hread, rfl⟩ := haccount.read_of_holding
    refine ⟨documents ++ [d], h.cursor, h.sound, ?_, by simp [h.sent], ?_⟩
    · rw [← hread, ← h.cursor]
      exact h.sound.begins
    · rw [h.enqueued_of_racing (by rw [position]; trivial), ← images_append_singleton]
      exact .awaiting hread
  | finish ending =>
    exact ⟨documents, h.cursor, h.sound, h.begins, h.sent, h.ending ending⟩

theorem Faithful.happen (h : s.Faithful c documents) (e : Happening) :
    ∃ documents, Faithful c (s.happen e) documents := by
  cases e with
  | step =>
    rcases s.happen_step with ⟨-, hsame⟩ | ⟨f', added, ht, hnext⟩
    · rw [hsame]
      exact ⟨documents, h⟩
    · rw [hnext]
      exact h.transition ht
  | take =>
    rcases s.happen_take with hsame | ⟨item, rest, -, -, hnext⟩
    · rw [hsame]
      exact ⟨documents, h⟩
    · rw [hnext]
      exact ⟨documents, h.cursor, h.sound, h.begins, h.sent, h.account⟩
  | _ => exact ⟨documents, h.cursor, h.sound, h.begins, h.sent, h.account⟩

theorem faithful_make {capacity : Nat} {deadline : Option Nat}
    (h : make? c capacity deadline = some s) : s.Faithful c [] := by
  obtain ⟨channel, -, rfl⟩ := Option.map_eq_some_iff.mp h
  exact ⟨rfl, Reading.sound_start c, c.begins_nil, rfl, .awaiting rfl⟩

theorem faithful_run {capacity : Nat} {deadline : Option Nat}
    (h : make? c capacity deadline = some s) (hs : List Happening) :
    ∃ documents, Faithful c (s.run hs) documents := by
  refine Runs.invariant run (P := fun s => ∃ documents, Faithful c s documents) ?_ hs
    ⟨[], faithful_make h⟩
  rintro s e ⟨documents, hf⟩
  exact hf.happen e

-- ---------------------------------------------------------------------------
-- Items
-- ---------------------------------------------------------------------------

/-- No item is lost, doubled or moved between the feeder and the caller; a receiver that is dropped
loses what is queued. -/
structure Conserves (s : Scene) : Prop where
  kept : s.feeder.channel.receiver ≠ .dropped →
    s.received ++ s.feeder.channel.items = s.enqueued
  received : s.received <+: s.enqueued

theorem Conserves.happen (h : s.Conserves) (e : Happening) : (s.happen e).Conserves := by
  cases e with
  | step =>
    rcases s.happen_step with ⟨-, hsame⟩ | ⟨f', added, ht, hnext⟩
    · rw [hsame]
      exact h
    · rw [hnext]
      refine ⟨fun hr => ?_, h.received.trans (List.prefix_append _ _)⟩
      have hr : s.feeder.channel.receiver ≠ .dropped := by simpa [ht.channel] using hr
      simp only [ht.channel, Channel.items_put, ← List.append_assoc, h.kept hr]
  | take =>
    rcases s.happen_take with hsame | ⟨item, rest, hr, hi, hnext⟩
    · rw [hsame]
      exact h
    · have hall : s.received ++ [item] ++ rest = s.enqueued := by
        rw [← h.kept hr, hi]
        simp
      rw [hnext]
      exact ⟨fun _ => hall, hall ▸ List.prefix_append _ _⟩
  | close =>
    refine ⟨fun hr => ?_, h.received⟩
    have hr : s.feeder.channel.receiver ≠ .dropped := fun hd =>
      hr (Channel.receiver_close_of_ne (by simp [hd]) |>.trans hd)
    exact (congrArg _ Channel.items_close).trans (h.kept hr)
  | drop => exact ⟨fun hr => absurd rfl hr, h.received⟩
  | cancel | pass => exact ⟨h.kept, h.received⟩

theorem conserves_run {capacity : Nat} {deadline : Option Nat}
    (h : make? c capacity deadline = some s) (hs : List Happening) : (s.run hs).Conserves := by
  refine Runs.invariant run (fun s e hk => hk.happen e) hs ?_
  obtain ⟨channel, hc, rfl⟩ := Option.map_eq_some_iff.mp h
  exact ⟨fun _ => (Channel.of_make hc).1, List.prefix_refl _⟩

-- ---------------------------------------------------------------------------
-- Returning
-- ---------------------------------------------------------------------------

theorem position_happen (s : Scene) {e : Happening} (he : e ≠ .step) :
    (s.happen e).feeder.position = s.feeder.position ∧ (s.happen e).enqueued = s.enqueued := by
  cases e with
  | step => exact absurd rfl he
  | take =>
    rcases s.happen_take with hsame | ⟨item, rest, -, -, hnext⟩
    · rw [hsame]
      exact ⟨rfl, rfl⟩
    · rw [hnext]
      exact ⟨rfl, rfl⟩
  | _ => exact ⟨rfl, rfl⟩

theorem position_run_of_finished {outcome : Outcome} (h : s.feeder.position = .finished outcome)
    (hs : List Happening) :
    (s.run hs).feeder.position = .finished outcome ∧ (s.run hs).enqueued = s.enqueued := by
  refine Runs.invariant run
    (P := fun t => t.feeder.position = .finished outcome ∧ t.enqueued = s.enqueued) ?_ hs ⟨h, rfl⟩
  rintro t e ⟨hp, hq⟩
  by_cases he : e = .step
  · subst he
    simp [happen, Feeder.step, hp, hq]
  · obtain ⟨hp', hq'⟩ := t.position_happen he
    exact ⟨hp'.trans hp, hq'.trans hq⟩

theorem exists_ending {outcome : Outcome} {hs : List Happening}
    (hstart : ∀ outcome, s.feeder.position ≠ .finished outcome)
    (hend : (s.run hs).feeder.position = .finished outcome) :
    ∃ before after last, hs = before ++ .step :: after ∧
      (s.run before).feeder.Ending (s.run before).moment outcome last ∧
      (s.run hs).enqueued = (s.run before).enqueued ++ last := by
  induction hs generalizing s with
  | nil => exact absurd hend (hstart outcome)
  | cons e hs ih =>
    by_cases hfirst : ∀ outcome, (s.happen e).feeder.position ≠ .finished outcome
    · obtain ⟨before, after, last, rfl, hending, hitems⟩ := ih hfirst hend
      exact ⟨e :: before, after, last, rfl, hending, hitems⟩
    · obtain ⟨outcome', hp⟩ : ∃ outcome, (s.happen e).feeder.position = .finished outcome := by
        simpa using hfirst
      obtain ⟨hp', hq⟩ := position_run_of_finished hp hs
      have hsame : outcome' = outcome := by
        have := hp'.symm.trans hend
        cases this
        rfl
      subst hsame
      by_cases he : e = .step
      · subst he
        rcases s.happen_step with ⟨-, hstay⟩ | ⟨f', added, ht, hnext⟩
        · rw [hstay] at hp
          exact absurd hp (hstart _)
        · refine ⟨[], hs, added, rfl, ?_, ?_⟩
          · rw [hnext] at hp
            cases ht with
            | finish ending => cases hp; exact ending
            | pause reads => exact absurd hp (hstart _)
            | _ => simp at hp
          · rw [hnext] at hq
            rw [Runs.cons run, hnext]
            exact hq
      · exact absurd ((s.position_happen he).1 ▸ hp) (hstart _)

theorem position_make {capacity : Nat} {deadline : Option Nat} {start : Scene}
    (h : make? c capacity deadline = some start) : start.feeder.position = .awaiting := by
  obtain ⟨channel, -, rfl⟩ := Option.map_eq_some_iff.mp h
  rfl

/-- The step in which the feeder of a run returned, with all that had been delivered by then. -/
theorem exists_return {capacity : Nat} {deadline : Option Nat} {start : Scene}
    (h : make? c capacity deadline = some start) {hs : List Happening} {outcome : Outcome}
    (hend : (start.run hs).feeder.outcome? = some outcome) :
    ∃ before after documents last, hs = before ++ .step :: after ∧
      (start.run before).Faithful c documents ∧
      (start.run before).feeder.Ending (start.run before).moment outcome last ∧
      (start.run hs).enqueued = images documents ++ last := by
  obtain ⟨before, after, last, hsplit, hending, hitems⟩ :=
    exists_ending (by simp [position_make h]) (Feeder.outcome?_eq_some_iff.mp hend)
  obtain ⟨documents, hf⟩ := faithful_run h before
  refine ⟨before, after, documents, last, hsplit, hf, hending, ?_⟩
  rw [hitems, hf.account.of_unfinished hending.unfinished]

end Scene

end Menagerie.Stream
