import Menagerie.Proofs.Stream.Documents

/-!
# Buffer size and pace

A stream of a cursor that ends, whose caller listens and which nobody cancels, comes to the same
items and the same outcome whatever room its channel has and however its steps, the takes of the
caller and the clock follow upon each other: `flows_of_paced`. Two lemmas carry this. At rest with an
empty channel a stream has handed over all that its cursor has come to, and waits for a pause at most
(`handed_of_drained`). Every step and every take lowers `Scene.burden`, so that no schedule is a dead
end (`exists_through`).
-/

namespace Menagerie.Stream

variable {documents documents' : List Document} {ending ending' : Option Failure}

-- ---------------------------------------------------------------------------
-- Cursors that end
-- ---------------------------------------------------------------------------

def Beat.failure? : Beat → Option Failure
  | .failure f => some f
  | .document _ | .pause .. | .hang | .finish => none

def Beat.closing : Option Failure → Beat
  | none => .finish
  | some f => .failure f

@[simp] theorem Beat.passes_closing (ending : Option Failure) :
    (closing ending).passes = false := by
  cases ending <;> rfl

@[simp] theorem Beat.failure?_closing (ending : Option Failure) :
    (closing ending).failure? = ending := by
  cases ending <;> rfl

namespace Cursor

variable {c : Cursor} {place last : Nat}

/-- The cursor ends at this place, without a failure or with this one. -/
structure EndsAt (c : Cursor) (last : Nat) (documents : List Document) (ending : Option Failure) :
    Prop where
  reaches : c.Reaches last
  documents : c.documentsBefore last = documents
  closes : c.beat last = .closing ending

def Ends (c : Cursor) (documents : List Document) (ending : Option Failure) : Prop :=
  ∃ last, c.EndsAt last documents ending

theorem EndsAt.stops (h : c.EndsAt last documents ending) : (c.beat last).passes = false := by
  rw [h.closes, Beat.passes_closing]

theorem EndsAt.lt_of_passes (h : c.EndsAt last documents ending) (reaches : c.Reaches place)
    (passes : (c.beat place).passes = true) : place < last :=
  (reaches.succ passes).le_of_stops h.stops

theorem Ends.unique (h : c.Ends documents ending) (h' : c.Ends documents' ending') :
    documents = documents' ∧ ending = ending' := by
  obtain ⟨last, hends⟩ := h
  obtain ⟨last', hends'⟩ := h'
  obtain rfl := hends.reaches.eq_of_stops hends'.reaches hends.stops hends'.stops
  have hclosing := hends.closes.symm.trans hends'.closes
  refine ⟨hends.documents.symm.trans hends'.documents, ?_⟩
  rw [← Beat.failure?_closing ending, hclosing, Beat.failure?_closing]

theorem ends_ofList (beats : List Beat) (ending : Option Failure)
    (passes : ∀ b ∈ beats, b.passes = true) :
    (ofList (beats ++ [.closing ending])).Ends (beats.filterMap Beat.document?) ending := by
  refine ⟨beats.length, fun n hn => ?_, ?_, ?_⟩
  · have hbeat := List.getElem?_eq_getElem hn
    rw [beat_ofList, List.getElem?_append_left hn, hbeat]
    exact passes _ (List.getElem_mem hn)
  · rw [documentsBefore_ofList, List.take_left]
  · simp [beat_ofList]

theorem Yields.ends (h : c.Yields documents) : c.Ends documents none := by
  obtain ⟨last, reaches, rfl, finish⟩ := h
  exact ⟨last, reaches, rfl, finish⟩

theorem Fails.ends {failure : Failure} (h : c.Fails documents failure) :
    c.Ends documents (some failure) := by
  obtain ⟨last, reaches, rfl, fails⟩ := h
  exact ⟨last, reaches, rfl, fails⟩

end Cursor

def itemsOf (documents : List Document) (ending : Option Failure) : List Item :=
  images documents ++ (ending.map fun failure => .error failure.status).toList

def outcomeOf (documents : List Document) : Option Failure → Outcome
  | none => .ok documents.length
  | some failure => .error failure

namespace Reading

variable {r r' : Reading} {now last : Nat}

def RunOut (r : Reading) : Prop := (r.cursor.beat r.place).passes = false

def Pausing (r : Reading) (now : Nat) : Prop := ∃ tick, r.resume = some tick ∧ now < tick

def produced (r : Reading) : List Item := itemsOf r.documents (r.cursor.beat r.place).failure?

/-- How much is left to be read before the beat at this place. -/
def left (r : Reading) (last : Nat) : Nat :=
  4 * (last - r.place) + if r.resume = none then 1 else 0

theorem left_next (r : Reading) (last : Nat) :
    r.next.left last = 4 * (last - (r.place + 1)) + 1 := by
  simp [left, next]

theorem Sound.produced_of_runOut (hs : r.Sound) (hends : r.cursor.EndsAt last documents ending)
    (runOut : r.RunOut) : r.produced = itemsOf documents ending := by
  have hplace : r.place = last := hs.reaches.eq_of_stops hends.reaches runOut hends.stops
  rw [produced, Reading.documents, hplace, hends.documents, hends.closes, Beat.failure?_closing]

theorem Sound.produced_of_pausing (hs : r.Sound) (pausing : r.Pausing now) :
    r.produced = images r.documents := by
  obtain ⟨tick, hresume, -⟩ := pausing
  obtain ⟨ms, positive, hbeat⟩ := hs.pausing (by simp [hresume])
  simp [produced, itemsOf, hbeat, Beat.failure?]

theorem Sound.pausing_of_nothing (hs : r.Sound) (hends : r.cursor.EndsAt last documents ending)
    (nothing : r.look now = .nothing) : r.Pausing now := by
  rcases look_nothing_iff.mp nothing with hpausing | ⟨-, hhang⟩
  · exact hpausing
  · have hplace : r.place = last :=
      hs.reaches.eq_of_stops hends.reaches (by rw [hhang]; rfl) hends.stops
    have hclosing := hends.closes
    rw [← hplace, hhang] at hclosing
    cases ending <;> cases hclosing

theorem Sound.not_pausing (hs : r.Sound) (runOut : r.RunOut) : ¬ r.Pausing now := by
  rintro ⟨tick, hresume, -⟩
  obtain ⟨ms, positive, hbeat⟩ := hs.pausing (by simp [hresume])
  rw [RunOut, hbeat] at runOut
  cases runOut

theorem Sound.left_of_document (hs : r.Sound) (hends : r.cursor.EndsAt last documents ending)
    {d : Document} (look : r.look now = .document d r') : r'.left last + 4 ≤ r.left last := by
  obtain ⟨hresume, hbeat, rfl⟩ := look_document_iff.mp look
  have hlt := hends.lt_of_passes hs.reaches (by simp [hbeat, Beat.passes])
  rw [left_next, left, if_pos hresume]
  omega

theorem Sound.left_of_moved (hs : r.Sound) (hends : r.cursor.EndsAt last documents ending)
    (look : r.look now = .moved r') : r'.left last < r.left last := by
  rcases look_moved look with ⟨tick, hresume, -, rfl⟩ | ⟨ms, positive, hresume, -, rfl⟩
  · obtain ⟨ms, positive, hbeat⟩ := hs.pausing (by simp [hresume])
    have hlt := hends.lt_of_passes hs.reaches (by simp [hbeat, Beat.passes])
    rw [left_next, left]
    omega
  · simp [left, hresume]

end Reading

/-- How many steps and takes a feeder in this position is worth, whatever is left to be read. -/
def Position.weight : Position → Nat
  | .awaiting => 3
  | .holding _ => 5
  | .forwarding _ => 2
  | .notifying | .finished _ => 0

namespace Scene

variable {c : Cursor} {s t start : Scene} {hs : List Happening} {capacity last : Nat}
  {deadline : Option Nat}

-- ---------------------------------------------------------------------------
-- Undisturbed streams
-- ---------------------------------------------------------------------------

def Paced (hs : List Happening) : Prop := ∀ e ∈ hs, e ≠ .close ∧ e ≠ .drop ∧ e ≠ .cancel

instance (hs : List Happening) : Decidable (Paced hs) := by
  unfold Paced
  infer_instance

theorem Paced.append {more : List Happening} (h : Paced hs) (hmore : Paced more) :
    Paced (hs ++ more) := by
  intro e he
  rcases List.mem_append.mp he with he | he
  · exact h e he
  · exact hmore e he

theorem undisturbed_run (hmake : make? c capacity none = some start) (paced : Paced hs) :
    (start.run hs).Undisturbed := by
  have hopened := opened_run hmake fun e he => ⟨(paced e he).1, (paced e he).2.1⟩
  obtain ⟨channel, -, rfl⟩ := Option.map_eq_some_iff.mp hmake
  refine ⟨cancelled_run fun e he => (paced e he).2.2, hopened, ?_⟩
  simp [Expired, Feeder.expired, deadline_run]

theorem Undisturbed.returns (h : t.Undisturbed) (timely : t.feeder.position ≠ .notifying)
    {outcome : Outcome} {items : List Item} (he : t.feeder.Ending t.moment outcome items) :
    (t.feeder.Reads t.moment ∧ t.feeder.reading.look t.now = .finish ∧
        outcome = .ok t.feeder.sent ∧ items = []) ∨
      ∃ failure, t.feeder.position = .forwarding failure ∧ outcome = .error failure ∧
        items = [.error failure.status] := by
  cases he with
  | exhausted reads look => exact .inl ⟨reads, look, rfl, rfl⟩
  | left _ _ gone | unheard _ _ gone => exact absurd h.opened gone
  | stopped _ cancelled | stoppedUnheard _ cancelled =>
    exact absurd (h.running.symm.trans cancelled) nofun
  | told owed =>
    rcases Position.owed?_eq_some_iff.mp owed with hp | ⟨hp, -⟩
    · exact .inr ⟨_, hp, rfl, rfl⟩
    · exact absurd hp timely
  | gaveUp position => exact absurd position timely

/-- The stream has not given up on the deadline, and races on unless its cursor has ended. -/
structure Steady (s : Scene) : Prop where
  timely : s.feeder.position ≠ .notifying
  runOut : ¬ s.feeder.position.Racing → s.feeder.reading.RunOut

theorem Steady.transition {f' : Feeder} {added : List Item} (h : t.Steady)
    (undisturbed : t.Undisturbed) (ht : t.feeder.Transition t.moment f' added) :
    Steady { t with feeder := f', enqueued := t.enqueued ++ added } := by
  cases ht with
  | pause reads =>
    refine ⟨h.timely, fun settled => ?_⟩
    simp [reads.position, Position.Racing] at settled
  | read | send => exact ⟨by simp, fun settled => absurd trivial settled⟩
  | fail reads look =>
    refine ⟨by simp, fun _ => ?_⟩
    simp [Reading.RunOut, (Reading.look_failure_iff.mp look).2, Beat.passes]
  | expire _ _ _ late => exact absurd late undisturbed.early
  | finish ending =>
    refine ⟨by simp [Feeder.conclude], fun _ => ?_⟩
    rcases undisturbed.returns h.timely ending with ⟨-, look, -⟩ | ⟨failure, hp, -⟩
    · simp [Reading.RunOut, Feeder.conclude, (Reading.look_finish_iff.mp look).2, Beat.passes]
    · exact h.runOut (by simp [hp, Position.Racing])

theorem Steady.happen (h : t.Steady) (undisturbed : t.Undisturbed) (e : Happening) :
    (t.happen e).Steady := by
  by_cases he : e = .step
  · subst he
    rcases t.happen_step with ⟨-, hsame⟩ | ⟨f', added, ht, hnext⟩
    · rwa [hsame]
    · rw [hnext]
      exact h.transition undisturbed ht
  · obtain ⟨hposition, -⟩ := t.position_happen he
    have hreading := t.reading_happen he
    exact ⟨by rw [hposition]; exact h.timely, by rw [hposition, hreading]; exact h.runOut⟩

theorem steady_run (hmake : make? c capacity deadline = some start)
    (undisturbed : (start.run hs).Undisturbed) : (start.run hs).Steady := by
  refine Runs.invariant run (P := fun t => t.Undisturbed → t.Steady) ?_ hs ?_ undisturbed
  · intro t e keep undisturbed
    have hnext : (t.run [e]).Undisturbed := undisturbed
    exact (keep hnext.before).happen hnext.before e
  · intro _
    have hp := position_make hmake
    exact ⟨by simp [hp], fun settled => absurd (by rw [hp]; trivial) settled⟩

theorem ends_of_outcome (hmake : make? c capacity deadline = some start)
    (undisturbed : (start.run hs).Undisturbed) {outcome : Outcome}
    (hout : (start.run hs).feeder.outcome? = some outcome) :
    ∃ documents ending, c.Ends documents ending ∧ outcome = outcomeOf documents ending ∧
      (start.run hs).enqueued = itemsOf documents ending := by
  obtain ⟨before, after, documents, items, rfl, hf, hending, hall⟩ := exists_return hmake hout
  have hbefore : (start.run before).Undisturbed := by
    rw [Runs.append run] at undisturbed
    exact undisturbed.before
  rcases hbefore.returns (steady_run hmake hbefore).timely hending with
    ⟨reads, look, rfl, rfl⟩ | ⟨failure, hp, rfl, rfl⟩
  · exact ⟨documents, none, (hf.yields reads look).ends, congrArg _ hf.sent, hall⟩
  · exact ⟨documents, some failure, (hf.fails_of_forwarding hp).ends, rfl, hall⟩

-- ---------------------------------------------------------------------------
-- Streams at rest
-- ---------------------------------------------------------------------------

structure Drained (s : Scene) : Prop where
  quiet : s.Quiet
  empty : s.feeder.channel.items = []

/-- The caller has got all that such a cursor yields and then the end, and the feeder returned
accordingly. -/
structure Through (documents : List Document) (ending : Option Failure) (s : Scene) : Prop where
  received : s.received = itemsOf documents ending
  outcome : s.feeder.outcome? = some (outcomeOf documents ending)
  ended : s.Ended

section

variable (hmake : make? c capacity none = some start) (hends : c.EndsAt last documents ending)
  (paced : Paced hs)

include hmake paced

theorem received_of_drained (drained : (start.run hs).Drained) :
    (start.run hs).received = (start.run hs).enqueued := by
  have hkept := (conserves_run hmake hs).kept (by simp [(undisturbed_run hmake paced).opened])
  rwa [drained.empty, List.append_nil] at hkept

include hends

theorem returned_of_finished (finished : (start.run hs).feeder.isFinished = true) :
    (start.run hs).feeder.outcome? = some (outcomeOf documents ending) ∧
      (start.run hs).enqueued = itemsOf documents ending := by
  obtain ⟨outcome, hout⟩ := Option.isSome_iff_exists.mp finished
  obtain ⟨documents', ending', hends', rfl, hitems⟩ :=
    ends_of_outcome hmake (undisturbed_run hmake paced) hout
  obtain ⟨rfl, rfl⟩ := hends'.unique ⟨last, hends⟩
  exact ⟨hout, hitems⟩

theorem handed_of_drained (drained : (start.run hs).Drained) :
    (start.run hs).received = (start.run hs).feeder.reading.produced ∧
      ((start.run hs).feeder.reading.RunOut ∨
        (start.run hs).feeder.reading.Pausing (start.run hs).now) := by
  obtain ⟨delivered, hf⟩ := faithful_run hmake hs
  have hreading : (start.run hs).feeder.reading.cursor.EndsAt last documents ending :=
    hf.cursor ▸ hends
  rw [received_of_drained hmake paced drained]
  rcases finished_or_reads hmake hs drained.quiet drained.empty with hdone | ⟨reads, look⟩
  · obtain ⟨outcome, hp⟩ := Feeder.isFinished_iff.mp hdone
    have hrunOut := (steady_run hmake (undisturbed_run hmake paced)).runOut
      (by simp [hp, Position.Racing])
    refine ⟨?_, .inl hrunOut⟩
    rw [(returned_of_finished hmake hends paced hdone).2,
      hf.sound.produced_of_runOut hreading hrunOut]
  · have hpausing := hf.sound.pausing_of_nothing hreading look
    refine ⟨?_, .inr hpausing⟩
    rw [hf.sound.produced_of_pausing hpausing, hf.read_of_awaiting reads.position]
    exact hf.enqueued_of_racing (by rw [reads.position]; trivial)

theorem through_of_ended (ended : (start.run hs).Ended) :
    (start.run hs).Through documents ending := by
  obtain ⟨hempty, outcome, hout⟩ := ended.drained (undisturbed_run hmake paced).opened
  have hdone : (start.run hs).feeder.isFinished = true := Option.isSome_iff_exists.mpr ⟨_, hout⟩
  have hdrained : (start.run hs).Drained := ⟨Feeder.step_eq_none_iff.mpr (.inl hdone), hempty⟩
  obtain ⟨hreturned, hitems⟩ := returned_of_finished hmake hends paced hdone
  exact ⟨(received_of_drained hmake paced hdrained).trans hitems, hreturned, ended⟩

theorem ended_of_drained (drained : (start.run hs).Drained)
    (runOut : (start.run hs).feeder.reading.RunOut) : (start.run hs).Ended := by
  obtain ⟨delivered, hf⟩ := faithful_run hmake hs
  have hopened := (undisturbed_run hmake paced).opened
  rcases finished_or_reads hmake hs drained.quiet drained.empty with hdone | ⟨-, look⟩
  · exact ended_of_finished drained.empty hopened hdone
  · have hpausing := hf.sound.pausing_of_nothing (hf.cursor ▸ hends) look
    exact absurd hpausing (hf.sound.not_pausing runOut)

end

-- ---------------------------------------------------------------------------
-- Streams that go on
-- ---------------------------------------------------------------------------

/-- A bound on the steps and takes that are left until the stream is through. -/
def burden (s : Scene) (last : Nat) : Nat :=
  s.feeder.reading.left last + s.feeder.position.weight + s.feeder.channel.items.length

theorem burden_take (kept : s.feeder.channel.receiver ≠ .dropped)
    (queued : s.feeder.channel.items ≠ []) (last : Nat) :
    (s.happen .take).burden last < s.burden last := by
  obtain ⟨item, rest, hitems⟩ := List.exists_cons_of_ne_nil queued
  rw [happen_take_of_cons kept hitems]
  simp [burden, hitems]

theorem burden_step {delivered : List Document} (hf : s.Faithful c delivered)
    (hends : c.EndsAt last documents ending) (undisturbed : s.Undisturbed)
    (timely : s.feeder.position ≠ .notifying) (moves : ¬ s.Quiet) :
    (s.happen .step).burden last < s.burden last := by
  have hreading : s.feeder.reading.cursor.EndsAt last documents ending := hf.cursor ▸ hends
  rcases s.happen_step with ⟨hquiet, -⟩ | ⟨f', added, ht, hnext⟩
  · exact absurd hquiet moves
  · rw [hnext]
    cases ht with
    | pause reads look =>
      have hleft := hf.sound.left_of_moved hreading look
      simp only [burden]
      omega
    | read reads look =>
      -- The place that is passed weighs more than the creature that is held now.
      have hleft := hf.sound.left_of_document hreading look
      simp only [burden, Position.weight, reads.position]
      omega
    | fail reads => simp [burden, Position.weight, reads.position]
    | expire _ _ _ late => exact absurd late undisturbed.early
    | send position =>
      simp only [burden, Position.weight, position, Channel.items_put, List.length_append,
        List.length_singleton]
      omega
    | finish ending =>
      rcases undisturbed.returns timely ending with ⟨reads, -, -, rfl⟩ | ⟨failure, hp, -, rfl⟩
      · simp [burden, Position.weight, Feeder.conclude, reads.position]
      · simp only [burden, Position.weight, Feeder.conclude, hp, Channel.items_put, List.length_append,
          List.length_singleton]
        omega

section

variable (hmake : make? c capacity none = some start) (hends : c.EndsAt last documents ending)
  (paced : Paced hs)

include hmake hends paced

theorem burden_run_step (moves : ¬ (start.run hs).Quiet) :
    ((start.run hs).happen .step).burden last < (start.run hs).burden last := by
  obtain ⟨delivered, hf⟩ := faithful_run hmake hs
  have hundisturbed := undisturbed_run hmake paced
  exact burden_step hf hends hundisturbed (steady_run hmake hundisturbed).timely moves

theorem exists_wake (drained : (start.run hs).Drained)
    (goes : ¬ (start.run hs).feeder.reading.RunOut) :
    ∃ ms, ¬ (start.run (hs ++ [.pass ms])).Quiet := by
  obtain ⟨-, hrunOut | ⟨tick, hresume, hlt⟩⟩ := handed_of_drained hmake hends paced drained
  · exact absurd hrunOut goes
  · -- Nothing but the clock has changed at the tick, so that the feeder cannot rest there.
    let wait : Happening := .pass (tick - (start.run hs).now)
    have hlater : start.run (hs ++ [wait]) = (start.run hs).happen wait := Runs.append run ..
    refine ⟨tick - (start.run hs).now, fun hstill => ?_⟩
    have hdrained : (start.run (hs ++ [wait])).Drained := by
      refine ⟨hstill, ?_⟩
      rw [hlater]
      exact drained.empty
    have hpaced : Paced (hs ++ [wait]) := paced.append (by simp [Paced, wait])
    obtain ⟨-, hstop⟩ := handed_of_drained hmake hends hpaced hdrained
    rw [hlater] at hstop
    rcases hstop with hrunOut | ⟨tick', hresume', hlt'⟩
    · exact goes hrunOut
    · obtain rfl : tick = tick' := Option.some.inj (hresume.symm.trans hresume')
      simp only [happen, wait] at hlt'
      omega

/-- A stream that is not through is brought on by a take, by a step, or by waiting for a pause. -/
theorem exists_lighter
    (goes : ¬ ((start.run hs).Drained ∧ (start.run hs).feeder.reading.RunOut)) :
    ∃ more, Paced more ∧ (start.run (hs ++ more)).burden last < (start.run hs).burden last := by
  by_cases hempty : (start.run hs).feeder.channel.items = []
  · by_cases hquiet : (start.run hs).Quiet
    · have hdrained : (start.run hs).Drained := ⟨hquiet, hempty⟩
      obtain ⟨ms, hmoves⟩ := exists_wake hmake hends paced hdrained fun h => goes ⟨hdrained, h⟩
      have hpaced : Paced (hs ++ [.pass ms]) := paced.append (by simp [Paced])
      have hless := burden_run_step hmake hends hpaced hmoves
      rw [Runs.append run] at hless
      refine ⟨[.pass ms, .step], by simp [Paced], ?_⟩
      rw [Runs.append run]
      exact hless
    · refine ⟨[.step], by simp [Paced], ?_⟩
      rw [Runs.append run]
      exact burden_run_step hmake hends paced hquiet
  · have hkept : (start.run hs).feeder.channel.receiver ≠ .dropped := by
      simp [(undisturbed_run hmake paced).opened]
    refine ⟨[.take], by simp [Paced], ?_⟩
    rw [Runs.append run]
    exact burden_take hkept hempty last

/-- No schedule leads to a stream that cannot be brought to its end. -/
theorem exists_through :
    ∃ more, Paced more ∧ ((start.run hs).run more).Drained ∧
      ((start.run hs).run more).feeder.reading.RunOut := by
  generalize hburden : (start.run hs).burden last = n
  induction n using Nat.strongRecOn generalizing hs with
  | _ n ih =>
    by_cases hthrough : (start.run hs).Drained ∧ (start.run hs).feeder.reading.RunOut
    · exact ⟨[], by simp [Paced], hthrough⟩
    · obtain ⟨more, hmore, hless⟩ := exists_lighter hmake hends paced hthrough
      rw [hburden] at hless
      obtain ⟨rest, hrest, hdone⟩ := ih _ hless (paced.append hmore) rfl
      rw [Runs.append run, ← Runs.append run] at hdone
      exact ⟨more ++ rest, hmore.append hrest, hdone⟩

end

-- ---------------------------------------------------------------------------
-- Every buffer and every schedule
-- ---------------------------------------------------------------------------

structure Flows (documents : List Document) (ending : Option Failure) (s : Scene) : Prop where
  handed : s.Drained → s.received = s.feeder.reading.produced ∧
    (s.feeder.reading.RunOut ∨ s.feeder.reading.Pausing s.now)
  through : s.Drained → s.feeder.reading.RunOut → s.Through documents ending
  ended : s.Ended → s.Through documents ending
  goesOn : ∃ more, Paced more ∧ (s.run more).Drained ∧ (s.run more).feeder.reading.RunOut

/-- Without a deadline neither the size of the buffer nor the schedule of steps, takes and ticks
matters. -/
theorem flows_of_paced (finite : c.Ends documents ending) (positive : 0 < capacity)
    (fits : capacity ≤ Channel.capacityLimit) :
    ∃ start, make? c capacity none = some start ∧
      ∀ hs, Paced hs → (start.run hs).Flows documents ending := by
  obtain ⟨last, hends⟩ := finite
  have hmakes : (make? c capacity none).isSome = true := by
    rw [make?, Option.isSome_map]
    exact Channel.isSome_make?_iff.mpr ⟨positive, fits⟩
  obtain ⟨start, hmake⟩ := Option.isSome_iff_exists.mp hmakes
  refine ⟨start, hmake, fun hs paced => ⟨?_, fun drained runOut => ?_, ?_, ?_⟩⟩
  · exact handed_of_drained hmake hends paced
  · exact through_of_ended hmake hends paced (ended_of_drained hmake hends paced drained runOut)
  · exact through_of_ended hmake hends paced
  · exact exists_through hmake hends paced

def haltingCursor : Cursor :=
  .ofList [.document .empty, .pause 5 (by decide), .document .empty,
    .failure (.store "cursor killed")]

theorem flows_of_halting :
    let failure : Failure := .store "cursor killed"
    haltingCursor.Ends [.empty, .empty] (some failure) ∧
      ∃ start, make? haltingCursor 1 none = some start ∧
        (∀ hs, Paced hs → (start.run hs).Flows [.empty, .empty] (some failure)) ∧
        let hs : List Happening := [.step, .step, .take, .step, .pass 7, .step, .step, .step, .step,
          .take, .step, .take]
        Paced hs ∧ (start.run hs).Drained ∧ (start.run hs).feeder.reading.RunOut := by
  intro failure
  have hends : haltingCursor.Ends [.empty, .empty] (some failure) :=
    Cursor.ends_ofList [.document .empty, .pause 5 (by decide), .document .empty] (some failure)
      (by decide)
  obtain ⟨start, hmake, hflows⟩ := flows_of_paced hends Nat.one_pos (by decide)
  obtain rfl : _ = start := Option.some.inj hmake
  exact ⟨hends, _, hmake, hflows, by decide, ⟨rfl, rfl⟩, rfl⟩

end Scene

end Menagerie.Stream
