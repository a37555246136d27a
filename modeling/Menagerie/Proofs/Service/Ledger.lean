import Mathlib.Algebra.BigOperators.Group.List.Basic
import Menagerie.Proofs.Service.Admission
import Menagerie.Proofs.Service.Projection
import Menagerie.Proofs.Service.Search

/-!
# What the metrics count

Every call and every stream has an account, what the metrics hold of it. `balanced_run`: in every
reachable state the metrics are the sum of all accounts, as each step changes one account, or hands
it over from a request to its stream, and books the difference. `metrics_run` reads this metric by
metric, as numbers of calls, tasks and items.
-/

namespace Menagerie

/-- What the metrics hold of a stream: its request, what it has put into its channel, and its
end. -/
def Stream.Feeder.account (f : Stream.Feeder) : Service.Metrics :=
  { listings := 1, inflight := 1, streamed := f.sent } +
    (f.outcome?.map Service.Metrics.ofOutcome).getD 0

namespace Service

/-- What the metrics hold of a call. A request that was opened has left its account to the
stream. -/
def Call.account : Call → Metrics
  | .search _ .missed => { searches := 1, misses := 1 }
  | .search .. => { searches := 1 }
  | .listing .refused => { errors := 1 }
  | .listing (.failed _) => { listings := 1, errors := 1 }
  | .listing .panicked => { listings := 1, inflight := 1 }
  | .listing (.finding ..) | .listing .aborted => { listings := 1 }
  | .listing (.opened _) | .drain _ => {}

instance : AddCommMonoid Metrics where
  add_assoc a b c := by ext <;> simp [Nat.add_assoc, Int.add_assoc]
  zero_add a := by ext <;> simp [Metrics.zero_def]
  add_zero := Metrics.add_blank
  add_comm a b := by ext <;> simp [Nat.add_comm, Int.add_comm]
  nsmul := nsmulRec

def ledger (s : Service) : Metrics :=
  (s.calls.map Call.account).sum + (s.streams.map Stream.Feeder.account).sum

def Balanced (s : Service) : Prop := s.metrics = s.ledger

-- ---------------------------------------------------------------------------
-- Accounts
-- ---------------------------------------------------------------------------

theorem Call.Steps.account {s : Service} {old new : Call} {effect : Effect}
    (h : Call.Steps s old new effect) :
    old.account + effect.metrics = new.account + (effect.begun.map Stream.Feeder.account).sum := by
  cases h with
  | opened => rfl
  | _ => rfl

theorem Call.Enters.account {s : Service} {e : Event} {call : Call} {metrics : Metrics}
    (h : Call.Enters s e call metrics) : call.account = metrics := by
  cases h <;> rfl

theorem Call.Leaves.account {old new : Call} (h : Call.Leaves old new) :
    new.account = old.account := by
  cases h <;> rfl

theorem Call.account_release (call : Call) : call.release.account = call.account := by
  cases call with
  | search | listing => rfl
  | drain d => cases d <;> rfl

theorem Touched.account {f f' : Stream.Feeder} (h : Touched f f') : f'.account = f.account := by
  simp only [Stream.Feeder.account, Stream.Feeder.outcome?, h.position, h.sent]

theorem sent_le_of_step {m : Stream.Moment} {f f' : Stream.Feeder} {lines : List Log.Line}
    (h : f.step m = some (f', lines)) : f.sent ≤ f'.sent := by
  obtain ⟨added, ht⟩ := Stream.Feeder.step_transition h
  cases ht with
  | send => exact Nat.le_succ _
  | _ => exact Nat.le_refl _

theorem StreamStep.account {s s' : Service} {k : Nat} {f f' : Stream.Feeder}
    (h : StreamStep s k s' f f') :
    f'.account = f.account + { streamed := f'.sent - f.sent } +
      (f'.outcome?.map Metrics.ofOutcome).getD 0 := by
  obtain ⟨lines, hstep⟩ := h.steps
  have hsent := sent_le_of_step hstep
  have hunfinished : f.outcome? = none := by
    cases hout : f.outcome? with
    | none => rfl
    | some outcome =>
      have hnone := Stream.Feeder.step_eq_none_iff (m := s.moment) |>.mpr
        (.inl (show f.isFinished = true by simp [Stream.Feeder.isFinished, hout]))
      rw [hnone] at hstep
      cases hstep
  refine congrArg (· + _) ?_
  simp only [Stream.Feeder.account, hunfinished]
  ext <;> simp [Metrics.zero_def, hsent]

-- ---------------------------------------------------------------------------
-- The ledger
-- ---------------------------------------------------------------------------

theorem exists_sum_map_set {α β : Type} [AddCommMonoid β] (g : α → β) {l : List α} {n : Nat}
    {old : α} (held : l[n]? = some old) :
    ∃ rest, (l.map g).sum = rest + g old ∧ ∀ new, ((l.set n new).map g).sum = rest + g new := by
  induction l generalizing n with
  | nil => simp at held
  | cons a l ih =>
    cases n with
    | zero =>
      obtain rfl : a = old := by simpa using held
      exact ⟨(l.map g).sum, by simp [add_comm], fun new => by simp [add_comm]⟩
    | succ n =>
      obtain ⟨rest, hsum, hset⟩ := ih (by simpa using held)
      refine ⟨g a + rest, by simp [hsum, add_assoc], fun new => ?_⟩
      rw [List.set_cons_succ, List.map_cons, List.sum_cons, hset, add_assoc]

section

variable {s s' : Service} {n k : Nat}

theorem Balanced.call {old new : Call} {effect : Effect} (h : s.Balanced)
    (step : CallStep s n s' old new effect) : s'.Balanced := by
  obtain ⟨rest, hsum, hset⟩ := exists_sum_map_set Call.account step.held
  have haccount := step.steps.account
  have hmetrics : s.metrics = s.ledger := h
  unfold Balanced ledger
  rw [step.metrics, step.calls, step.streams, hset, hmetrics, ledger, hsum, List.map_append,
    List.sum_append]
  calc rest + old.account + (s.streams.map Stream.Feeder.account).sum + effect.metrics
      = rest + (old.account + effect.metrics) + (s.streams.map Stream.Feeder.account).sum := by
        ac_rfl
    _ = rest + (new.account + (effect.begun.map Stream.Feeder.account).sum) +
          (s.streams.map Stream.Feeder.account).sum := by rw [haccount]
    _ = _ := by ac_rfl

theorem Balanced.stream {f f' : Stream.Feeder} (h : s.Balanced) (step : StreamStep s k s' f f') :
    s'.Balanced := by
  obtain ⟨rest, hsum, hset⟩ := exists_sum_map_set Stream.Feeder.account step.held
  have hcalls : (s'.calls.map Call.account).sum = (s.calls.map Call.account).sum := by
    rcases step.calls with hcalls | ⟨-, hcalls⟩
    · rw [hcalls]
    · rw [hcalls, List.map_map]
      exact congrArg List.sum (List.map_congr_left fun call _ => call.account_release)
  have hmetrics : s.metrics = s.ledger := h
  unfold Balanced ledger
  rw [step.metrics, hcalls, step.streams, hset, step.account, hmetrics, ledger, hsum]
  ac_rfl

theorem Balanced.change {e : Event} (h : s.Balanced) (change : Change s e s') : s'.Balanced := by
  have hmetrics : s.metrics = s.ledger := h
  cases change with
  | wait => exact h
  | call step => exact h.call step
  | stream step => exact h.stream step
  | enter enters calls streams counted =>
    unfold Balanced ledger
    rw [counted, calls, streams, List.map_append, List.sum_append, hmetrics, ledger,
      ← enters.account]
    simp only [List.map_cons, List.map_nil, List.sum_cons, List.sum_nil, add_zero]
    ac_rfl
  | leave _ held leaves =>
    obtain ⟨rest, hsum, hset⟩ := exists_sum_map_set Call.account held
    show s.metrics = _
    rw [hmetrics, ledger, ledger, hsum, ← leaves.account, ← hset]
    rfl
  | touch _ held touched =>
    obtain ⟨rest, hsum, hset⟩ := exists_sum_map_set Stream.Feeder.account held
    show s.metrics = _
    rw [hmetrics, ledger, ledger, hsum, ← touched.account, ← hset]
  | pass _ calls streams metrics =>
    unfold Balanced ledger
    rw [metrics, calls, streams]
    exact h

end

-- ---------------------------------------------------------------------------
-- Metric by metric
-- ---------------------------------------------------------------------------

theorem sum_account_calls (calls : List Call) :
    (calls.map Call.account).sum =
      { searches := calls.countP (· matches .search ..)
        listings := calls.countP (· matches .listing (.finding ..)) +
          calls.countP (· matches .listing .aborted) +
          calls.countP (· matches .listing (.failed _)) +
          calls.countP (· matches .listing .panicked)
        inflight := calls.countP (· matches .listing .panicked)
        errors := calls.countP (· matches .listing .refused) +
          calls.countP (· matches .listing (.failed _))
        misses := calls.countP (· matches .search _ .missed) } := by
  induction calls with
  | nil => rfl
  | cons call calls ih =>
    rw [List.map_cons, List.sum_cons, ih]
    cases call with
    | search name state => cases state <;> ext <;> simp [Call.account] <;> omega
    | listing state => cases state <;> ext <;> simp [Call.account] <;> omega
    | drain state => ext <;> simp [Call.account]

theorem sum_account_streams (streams : List Stream.Feeder) :
    (streams.map Stream.Feeder.account).sum =
      { listings := streams.length
        inflight := streams.countP (! ·.isFinished)
        errors := streams.countP (·.outcome? matches some (.error _))
        streamed := (streams.map Stream.Feeder.sent).sum
        misses := streams.countP (·.outcome? matches some (.ok 0))
        durations := streams.countP (·.isFinished) } := by
  induction streams with
  | nil => rfl
  | cons f streams ih =>
    rw [List.map_cons, List.sum_cons, ih]
    rcases hout : f.outcome? with _ | failure | n
    · ext <;>
        simp [Stream.Feeder.account, Stream.Feeder.isFinished, hout, Metrics.zero_def] <;> omega
    · ext <;>
        simp [Stream.Feeder.account, Stream.Feeder.isFinished, hout, Metrics.ofOutcome] <;> omega
    · cases n <;> ext <;>
        simp [Stream.Feeder.account, Stream.Feeder.isFinished, hout, Metrics.ofOutcome] <;> omega

namespace Scene

variable {t : Scene}

theorem balanced_run (h : t.service.Balanced) (events : List Event) :
    (t.run events).service.Balanced :=
  Runs.invariant run (P := fun t => t.service.Balanced) (fun t e h => h.change (t.change e)) events h

-- ---------------------------------------------------------------------------
-- Calls and items
-- ---------------------------------------------------------------------------

theorem countP_kind_run (fresh : t.service.calls = []) (kind : Kind) (events : List Event) :
    (t.run events).service.calls.countP (·.kind = kind) =
      events.countP (·.kind? = some kind) := by
  have hkinds := congrArg (List.countP (· = kind)) (t.kinds_run events)
  rw [fresh, List.map_nil, List.nil_append, List.countP_map, List.countP_filterMap] at hkinds
  refine hkinds.trans (congrArg (List.countP · events) (funext fun e => ?_))
  cases e.kind? <;> simp

theorem not_panicked_run
    (accepted : (Stream.Channel.make? t.service.config.bufferSize).isSome = true)
    (fresh : t.service.calls = []) (events : List Event) :
    (t.run events).service.calls.countP (· matches .listing .panicked) = 0 := by
  suffices hnone : ∀ n : Nat, (t.run events).service.calls[n]? ≠ some (.listing .panicked) by
    refine List.countP_eq_zero.mpr fun call hcall hpanicked => ?_
    obtain ⟨n, held⟩ := List.getElem?_of_mem hcall
    cases call with
    | search | drain => simp at hpanicked
    | listing state =>
      cases state with
      | panicked => exact hnone n held
      | _ => simp at hpanicked
  refine (Runs.invariant run (P := fun t' => t'.service.config = t.service.config ∧
    ∀ n : Nat, t'.service.calls[n]? ≠ some (.listing .panicked)) ?_ events
    ⟨rfl, by simp [fresh]⟩).2
  rintro t' e ⟨hconfig, hnone⟩
  refine ⟨(t'.move e).config.trans hconfig, fun n held => ?_⟩
  cases (t'.change e).comes held with
  | same held => exact hnone n held
  | released held _ release =>
    rw [Call.release_eq_listing_iff.mp release.symm] at held
    exact hnone n held
  | steps _ step =>
    obtain ⟨-, steps, -⟩ := step
    cases steps with
    | panicked _ _ unmade =>
      rw [hconfig] at unmade
      simp [unmade] at accepted
  | leaves _ _ leaves => cases leaves
  | enters _ enters => cases enters

end Scene

end Service

theorem Stream.Scene.Faithful.countP_enqueued {c : Stream.Cursor} {s : Stream.Scene}
    {documents : List Document} (h : s.Faithful c documents) :
    s.enqueued.countP (·.isOk) = s.feeder.sent := by
  have himages : (images documents).countP (·.isOk) = documents.length := by
    simp [images, List.countP_map, Function.comp_def, Except.isOk, Except.toBool]
  have haccount := h.account
  rw [h.sent, ← himages]
  generalize s.feeder.position = p, s.enqueued = items at haccount
  cases haccount with
  | told => simp [Except.isOk, Except.toBool]
  | _ => rfl

namespace Service.Scene

variable {t : Scene}

theorem sum_sent (h : t.Recorded) :
    (t.service.streams.map Stream.Feeder.sent).sum =
      ((List.range t.service.streams.length).map fun k =>
        (t.enqueued k).countP (·.isOk)).sum := by
  refine congrArg List.sum (List.ext_getElem (by simp) fun k hk _ => ?_)
  have hk : k < t.service.streams.length := by simpa using hk
  have held : t.stream? k = some _ :=
    stream?_eq_some_iff.mpr ⟨_, List.getElem?_eq_getElem hk, rfl⟩
  obtain ⟨cursor, deadline, start, hs, hmake, hrun⟩ := h.origin k _ held
  obtain ⟨documents, hfaithful⟩ := Stream.Scene.faithful_run hmake hs
  rw [← hrun] at hfaithful
  simpa using hfaithful.countP_enqueued.symm

theorem active_add_ended (s : Service) :
    s.active + s.streams.countP (·.isFinished) = s.streams.length := by
  rw [active, List.length_eq_countP_add_countP (·.isFinished), Nat.add_comm]
  simp

/-- In every reachable state each metric is the number of the calls, tasks and items that it is
there to count. A search counts as a miss when it has come to the end of a cursor without
documents. -/
theorem metrics_run {config : ServerConfig} (backend : Store.Backend)
    (accepted : (Stream.Channel.make? config.bufferSize).isSome = true) (events : List Event) :
    let t := (start config backend).run events
    let calls := t.service.calls
    let streams := t.service.streams
    let pending := calls.countP (· matches .listing (.finding ..))
    let aborted := calls.countP (· matches .listing .aborted)
    let failed := calls.countP (· matches .listing (.failed _))
    let refused := calls.countP (· matches .listing .refused)
    let missed := calls.countP (· matches .search _ .missed)
    let ended := streams.countP (·.isFinished)
    t.service.metrics =
        { searches := events.countP (· matches .search _)
          listings := pending + aborted + failed + t.service.active + ended
          inflight := t.service.active
          errors := refused + failed + streams.countP (·.outcome? matches some (.error _))
          streamed := ((List.range streams.length).map fun k =>
            (t.enqueued k).countP (·.isOk)).sum
          misses := missed + streams.countP (·.outcome? matches some (.ok 0))
          durations := ended } ∧
      t.service.active + ended = streams.length ∧
      ∀ n name, calls[n]? = some (.search name .missed) ↔
        ∃ before after, events = before ++ .step (.call n) :: after ∧
          ((start config backend).run before).Exhausts n name := by
  intro t calls streams pending aborted failed refused missed ended
  have hsplit : t.service.active + ended = streams.length := active_add_ended t.service
  refine ⟨?_, hsplit, fun n name => ?_⟩
  · have hbalanced : t.service.Balanced := balanced_run (t := start config backend) rfl events
    have hpanicked : calls.countP (· matches .listing .panicked) = 0 :=
      not_panicked_run (t := start config backend) accepted rfl events
    have hsearches : calls.countP (· matches .search ..) = events.countP (· matches .search _) := by
      have hkind := countP_kind_run (t := start config backend) rfl .search events
      convert hkind using 2
      · funext call; cases call <;> rfl
      · funext e; cases e <;> rfl
    have hmetrics : t.service.metrics = t.service.ledger := hbalanced
    have hsent : (streams.map Stream.Feeder.sent).sum = _ :=
      sum_sent (recorded_run config backend events)
    rw [hmetrics, ledger, sum_account_calls, sum_account_streams]
    ext
    case searches => exact hsearches
    case listings =>
      show pending + aborted + failed + calls.countP (· matches .listing .panicked) +
        streams.length = pending + aborted + failed + t.service.active + ended
      omega
    case inflight =>
      show (calls.countP (· matches .listing .panicked) : Int) + t.service.active = _
      rw [hpanicked]
      exact Int.zero_add _
    case errors => rfl
    case streamed => exact (Nat.zero_add _).trans hsent
    case misses => rfl
    case durations => exact Nat.zero_add ended
  · have hnone : (start config backend).Searching := fun n name r held => by cases held
    have hrun := missed_run_iff hnone n name events
    refine hrun.trans ⟨fun h => h.resolve_left fun held => ?_, .inr⟩
    cases held

/-- One document for the request, none for the search, and a second request too late. -/
theorem metrics_run_of_short_store :
    let backend : Store.Backend := .scripted fun call _ _ =>
      ⟨0, .ok (.ofDocuments (if call = 0 then [.empty] else []))⟩
    let events : List Event := [.list none, .step (.call 0), .step (.stream 0), .step (.stream 0),
      .step (.stream 0), .search "April", .step (.call 1), .step (.call 1), .drain, .list none]
    (Stream.Channel.make? narrow.bufferSize).isSome = true ∧
      ((start narrow backend).run events).service.metrics =
        { searches := 1, listings := 1, errors := 1, streamed := 1, misses := 1,
          durations := 1 } := by
  intro backend events
  have haccepted : (Stream.Channel.make? narrow.bufferSize).isSome = true := rfl
  exact ⟨haccepted, (metrics_run backend haccepted events).1.trans (by decide +kernel)⟩

end Service.Scene

end Menagerie
