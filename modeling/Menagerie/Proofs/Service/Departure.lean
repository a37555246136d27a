import Menagerie.Proofs.Service.Projection
import Menagerie.Proofs.Stream.Departure

/-!
# Callers that go away

A stream of a service whose receiver has closed or was dropped is a departed stream by itself, so that
its feeder returns whatever else happens (`Freed`). A service at rest therefore feeds only streams
that somebody listens to: `freed_of_departed`.
-/

namespace Menagerie.Service.Scene

variable {t : Scene} {st : Stream.Scene} {k : Nat}

theorem stream?_takes (h : t.stream? k = some st) (count : Nat) :
    (t.run (List.replicate count (.take k))).stream? k =
      some (st.run (List.replicate count .take)) := by
  induction count generalizing t st with
  | zero => exact h
  | succ count ih =>
    have hnext := stream?_take h k
    rw [if_pos rfl] at hnext
    exact ih hnext

structure Freed (t : Scene) (k : Nat) (f : Stream.Feeder) : Prop where
  atRest : t.service.step (.stream k) = none → f.isFinished = true
  soon : ∀ between, (((t.happen (.step (.stream k))).run between).happen
    (.step (.stream k))).service.view.Finished k
  silent : ∀ later, (t.run later).enqueued k = t.enqueued k
  kept : f.channel.receiver = .closed →
    (t.run (List.replicate f.channel.items.length (.take k))).received k = t.enqueued k
  outcome : ∀ later g outcome,
    ((t.happen (.step (.stream k))).run later).service.streams[k]? = some g →
      g.outcome? = some outcome → outcome = f.parting t.service.moment

theorem finished_of_stream? (h : t.stream? k = some st) (done : st.feeder.isFinished = true) :
    t.service.view.Finished k := by
  obtain ⟨f, held, rfl⟩ := stream?_eq_some_iff.mp h
  exact ⟨f, held, done⟩

theorem freed_of_stream? (h : t.stream? k = some st) (gone : st.Departed)
    (conserves : st.Conserves) : t.Freed k st.feeder := by
  have hstep : (t.happen (.step (.stream k))).stream? k = some (st.happen .step) := by
    rw [stream?_step_stream h k, if_pos rfl]
  obtain ⟨f, held, rfl⟩ := stream?_eq_some_iff.mp h
  constructor
  case atRest => exact fun quiet => gone.finished_of_quiet (step_eq_none_of_stepStream quiet held)
  case soon =>
    intro between
    obtain ⟨hs, hbetween⟩ := stream?_run hstep between
    have hlast := stream?_step_stream hbetween k
    rw [if_pos rfl] at hlast
    exact finished_of_stream? hlast (gone.finished_of_steps hs)
  case silent =>
    intro later
    obtain ⟨hs, hrun⟩ := stream?_run h later
    obtain ⟨g, -, hst⟩ := stream?_eq_some_iff.mp hrun
    exact (congrArg Stream.Scene.enqueued hst).trans (gone.enqueued_run hs)
  case kept =>
    -- What is queued and what was taken make up all that was put in, as long as nothing is dropped.
    intro closed
    have hkept : f.channel.receiver ≠ .dropped := fun dropped => by cases closed.symm.trans dropped
    obtain ⟨g, -, hst⟩ := stream?_eq_some_iff.mp (stream?_takes h f.channel.items.length)
    calc _ = _ := congrArg Stream.Scene.received hst
      _ = t.received k ++ f.channel.items := Stream.Scene.received_takes hkept
      _ = t.enqueued k := conserves.kept hkept
  case outcome =>
    intro later g outcome held' hout
    obtain ⟨hs, hrun⟩ := stream?_run hstep later
    obtain ⟨g', hg', hst⟩ := stream?_eq_some_iff.mp hrun
    cases held'.symm.trans hg'
    refine gone.eq_parting hs ?_
    rw [← hst]
    exact hout

/-- In every state of a service, the feeder of a stream whose caller has gone returns in two steps at
most and puts nothing more into the channel, what was queued before a close can be taken, and the
outcome is settled where the next step finds the feeder. At rest only the streams that somebody
listens to are counted. -/
theorem freed_of_departed (config : ServerConfig) (backend : Store.Backend)
    (events : List Event) :
    let t := (start config backend).run events
    (∀ k f, t.service.streams[k]? = some f → f.channel.receiver ≠ .opened → t.Freed k f) ∧
      (t.Quiet → t.service.active =
        t.service.streams.countP fun f => f.channel.isOpen && ! f.isFinished) := by
  intro t
  have hfreed (k : Nat) (f : Stream.Feeder) (held : t.service.streams[k]? = some f)
      (gone : f.channel.receiver ≠ .opened) : t.Freed k f := by
    have hst := stream?_eq_some_iff.mpr ⟨f, held, rfl⟩
    obtain ⟨cursor, deadline, start, hs, hmake, hrun⟩ :=
      (recorded_run config backend events).origin k _ hst
    exact freed_of_stream? hst gone (hrun ▸ Stream.Scene.conserves_run hmake hs)
  refine ⟨hfreed, fun quiet => List.countP_congr fun f hf => ?_⟩
  obtain ⟨k, held⟩ := List.getElem?_of_mem hf
  by_cases hopen : f.channel.receiver = .opened
  · simp [Stream.Channel.isOpen, hopen]
  · simp [Stream.Channel.isOpen, hopen, (hfreed k f held hopen).atRest (quiet (.stream k))]

/-- The caller closes while the buffer is full and the next creature is held. -/
theorem freed_of_closed :
    let cursor : Stream.Cursor := .ofList [.document .empty, .document .empty, .hang]
    let t := (start narrow (answering 0 cursor)).run [.list none, .step (.call 0),
      .step (.stream 0), .step (.stream 0), .step (.stream 0), .close 0]
    ∃ f, t.service.streams[0]? = some f ∧ f.channel.receiver = .closed ∧ f.isFinished = false ∧
      (t.run [.take 0]).received 0 = [.ok {}] ∧
      (∀ later, (t.run later).enqueued 0 = [.ok {}]) ∧
      (∀ later g outcome,
        ((t.happen (.step (.stream 0))).run later).service.streams[0]? = some g →
          g.outcome? = some outcome → outcome = .error .requestCancelled) ∧
      (t.run [.step (.stream 0)]).Quiet ∧ (t.run [.step (.stream 0)]).service.active = 0 := by
  intro cursor t
  obtain ⟨f, held, closed, busy, hlength, hparting⟩ :
      ∃ f, t.service.streams[0]? = some f ∧ f.channel.receiver = .closed ∧
        f.isFinished = false ∧ f.channel.items.length = 1 ∧
        f.parting t.service.moment = .error .requestCancelled := ⟨_, rfl, rfl, rfl, rfl, rfl⟩
  have hqueued : t.enqueued 0 = [.ok {}] := rfl
  have hquiet : (t.run [.step (.stream 0)]).Quiet := by decide +kernel
  have hfreed : t.Freed 0 f :=
    (freed_of_departed narrow (answering 0 cursor) _).1 0 f held (by simp [closed])
  have hrest := (freed_of_departed narrow (answering 0 cursor) ([.list none, .step (.call 0),
    .step (.stream 0), .step (.stream 0), .step (.stream 0), .close 0] ++ [.step (.stream 0)])).2
  rw [Runs.append run] at hrest
  have htaken := hfreed.kept closed
  rw [hlength, hqueued] at htaken
  refine ⟨f, held, closed, busy, htaken, fun later => (hfreed.silent later).trans hqueued,
    fun later g outcome held' hout => (hfreed.outcome later g outcome held' hout).trans hparting,
    hquiet, ?_⟩
  exact (hrest hquiet).trans (by decide +kernel)

end Menagerie.Service.Scene
