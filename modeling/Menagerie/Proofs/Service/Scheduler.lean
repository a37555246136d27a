import Menagerie.Service.Scene
import Menagerie.Service.Session

/-!
# Schedules as lists of events

Whatever the scheduler and the sessions do to a service is a list of events, so what holds after
every list of events holds after every session. The items that a session hands out of a stream are
those that the events take from it.
-/

namespace Menagerie

namespace Service

/-- Some events lead from one state to another, whatever was taken before, and take these items of
each stream. -/
def Leads (s s' : Service) (taken : Nat → List Stream.Item) : Prop :=
  ∃ events, ∀ t : Scene, t.service = s →
    (t.run events).service = s' ∧ ∀ k, (t.run events).received k = t.received k ++ taken k

def Reaches (s s' : Service) : Prop := s.Leads s' fun _ => []

variable {s s' s'' : Service} {taken taken' : Nat → List Stream.Item}

theorem Leads.of_event (e : Event) (h : ∀ t : Scene, t.service = s →
    (t.happen e).service = s' ∧ ∀ k, (t.happen e).received k = t.received k ++ taken k) :
    s.Leads s' taken :=
  ⟨[e], h⟩

theorem Leads.trans (h : s.Leads s' taken) (h' : s'.Leads s'' taken') :
    s.Leads s'' fun k => taken k ++ taken' k := by
  obtain ⟨events, hrun⟩ := h
  obtain ⟨events', hrun'⟩ := h'
  refine ⟨events ++ events', fun t ht => ?_⟩
  obtain ⟨hs, hreceived⟩ := hrun t ht
  obtain ⟨hs', hreceived'⟩ := hrun' (t.run events) hs
  rw [Runs.append Scene.run]
  exact ⟨hs', fun k => by rw [hreceived', hreceived, List.append_assoc]⟩

theorem Leads.reaches (h : s.Leads s' taken) (h' : s'.Reaches s'') : s.Leads s'' taken := by
  simpa only [List.append_nil] using h.trans h'

/-- What holds after every list of events holds wherever events lead. -/
theorem Leads.of_events {P : Service → Prop} (h : s.Leads s' taken)
    (always : ∀ events, P (Scene.run { service := s } events).service) : P s' := by
  obtain ⟨events, hrun⟩ := h
  exact (hrun { service := s } rfl).1 ▸ always events

theorem Reaches.refl (s : Service) : s.Reaches s :=
  ⟨[], fun _ ht => ⟨ht, fun _ => (List.append_nil _).symm⟩⟩

theorem Reaches.trans (h : s.Reaches s') (h' : s'.Reaches s'') : s.Reaches s'' :=
  Leads.reaches h h'

-- ---------------------------------------------------------------------------
-- One event
-- ---------------------------------------------------------------------------

theorem Reaches.of_act (e : Event) (update : Service → Service)
    (h : ∀ t : Scene, t.happen e = t.act update) : s.Reaches (update s) := by
  refine .of_event e fun t ht => ?_
  rw [h, ← ht]
  exact ⟨rfl, fun _ => (List.append_nil _).symm⟩

theorem reaches_of_step {task : Task} (h : s.step task = some s') : s.Reaches s' := by
  refine .of_event (.step task) fun t ht => ?_
  subst ht
  simp [Scene.happen, h]

theorem reaches_beginSearch (s : Service) (name : String) : s.Reaches (s.beginSearch name) :=
  .of_act (.search name) (·.beginSearch name) fun _ => rfl

theorem reaches_beginListing (s : Service) (timeout : Option Timeout.Duration) :
    s.Reaches (s.beginListing timeout) :=
  .of_act (.list timeout) (·.beginListing timeout) fun _ => rfl

theorem reaches_beginDrain (s : Service) : s.Reaches s.beginDrain :=
  .of_act .drain (·.beginDrain) fun _ => rfl

theorem reaches_drop (s : Service) (k : Nat) :
    s.Reaches (s.updateStream k Stream.Feeder.drop) :=
  .of_act (.drop k) (·.updateStream k Stream.Feeder.drop) fun _ => rfl

theorem reaches_abort (s : Service) (n : Nat) : s.Reaches (s.abort n) :=
  .of_act (.abort n) (·.abort n) fun _ => rfl

theorem reaches_forget (s : Service) (n : Nat) : s.Reaches (s.forget n) :=
  .of_act (.forget n) (·.forget n) fun _ => rfl

theorem reaches_insert (s : Service) (target : Namespace) (d : Document) :
    s.Reaches (s.insert target d) :=
  .of_act (.insert target d) (·.insert target d) fun _ => rfl

theorem reaches_advance (s : Service) (target : Nat) : s.Reaches (s.advance target) := by
  have h : s.Reaches (s.advance (s.now + (target - s.now))) :=
    .of_act (.pass (target - s.now)) (fun u => u.advance (u.now + (target - s.now))) fun _ => rfl
  have htarget : s.advance (s.now + (target - s.now)) = s.advance target := by
    unfold advance
    congr 1
    omega
  exact htarget ▸ h

def itemsOf (k : Nat) (items : List Stream.Item) : Nat → List Stream.Item :=
  fun j => if j = k then items else []

theorem itemsOf_nil (k : Nat) : itemsOf k [] = fun _ => [] := by
  funext j
  exact ite_self _

theorem itemsOf_cons (k : Nat) (item : Stream.Item) (items : List Stream.Item) :
    itemsOf k (item :: items) = fun j => itemsOf k [item] j ++ itemsOf k items j := by
  funext j
  unfold itemsOf
  split <;> rfl

theorem leads_take {k : Nat} {item : Stream.Item} {rest : Stream.Feeder}
    (h : s.streams[k]?.map Stream.Feeder.take = some (.item item rest)) :
    s.Leads (s.updateStream k fun _ => rest) (itemsOf k [item]) := by
  refine .of_event (.take k) fun t ht => ?_
  subst ht
  simp only [Scene.happen, h, itemsOf, true_and]
  intro j
  split <;> simp

theorem reaches_poll (s : Service) (task : Task) : s.Reaches (s.poll task) := by
  fun_induction poll s task with
  | case1 => exact .refl _
  | case2 s next h _ ih => exact (reaches_of_step h).trans ih

end Service

open Service (Leads Reaches itemsOf)

-- ---------------------------------------------------------------------------
-- The scheduler
-- ---------------------------------------------------------------------------

namespace Scheduler

variable (s : Scheduler)

theorem reaches_run (fuel : Nat) : s.service.Reaches (s.run fuel).service := by
  induction fuel generalizing s with
  | zero => exact .refl _
  | succ fuel ih =>
    unfold run
    split
    · exact .refl _
    · next t rest _ =>
      have hturn := Service.reaches_poll s.service t
      rw [← service_turn { s with queue := rest }] at hturn
      exact hturn.trans (ih _)

theorem leads_settle {start : Service} {taken : Nat → List Stream.Item}
    (h : start.Leads s.service taken) : start.Leads s.settle.service taken :=
  h.reaches (s.reaches_run s.turns)

theorem reaches_takeUp {take : Service → Service} (h : s.service.Reaches (take s.service)) :
    s.service.Reaches (s.takeUp take).service :=
  ({ s with service := take s.service }.wake [.call s.service.calls.length]).leads_settle h

theorem leads_touch {taken : Nat → List Stream.Item} (k : Nat) (act : Service → Service)
    (h : s.service.Leads (act s.service) taken) : s.service.Leads (s.touch k act).service taken :=
  ({ s with service := act s.service }.wake [.stream k]).leads_settle h

theorem leads_receive (k limit : Nat) :
    s.service.Leads (s.receive k limit).1.service (itemsOf k (s.receive k limit).2.1) := by
  have hnothing (s : Scheduler) : s.service.Leads s.service (itemsOf k []) :=
    Service.itemsOf_nil k ▸ Reaches.refl s.service
  induction limit generalizing s with
  | zero => exact hnothing s
  | succ limit ih =>
    unfold receive
    split
    · exact hnothing s
    · exact hnothing s
    · exact hnothing s
    · exact hnothing s
    · next item rest htake =>
      have hfirst := s.leads_touch k (·.updateStream k fun _ => rest) (Service.leads_take htake)
      rw [Service.itemsOf_cons]
      exact hfirst.trans (ih _)

theorem reaches_reach (tick : Nat) : s.service.Reaches (s.reach tick).service :=
  leads_settle _ (Service.reaches_advance s.service tick)

theorem reaches_advance (target : Nat) : s.service.Reaches (s.advance target).service := by
  fun_induction advance target s with
  | case1 s tick _ _ ih => exact (s.reaches_reach tick).trans ih
  | case2 s => exact s.reaches_reach target
  | case3 s => exact s.reaches_reach target

end Scheduler

-- ---------------------------------------------------------------------------
-- Sessions
-- ---------------------------------------------------------------------------

namespace Service.Session

inductive Act where
  | search (name : String)
  | list (timeout : Option Timeout.Duration)
  | drain
  | poll (call : Nat)
  | receive (call limit : Nat)
  | drop (call : Nat)
  | insert (target : Namespace) (document : Document)
  | wait (ms : Nat)
  | takeLog

def act (s : Session) : Act → Session
  | .search name => (s.call (·.beginSearch name)).1
  | .list timeout => (s.call (·.beginListing timeout)).1
  | .drain => (s.call (·.beginDrain)).1
  | .poll n => (s.poll n).1
  | .receive n limit => (s.receive n limit).1
  | .drop n => s.drop n
  | .insert target d => s.insert target d
  | .wait ms => s.wait ms
  | .takeLog => s.takeLog.1

def handed (s : Session) : Act → Nat → List Stream.Item
  | .receive n limit =>
    match s.held[n]? with
    | some (.stream k) => itemsOf k (s.scheduler.receive k limit).2.1
    | _ => fun _ => []
  | _ => fun _ => []

variable (s : Session)

theorem service_poll (n : Nat) : (s.poll n).1.service = s.service := by
  unfold poll
  split <;> rfl

theorem reaches_call {take : Service → Service} (h : s.service.Reaches (take s.service)) :
    s.service.Reaches (s.call take).1.service := by
  unfold call
  rw [service_poll]
  exact s.scheduler.reaches_takeUp h

theorem reaches_drop (n : Nat) : s.service.Reaches (s.drop n).service := by
  have hdrop (k : Nat) := s.scheduler.leads_touch k (·.updateStream k Stream.Feeder.drop)
    (s.service.reaches_drop k)
  unfold drop
  split
  · exact hdrop _
  · split
    · exact s.service.reaches_abort n
    · exact hdrop _
    · exact s.service.reaches_forget n
    · exact .refl _
  · exact .refl _

/-- An act is a list of events, which take what the act hands out. -/
theorem leads_act (a : Act) : s.service.Leads (s.act a).service (s.handed a) := by
  cases a with
  | search name => exact s.reaches_call (s.service.reaches_beginSearch name)
  | list timeout => exact s.reaches_call (s.service.reaches_beginListing timeout)
  | drain => exact s.reaches_call s.service.reaches_beginDrain
  | poll n => exact (s.service_poll n).symm ▸ Reaches.refl s.service
  | receive n limit =>
    rcases hheld : s.held[n]? with _ | (_ | k | _) <;> simp only [act, receive, handed, hheld]
    · exact Reaches.refl s.service
    · exact Reaches.refl s.service
    · exact s.scheduler.leads_receive k limit
    · exact Reaches.refl s.service
  | drop n => exact s.reaches_drop n
  | insert target d => exact s.service.reaches_insert target d
  | wait ms => exact s.scheduler.reaches_advance _
  | takeLog => exact Reaches.refl s.service

def run (s : Session) (acts : List Act) : Session := acts.foldl act s

def handedIn (s : Session) : List Act → Nat → List Stream.Item
  | [] => fun _ => []
  | a :: acts => fun k => s.handed a k ++ (s.act a).handedIn acts k

/-- A session is a list of events. -/
theorem leads_run (acts : List Act) : s.service.Leads (s.run acts).service (s.handedIn acts) := by
  induction acts generalizing s with
  | nil => exact Reaches.refl s.service
  | cons a acts ih => exact (s.leads_act a).trans (ih (s.act a))

/-- What holds after every list of events holds after every session. -/
theorem of_events {P : Service → Prop} (service : Service)
    (h : ∀ events, P (Scene.run { service } events).service) (acts : List Act) :
    P ((start service).run acts).service :=
  ((start service).leads_run acts).of_events h

end Service.Session

end Menagerie
