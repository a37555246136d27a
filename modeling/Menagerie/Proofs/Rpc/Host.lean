import Menagerie.Proofs.Service.Scheduler
import Menagerie.Rpc.Host

/-!
# Hosts as lists of events

Whatever is made of a host, its service goes through a list of events. A connection takes items
before its caller asks for them, so nothing is said here of which they are.
-/

namespace Menagerie.Rpc.Host

open Service (Leads Reaches)

/-- The service of one host comes to be that of another by some events. -/
def Goes (h h' : Host) : Prop := ∃ taken, h.service.Leads h'.service taken

variable {h h' h'' : Host}

theorem Goes.of_reaches (reaches : h.service.Reaches h'.service) : h.Goes h' :=
  ⟨_, reaches⟩

theorem Goes.of_eq (same : h'.service = h.service) : h.Goes h' :=
  .of_reaches (same ▸ Reaches.refl h.service)

theorem Goes.refl (h : Host) : h.Goes h := .of_eq rfl

theorem Goes.trans (first : h.Goes h') (second : h'.Goes h'') : h.Goes h'' := by
  obtain ⟨taken, hfirst⟩ := first
  obtain ⟨taken', hsecond⟩ := second
  exact ⟨_, hfirst.trans hsecond⟩

-- ---------------------------------------------------------------------------
-- The connection
-- ---------------------------------------------------------------------------

theorem leads_fill (s : Scheduler) (p : Pipe) :
    ∃ taken, s.service.Leads (fill s p).1.service taken := by
  unfold fill
  split
  · exact ⟨_, Reaches.refl s.service⟩
  · exact ⟨_, s.leads_receive p.stream burst⟩

theorem leads_fillAll (s : Scheduler) (pipes : List Pipe) :
    ∃ taken, s.service.Leads (fillAll s pipes).1.service taken := by
  induction pipes generalizing s with
  | nil => exact ⟨_, Reaches.refl s.service⟩
  | cons p rest ih =>
    obtain ⟨taken, hfirst⟩ := leads_fill s p
    obtain ⟨taken', hrest⟩ := ih (fill s p).1
    exact ⟨_, hfirst.trans hrest⟩

theorem Goes.pump (goes : h.Goes h') : h.Goes h'.pump :=
  goes.trans (leads_fillAll h'.scheduler h'.pipes)

theorem Goes.modify (goes : h.Goes h') (update : Scheduler → Scheduler)
    (reaches : h'.service.Reaches (update h'.scheduler).service) : h.Goes (h'.modify update) := by
  have hupdated : h'.Goes { h' with scheduler := update h'.scheduler } := .of_reaches reaches
  exact (goes.trans hupdated).pump

theorem Goes.reach (goes : h.Goes h') (tick : Nat) : h.Goes (h'.reach tick) :=
  goes.modify (·.reach tick) (h'.scheduler.reaches_reach tick)

def Looks {α : Type} (look : Host → Option (Host × α)) : Prop :=
  ∀ h h' a, look h = some (h', a) → h'.service = h.service

theorem goes_await {α : Type} {look : Host → Option (Host × α)} (looks : Looks look)
    (limit : Nat) (h : Host) : h.Goes (h.await look limit).1 := by
  fun_induction await look limit h with
  | case1 h h' a hlook => exact .of_eq (looks h h' a hlook)
  | case2 h _ tick _ _ ih => exact ((Goes.refl h).reach tick).trans ih
  | case3 h => exact (Goes.refl h).reach limit
  | case4 h => exact (Goes.refl h).reach limit

theorem looks_of_map {α : Type} (see : Host → Option α) :
    Looks fun h => (see h).map fun a => (h, a) := by
  intro h h' a hlook
  obtain ⟨_, -, heq⟩ := Option.map_eq_some_iff.mp hlook
  cases heq
  rfl

-- ---------------------------------------------------------------------------
-- What callers do
-- ---------------------------------------------------------------------------

theorem goes_wait (h : Host) (ms : Nat) : h.Goes (h.wait ms) :=
  goes_await (fun _ _ _ hlook => by cases hlook) (h.now + ms) h

theorem goes_stop (h : Host) : h.Goes h.stop := by
  unfold stop
  split
  · exact .refl h
  · exact Goes.modify (.of_eq rfl) (·.takeUp Service.beginDrain)
      (h.scheduler.reaches_takeUp h.service.reaches_beginDrain)

theorem goes_join (h : Host) (within : Nat) : h.Goes (h.join within).1 := by
  refine goes_await (fun h h' _ hlook => ?_) (h.now + within) h
  split at hlook
  · cases hlook
    rfl
  · cases hlook

theorem Goes.leave (goes : h.Goes h') (n : Nat) : h.Goes (h'.modify (leave n)) := by
  refine goes.modify (Host.leave n) ?_
  unfold Host.leave
  split
  · next k _ =>
    exact h'.scheduler.leads_touch k (·.updateStream k Stream.Feeder.drop)
      (h'.service.reaches_drop k)
  · exact h'.service.reaches_abort n

theorem goes_call {α : Type} (h : Host) (timeout : Option Timeout.Duration)
    (take : Service → Service) (look : Service.Call → Option (Except Status α))
    (htake : h.service.Reaches (take h.service)) : h.Goes (h.call timeout take look).1 := by
  unfold call
  split
  · exact .refl h
  have htaken := (Goes.refl h).modify (·.takeUp take) (h.scheduler.reaches_takeUp htake)
  by_cases hlimit : h.limit timeout ≤ h.now
  · simp only [hlimit, if_true]
    exact htaken.leave _
  · simp only [hlimit, if_false]
    have hawaited := htaken.trans <| goes_await
      (looks_of_map fun h' => h'.service.calls[h.service.calls.length]?.bind look)
      (h.limit timeout) (h.modify (·.takeUp take))
    split
    · exact hawaited
    · exact hawaited.leave _

theorem goes_search (h : Host) (name : String) (timeout : Option Timeout.Duration) :
    h.Goes (h.search name timeout).1 :=
  h.goes_call timeout _ _ (h.service.reaches_beginSearch name)

theorem goes_list (h : Host) (timeout : Option Timeout.Duration) : h.Goes (h.list timeout).1 := by
  have hcall := h.goes_call timeout (·.beginListing timeout) listed?
    (h.service.reaches_beginListing timeout)
  unfold list
  dsimp only
  split
  · exact hcall
  · exact Goes.pump hcall

theorem looks_front? (p : Nat) : Looks (front? p) := by
  intro h h' a hlook
  unfold front? at hlook
  split at hlook
  · cases hlook
  · split at hlook
    · cases hlook
      rfl
    · split at hlook
      · cases hlook
        rfl
      · cases hlook

theorem goes_read (p within most : Nat) (h : Host) : h.Goes (h.read p within most).1 := by
  induction most generalizing h with
  | zero => exact .refl h
  | succ most ih =>
    have hawaited := goes_await (looks_front? p) (h.now + within) h
    unfold read
    generalize h.await (front? p) (h.now + within) = seen at hawaited
    rcases seen with ⟨h', _ | (_ | _) | _⟩
    · exact hawaited
    · exact hawaited
    · exact hawaited.trans (ih h')
    · exact hawaited

theorem Goes.drop (goes : h.Goes h') (p : Nat) : h.Goes (h'.drop p) := by
  unfold Host.drop
  split
  · exact goes
  · next pipe _ =>
    have hset (pipes : List Pipe) : h.Goes { h' with pipes } := goes
    exact (hset _).modify (·.touch pipe.stream (·.updateStream pipe.stream Stream.Feeder.drop))
      (h'.scheduler.leads_touch pipe.stream (·.updateStream pipe.stream Stream.Feeder.drop)
        (h'.service.reaches_drop pipe.stream))

-- ---------------------------------------------------------------------------
-- Clients
-- ---------------------------------------------------------------------------

theorem goes_takeAll (h : Host) (p : Nat) : h.Goes (h.takeAll p).1 := by
  unfold takeAll
  split <;> exact .of_eq rfl

theorem goes_gather (p limit : Nat) (gap : Timeout.Duration) (h : Host) :
    h.Goes (h.gather p limit gap).1 := by
  fun_induction gather p limit gap h with
  | case1 _ h => exact h.goes_takeAll p
  | case2 _ h _ _ _ _ _ _ _ tick _ _ _ last rest hlast ih =>
    rw [hlast] at ih
    exact ((h.goes_takeAll p).reach tick).trans ih
  | case3 _ h => exact ((h.goes_takeAll p).reach limit).drop p
  | case4 _ h => exact ((h.goes_takeAll p).reach limit).drop p

theorem goes_server_search (h : Host) (request : Client.Request CreatureName) :
    h.Goes (server.search h request).1 :=
  h.goes_search ..

theorem goes_server_list (h : Host) (request : Client.Request CreaturesRequest) :
    h.Goes (server.list h request).1 := by
  have hlisted := h.goes_list (Timeout.ofMetadata? request.metadata)
  unfold server
  dsimp only
  generalize h.list (Timeout.ofMetadata? request.metadata) = listed at hlisted
  rcases listed with ⟨after, status | p⟩
  · exact hlisted
  · exact hlisted.trans (goes_gather ..)

-- ---------------------------------------------------------------------------
-- Whole runs
-- ---------------------------------------------------------------------------

inductive Act where
  | search (name : String) (timeout : Option Timeout.Duration)
  | list (timeout : Option Timeout.Duration)
  | read (stream within most : Nat)
  | drop (stream : Nat)
  | wait (ms : Nat)
  | stop
  | join (within : Nat)
  | clientSearch (request : Client.Request CreatureName)
  | clientList (request : Client.Request CreaturesRequest)

def act (h : Host) : Act → Host
  | .search name timeout => (h.search name timeout).1
  | .list timeout => (h.list timeout).1
  | .read p within most => (h.read p within most).1
  | .drop p => h.drop p
  | .wait ms => h.wait ms
  | .stop => h.stop
  | .join within => (h.join within).1
  | .clientSearch request => (server.search h request).1
  | .clientList request => (server.list h request).1

theorem goes_act (h : Host) (a : Act) : h.Goes (h.act a) := by
  cases a with
  | search name timeout => exact h.goes_search name timeout
  | list timeout => exact h.goes_list timeout
  | read p within most => exact goes_read p within most h
  | drop p => exact (Goes.refl h).drop p
  | wait ms => exact h.goes_wait ms
  | stop => exact h.goes_stop
  | join within => exact h.goes_join within
  | clientSearch request => exact h.goes_server_search request
  | clientList request => exact h.goes_server_list request

def run (h : Host) (acts : List Act) : Host := acts.foldl act h

instance : Runs run act := ⟨fun _ _ => rfl⟩

theorem goes_run (h : Host) (acts : List Act) : h.Goes (h.run acts) :=
  Runs.invariant run (fun _ a goes => goes.trans (goes_act _ a)) acts (Goes.refl h)

/-- What holds after every list of events holds whatever is made of a host. -/
theorem of_events {P : Service → Prop} (service : Service)
    (h : ∀ events, P (Service.Scene.run { service } events).service) (acts : List Act) :
    P ((start service).run acts).service := by
  obtain ⟨_, hleads⟩ := (start service).goes_run acts
  exact hleads.of_events h

end Menagerie.Rpc.Host
