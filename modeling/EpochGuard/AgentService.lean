import EpochGuard.AgentStore
import EpochGuard.Lib.Runs

/-!
# The Agent service

`agent-service.ts` over the store: calls that stop at every `await`, mutations
that the store applies one after the other, and Runs that execute between them.
A state holds the mutations that wait for the store and the calls that wait for
something else, or are about to resume. What is proved here holds of every run: the
Runs under way are different ones, and the store holds each as its execution expects.
-/

namespace EpochGuard

namespace AgentService

open Json Checked Runs

/-! ## Calls and executions -/

/-- A mutation that waits for the store, with the call or execution behind it. -/
inductive Pending where
  | admitRun (run : AgentRun) (messageId : String)
  | markRunning (agentAtStart : Agent) (run : AgentRun)
  | complete (agentAtStart : Agent) (run : AgentRun) (result : RunnerResult)
      (completedAt messageId : String)
  | fail (agentAtStart : Agent) (run : AgentRun) (cancelled : Bool) (message : JsString)
      (completedAt : String)
  | start (id : String)
  | stop (id : String)
  | delete (id : String)
deriving DecidableEq

/-- Why an execution is cancelled. -/
inductive Purpose where
  | stop | delete
deriving DecidableEq

/-- Where a call or an execution stands when it does not wait for the store. -/
inductive Task where
  | admitted (agentAtStart : Agent) (run : AgentRun)
  | started (agentAtStart : Agent) (run : AgentRun)
  | executing (agentAtStart : Agent) (run : AgentRun)
  | executed (agentAtStart : Agent) (run : AgentRun) (outcome : RunnerOutcome)
  | settled (agentId runId : String)
  | cancelling (id : String) (purpose : Purpose)
  | cancelled (id : String) (purpose : Purpose)
  | awaiting (id : String) (purpose : Purpose) (runId : String)
  | released (id : String) (purpose : Purpose)
  | archiving (id : String)
  | archived (id : String)
deriving DecidableEq

/-- An execution is known by its Agent and its Run. `activeExecutions` and
`cancellationRequests` are the service's own; `settled` holds the executions that have
ended, so that a call that awaits one may go on. -/
structure State where
  database : Database
  queue : List Pending
  tasks : List Task
  activeExecutions : String → Option String
  cancellationRequests : List String
  settled : List (String × String)

/-- The service after a start: nothing is under way, and nothing waits. -/
def start (database : Database) : State where
  database
  queue := []
  tasks := []
  activeExecutions := fun _ => none
  cancellationRequests := []
  settled := []

/-- What happens to the service: a request, the next mutation of the queue, or
the continuation of a task after its `await`. The events of different calls come
in any order. -/
inductive Event where
  | sendMessage (agentId : String) (prompt : JsString) (runId messageId timestamp : String)
  | startAgent (id : String)
  | stopAgent (id : String)
  | deleteAgent (id : String)
  | commit (now : String)
  | resume (index : Nat) (now messageId : String)
  | runnerSettled (index : Nat) (outcome : RunnerOutcome)
  | cancelSettled (index : Nat) (ok : Bool)
  | archiveSettled (index : Nat) (ok : Bool)
deriving DecidableEq

/-- The Run that a waiting mutation is for. -/
def Pending.run? : Pending → Option AgentRun
  | .admitRun run _ | .markRunning _ run | .complete _ run _ _ _ | .fail _ run _ _ _ => some run
  | .start _ | .stop _ | .delete _ => none

/-- The Run that a task is for. -/
def Task.run? : Task → Option AgentRun
  | .admitted _ run | .started _ run | .executing _ run | .executed _ run _ => some run
  | _ => none

/-- The Runs of the calls and executions under way. -/
def State.runs (s : State) : List AgentRun :=
  s.tasks.filterMap Task.run? ++ s.queue.filterMap Pending.run?

/-- The identifier of a new Run is not in use. -/
def State.unused (s : State) (runId : String) : Prop :=
  (∀ run ∈ s.runs, run.id ≠ runId) ∧ ∀ run ∈ s.database.runs, run.id ≠ runId

instance (s : State) (runId : String) : Decidable (s.unused runId) :=
  inferInstanceAs (Decidable (_ ∧ _))

/-- The message of a `RunCancelledError`. -/
def RUN_CANCELLED : JsString := js "Run cancelled"

namespace State

/-- A mutation goes to the end of the queue. -/
def enqueue (s : State) (pending : Pending) : State := { s with queue := s.queue ++ [pending] }

/-- A task is added. -/
def spawn (s : State) (task : Task) : State := { s with tasks := s.tasks ++ [task] }

/-- The end of `cancelExecution`. -/
def release (s : State) (id : String) : State :=
  { s with cancellationRequests := s.cancellationRequests.filter (· ≠ id) }

/-- The start of `stopAgent` and of `deleteAgent`. -/
def cancel (s : State) (id : String) (purpose : Purpose) : State :=
  match s.database.findAgent id with
  | none => s
  | some _ =>
      { s with cancellationRequests := id :: s.cancellationRequests }.spawn (.cancelling id purpose)

/-- The first mutation of the queue is applied and written. Its owner goes on
with the next task; a mutation that the store refuses (no such Agent, a stopped
or busy one) ends its call with an error, and changes nothing. -/
def commitHead (s : State) (now : String) : Pending → State
  | .admitRun run messageId =>
      match admitRun s.database run messageId with
      | .error _ => s
      | .ok (database, agentAtStart) => { s with database }.spawn (.admitted agentAtStart run)
  | .markRunning agentAtStart run =>
      { s with database := markRunning s.database run.id now }.spawn (.started agentAtStart run)
  | .complete agentAtStart run result completedAt messageId =>
      { s with
        database := complete s.database agentAtStart.id run.id result completedAt messageId
        settled := (agentAtStart.id, run.id) :: s.settled }.spawn (.settled agentAtStart.id run.id)
  | .fail agentAtStart run cancelled message completedAt =>
      { s with
        database := fail s.database agentAtStart.id run.id cancelled message completedAt
        settled := (agentAtStart.id, run.id) :: s.settled }.spawn (.settled agentAtStart.id run.id)
  | .start id =>
      match setStatus s.database id .ready now with
      | .error _ => s
      | .ok (database, _) => { s with database }
  | .stop id =>
      match setStatus s.database id .stopped now with
      | .error _ => s
      | .ok (database, _) => { s with database }
  | .delete id => { s with database := deleteRecords s.database id }

/-- A task goes on from one `await` to the next; `s` no longer has it. What the
code reads between two awaits (`activeExecutions`, `cancellationRequests`) it
reads at this moment, and what it writes there is written at once. -/
def resumeTask (s : State) (now messageId : String) : Task → Option State
  | .admitted agentAtStart run =>
      some ({ s with activeExecutions := fun id =>
        if id = run.agentId then some run.id else s.activeExecutions id }.enqueue
          (.markRunning agentAtStart run))
  | .started agentAtStart run =>
      if agentAtStart.id ∈ s.cancellationRequests then
        some (s.enqueue (.fail agentAtStart run true RUN_CANCELLED now))
      else some (s.spawn (.executing agentAtStart run))
  | .executed agentAtStart run (.result result) =>
      if agentAtStart.id ∈ s.cancellationRequests then
        some (s.enqueue (.fail agentAtStart run true RUN_CANCELLED now))
      else some (s.enqueue (.complete agentAtStart run result now messageId))
  | .executed agentAtStart run (.error cancelled message) =>
      some (s.enqueue (.fail agentAtStart run
        (cancelled || agentAtStart.id ∈ s.cancellationRequests) message now))
  | .settled agentId runId =>
      some { s with activeExecutions := fun id =>
        if id = agentId ∧ s.activeExecutions id = some runId then none
        else s.activeExecutions id }
  | .cancelled id purpose =>
      match s.activeExecutions id with
      | none => some ((s.release id).spawn (.released id purpose))
      | some runId => some (s.spawn (.awaiting id purpose runId))
  | .awaiting id purpose runId =>
      if (id, runId) ∈ s.settled then some ((s.release id).spawn (.released id purpose)) else none
  | .released id .stop => some (s.enqueue (.stop id))
  | .released id .delete => some (s.spawn (.archiving id))
  | .archived id => some (s.enqueue (.delete id))
  | .executing _ _ | .cancelling _ _ | .archiving _ => none

end State

/-- Removes the task at an index and goes on with it. -/
def withTask (s : State) (index : Nat) (next : State → Task → Option State) : Option State :=
  s.tasks[index]?.bind fun task => next { s with tasks := s.tasks.eraseIdx index } task

/-- One event: a request begins, the queue applies a mutation, or one of the
tasks goes on. An event that cannot happen in the state has no next one. -/
def step (s : State) : Event → Option State
  | .sendMessage agentId prompt runId messageId timestamp =>
      if s.unused runId then
        some (s.enqueue (.admitRun (newRun agentId prompt runId timestamp) messageId))
      else none
  | .startAgent id => some (s.enqueue (.start id))
  | .stopAgent id => some (s.cancel id .stop)
  | .deleteAgent id => some (s.cancel id .delete)
  | .commit now =>
      match s.queue with
      | [] => none
      | pending :: rest => some ({ s with queue := rest }.commitHead now pending)
  | .resume index now messageId =>
      withTask s index fun s task => s.resumeTask now messageId task
  | .runnerSettled index outcome =>
      withTask s index fun s task =>
        match task with
        | .executing agentAtStart run => some (s.spawn (.executed agentAtStart run outcome))
        | _ => none
  | .cancelSettled index ok =>
      withTask s index fun s task =>
        match task with
        | .cancelling id purpose =>
            some (if ok then s.spawn (.cancelled id purpose) else s.release id)
        | _ => none
  | .archiveSettled index ok =>
      withTask s index fun s task =>
        match task with
        | .archiving id => some (if ok then s.spawn (.archived id) else s)
        | _ => none
/-! ## Runs under way -/

/-- A Run under way, with its Agent; `inserted` once the store holds it. -/
structure Claim where
  agentId : String
  run : AgentRun
  inserted : Bool

/-- The Run under way behind a waiting mutation. -/
def Pending.claim? : Pending → Option Claim
  | .admitRun run _ => some ⟨run.agentId, run, false⟩
  | .markRunning agentAtStart run | .complete agentAtStart run _ _ _
  | .fail agentAtStart run _ _ _ => some ⟨agentAtStart.id, run, true⟩
  | .start _ | .stop _ | .delete _ => none

/-- The Run under way behind a task. -/
def Task.claim? : Task → Option Claim
  | .admitted agentAtStart run | .started agentAtStart run | .executing agentAtStart run
  | .executed agentAtStart run _ => some ⟨agentAtStart.id, run, true⟩
  | _ => none

/-- All Runs under way, those of the tasks first. -/
def State.claims (s : State) : List Claim :=
  s.tasks.filterMap Task.claim? ++ s.queue.filterMap Pending.claim?

theorem runs_eq_claims (s : State) : s.runs = s.claims.map Claim.run := by
  have htask : ∀ t : Task, t.run? = t.claim?.map Claim.run := by
    intro t
    cases t <;> rfl
  have hpending : ∀ p : Pending, p.run? = p.claim?.map Claim.run := by
    intro p
    cases p <;> rfl
  simp only [State.runs, State.claims, List.map_append, List.map_filterMap, funext htask,
    funext hpending]

/-- What the store holds of a Run under way. Before its admission the Run is not
in the store; from then on it is there, active and under its Agent, unless the
Agent has been deleted. -/
def Held (database : Database) (c : Claim) : Prop :=
  if c.inserted then
    (∀ r ∈ database.runs, r.id = c.run.id → r.active = true ∧ r.agentId = c.agentId) ∧
      (database.findAgent c.agentId ≠ none → database.findRun c.run.id ≠ none)
  else c.run.active = true ∧ c.run.agentId = c.agentId ∧ ∀ r ∈ database.runs, r.id ≠ c.run.id
/-- The Runs under way are different ones, and the store holds them as `Held` says. -/
structure Owned (s : State) : Prop where
  distinct : (s.claims.map fun c => c.run.id).Nodup
  held : ∀ c ∈ s.claims, Held s.database c

/-! ### What the mutations keep -/

section Mutations

variable {database : Database} {id : String} {c : Claim}

/-- A change of an Agent leaves what is held of the Runs. -/
theorem held_setAgent {f : Agent → Agent} (hf : ∀ a, (f a).id = a.id) (h : Held database c) :
    Held (database.setAgent id f) c := by
  unfold Held at h ⊢
  split
  · rename_i hinserted
    rw [if_pos hinserted] at h
    refine ⟨h.1, fun hagent => h.2 fun hnone => ?_⟩
    exact hagent ((findAgent_setAgent_none hf).mpr hnone)
  · rename_i hinserted
    rwa [if_neg hinserted] at h

/-- A change of a Run leaves what is held of the others. -/
theorem held_setRun {f : AgentRun → AgentRun} (hf : ∀ r, (f r).id = r.id) (hne : c.run.id ≠ id)
    (h : Held database c) : Held (database.setRun id f) c := by
  have hmem : ∀ r ∈ (database.setRun id f).runs, r.id = c.run.id → r ∈ database.runs := by
    intro r hr hid
    rcases mem_modifyFirst hr with hold | ⟨old, hfound, rfl⟩
    · exact hold
    · have hold := List.find?_some hfound
      rw [hf] at hid
      exact absurd (hid.symm.trans (of_decide_eq_true hold)) hne
  have hfind : (database.setRun id f).findRun c.run.id = database.findRun c.run.id :=
    find?_modifyFirst_ne hf hne
  unfold Held at h ⊢
  split
  · rename_i hinserted
    rw [if_pos hinserted] at h
    refine ⟨fun r hr hid => h.1 r (hmem r hr hid) hid, fun hagent => ?_⟩
    rw [hfind]
    exact h.2 hagent
  · rename_i hinserted
    rw [if_neg hinserted] at h
    exact ⟨h.1, h.2.1, fun r hr hid => h.2.2 r (hmem r hr hid) hid⟩

/-- A Run that is added leaves what is held of the others. -/
theorem held_addRun {run : AgentRun} {messages : List Message} (hne : c.run.id ≠ run.id)
    (h : Held database c) :
    Held { database with runs := database.runs ++ [run], messages } c := by
  have hmem : ∀ r ∈ database.runs ++ [run], r.id = c.run.id → r ∈ database.runs := by
    intro r hr hid
    rcases List.mem_append.mp hr with hold | hnew
    · exact hold
    · rw [List.mem_singleton.mp hnew] at hid
      exact absurd hid.symm hne
  unfold Held at h ⊢
  split
  · rename_i hinserted
    rw [if_pos hinserted] at h
    refine ⟨fun r hr hid => h.1 r (hmem r hr hid) hid, fun hagent hnone => h.2 hagent ?_⟩
    rw [Database.findRun, List.find?_eq_none] at hnone ⊢
    exact fun r hr => hnone r (List.mem_append_left _ hr)
  · rename_i hinserted
    rw [if_neg hinserted] at h
    exact ⟨h.1, h.2.1, fun r hr hid => h.2.2 r (hmem r hr hid) hid⟩

theorem held_deleteRecords (h : Held database c) : Held (deleteRecords database id) c := by
  unfold Held at h ⊢
  split
  · rename_i hinserted
    rw [if_pos hinserted] at h
    refine ⟨fun r hr hid => h.1 r (List.mem_of_mem_filter hr) hid, fun hagent => ?_⟩
    -- the Agent is left, so it is another one, and so is the Agent of the Run
    obtain ⟨agent, hfound⟩ := Option.ne_none_iff_exists'.mp hagent
    obtain ⟨hkept, hid⟩ := findAgent_eq_some hfound
    have hother : c.agentId ≠ id := hid ▸ of_decide_eq_true (List.mem_filter.mp hkept).2
    have hagent' : database.findAgent c.agentId ≠ none := by
      intro hnone
      rw [Database.findAgent, deleteRecords, find?_filter_eq_none hnone] at hfound
      exact absurd hfound (by simp)
    obtain ⟨run, hrun⟩ := Option.ne_none_iff_exists'.mp (h.2 hagent')
    have hrunAgent := (h.1 run (findRun_eq_some hrun).1 (findRun_eq_some hrun).2).2
    have hleft := find?_filter_of_pos (q := fun r : AgentRun => r.agentId ≠ id) hrun
      (by rw [hrunAgent]; exact decide_eq_true hother)
    rw [Database.findRun, deleteRecords, hleft]
    exact Option.some_ne_none run
  · rename_i hinserted
    rw [if_neg hinserted] at h
    exact ⟨h.1, h.2.1, fun r hr => h.2.2 r (List.mem_of_mem_filter hr)⟩

theorem held_markRunning {now : String} (h : Held database c) (hinserted : c.inserted = true) :
    Held (markRunning database c.run.id now) c := by
  rw [Held, if_pos hinserted] at h ⊢
  refine ⟨fun r hr hid => ?_, fun hagent => ?_⟩
  · rcases mem_modifyFirst hr with hold | ⟨old, hfound, rfl⟩
    · exact h.1 r hold hid
    · obtain ⟨hold, holdId⟩ := findRun_eq_some hfound
      exact ⟨rfl, (h.1 old hold holdId).2⟩
  · have hfind : (markRunning database c.run.id now).findRun c.run.id = _ :=
      find?_modifyFirst_self fun _ => rfl
    rw [hfind]
    intro hnone
    exact h.2 hagent (Option.map_eq_none_iff.mp hnone)

theorem held_admit {run : AgentRun} {messageId : String} {left : Database} {agentAtStart : Agent}
    (hadmitted : admitRun database run messageId = .ok (left, agentAtStart))
    (hne : c.run.id ≠ run.id) (h : Held database c) : Held left c := by
  obtain ⟨-, -, -, messages, f, hf, rfl⟩ := admit_eq_ok hadmitted
  exact held_setAgent (fun a => (hf a).1) (held_addRun hne h)

/-- The admitted Run is in the store. -/
theorem held_admitted {run : AgentRun} {messageId : String} {left : Database}
    {agentAtStart : Agent} (hadmitted : admitRun database run messageId = .ok (left, agentAtStart))
    (h : Held database ⟨run.agentId, run, false⟩) : Held left ⟨agentAtStart.id, run, true⟩ := by
  obtain ⟨hagent, -, -, messages, f, -, rfl⟩ := admit_eq_ok hadmitted
  have hid := (findAgent_eq_some hagent).2
  simp only [Held, Bool.false_eq_true, if_false] at h
  obtain ⟨hactive, -, hfresh⟩ := h
  simp only [Held, if_true]
  refine ⟨fun r hr hrun => ?_, fun _ hnone => ?_⟩
  · rcases List.mem_append.mp hr with hold | hnew
    · exact absurd hrun (hfresh r hold)
    · rw [List.mem_singleton.mp hnew, hid]
      exact ⟨hactive, rfl⟩
  · rw [Database.findRun, List.find?_eq_none] at hnone
    exact hnone run (List.mem_append_right _ (List.mem_singleton_self run)) (by simp)

end Mutations

/-! ## Steps -/

section Steps

variable {s t : State} {e : Event}

/-- The claims of a state without a task, with those of the task. -/
theorem claims_eraseIdx {index : Nat} {task : Task} (h : s.tasks[index]? = some task) :
    s.claims.Perm (task.claim?.toList ++
      State.claims { s with tasks := s.tasks.eraseIdx index }) := by
  have hperm := (perm_cons_eraseIdx h).filterMap Task.claim?
  rw [State.claims, State.claims, ← List.append_assoc]
  refine List.Perm.append_right _ (hperm.trans ?_)
  rw [List.filterMap_cons]
  cases task.claim? <;> exact List.Perm.refl _

theorem claims_enqueue (s : State) (pending : Pending) :
    (s.enqueue pending).claims.Perm (pending.claim?.toList ++ s.claims) := by
  have heq : (s.enqueue pending).claims = s.claims ++ pending.claim?.toList := by
    simp only [State.claims, State.enqueue, List.filterMap_append, List.append_assoc]
    cases hp : pending.claim? <;> simp [hp]
  rw [heq]
  exact List.perm_append_comm

theorem claims_spawn (s : State) (task : Task) :
    (s.spawn task).claims.Perm (task.claim?.toList ++ s.claims) := by
  have heq : (s.spawn task).claims =
      s.tasks.filterMap Task.claim? ++ task.claim?.toList ++ s.queue.filterMap Pending.claim? := by
    simp only [State.claims, State.spawn, List.filterMap_append]
    cases hp : task.claim? <;> simp [hp]
  rw [heq, State.claims, ← List.append_assoc]
  exact List.Perm.append_right _ List.perm_append_comm

/-- The store is left alone, and so are the claims: that of a task goes on. -/
def GoesOn (s : State) (claim : Option Claim) (t : State) : Prop :=
  t.database = s.database ∧ (claim.toList ++ s.claims).Perm t.claims

theorem goesOn_enqueue (s : State) {pending : Pending} {claim : Option Claim}
    (h : pending.claim? = claim) : GoesOn s claim (s.enqueue pending) :=
  ⟨rfl, h ▸ (claims_enqueue s pending).symm⟩

theorem goesOn_spawn (s : State) {task : Task} {claim : Option Claim} (h : task.claim? = claim) :
    GoesOn s claim (s.spawn task) :=
  ⟨rfl, h ▸ (claims_spawn s task).symm⟩

theorem goesOn_resumeTask {task : Task} {now messageId : String}
    (h : s.resumeTask now messageId task = some t) : GoesOn s task.claim? t := by
  cases task with
  | admitted agentAtStart run =>
    obtain rfl := Option.some.inj h
    exact goesOn_enqueue { s with activeExecutions := _ } rfl
  | started agentAtStart run =>
    simp only [State.resumeTask] at h
    split_ifs at h
    · exact Option.some.inj h ▸ goesOn_enqueue s rfl
    · exact Option.some.inj h ▸ goesOn_spawn s rfl
  | executed agentAtStart run outcome =>
    cases outcome with
    | result result =>
      simp only [State.resumeTask] at h
      split_ifs at h
      · exact Option.some.inj h ▸ goesOn_enqueue s rfl
      · exact Option.some.inj h ▸ goesOn_enqueue s rfl
    | error cancelled message => exact Option.some.inj h ▸ goesOn_enqueue s rfl
  | settled agentId runId =>
    obtain rfl := Option.some.inj h
    exact ⟨rfl, List.Perm.refl _⟩
  | cancelled id purpose =>
    simp only [State.resumeTask] at h
    split at h
    · exact Option.some.inj h ▸ goesOn_spawn (s.release id) rfl
    · exact Option.some.inj h ▸ goesOn_spawn s rfl
  | awaiting id purpose runId =>
    simp only [State.resumeTask] at h
    split_ifs at h
    exact Option.some.inj h ▸ goesOn_spawn (s.release id) rfl
  | released id purpose =>
    cases purpose with
    | stop => exact Option.some.inj h ▸ goesOn_enqueue s rfl
    | delete => exact Option.some.inj h ▸ goesOn_spawn s rfl
  | archived id => exact Option.some.inj h ▸ goesOn_enqueue s rfl
  | executing _ _ | cancelling _ _ | archiving _ => exact absurd h (by simp [State.resumeTask])

theorem goesOn_withTask {index : Nat} {next : State → Task → Option State}
    (hnext : ∀ u task, next u task = some t → GoesOn u task.claim? t)
    (h : withTask s index next = some t) : GoesOn s none t := by
  obtain ⟨task, htask, h⟩ := Option.bind_eq_some_iff.mp h
  obtain ⟨hdatabase, hclaims⟩ := hnext _ task h
  exact ⟨hdatabase, (claims_eraseIdx htask).trans hclaims⟩

/-- A step is a mutation, a new message, or leaves the store and the claims alone. -/
theorem step_cases (h : step s e = some t) :
    (∃ now pending rest, e = .commit now ∧ s.queue = pending :: rest ∧
      t = State.commitHead { s with queue := rest } now pending) ∨
    (∃ agentId prompt runId messageId timestamp,
      e = .sendMessage agentId prompt runId messageId timestamp ∧ s.unused runId ∧
      t = s.enqueue (.admitRun (newRun agentId prompt runId timestamp) messageId)) ∨
    GoesOn s none t := by
  cases e with
  | sendMessage agentId prompt runId messageId timestamp =>
    simp only [step, Option.ite_none_right_eq_some, Option.some.injEq] at h
    exact .inr (.inl ⟨agentId, prompt, runId, messageId, timestamp, rfl, h.1, h.2.symm⟩)
  | startAgent id => exact .inr (.inr (Option.some.inj h ▸ goesOn_enqueue s rfl))
  | stopAgent id | deleteAgent id =>
    obtain rfl := Option.some.inj h
    unfold State.cancel
    split
    · exact .inr (.inr ⟨rfl, List.Perm.refl _⟩)
    · exact .inr (.inr (goesOn_spawn { s with cancellationRequests := _ } rfl))
  | commit now =>
    simp only [step] at h
    split at h
    · exact absurd h (by simp)
    · rename_i pending rest hqueue
      exact .inl ⟨now, pending, rest, rfl, hqueue, (Option.some.inj h).symm⟩
  | resume index now messageId =>
    exact .inr (.inr (goesOn_withTask (fun _ _ hnext => goesOn_resumeTask hnext) h))
  | runnerSettled index outcome =>
    simp only [step] at h
    refine .inr (.inr (goesOn_withTask (fun u task hnext => ?_) h))
    cases task <;> simp only [reduceCtorEq] at hnext
    exact Option.some.inj hnext ▸ goesOn_spawn u rfl
  | cancelSettled index ok | archiveSettled index ok =>
    simp only [step] at h
    refine .inr (.inr (goesOn_withTask (fun u task hnext => ?_) h))
    cases task <;> simp only [reduceCtorEq] at hnext
    obtain rfl := Option.some.inj hnext
    cases ok
    · exact ⟨rfl, List.Perm.refl _⟩
    · exact goesOn_spawn u rfl

/-- A step that is not a commit leaves the store alone. -/
theorem step_database (h : step s e = some t) :
    (∃ now pending rest, e = .commit now ∧ s.queue = pending :: rest ∧
      t = State.commitHead { s with queue := rest } now pending) ∨ t.database = s.database := by
  rcases step_cases h with hcommit | ⟨_, _, _, _, _, -, -, rfl⟩ | hsame
  · exact .inl hcommit
  · exact .inr rfl
  · exact .inr hsame.1

theorem claims_queue {pending : Pending} {rest : List Pending} (h : s.queue = pending :: rest) :
    s.claims.Perm (pending.claim?.toList ++ State.claims { s with queue := rest }) := by
  have heq : s.claims = s.tasks.filterMap Task.claim? ++
      (pending.claim?.toList ++ rest.filterMap Pending.claim?) := by
    rw [State.claims, h, List.filterMap_cons]
    cases pending.claim? <;> rfl
  rw [heq, State.claims]
  exact (List.perm_append_comm_assoc ..)

theorem Owned.of_parts {claims : List Claim} {database : Database}
    (hdatabase : t.database = database) (hclaims : t.claims.Perm claims)
    (hdistinct : (claims.map fun c => c.run.id).Nodup) (hheld : ∀ c ∈ claims, Held database c) :
    Owned t :=
  ⟨(hclaims.map fun c => c.run.id).nodup_iff.mpr hdistinct,
    fun c hc => hdatabase ▸ hheld c (hclaims.mem_iff.mp hc)⟩

/-- The head of the queue is held as the others are, and about another Run. -/
theorem Owned.queue {pending : Pending} {rest : List Pending} (hs : Owned s)
    (hqueue : s.queue = pending :: rest) :
    ((pending.claim?.toList ++ State.claims { s with queue := rest }).map
        fun c => c.run.id).Nodup ∧
      (∀ c ∈ pending.claim?.toList ++ State.claims { s with queue := rest }, Held s.database c) ∧
      ∀ own ∈ pending.claim?, ∀ c ∈ State.claims { s with queue := rest },
        c.run.id ≠ own.run.id := by
  have hclaims := claims_queue hqueue
  have hdistinct := (hclaims.map fun c => c.run.id).nodup_iff.mp hs.distinct
  refine ⟨hdistinct, fun c hc => hs.held c (hclaims.mem_iff.mpr hc), ?_⟩
  intro own hown c hc heq
  rw [Option.mem_def.mp hown] at hdistinct
  exact (List.nodup_cons.mp hdistinct).1 (List.mem_map.mpr ⟨c, hc, heq⟩)

theorem Owned.commitHead {pending : Pending} {rest : List Pending} {now : String} (hs : Owned s)
    (hqueue : s.queue = pending :: rest) :
    Owned (State.commitHead { s with queue := rest } now pending) := by
  obtain ⟨hdistinct, hheld, hother⟩ := hs.queue hqueue
  cases pending with
  | admitRun run messageId =>
    unfold State.commitHead
    dsimp only
    split
    · refine .of_parts rfl (List.Perm.refl _) (List.nodup_cons.mp hdistinct).2 ?_
      exact fun c hc => hheld c (List.mem_cons_of_mem _ hc)
    · rename_i left agentAtStart hadmitted
      have hown := hheld ⟨run.agentId, run, false⟩ List.mem_cons_self
      refine @Owned.of_parts _ _ left rfl (claims_spawn _ _) hdistinct ?_
      intro c hc
      rcases List.mem_cons.mp hc with rfl | hc
      · exact held_admitted hadmitted hown
      · exact held_admit hadmitted (hother _ rfl c hc) (hheld c (List.mem_cons_of_mem _ hc))
  | markRunning agentAtStart run =>
    have hown := hheld ⟨agentAtStart.id, run, true⟩ List.mem_cons_self
    refine .of_parts rfl (claims_spawn _ _) hdistinct ?_
    intro c hc
    rcases List.mem_cons.mp hc with rfl | hc
    · exact held_markRunning hown rfl
    · exact held_setRun (fun _ => rfl) (hother _ rfl c hc) (hheld c (List.mem_cons_of_mem _ hc))
  | complete agentAtStart run result completedAt messageId =>
    refine .of_parts rfl (claims_spawn _ _) (List.nodup_cons.mp hdistinct).2 ?_
    intro c hc
    have hold := hheld c (List.mem_cons_of_mem _ hc)
    show Held (complete s.database agentAtStart.id run.id result completedAt messageId) c
    unfold complete
    split
    · exact hold
    · exact held_setAgent (fun _ => rfl) (held_setRun (fun _ => rfl) (hother _ rfl c hc) hold)
  | fail agentAtStart run cancelled message completedAt =>
    refine .of_parts rfl (claims_spawn _ _) (List.nodup_cons.mp hdistinct).2 ?_
    intro c hc
    exact held_setAgent (fun _ => rfl) (held_setRun (fun _ => rfl) (hother _ rfl c hc)
      (hheld c (List.mem_cons_of_mem _ hc)))
  | start id | stop id =>
    unfold State.commitHead
    dsimp only
    split
    · exact .of_parts rfl (List.Perm.refl _) hdistinct hheld
    · rename_i left changed hset
      obtain ⟨agent, -, -, f, hf, rfl⟩ := setStatus_eq_ok hset
      exact .of_parts rfl (List.Perm.refl _) hdistinct
        fun c hc => held_setAgent (fun a => (hf a).1) (hheld c hc)
  | delete id =>
    exact .of_parts rfl (List.Perm.refl _) hdistinct fun c hc => held_deleteRecords (hheld c hc)

theorem Owned.step (hs : Owned s) (h : step s e = some t) : Owned t := by
  rcases step_cases h with ⟨now, pending, rest, -, hqueue, rfl⟩ |
    ⟨agentId, prompt, runId, messageId, timestamp, -, hunused, rfl⟩ | ⟨hdatabase, hclaims⟩
  · exact hs.commitHead hqueue
  · refine .of_parts rfl (claims_enqueue s _) ?_ ?_
    · refine List.nodup_cons.mpr ⟨fun hmem => ?_, hs.distinct⟩
      obtain ⟨c, hc, hid⟩ := List.mem_map.mp hmem
      refine hunused.1 c.run ?_ hid
      rw [runs_eq_claims]
      exact List.mem_map_of_mem hc
    · intro c hc
      rcases List.mem_cons.mp hc with rfl | hc
      · simp only [Held, Bool.false_eq_true, if_false]
        exact ⟨rfl, trivial, hunused.2⟩
      · exact hs.held c hc
  · exact .of_parts hdatabase hclaims.symm hs.distinct hs.held

theorem owned_start (database : Database) : Owned (start database) :=
  ⟨List.nodup_nil, fun _ hc => absurd hc List.not_mem_nil⟩

end Steps

/-! ## A Run and a stopAgent -/

namespace AgentSample

def agent : Agent where
  id := "agent_1"
  name := js "Helper"
  description := []
  instructions := []
  status := .ready
  workspacePath := "/agents/agent_1"
  codexThreadId := none
  lastError := none
  createdAt := "t0"
  updatedAt := "t0"

def database : Database := ⟨[agent], [], []⟩

/-- A Run that has ended before the stopAgent. -/
def calm : List Event :=
  [.sendMessage "agent_1" (js "first") "run_1" "message_1" "t1", .commit "t2", .resume 0 "t3" "",
    .commit "t4", .resume 0 "t5" "", .runnerSettled 0 (.result ⟨js "done", none, none⟩),
    .resume 0 "t6" "message_2", .commit "t7", .resume 0 "t8" "", .stopAgent "agent_1",
    .cancelSettled 0 true, .resume 0 "t9" "", .resume 0 "t9" "", .commit "t10"]

theorem calm_runs : ((run step (start (initializeStore database "t0")) calm).any fun s =>
    (s.database.findAgent "agent_1").map Agent.status = some .stopped) = true := by
  decide +kernel

end AgentSample

end AgentService

end EpochGuard
