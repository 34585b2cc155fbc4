import EpochGuard.Lib.FirstMatch
import EpochGuard.Lib.Json

/-!
# The store of the Agents

The records of `types.ts` and the mutations that `agent-service.ts` makes of them.
A mutation is a function of the database; the ones that may refuse answer with an
`HttpError`. The service (`AgentService`) and the routes (`AgentRoutes`) are both over
this store.
-/

namespace EpochGuard

namespace AgentService

open Json Checked

/-! ## Records -/

/-- What an Agent is doing; only a ready Agent or one with an error takes
messages. -/
inductive AgentStatus where
  | ready | busy | stopped | error
deriving DecidableEq

/-- The states of a Run, the first two of them active. -/
inductive RunStatus where
  | queued | running | completed | failed | cancelled
deriving DecidableEq

/-- Who wrote a message. -/
inductive MessageRole where
  | user | assistant
deriving DecidableEq

/-- The tokens of a Run, as far as the Runner reported them. -/
structure RunUsage where
  inputTokens : Option Nat
  cachedInputTokens : Option Nat
  outputTokens : Option Nat
deriving DecidableEq

/-- An Agent with its profile, its workspace and the thread that its next Run
continues. -/
structure Agent where
  id : String
  name : JsString
  description : JsString
  instructions : JsString
  status : AgentStatus
  workspacePath : String
  codexThreadId : Option JsString
  lastError : Option JsString
  createdAt : String
  updatedAt : String
deriving DecidableEq

/-- A Run of an Agent: the prompt, the state that the Run is in, and with which
output, error and usage it ended. -/
structure AgentRun where
  id : String
  agentId : String
  status : RunStatus
  prompt : JsString
  output : Option JsString
  error : Option JsString
  usage : Option RunUsage
  threadId : Option JsString
  startedAt : Option String
  completedAt : Option String
  createdAt : String
deriving DecidableEq

/-- A message of a conversation, by the Run that it belongs to. -/
structure Message where
  id : String
  agentId : String
  runId : String
  role : MessageRole
  content : JsString
  createdAt : String
deriving DecidableEq

/-- All that the server stores of Agents, as one file holds it. -/
structure Database where
  agents : List Agent
  messages : List Message
  runs : List AgentRun
deriving DecidableEq

/-- An error that the service answers to a request, with its status code. -/
structure HttpError where
  statusCode : Nat
  message : String
deriving DecidableEq

/-- What a Run of the Runner returns when it succeeds. -/
structure RunnerResult where
  output : JsString
  threadId : Option JsString
  usage : Option RunUsage
deriving DecidableEq

/-- What the Runner answers; an error may be a cancellation. -/
inductive RunnerOutcome where
  | result (result : RunnerResult)
  | error (cancelled : Bool) (message : JsString)
deriving DecidableEq

namespace Database

/-- The Agent with an identifier. -/
def findAgent (database : Database) (id : String) : Option Agent :=
  database.agents.find? fun a => a.id = id

/-- The Run with an identifier. -/
def findRun (database : Database) (id : String) : Option AgentRun :=
  database.runs.find? fun r => r.id = id

/-- The database with the Agent of an identifier changed in place. -/
def setAgent (database : Database) (id : String) (f : Agent → Agent) : Database :=
  { database with agents := modifyFirst (fun a => a.id = id) f database.agents }

/-- The database with the Run of an identifier changed in place. -/
def setRun (database : Database) (id : String) (f : AgentRun → AgentRun) : Database :=
  { database with runs := modifyFirst (fun r => r.id = id) f database.runs }

end Database

/-- The Run waits or is at work. -/
def AgentRun.active (run : AgentRun) : Bool := run.status = .queued || run.status = .running

/-! ## Mutations -/

/-- The error of a request for an Agent that is not stored. -/
def agentNotFound : HttpError := ⟨404, "Agent not found"⟩

/-- `initialize`: Runs and Agents that were active when the server stopped. The
service has no execution of them any more, so they are cancelled and ready. -/
def initializeStore (database : Database) (now : String) : Database :=
  { database with
    runs := database.runs.map fun run =>
      if run.active then
        { run with status := .cancelled
                   error := some (js "Server restarted while this run was active")
                   completedAt := some now }
      else run
    agents := database.agents.map fun agent =>
      if agent.status = .busy then { agent with status := .ready, updatedAt := now } else agent }

/-- The Run that `sendMessage` makes of a prompt, queued and with nothing known
of its execution yet. -/
def newRun (agentId : String) (prompt : JsString) (runId timestamp : String) : AgentRun where
  id := runId
  agentId
  status := .queued
  prompt
  output := none
  error := none
  usage := none
  threadId := none
  startedAt := none
  completedAt := none
  createdAt := timestamp

/-- The mutation of `sendMessage`, with the Agent as it was before. It is the only
one that makes an Agent busy, and it refuses an Agent that is. -/
def admitRun (database : Database) (run : AgentRun) (messageId : String) :
    Except HttpError (Database × Agent) :=
  match database.findAgent run.agentId with
  | none => .error agentNotFound
  | some storedAgent =>
      if storedAgent.status = .stopped then
        .error ⟨409, "Start the Agent before sending a message"⟩
      else if storedAgent.status = .busy then .error ⟨409, "This Agent is already running"⟩
      else
        let message : Message :=
          { id := messageId, agentId := run.agentId, runId := run.id, role := .user
            content := run.prompt, createdAt := run.createdAt }
        let added := { database with
          runs := database.runs ++ [run], messages := database.messages ++ [message] }
        .ok (added.setAgent run.agentId fun agent =>
          { agent with status := .busy, lastError := none, updatedAt := run.createdAt },
          storedAgent)

/-- `executeRun` before the Runner is called. -/
def markRunning (database : Database) (runId now : String) : Database :=
  database.setRun runId fun run => { run with status := .running, startedAt := some now }

/-- `executeRun` after the Runner has finished. Where a deleteAgent has removed the Run
or the Agent in the meantime, nothing is stored. -/
def complete (database : Database) (agentId runId : String) (result : RunnerResult)
    (completedAt messageId : String) : Database :=
  if (database.findRun runId).isNone ∨ (database.findAgent agentId).isNone then database
  else
    let completed := database.setRun runId fun run =>
      { run with status := .completed, output := some result.output, usage := result.usage
                 threadId := result.threadId, completedAt := some completedAt }
    let message : Message :=
      { id := messageId, agentId, runId, role := .assistant, content := result.output
        createdAt := completedAt }
    { completed with messages := completed.messages ++ [message] }.setAgent agentId fun agent =>
      { agent with status := .ready, codexThreadId := result.threadId, lastError := none
                   updatedAt := completedAt }

/-- `executeRun` after a failure. An Agent that was stopped in the meantime stays
stopped. -/
def fail (database : Database) (agentId runId : String) (cancelled : Bool)
    (message : JsString) (completedAt : String) : Database :=
  (database.setRun runId fun run =>
    { run with status := if cancelled then .cancelled else .failed
               error := some message, threadId := none
               completedAt := some completedAt }).setAgent agentId fun agent =>
    { agent with
      status := if agent.status = .stopped then .stopped else if cancelled then .ready else .error
      lastError := if cancelled then none else some message
      updatedAt := completedAt }

/-- `setStatus`, with the Agent that it answers. A stop is never refused: it is
`cancelExecution` that sees to it that nothing runs. -/
def setStatus (database : Database) (id : String) (status : AgentStatus) (now : String) :
    Except HttpError (Database × Agent) :=
  match database.findAgent id with
  | none => .error agentNotFound
  | some agent =>
      if status = .ready ∧ agent.status = .busy then
        .error ⟨409, "Stop the active run before starting this Agent"⟩
      else
        let change (agent : Agent) : Agent :=
          { agent with status, lastError := if status = .ready then none else agent.lastError
                       updatedAt := now }
        .ok (database.setAgent id change, change agent)

/-- Everything of an Agent is removed: its record, its messages and its Runs. -/
def deleteRecords (database : Database) (id : String) : Database where
  agents := database.agents.filter fun a => a.id ≠ id
  messages := database.messages.filter fun m => m.agentId ≠ id
  runs := database.runs.filter fun r => r.agentId ≠ id

/-! ## What is found after a mutation -/

section Found

variable {database : Database} {id : String}

theorem findAgent_eq_some {agent : Agent} (h : database.findAgent id = some agent) :
    agent ∈ database.agents ∧ agent.id = id :=
  ⟨List.mem_of_find?_eq_some h, by simpa using List.find?_some h⟩

theorem findRun_eq_some {run : AgentRun} (h : database.findRun id = some run) :
    run ∈ database.runs ∧ run.id = id :=
  ⟨List.mem_of_find?_eq_some h, by simpa using List.find?_some h⟩

theorem findAgent_setAgent_self {f : Agent → Agent} (hf : ∀ a, (f a).id = a.id) :
    (database.setAgent id f).findAgent id = (database.findAgent id).map f :=
  find?_modifyFirst_self hf

theorem findAgent_setAgent_ne {f : Agent → Agent} (hf : ∀ a, (f a).id = a.id) {other : String}
    (h : other ≠ id) : (database.setAgent id f).findAgent other = database.findAgent other :=
  find?_modifyFirst_ne hf h

theorem findAgent_setAgent_none {f : Agent → Agent} (hf : ∀ a, (f a).id = a.id) {other : String} :
    (database.setAgent id f).findAgent other = none ↔ database.findAgent other = none := by
  by_cases h : other = id
  · rw [h, findAgent_setAgent_self hf, Option.map_eq_none_iff]
  · rw [findAgent_setAgent_ne hf h]

theorem findAgent_deleteRecords_self : (deleteRecords database id).findAgent id = none := by
  rw [Database.findAgent, List.find?_eq_none]
  intro a ha
  have hkept := of_decide_eq_true (List.mem_filter.mp ha).2
  simpa using hkept

/-- Deleting the records of an Agent leaves the other Agents. -/
theorem findAgent_deleteRecords_ne {other : String} (h : other ≠ id) :
    (deleteRecords database id).findAgent other = database.findAgent other := by
  cases hfound : database.findAgent other with
  | none => exact find?_filter_eq_none hfound
  | some agent =>
    refine find?_filter_of_pos hfound ?_
    rw [(findAgent_eq_some hfound).2]
    exact decide_eq_true h

/-- What admitting a Run has checked, and what it leaves. -/
theorem admit_eq_ok {run : AgentRun} {messageId : String} {left : Database} {agentAtStart : Agent}
    (h : admitRun database run messageId = .ok (left, agentAtStart)) :
    database.findAgent run.agentId = some agentAtStart ∧ agentAtStart.status ≠ .stopped ∧
      agentAtStart.status ≠ .busy ∧ ∃ messages, ∃ f : Agent → Agent,
        (∀ a, (f a).id = a.id ∧ (f a).status = .busy) ∧
        left =
          { database with runs := database.runs ++ [run], messages }.setAgent run.agentId f := by
  unfold admitRun at h
  split at h
  · exact absurd h (by simp)
  rename_i agent hagent
  split_ifs at h with hstopped hbusy
  obtain ⟨rfl, rfl⟩ := Prod.mk.inj (Except.ok.inj h)
  refine ⟨hagent, hstopped, hbusy, _, _, ?_, rfl⟩
  exact fun _ => ⟨rfl, rfl⟩

theorem setStatus_eq_ok {status : AgentStatus} {now : String} {left : Database} {changed : Agent}
    (h : setStatus database id status now = .ok (left, changed)) :
    ∃ agent, database.findAgent id = some agent ∧
      ¬(status = .ready ∧ agent.status = .busy) ∧ ∃ f : Agent → Agent,
        (∀ a, (f a).id = a.id ∧ (f a).status = status) ∧ left = database.setAgent id f := by
  unfold setStatus at h
  split at h
  · exact absurd h (by simp)
  rename_i agent hagent
  split at h
  · exact absurd h (by simp)
  · rename_i hbusy
    obtain ⟨rfl, -⟩ := Prod.mk.inj (Except.ok.inj h)
    refine ⟨agent, hagent, hbusy, _, ?_, rfl⟩
    exact fun _ => ⟨rfl, rfl⟩

end Found

end AgentService

end EpochGuard
