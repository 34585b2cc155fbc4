import EpochGuard.AgentService
import EpochGuard.DecisionParser
import EpochGuard.Lib.Programs

/-!
# The routes of the Agents

The Agent routes of `app.ts` over `agent-service.ts`: the mutations of `AgentStore`
with the two that `AgentService` leaves out, which create Agents and edit their names,
descriptions and instructions. The three Agents of the roles are protected from the
routes. Each request is a program over the store; the requests, the Runs and the
messages of the guard itself run at the same time.
-/

namespace EpochGuard

namespace AgentRoutes

open Json Checked Programs
open AgentService (Agent AgentRun AgentStatus Database HttpError Message RunnerOutcome
  RunnerResult)
open DecisionParser (trim)

/-! ## The store -/

/-- An error, as the error handler tells them apart. -/
inductive ApiError where
  | http (error : HttpError)
  | validation
  | internal (message : String)
deriving DecidableEq

/-- A change of the database, which may throw and may return an Agent. -/
abbrev Mutation := Database → Except ApiError (Database × Option Agent)

/-- A mutation that cannot refuse and answers nothing. -/
def always (change : Database → Database) : Mutation := fun database =>
  .ok (change database, none)

/-- A mutation that may refuse, with the Agent that it answers. -/
def answering (change : Database → Except HttpError (Database × Agent)) : Mutation :=
  fun database =>
    match change database with
    | .error error => .error (.http error)
    | .ok (next, agent) => .ok (next, some agent)

/-- `outside` is a call to the workspaces or to the Runner, `run` is a Run with the
checks around it, and `cancelled` asks whether its cancellation is requested. -/
inductive Operation where
  | snapshot
  | mutate (mutation : Mutation)
  | outside
  | run
  | cancelled

/-- What an operation answers to the program that asked for it. -/
inductive Answer where
  | database (database : Database)
  | returned (agent : Option Agent)
  | failed (error : ApiError)
  | done
  | outcome (outcome : RunnerOutcome)
  | flag (value : Bool)

/-- How an operation turns out. -/
inductive Luck where
  | works
  | fails (message : String)
  | outcome (outcome : RunnerOutcome)

/-- One operation of a program on the world outside. A mutation that throws, or
that cannot be written to the file, leaves the database as it was; calls to the
workspaces and the Runner change nothing that is stored. -/
def perform (luck : Luck) (operation : Operation) (database : Database) : Answer × Database :=
  match operation, luck with
  | .snapshot, _ => (.database database, database)
  | .mutate _, .fails message => (.failed (.internal message), database)
  | .mutate mutation, _ =>
      match mutation database with
      | .error error => (.failed error, database)
      | .ok (next, agent) => (.returned agent, next)
  | .outside, .fails message => (.failed (.internal message), database)
  | .outside, _ => (.done, database)
  | .run, .outcome outcome => (.outcome outcome, database)
  | .run, .fails message => (.outcome (.error false (js message)), database)
  | .run, .works => (.outcome (.error true AgentService.RUN_CANCELLED), database)
  | .cancelled, .works => (.flag false, database)
  | .cancelled, _ => (.flag true, database)

/-- A program of the server, which may throw an error. -/
abbrev Api := Action Operation Answer ApiError

/-- An answer of the wrong kind, which `perform` never gives. -/
def unexpected : ApiError := .internal ""

/-- Reads the database. -/
def snapshot : Api Database :=
  request .snapshot fun
    | .database database => .ok database
    | _ => .error unexpected

/-- Changes the database, or throws what the change throws. -/
def mutate (mutation : Mutation) : Api (Option Agent) :=
  request (.mutate mutation) fun
    | .returned agent => .ok agent
    | .failed error => .error error
    | _ => .error unexpected

/-- A call to the workspaces or to the Runner, which may fail. -/
def outside : Api Unit :=
  request .outside fun
    | .done => .ok ()
    | .failed error => .error error
    | _ => .error unexpected

/-- A Run of the Runner, with its outcome. -/
def runnerRun : Api RunnerOutcome :=
  request .run fun
    | .outcome outcome => .ok outcome
    | _ => .error unexpected

/-- Whether the cancellation of the Agent's Run is requested. -/
def cancellationRequested : Api Bool :=
  request .cancelled fun
    | .flag value => .ok value
    | _ => .error unexpected

/-! ## The service -/

/-- The body of a request to create an Agent. -/
structure CreateAgentInput where
  name : JsString
  description : Option JsString
  instructions : Option JsString

/-- The body of a request to edit an Agent; absent fields stay as they are. -/
structure UpdateAgentInput where
  name : Option JsString
  description : Option JsString
  instructions : Option JsString

/-- What a call draws: identifiers and the time. -/
structure Draw where
  agentId : String
  workspacePath : String
  runId : String
  messageId : String
  now : String

/-- The error of an edit of an Agent that is at work. -/
def stopBeforeEditing : ApiError :=
  .http ⟨409, "Stop the active run before editing this Agent"⟩

/-- The Agent with an identifier, or an error. -/
def getAgent (id : String) : Api Agent := do
  let database ← snapshot
  match database.findAgent id with
  | some agent => return agent
  | none => throw (.http AgentService.agentNotFound)

/-- The Agent that a request creates. -/
def newAgent (input : CreateAgentInput) (draw : Draw) : Agent where
  id := draw.agentId
  name := trim input.name
  description := (input.description.map trim).getD []
  instructions := (input.instructions.map trim).getD []
  status := .ready
  workspacePath := draw.workspacePath
  codexThreadId := none
  lastError := none
  createdAt := draw.now
  updatedAt := draw.now

/-- The mutation of `createAgent`. -/
def addAgent (agent : Agent) : Mutation :=
  always fun database => { database with agents := database.agents ++ [agent] }

/-- A new Agent is stored after its workspace has been made. -/
def createAgent (input : CreateAgentInput) (draw : Draw) : Api Agent := do
  let agent := newAgent input draw
  outside
  let _ ← mutate (addAgent agent)
  return agent

/-- The Agent with the fields of an edit. -/
def edited (input : UpdateAgentInput) (now : String) (agent : Agent) : Agent :=
  { agent with
    name := (input.name.map trim).getD agent.name
    description := (input.description.map trim).getD agent.description
    instructions := (input.instructions.map trim).getD agent.instructions
    lastError := none
    updatedAt := now }

/-- The mutation of `updateAgent`, which checks once more that the Agent is not
at work. -/
def editAgent (id : String) (input : UpdateAgentInput) (now : String) : Mutation := fun database =>
  match database.findAgent id with
  | none => .error (.http AgentService.agentNotFound)
  | some agent =>
      if agent.status = .busy then .error stopBeforeEditing
      else .ok (database.setAgent id (edited input now), some (edited input now agent))

/-- The edit of an Agent; its instructions are written after the store. -/
def updateAgent (id : String) (input : UpdateAgentInput) (draw : Draw) : Api (Option Agent) := do
  let current ← getAgent id
  demand (current.status ≠ .busy) stopBeforeEditing
  let updated ← mutate (editAgent id input draw.now)
  outside
  return updated

/-- The Run under way is cancelled and awaited, and the workspace is archived. -/
def deleteAgent (id : String) : Api Unit := do
  let _ ← getAgent id
  outside
  outside
  let _ ← mutate (always fun database => AgentService.deleteRecords database id)
  return ()

/-- The mutation behind `startAgent` and `stopAgent`. -/
def setStatus (id : String) (status : AgentStatus) (now : String) : Api (Option Agent) :=
  mutate (answering fun database => AgentService.setStatus database id status now)

/-- A stopped or failed Agent is made ready. -/
def startAgent (id : String) (draw : Draw) : Api (Option Agent) :=
  setStatus id .ready draw.now

/-- An Agent is stopped after its Run has been cancelled. -/
def stopAgent (id : String) (draw : Draw) : Api (Option Agent) := do
  let _ ← getAgent id
  outside
  setStatus id .stopped draw.now

/-- The execution of the Run that was admitted goes on by itself. -/
def sendMessage (arkConfigured : Bool) (agentId : String) (prompt : JsString) (draw : Draw) :
    Api (Option Agent) := do
  demand (arkConfigured = true)
    (.http ⟨503, "Ark is not configured. Set ARK_API_KEY and ARK_MODEL, then restart."⟩)
  let run := AgentService.newRun agentId prompt draw.runId draw.now
  mutate (answering fun database => AgentService.admitRun database run draw.messageId)

/-- The text that a failed Run keeps of an error. -/
def ApiError.message : ApiError → JsString
  | .http error => js error.message
  | .internal message => js message
  | .validation => []

/-- The execution of a Run. The Runner and the mutation that stores its result
are tried together, so that a failure to store the result is a failure of the
Run. -/
def executeRun (agentAtStart : Agent) (run : AgentRun) (draw : Draw) : Api Unit := do
  let _ ← mutate (always fun database => AgentService.markRunning database run.id draw.now)
  let failure ← tryCatch
    (do
      match ← runnerRun with
      | .result result => do
          let _ ← mutate (always fun database =>
            AgentService.complete database agentAtStart.id run.id result draw.now draw.messageId)
          return none
      | .error cancelled message => return some (cancelled, message))
    fun error => do
      let cancelled ← cancellationRequested
      return some (cancelled, error.message)
  match failure with
  | none => return ()
  | some (cancelled, message) => do
      let _ ← mutate (always fun database =>
        AgentService.fail database agentAtStart.id run.id cancelled message draw.now)
      return ()

/-! ## Bodies of requests -/

/-- A property that an object has. -/
def property? (key : String) : Value → Option Value
  | .obj entries => (entries.find? fun e => e.1 = js key).map Prod.snd
  | _ => none

/-- `z.string().max(limit)`, with the least length. -/
def parseString (atLeast atMost : Nat) (trimmed : Bool) : Value → Except ApiError JsString
  | .str s => do
      let text := if trimmed then trim s else s
      require (atLeast ≤ text.length ∧ text.length ≤ atMost) .validation
      return text
  | _ => .error .validation

/-- A text that the body may leave out. -/
def parseOptional (atMost : Nat) (key : String) (body : Value) :
    Except ApiError (Option JsString) :=
  match property? key body with
  | none => .ok none
  | some v => some <$> parseString 0 atMost false v

/-- The body is an object. -/
def parseObject : Value → Except ApiError Unit
  | .obj _ => .ok ()
  | _ => .error .validation

/-- `createAgentSchema` -/
def createAgentBody (body : Value) : Except ApiError CreateAgentInput := do
  parseObject body
  let name ← parseString 1 80 true (← orStop (property? "name" body) .validation)
  let description ← parseOptional 500 "description" body
  let instructions ← parseOptional 10000 "instructions" body
  return { name, description, instructions }

/-- `updateAgentSchema`, which asks for one field at least. -/
def updateAgentBody (body : Value) : Except ApiError UpdateAgentInput := do
  parseObject body
  let name ← match property? "name" body with
    | none => .ok none
    | some v => some <$> parseString 1 80 true v
  let description ← parseOptional 500 "description" body
  let instructions ← parseOptional 10000 "instructions" body
  require (name ≠ none ∨ description ≠ none ∨ instructions ≠ none) .validation
  return { name, description, instructions }

/-- `sendMessageSchema` -/
def messageBody (body : Value) : Except ApiError JsString := do
  parseObject body
  parseString 1 50000 true (← orStop (property? "content" body) .validation)

/-! ## The routes -/

/-- The names of the Agents of the roles. -/
def EPOCHGUARD_ROLE_AGENT_NAMES : List JsString :=
  [js "EpochGuard Inventory Agent", js "EpochGuard Budget Agent", js "EpochGuard Policy Agent"]

/-- No request may give an Agent the name of a role's Agent. -/
def assertNameIsNotReserved (name : Option JsString) : Api Unit :=
  demand (∀ n ∈ name, trim n ∉ EPOCHGUARD_ROLE_AGENT_NAMES)
    (.http ⟨403, "EpochGuard Role Agent identities are reserved"⟩)

/-- The one Agent with a name. -/
def resolveName (database : Database) (name : JsString) : Except String String :=
  match database.agents.filter fun a => a.name = name with
  | [agent] => .ok agent.id
  | _ => .error "Expected exactly one initialized"

/-- The Agents of the roles, when the server starts. -/
def resolveProtectedAgentIds (database : Database) : Except String (List String) := do
  let ids ← EPOCHGUARD_ROLE_AGENT_NAMES.mapM (resolveName database)
  require (ids.length = EPOCHGUARD_ROLE_AGENT_NAMES.length ∧ ids.Nodup)
    "EpochGuard requires exactly three unique protected Agent IDs"
  return ids

/-- The configuration that the routes read. -/
structure Config where
  authToken : JsString
  arkConfigured : Bool
  isUuid : String → Bool
  protectedAgentIds : List String

/-- The Agent routes, with their parameters and bodies. -/
inductive Route where
  | listAgents
  | createAgent (body : Value)
  | getAgent (id : String)
  | updateAgent (id : String) (body : Value)
  | deleteAgent (id : String)
  | startAgent (id : String)
  | stopAgent (id : String)
  | getMessages (id : String)
  | getRuns (id : String)
  | sendMessage (id : String) (body : Value)
  | getRun (id : String)

section

variable (config : Config)

/-- A check that the routes make before anything else. -/
def parsed {α : Type} (result : Except ApiError α) : Api α :=
  match result with
  | .ok a => return a
  | .error error => throw error

/-- The identifier in the path is a UUID. -/
def agentIdParams (id : String) : Api Unit := demand (config.isUuid id = true) .validation

/-- No request may change an Agent of the roles. -/
def assertAgentIsNotProtected (id : String) : Api Unit :=
  demand (id ∉ config.protectedAgentIds)
    (.http ⟨403, "EpochGuard Role Agents are managed by the safety control plane"⟩)

/-- `onRequest`: the header has to carry the token, if there is one. -/
def authenticate (authorization : JsString) : Api Unit :=
  let candidate := if (js "Bearer ").isPrefixOf authorization then authorization.drop 7 else []
  demand (config.authToken = [] ∨ candidate = config.authToken)
    (.http ⟨401, "Authentication required"⟩)

/-- The Run with an identifier, or an error. -/
def getRun (id : String) : Api AgentRun := do
  let database ← snapshot
  match database.findRun id with
  | some run => return run
  | none => throw (.http ⟨404, "Run not found"⟩)

/-- A route up to its answer: the identifier, the protection of the Agents of
the roles, the body, the name, and then the service. Each of these may refuse
the request, and in this order. -/
def handle (draw : Draw) : Route → Api Unit
  | .listAgents => do
      let _ ← snapshot
      return ()
  | .createAgent body => do
      let input ← parsed (createAgentBody body)
      assertNameIsNotReserved (some input.name)
      let _ ← createAgent input draw
      return ()
  | .getAgent id => do
      agentIdParams config id
      let _ ← getAgent id
      return ()
  | .updateAgent id body => do
      agentIdParams config id
      assertAgentIsNotProtected config id
      let input ← parsed (updateAgentBody body)
      assertNameIsNotReserved input.name
      let _ ← updateAgent id input draw
      return ()
  | .deleteAgent id => do
      agentIdParams config id
      assertAgentIsNotProtected config id
      deleteAgent id
  | .startAgent id => do
      agentIdParams config id
      assertAgentIsNotProtected config id
      let _ ← startAgent id draw
      return ()
  | .stopAgent id => do
      agentIdParams config id
      assertAgentIsNotProtected config id
      let _ ← stopAgent id draw
      return ()
  | .getMessages id | .getRuns id => do
      agentIdParams config id
      let _ ← getAgent id
      let _ ← snapshot
      return ()
  | .sendMessage id body => do
      agentIdParams config id
      assertAgentIsNotProtected config id
      let content ← parsed (messageBody body)
      let _ ← sendMessage config.arkConfigured id content draw
      return ()
  | .getRun id => do
      agentIdParams config id
      let _ ← getRun id
      return ()

/-- What runs on the server: requests, messages of the guard to an Agent, and the
Runs that both of them start. -/
inductive Task where
  | route (authorization : JsString) (route : Route) (draw : Draw)
  | dispatch (agentId : String) (prompt : JsString) (draw : Draw)
  | execution (agentAtStart : Agent) (run : AgentRun) (draw : Draw)

/-- What a task draws. -/
def Task.draw : Task → Draw
  | .route _ _ draw | .dispatch _ _ draw | .execution _ _ draw => draw

/-- What a task does; a route is authenticated first. -/
def Task.program : Task → Api Unit
  | .route authorization asked draw => do
      authenticate config authorization
      handle config draw asked
  | .dispatch agentId prompt draw => do
      let _ ← sendMessage config.arkConfigured agentId prompt draw
      return ()
  | .execution agentAtStart run draw => executeRun agentAtStart run draw

end

/-! ## What the protection keeps -/

/-- What the protection keeps of an Agent. -/
def profile (agent : Agent) : String × JsString × JsString × JsString :=
  (agent.id, agent.name, agent.description, agent.instructions)

/-- An Agent that is protected, or that has a name of one. -/
def reserved (ids : List String) (agent : Agent) : Bool :=
  agent.id ∈ ids ∨ agent.name ∈ EPOCHGUARD_ROLE_AGENT_NAMES

/-- The profiles of the Agents that nobody may change. -/
def reservedProfiles (ids : List String) (database : Database) :
    List (String × JsString × JsString × JsString) :=
  (database.agents.filter (reserved ids)).map profile

/-- Only protected Agents have the names. -/
def Closed (ids : List String) (database : Database) : Prop :=
  ∀ agent ∈ database.agents, agent.name ∈ EPOCHGUARD_ROLE_AGENT_NAMES → agent.id ∈ ids

/-- What a step may do to the Agents of the roles: they work, but they keep their
profiles and are not stopped, and only some messages start a Run of theirs. -/
structure Keeps (ids : List String) (allowed : String → String → JsString → Prop)
    (database next : Database) : Prop where
  profiles : reservedProfiles ids next = reservedProfiles ids database
  stopped : ∀ agent ∈ next.agents, agent.id ∈ ids → agent.status = .stopped →
    ∃ before ∈ database.agents, before.id = agent.id ∧ before.status = .stopped
  runs : ∀ run ∈ next.runs, run.agentId ∈ ids → allowed run.id run.agentId run.prompt ∨
    ∃ before ∈ database.runs, before.id = run.id ∧ before.agentId = run.agentId ∧
      before.prompt = run.prompt

section Kept

variable {ids : List String} {allowed : String → String → JsString → Prop}
  {database next last : Database} {id : String} {f : Agent → Agent}

theorem Keeps.refl (database : Database) : Keeps ids allowed database database where
  profiles := rfl
  stopped := fun agent hagent _ hstopped => ⟨agent, hagent, rfl, hstopped⟩
  runs := fun run hrun _ => .inr ⟨run, hrun, rfl, rfl, rfl⟩

theorem closed_iff : Closed ids database ↔ ∀ p ∈ reservedProfiles ids database, p.1 ∈ ids := by
  constructor
  · intro h p hp
    obtain ⟨agent, hagent, rfl⟩ := List.mem_map.mp hp
    obtain ⟨hmem, hreserved⟩ := List.mem_filter.mp hagent
    rcases of_decide_eq_true hreserved with hid | hname
    · exact hid
    · exact h agent hmem hname
  · intro h agent hagent hname
    refine h (profile agent) (List.mem_map.mpr ⟨agent, List.mem_filter.mpr ⟨hagent, ?_⟩, rfl⟩)
    exact decide_eq_true (.inr hname)

/-- An Agent under a reserved name is still a protected one. -/
theorem Keeps.closed (h : Keeps ids allowed database next) (hclosed : Closed ids database) :
    Closed ids next := by
  rw [closed_iff] at hclosed ⊢
  rwa [h.profiles]

/-- A change that a filtered list does not see. -/
theorem map_filter_modifyFirst {α β : Type} {p q : α → Bool} {f : α → α} {g : α → β} {l : List α}
    (hq : ∀ a ∈ l, p a = true → q (f a) = q a)
    (hg : ∀ a ∈ l, p a = true → q a = true → g (f a) = g a) :
    ((modifyFirst p f l).filter q).map g = (l.filter q).map g := by
  induction l with
  | nil => rfl
  | cons a rest ih =>
    have hrest := ih (fun b hb => hq b (List.mem_cons_of_mem _ hb))
      fun b hb => hg b (List.mem_cons_of_mem _ hb)
    by_cases hp : p a = true
    · simp only [modifyFirst, hp, if_true, List.filter_cons, hq a List.mem_cons_self hp]
      by_cases hqa : q a = true
      · simp [hqa, hg a List.mem_cons_self hp hqa]
      · simp [hqa]
    · simp only [modifyFirst, hp, Bool.false_eq_true, if_false, List.filter_cons]
      by_cases hqa : q a = true
      · simp [hqa, hrest]
      · simp [hqa, hrest]

theorem Keeps.trans (h : Keeps ids allowed database next) (h' : Keeps ids allowed next last) :
    Keeps ids allowed database last where
  profiles := h'.profiles.trans h.profiles
  stopped := by
    intro agent hagent hid hstatus
    obtain ⟨middle, hmiddle, hsame, hstopped⟩ := h'.stopped agent hagent hid hstatus
    obtain ⟨before, hbefore, hsame', hstopped'⟩ :=
      h.stopped middle hmiddle (hsame ▸ hid) hstopped
    exact ⟨before, hbefore, hsame'.trans hsame, hstopped'⟩
  runs := by
    intro run hrun hid
    rcases h'.runs run hrun hid with hallowed | ⟨middle, hmiddle, hrunId, hagent, hprompt⟩
    · exact .inl hallowed
    rcases h.runs middle hmiddle (hagent ▸ hid) with hallowed | ⟨before, hbefore, hsame⟩
    · exact .inl (hrunId ▸ hagent ▸ hprompt ▸ hallowed)
    · exact .inr ⟨before, hbefore, hsame.1.trans hrunId, hsame.2.1.trans hagent,
        hsame.2.2.trans hprompt⟩

/-- A change of an Agent that is no edit. -/
theorem keeps_setAgent (hprofile : ∀ a, profile (f a) = profile a)
    (hstopped : ∀ a : Agent, a.id = id → id ∈ ids → (f a).status = .stopped →
      a.status = .stopped) :
    Keeps ids allowed database (database.setAgent id f) where
  profiles := by
    have hfield : ∀ a, (f a).id = a.id ∧ (f a).name = a.name := by
      intro a
      have h := hprofile a
      simp only [profile, Prod.mk.injEq] at h
      exact ⟨h.1, h.2.1⟩
    apply map_filter_modifyFirst
    · intro a _ _
      simp only [reserved, (hfield a).1, (hfield a).2]
    · exact fun a _ _ _ => hprofile a
  stopped := by
    intro agent hagent hid hstatus
    rcases mem_modifyFirst hagent with hmem | ⟨a, ha, rfl⟩
    · exact ⟨agent, hmem, rfl, hstatus⟩
    · have hsame : (f a).id = a.id := (Prod.mk.inj (hprofile a)).1
      have haid : a.id = id := by simpa using List.find?_some ha
      refine ⟨a, List.mem_of_find?_eq_some ha, hsame.symm, hstopped a haid ?_ hstatus⟩
      rwa [hsame, haid] at hid
  runs := fun run hrun _ => .inr ⟨run, hrun, rfl, rfl, rfl⟩

/-- An edit of an Agent that is not protected. -/
theorem keeps_edit (hclosed : Closed ids database) (hid : id ∉ ids)
    (hsame : ∀ a, (f a).id = a.id)
    (hname : ∀ a, a.name ∉ EPOCHGUARD_ROLE_AGENT_NAMES →
      (f a).name ∉ EPOCHGUARD_ROLE_AGENT_NAMES) :
    Keeps ids allowed database (database.setAgent id f) where
  profiles := by
    have hneither : ∀ a ∈ database.agents, decide (a.id = id) = true → reserved ids a = false := by
      intro a ha haid
      have haid := of_decide_eq_true haid
      have hfree : a.name ∉ EPOCHGUARD_ROLE_AGENT_NAMES :=
        fun hreserved => hid (haid ▸ hclosed a ha hreserved)
      simp [reserved, haid, hid, hfree]
    have hboth : ∀ a ∈ database.agents, decide (a.id = id) = true →
        reserved ids (f a) = reserved ids a := by
      intro a ha haid
      rw [hneither a ha haid]
      have haid := of_decide_eq_true haid
      have hfree : a.name ∉ EPOCHGUARD_ROLE_AGENT_NAMES :=
        fun hreserved => hid (haid ▸ hclosed a ha hreserved)
      simp [reserved, hsame, haid, hid, hname a hfree]
    apply map_filter_modifyFirst hboth
    intro a ha haid hreserved
    rw [hneither a ha haid] at hreserved
    exact absurd hreserved (by simp)
  stopped := by
    intro agent hagent hprotected hstatus
    rcases mem_modifyFirst hagent with hmem | ⟨a, ha, rfl⟩
    · exact ⟨agent, hmem, rfl, hstatus⟩
    · have haid : a.id = id := by simpa using List.find?_some ha
      rw [hsame, haid] at hprotected
      exact absurd hprotected hid
  runs := fun run hrun _ => .inr ⟨run, hrun, rfl, rfl, rfl⟩

theorem keeps_setRun {g : AgentRun → AgentRun} {runId : String}
    (hg : ∀ r, (g r).id = r.id ∧ (g r).agentId = r.agentId ∧ (g r).prompt = r.prompt) :
    Keeps ids allowed database (database.setRun runId g) where
  profiles := rfl
  stopped := fun agent hagent _ hstopped => ⟨agent, hagent, rfl, hstopped⟩
  runs := by
    intro run hrun _
    rcases mem_modifyFirst hrun with hmem | ⟨r, hr, rfl⟩
    · exact .inr ⟨run, hmem, rfl, rfl, rfl⟩
    · obtain ⟨hid, hagent, hprompt⟩ := hg r
      exact .inr ⟨r, List.mem_of_find?_eq_some hr, hid.symm, hagent.symm, hprompt.symm⟩

theorem keeps_messages (messages : List Message) :
    Keeps ids allowed database { database with messages } where
  profiles := rfl
  stopped := fun agent hagent _ hstopped => ⟨agent, hagent, rfl, hstopped⟩
  runs := fun run hrun _ => .inr ⟨run, hrun, rfl, rfl, rfl⟩

/-! ### The mutations -/

/-- A new Agent has a free identifier and no reserved name. -/
theorem keeps_addAgent {agent : Agent} (hid : agent.id ∉ ids)
    (hname : agent.name ∉ EPOCHGUARD_ROLE_AGENT_NAMES) :
    Keeps ids allowed database { database with agents := database.agents ++ [agent] } := by
  constructor
  · simp [reservedProfiles, List.filter_append, reserved, hid, hname]
  · intro a ha haid hstopped
    rcases List.mem_append.mp ha with hmem | hnew
    · exact ⟨a, hmem, rfl, hstopped⟩
    · rw [List.mem_singleton.mp hnew] at haid
      exact absurd haid hid
  · exact fun run hrun _ => .inr ⟨run, hrun, rfl, rfl, rfl⟩

/-- An edit reaches no protected Agent and gives no reserved name. -/
theorem keeps_editAgent {input : UpdateAgentInput} {now : String} {result : Option Agent}
    (hclosed : Closed ids database) (hid : id ∉ ids)
    (hname : ∀ n ∈ input.name, trim n ∉ EPOCHGUARD_ROLE_AGENT_NAMES)
    (h : editAgent id input now database = .ok (next, result)) :
    Keeps ids allowed database next := by
  unfold editAgent at h
  split at h
  · exact absurd h (by simp)
  split at h
  · exact absurd h (by simp)
  obtain ⟨rfl, -⟩ := Prod.mk.inj (Except.ok.inj h)
  apply keeps_edit hclosed hid
  · exact fun _ => rfl
  intro a ha
  cases hinput : input.name with
  | none => simpa [edited, hinput] using ha
  | some n => simpa [edited, hinput] using hname n hinput

/-- Nothing of a protected Agent goes with the records of another one. -/
theorem keeps_deleteRecords (hclosed : Closed ids database) (hid : id ∉ ids) :
    Keeps ids allowed database (AgentService.deleteRecords database id) := by
  constructor
  · unfold reservedProfiles AgentService.deleteRecords
    rw [List.filter_filter]
    congr 1
    apply List.filter_congr
    intro a ha
    by_cases hreserved : reserved ids a = true
    · have haid : a.id ∈ ids := by
        rcases of_decide_eq_true hreserved with hprotected | hname
        · exact hprotected
        · exact hclosed a ha hname
      have hne : a.id ≠ id := fun heq => hid (heq ▸ haid)
      simp [hreserved, hne]
    · simp [hreserved]
  · exact fun a ha _ hstopped => ⟨a, List.mem_of_mem_filter ha, rfl, hstopped⟩
  · exact fun run hrun _ => .inr ⟨run, List.mem_of_mem_filter hrun, rfl, rfl, rfl⟩

theorem keeps_setStatus {status : AgentStatus} {now : String} {changed : Agent} (hid : id ∉ ids)
    (h : AgentService.setStatus database id status now = .ok (next, changed)) :
    Keeps ids allowed database next := by
  unfold AgentService.setStatus at h
  split at h
  · exact absurd h (by simp)
  split at h
  · exact absurd h (by simp)
  obtain ⟨rfl, -⟩ := Prod.mk.inj (Except.ok.inj h)
  exact keeps_setAgent (fun _ => rfl) fun _ _ hprotected => absurd hprotected hid

theorem keeps_admitRun {run : AgentRun} {messageId : String} {agentAtStart : Agent}
    (hrun : run.agentId ∈ ids → allowed run.id run.agentId run.prompt)
    (h : AgentService.admitRun database run messageId = .ok (next, agentAtStart)) :
    Keeps ids allowed database next := by
  unfold AgentService.admitRun at h
  split at h
  · exact absurd h (by simp)
  split at h
  · exact absurd h (by simp)
  split at h
  · exact absurd h (by simp)
  obtain ⟨rfl, -⟩ := Prod.mk.inj (Except.ok.inj h)
  refine Keeps.trans ?_
    (keeps_setAgent (fun _ => rfl) fun _ _ _ hstopped => absurd hstopped (by simp))
  refine ⟨rfl, fun agent hagent _ hstopped => ⟨agent, hagent, rfl, hstopped⟩, ?_⟩
  intro r hr hid
  rcases List.mem_append.mp hr with hmem | hnew
  · exact .inr ⟨r, hmem, rfl, rfl, rfl⟩
  · obtain rfl := List.mem_singleton.mp hnew
    exact .inl (hrun hid)

theorem keeps_markRunning {runId now : String} :
    Keeps ids allowed database (AgentService.markRunning database runId now) :=
  keeps_setRun fun _ => ⟨rfl, rfl, rfl⟩

/-- The end of a Run touches the status and the thread of its Agent, not the
profile. -/
theorem keeps_complete {agentId runId : String} {result : RunnerResult}
    {completedAt messageId : String} :
    Keeps ids allowed database
      (AgentService.complete database agentId runId result completedAt messageId) := by
  unfold AgentService.complete
  split
  · exact Keeps.refl _
  · refine Keeps.trans (Keeps.trans (keeps_setRun ?_) (keeps_messages _)) (keeps_setAgent ?_ ?_)
    · exact fun _ => ⟨rfl, rfl, rfl⟩
    · exact fun _ => rfl
    · exact fun _ _ _ hstopped => absurd hstopped (by simp)

theorem keeps_fail {agentId runId : String} {cancelled : Bool} {message : JsString}
    {now : String} :
    Keeps ids allowed database
      (AgentService.fail database agentId runId cancelled message now) := by
  refine Keeps.trans (keeps_setRun ?_) (keeps_setAgent ?_ ?_)
  · exact fun _ => ⟨rfl, rfl, rfl⟩
  · exact fun _ => rfl
  · intro a _ _ hstopped
    by_cases hwas : a.status = .stopped
    · exact hwas
    · simp only [hwas, if_false] at hstopped
      split at hstopped <;> exact absurd hstopped (by simp)

end Kept

/-! ## The programs -/

/-- What the others leave of the Agents of the roles. -/
def SameProfiles (ids : List String) (database next : Database) : Prop :=
  reservedProfiles ids next = reservedProfiles ids database

/-- Every step of an action keeps the Agents of the roles, whatever else runs. -/
def Safe {α : Type} (ids : List String) (allowed : String → String → JsString → Prop)
    (x : Api α) : Prop :=
  Triple perform (SameProfiles ids) (Keeps ids allowed) (Closed ids) x (fun _ => Closed ids)
    fun _ => Closed ids

section Programs

variable {ids : List String} {allowed : String → String → JsString → Prop} {α β : Type}
  {id : String}
  {draw : Draw} {config : Config}

/-- What others do to the profiles does not open the reserved names. -/
theorem stable_closed : Stable (SameProfiles ids) (Closed ids) := by
  intro database next hclosed hsame
  rw [closed_iff] at hclosed ⊢
  rwa [show reservedProfiles ids next = _ from hsame]

theorem safe_pure (a : α) : Safe ids allowed (Pure.pure a : Api α) := Triple.pure fun _ => id

theorem safe_throw (e : ApiError) : Safe ids allowed (throw e : Api α) :=
  Triple.throw fun _ => id

theorem safe_bind {x : Api α} {f : α → Api β} (hx : Safe ids allowed x)
    (hf : ∀ a, Safe ids allowed (f a)) : Safe ids allowed (x >>= f) := Triple.bind hx hf

/-- What is demanded holds of what follows. -/
theorem safe_demand {c : Prop} [Decidable c] {e : ApiError} {x : Api α}
    (hx : c → Safe ids allowed x) : Safe ids allowed (do demand c e; x) := by
  apply Triple.bind (M := fun _ database => c ∧ Closed ids database)
  · exact Triple.demand (fun hc _ hclosed => ⟨hc, hclosed⟩) fun _ _ => id
  · exact fun _ => Triple.assume hx

/-- An operation that does not change the database. -/
theorem safe_request {operation : Operation} {read : Answer → Except ApiError α}
    (hsame : ∀ luck database, (perform luck operation database).2 = database) :
    Safe ids allowed (request operation read) := by
  apply Triple.request (fun _ => stable_closed) (fun _ => stable_closed)
  · intro luck database _
    rw [hsame]
    exact Keeps.refl database
  · intro luck database hclosed
    rw [hsame]
    cases read (perform luck operation database).1 <;> exact hclosed

theorem safe_snapshot : Safe ids allowed snapshot := safe_request fun _ _ => rfl

theorem safe_outside : Safe ids allowed outside :=
  safe_request fun luck _ => by cases luck <;> rfl

theorem safe_runnerRun : Safe ids allowed runnerRun :=
  safe_request fun luck _ => by cases luck <;> rfl

theorem safe_cancellationRequested : Safe ids allowed cancellationRequested :=
  safe_request fun luck _ => by cases luck <;> rfl

/-- A mutation of the store is safe if its change is, from every store in which
the reserved names are closed. -/
theorem safe_mutate {mutation : Mutation}
    (h : ∀ database next result, Closed ids database → mutation database = .ok (next, result) →
      Keeps ids allowed database next) : Safe ids allowed (mutate mutation) := by
  have hkeeps : ∀ luck database, Closed ids database →
      Keeps ids allowed database (perform luck (.mutate mutation) database).2 := by
    intro luck database hclosed
    cases hout : mutation database with
    | error e => cases luck <;> simpa [perform, hout] using Keeps.refl database
    | ok out =>
      obtain ⟨next, result⟩ := out
      have hnext := h database next result hclosed hout
      cases luck with
      | fails => exact Keeps.refl database
      | works | outcome => simpa [perform, hout] using hnext
  apply Triple.request (fun _ => stable_closed) (fun _ => stable_closed) hkeeps
  intro luck database hclosed
  have hafter := (hkeeps luck database hclosed).closed hclosed
  split <;> exact hafter

theorem safe_always {change : Database → Database}
    (h : ∀ database, Closed ids database → Keeps ids allowed database (change database)) :
    Safe ids allowed (mutate (always change)) := by
  apply safe_mutate
  intro database next result hclosed hchange
  obtain ⟨rfl, -⟩ := Prod.mk.inj (Except.ok.inj hchange)
  exact h database hclosed

theorem safe_answering {change : Database → Except HttpError (Database × Agent)}
    (h : ∀ database next agent, change database = .ok (next, agent) →
      Keeps ids allowed database next) : Safe ids allowed (mutate (answering change)) := by
  apply safe_mutate
  intro database next result _ hchange
  unfold answering at hchange
  split at hchange
  · exact absurd hchange (by simp)
  · rename_i left agent hleft
    obtain ⟨rfl, -⟩ := Prod.mk.inj (Except.ok.inj hchange)
    exact h database left agent hleft

theorem safe_getAgent : Safe ids allowed (getAgent id) := by
  apply safe_bind safe_snapshot
  intro database
  split
  · exact safe_pure _
  · exact safe_throw _

theorem safe_getRun : Safe ids allowed (getRun id) := by
  apply safe_bind safe_snapshot
  intro database
  split
  · exact safe_pure _
  · exact safe_throw _

theorem safe_createAgent {input : CreateAgentInput} (hid : draw.agentId ∉ ids)
    (hname : trim input.name ∉ EPOCHGUARD_ROLE_AGENT_NAMES) :
    Safe ids allowed (createAgent input draw) := by
  apply safe_bind safe_outside
  intro _
  apply safe_bind
  · exact safe_always fun _ _ => keeps_addAgent hid hname
  · exact fun _ => safe_pure _

theorem safe_updateAgent {input : UpdateAgentInput} (hid : id ∉ ids)
    (hname : ∀ n ∈ input.name, trim n ∉ EPOCHGUARD_ROLE_AGENT_NAMES) :
    Safe ids allowed (updateAgent id input draw) := by
  apply safe_bind safe_getAgent
  intro current
  apply safe_demand
  intro _
  apply safe_bind
  · exact safe_mutate fun _ _ _ hclosed h => keeps_editAgent hclosed hid hname h
  intro updated
  exact safe_bind safe_outside fun _ => safe_pure _

theorem safe_deleteAgent (hid : id ∉ ids) : Safe ids allowed (deleteAgent id) := by
  apply safe_bind safe_getAgent
  intro _
  apply safe_bind safe_outside
  intro _
  apply safe_bind safe_outside
  intro _
  apply safe_bind
  · exact safe_always fun _ hclosed => keeps_deleteRecords hclosed hid
  · exact fun _ => safe_pure _

theorem safe_setStatus {status : AgentStatus} {now : String} (hid : id ∉ ids) :
    Safe ids allowed (setStatus id status now) :=
  safe_answering fun _ _ _ h => keeps_setStatus hid h

theorem safe_stopAgent (hid : id ∉ ids) : Safe ids allowed (stopAgent id draw) := by
  apply safe_bind safe_getAgent
  intro _
  apply safe_bind safe_outside
  intro _
  exact safe_setStatus hid

theorem safe_sendMessage {arkConfigured : Bool} {prompt : JsString}
    (h : id ∈ ids → allowed draw.runId id prompt) :
    Safe ids allowed (sendMessage arkConfigured id prompt draw) := by
  apply safe_demand
  intro _
  exact safe_answering fun _ _ _ hadmit => keeps_admitRun h hadmit

theorem safe_executeRun {agentAtStart : Agent} {run : AgentRun} :
    Safe ids allowed (executeRun agentAtStart run draw) := by
  apply safe_bind (safe_always fun _ _ => keeps_markRunning)
  intro _
  apply safe_bind
  · apply Triple.tryCatch
    · apply safe_bind safe_runnerRun
      intro outcome
      cases outcome with
      | result result =>
        apply safe_bind
        · exact safe_always fun _ _ => keeps_complete
        · exact fun _ => safe_pure _
      | error cancelled message => exact safe_pure _
    · intro error
      apply safe_bind safe_cancellationRequested
      exact fun _ => safe_pure _
  intro failure
  cases failure with
  | none => exact safe_pure _
  | some failure =>
    apply safe_bind
    · exact safe_always fun _ _ => keeps_fail
    · exact fun _ => safe_pure _

theorem safe_parsed {result : Except ApiError α} : Safe ids allowed (parsed result) := by
  cases result with
  | ok a => exact safe_pure a
  | error e => exact safe_throw e

theorem safe_handle (hfresh : draw.agentId ∉ config.protectedAgentIds) (route : Route) :
    Safe config.protectedAgentIds allowed (handle config draw route) := by
  cases route with
  | listAgents => exact safe_bind safe_snapshot fun _ => safe_pure _
  | createAgent body =>
    apply safe_bind safe_parsed
    intro input
    apply safe_demand
    intro hname
    apply safe_bind
    · exact safe_createAgent hfresh (hname input.name rfl)
    · exact fun _ => safe_pure _
  | getAgent id =>
    apply safe_demand
    intro _
    exact safe_bind safe_getAgent fun _ => safe_pure _
  | updateAgent id body =>
    apply safe_demand
    intro _
    apply safe_demand
    intro hid
    apply safe_bind safe_parsed
    intro input
    apply safe_demand
    intro hname
    exact safe_bind (safe_updateAgent hid hname) fun _ => safe_pure _
  | deleteAgent id =>
    apply safe_demand
    intro _
    apply safe_demand
    exact safe_deleteAgent
  | startAgent id =>
    apply safe_demand
    intro _
    apply safe_demand
    intro hid
    exact safe_bind (safe_setStatus hid) fun _ => safe_pure _
  | stopAgent id =>
    apply safe_demand
    intro _
    apply safe_demand
    intro hid
    exact safe_bind (safe_stopAgent hid) fun _ => safe_pure _
  | getMessages id | getRuns id =>
    apply safe_demand
    intro _
    apply safe_bind safe_getAgent
    intro _
    exact safe_bind safe_snapshot fun _ => safe_pure _
  | sendMessage id body =>
    apply safe_demand
    intro _
    apply safe_demand
    intro hid
    apply safe_bind safe_parsed
    intro content
    exact safe_bind (safe_sendMessage fun hprotected => absurd hprotected hid) fun _ => safe_pure _
  | getRun id =>
    apply safe_demand
    intro _
    exact safe_bind safe_getRun fun _ => safe_pure _

/-- The messages that may start a Run of a protected Agent. -/
def Dispatched {ι : Type} (tasks : ι → Task) (runId agentId : String) (prompt : JsString) : Prop :=
  ∃ i draw, tasks i = .dispatch agentId prompt draw ∧ draw.runId = runId

theorem safe_program {ι : Type} {tasks : ι → Task} (i : ι)
    (hfresh : (tasks i).draw.agentId ∉ config.protectedAgentIds) :
    Safe config.protectedAgentIds (Dispatched tasks) ((tasks i).program config) := by
  cases htask : tasks i with
  | route authorization route draw =>
    rw [htask] at hfresh
    apply safe_demand
    intro _
    exact safe_handle hfresh route
  | dispatch agentId prompt draw =>
    apply safe_bind
    · exact safe_sendMessage fun _ => ⟨i, draw, htask, rfl⟩
    · exact fun _ => safe_pure _
  | execution agentAtStart run draw => exact safe_executeRun

end Programs

/-! ## The server at work -/

section Server

variable {ids : List String} {database next : Database} {name : JsString} {id : String}

/-- The Agent of a list, if it is the only one. -/
def single : List String → Except String String
  | [id] => .ok id
  | _ => .error "Expected exactly one initialized"

theorem resolveName_eq (hname : name ∈ EPOCHGUARD_ROLE_AGENT_NAMES) :
    resolveName database name =
      single (((reservedProfiles ids database).filter fun p => p.2.1 = name).map Prod.fst) := by
  have hfilter : ((reservedProfiles ids database).filter fun p => p.2.1 = name).map Prod.fst =
      (database.agents.filter fun a => a.name = name).map Agent.id := by
    unfold reservedProfiles
    rw [List.filter_map, List.filter_filter, List.map_map]
    congr 1
    apply List.filter_congr
    intro a _
    by_cases ha : a.name = name <;> simp [profile, reserved, ha, hname]
  rw [hfilter]
  unfold resolveName
  cases database.agents.filter fun a => a.name = name with
  | nil => rfl
  | cons a rest => cases rest <;> rfl

theorem mapM_congr {α β ε : Type} {f g : α → Except ε β} {l : List α}
    (h : ∀ a ∈ l, f a = g a) : l.mapM f = l.mapM g := by
  induction l with
  | nil => rfl
  | cons a rest ih =>
    rw [List.mapM_cons, List.mapM_cons, h a List.mem_cons_self,
      ih fun b hb => h b (List.mem_cons_of_mem _ hb)]

theorem resolve_congr (h : reservedProfiles ids next = reservedProfiles ids database) :
    resolveProtectedAgentIds next = resolveProtectedAgentIds database := by
  unfold resolveProtectedAgentIds
  rw [mapM_congr fun name hname => ?_]
  rw [resolveName_eq hname, resolveName_eq hname, h]

theorem mem_of_mapM {α β ε : Type} {f : α → Except ε β} {l : List α} {bs : List β}
    (h : l.mapM f = .ok bs) : ∀ a ∈ l, ∃ b ∈ bs, f a = .ok b := by
  induction l generalizing bs with
  | nil => simp
  | cons a rest ih =>
    rw [List.mapM_cons] at h
    simp only [bind_eq_ok, pure_eq_ok] at h
    obtain ⟨b, hb, bs', hrest, rfl⟩ := h
    intro a' ha'
    rcases List.mem_cons.mp ha' with rfl | hmem
    · exact ⟨b, List.mem_cons_self, hb⟩
    · obtain ⟨b', hb', hf⟩ := ih hrest a' hmem
      exact ⟨b', List.mem_cons_of_mem _ hb', hf⟩

/-- A server that comes up has nobody else with one of the names. -/
theorem closed_of_resolve (h : resolveProtectedAgentIds database = .ok ids) :
    Closed ids database := by
  unfold resolveProtectedAgentIds at h
  simp only [bind_eq_ok, pure_eq_ok] at h
  obtain ⟨ids', hresolve, -, -, rfl⟩ := h
  intro agent hagent hname
  obtain ⟨id, hid, hfound⟩ := mem_of_mapM hresolve agent.name hname
  have hmem : agent ∈ database.agents.filter fun a => a.name = agent.name :=
    List.mem_filter.mpr ⟨hagent, by simp⟩
  unfold resolveName at hfound
  split at hfound
  · rename_i only honly
    rw [honly] at hmem
    rwa [List.mem_singleton.mp hmem, Except.ok.inj hfound]
  · exact absurd hfound (by simp)

theorem find?_filter_of_imp {α : Type} {p q : α → Bool} {l : List α}
    (h : ∀ a, p a = true → q a = true) : (l.filter q).find? p = l.find? p := by
  rw [List.find?_filter]
  congr 1
  funext a
  by_cases hp : p a = true
  · simp [hp, h a hp]
  · simp [hp]

theorem profile_eq (hid : id ∈ ids) :
    (database.findAgent id).map profile =
      (reservedProfiles ids database).find? fun p => p.1 = id := by
  have hreserved : ∀ a : Agent, decide (a.id = id) = true → reserved ids a = true := by
    intro a ha
    have ha := of_decide_eq_true ha
    simp [reserved, ha, hid]
  unfold reservedProfiles Database.findAgent
  rw [List.find?_map, ← find?_filter_of_imp hreserved]
  rfl

variable {ι : Type} {tasks : ι → Task} {config : Config}

def start (config : Config) (tasks : ι → Task) (database : Database) :
    System ι Operation Answer Database (Except ApiError Unit) :=
  { shared := database, programs := fun i => ((tasks i).program config).run }

/-- Requests of anybody, messages of the guard and the Runs of both, in any order and
with any failures. The Agents of the roles are the same ones as when the server came
up, with the same names, descriptions and instructions, and nobody else has one of
the names. None of them is stopped that was not stopped before, and every Run of
theirs was there before or was started by the guard. -/
theorem protectedAgents_kept [DecidableEq ι]
    (hresolve : resolveProtectedAgentIds database = .ok config.protectedAgentIds)
    (hfresh : ∀ i, (tasks i).draw.agentId ∉ config.protectedAgentIds)
    {steps : List (ι × Luck)} {s : System ι Operation Answer Database (Except ApiError Unit)}
    (hrun : Runs.run (step perform) (start config tasks database) steps = some s) :
    resolveProtectedAgentIds s.shared = .ok config.protectedAgentIds ∧
      (∀ id ∈ config.protectedAgentIds,
        (s.shared.findAgent id).map profile = (database.findAgent id).map profile) ∧
      (∀ agent ∈ s.shared.agents, agent.id ∈ config.protectedAgentIds →
        agent.status = .stopped →
        ∃ before ∈ database.agents, before.id = agent.id ∧ before.status = .stopped) ∧
      ∀ run ∈ s.shared.runs, run.agentId ∈ config.protectedAgentIds →
        (∃ i draw, tasks i = .dispatch run.agentId run.prompt draw ∧ draw.runId = run.id) ∨
        ∃ before ∈ database.runs, before.id = run.id ∧ before.agentId = run.agentId ∧
          before.prompt = run.prompt := by
  have hclosed := closed_of_resolve hresolve
  have hgoing : Going perform (fun _ => SameProfiles config.protectedAgentIds)
      (fun _ => Keeps config.protectedAgentIds (Dispatched tasks))
      (fun _ => Ends (fun _ => Closed config.protectedAgentIds)
        fun _ => Closed config.protectedAgentIds)
      (start config tasks database) := by
    intro i
    exact ⟨Closed config.protectedAgentIds, stable_closed, hclosed, safe_program i (hfresh i)⟩
  have hrely : ∀ i j : ι, i ≠ j → ∀ d d',
      Keeps config.protectedAgentIds (Dispatched tasks) d d' →
      SameProfiles config.protectedAgentIds d d' := fun _ _ _ _ _ h => h.profiles
  obtain ⟨-, hkeeps⟩ := going_run hrely
    (I := Keeps config.protectedAgentIds (Dispatched tasks) database)
    (fun _ _ _ h h' => h.trans h') hgoing (Keeps.refl database) hrun
  refine ⟨?_, fun id hid => ?_, hkeeps.stopped, hkeeps.runs⟩
  · rw [resolve_congr hkeeps.profiles, hresolve]
  · rw [profile_eq hid, profile_eq hid, hkeeps.profiles]

end Server

namespace RouteSample

def roleAgent (id : String) (name : JsString) : Agent where
  id
  name
  description := []
  instructions := js "Use only inventory evidence."
  status := .ready
  workspacePath := id
  codexThreadId := none
  lastError := none
  createdAt := "t0"
  updatedAt := "t0"

def database : Database where
  agents := [roleAgent "a1" (js "EpochGuard Inventory Agent"),
    roleAgent "a2" (js "EpochGuard Budget Agent"), roleAgent "a3" (js "EpochGuard Policy Agent")]
  messages := []
  runs := []

def config : Config where
  authToken := js "launch"
  arkConfigured := true
  isUuid := fun _ => true
  protectedAgentIds := ["a1", "a2", "a3"]

def draw (agentId runId : String) : Draw where
  agentId
  workspacePath := agentId
  runId
  messageId := runId
  now := "t1"

/-- A taken name, an edit of a protected Agent, a new Agent, and a message. -/
def tasks : Fin 4 → Task
  | 0 => .route (js "Bearer launch")
      (.createAgent (.obj [(js "name", .str (js " EpochGuard Budget Agent"))])) (draw "b1" "r1")
  | 1 => .route (js "Bearer launch")
      (.updateAgent "a2" (.obj [(js "name", .str (js "Helper"))])) (draw "b2" "r2")
  | 2 => .route (js "Bearer launch")
      (.createAgent (.obj [(js "name", .str (js "Helper "))])) (draw "b3" "r3")
  | 3 => .dispatch "a1" (js "Read the evidence.") (draw "b4" "r4")

def steps : List (Fin 4 × Luck) := [(2, .works), (3, .works), (2, .works)]

def after : Option (System (Fin 4) Operation Answer Database (Except ApiError Unit)) :=
  Runs.run (step perform) (start config tasks database) steps

theorem after_isSome : (after.any fun s => s.shared.agents.length = 4 ∧
    s.shared.runs.length = 1) = true := by
  decide +kernel

end RouteSample

open RouteSample in
theorem protectedAgents_kept_sample : ∃ s,
    Runs.run (step perform) (start config tasks database) steps = some s ∧
      s.shared.agents.length = 4 ∧ s.shared.runs.length = 1 ∧
      resolveProtectedAgentIds s.shared = .ok ["a1", "a2", "a3"] := by
  have hafter := after_isSome
  obtain ⟨s, hrun, hs⟩ := Option.any_eq_true _ _ |>.mp hafter
  obtain ⟨hagents, hruns⟩ := of_decide_eq_true hs
  exact ⟨s, hrun, hagents, hruns, (protectedAgents_kept rfl (by decide) hrun).1⟩

end AgentRoutes

end EpochGuard
