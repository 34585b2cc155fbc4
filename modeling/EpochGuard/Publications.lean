import EpochGuard.EpochStore
import EpochGuard.SessionOpening

/-!
# Published databases

What the store publishes when the mutations of the service run on it one after
another, in any order and with any arguments that their callers can give.
-/

namespace EpochGuard

open Json Checked Runs

namespace Service

open DecisionParser RunObserver

/-- The mutations of the service, each with what it reads besides the database:
the request, the clock, the identifiers that are drawn, and what an Agent has
answered. -/
inductive Call where
  | registerRole (registration : RoleAgentRegistration)
  | createSession (request : CreateSessionRequest) (ports : CreateSessionPorts)
  | transitionToCollecting (sessionId : OpaqueId) (timestamp : Timestamp) (event : EventStamp)
  | transitionToDispatching (input : DispatchBindPollInput)
  | bindRunOnce (input : DispatchBindPollInput) (run : AgentRun) (boundAt : Timestamp)
  | mirrorRun (input : DispatchBindPollInput) (agentId : OpaqueId) (run : AgentRun)
  | failAttempt (input : DispatchBindPollInput) (status : AttemptState) (run : Option AgentRun)
  | rejectCompletedOutput (input : DispatchBindPollInput)
  | join (settled : List Settled) (scope : RoleRunJoinScope)
  | acceptInitial (sessionId : OpaqueId) (observations : PerRole TerminalRunObservation)
      (ports : AcceptPorts)
  | acceptRefresh (sessionId : OpaqueId) (observation : TerminalRunObservation)
      (plan : RefreshPlan) (ports : AcceptPorts)
  | claimRefreshPlan (sessionId : OpaqueId) (request : RefreshPlanner.RefreshSessionRequest)
      (registration : RoleAgentRegistration) (runtimeLabel : String) (timestamp : Timestamp)
      (assignmentId receiptId attemptId : OpaqueId)
  | captureRefreshObservation (scenarioId : ScenarioId) (assignmentId : OpaqueId)
      (nonce : String) (issuedAt : Timestamp)
  | failSession (sessionId : OpaqueId) (error : ServiceError) (ports : FailPorts)
  | commit (sessionId : OpaqueId) (expectedSessionRevision : Nat) (effectId : OpaqueId)
      (timestamp : Timestamp)
  | recordCommitRace (sessionId : OpaqueId) (ports : RacePorts)
  | recoverSessions (timestamp : Timestamp) (ids : OpaqueId → RecoveryIds)
  | resetDemo (backgroundSessionIds : List OpaqueId)
  | worldCommit (input : WorldLedger.WorldCommitInput)

section Publications

variable [Sha256] [OutputPorts]

/-- What a call leaves for the store to validate, or nothing where it throws.
Registrations are never changed, so those that `createSession` and a refresh
read before their mutation are the ones they would read in it. A Run fails only
as failed or interrupted, and a refresh is accepted with the claimed plan of its
attempt. -/
def Call.leaves (database : EpochDatabase) : Call → Option EpochDatabase
  | .registerRole registration => (Service.registerRole database registration).toOption
  | .createSession request ports => do
      let verified ← (verifyRequestedAgents database request).toOption
      (Service.createSession database request verified ports).toOption
  | .transitionToCollecting sessionId timestamp event =>
      (Service.transitionToCollecting database sessionId timestamp event).toOption
  | .transitionToDispatching input =>
      ((RunObserver.transitionToDispatching database input).map Prod.fst).toOption
  | .bindRunOnce input run boundAt =>
      ((RunObserver.bindRunOnce database input run boundAt).map Prod.fst).toOption
  | .mirrorRun input agentId run =>
      ((RunObserver.mirrorRun database input agentId run).map Prod.fst).toOption
  | .failAttempt input status run =>
      if status = .FAILED ∨ status = .INTERRUPTED then
        ((RunObserver.failAttempt database input status run).map Prod.fst).toOption
      else none
  | .rejectCompletedOutput input =>
      ((RunObserver.rejectCompletedOutput database input).map Prod.fst).toOption
  | .join settled scope => some (joinRoleRunObservations database settled scope).1
  | .acceptInitial sessionId observations ports =>
      (acceptAndValidate database sessionId observations.toList none ports).toOption
  | .acceptRefresh sessionId observation plan ports =>
      if plan.sessionId = sessionId ∧ plan.status = .CLAIMED ∧
          plan.claimedAttemptId = some observation.attempt.attemptId then
        (acceptAndValidate database sessionId [observation] (some plan) ports).toOption
      else none
  | .claimRefreshPlan sessionId request registration runtimeLabel timestamp assignmentId receiptId
      attemptId =>
      if registration ∈ database.roleAgentRegistrations then
        ((RefreshPlanner.claimRefreshPlan database EffectGate.identityPort sessionId request
          timestamp (createClaimArtifacts registration runtimeLabel timestamp assignmentId
            receiptId attemptId)).map Prod.fst).toOption
      else none
  | .captureRefreshObservation scenarioId assignmentId nonce issuedAt =>
      (Service.captureRefreshObservation database (Fixtures.getEpochGuardFixture scenarioId)
        assignmentId nonce issuedAt).toOption
  | .failSession sessionId error ports =>
      (Service.failSession database sessionId error ports).toOption
  | .commit sessionId expectedSessionRevision effectId timestamp =>
      ((EffectGate.commitProtectedEffect database EffectGate.identityPort sessionId
        expectedSessionRevision effectId timestamp).map Prod.fst).toOption
  | .recordCommitRace sessionId ports =>
      (Service.recordCommitRace database sessionId ports).toOption
  | .recoverSessions timestamp ids => (Service.recoverSessions database timestamp ids).toOption
  | .resetDemo backgroundSessionIds =>
      (Service.resetDemo database backgroundSessionIds).toOption
  | .worldCommit input =>
      ((WorldLedger.commit database.toWorld input).map fun committed =>
        { database with toWorld := committed.1 }).toOption

def Call.mutation (call : Call) : EpochStore.Mutation where
  callback := fun database => call.leaves database

/-- What the store publishes for a call. -/
def publish (database : EpochDatabase) (call : Call) : Option EpochDatabase :=
  call.mutation.apply database

theorem publish_eq_some {database next : EpochDatabase} {call : Call} :
    publish database call = some next ↔
      ∃ left, call.leaves database = some left ∧ (EpochStore.stamp left database).parses ∧
        EpochStore.stamp left database = next := by
  simp only [publish, Call.mutation, EpochStore.Mutation.apply, Option.bind_eq_bind,
    Option.bind_eq_some_iff]
  constructor
  · rintro ⟨left, hleft, h⟩
    split at h
    · rename_i hparses
      exact ⟨left, hleft, hparses, Option.some.inj h⟩
    · cases h
  · rintro ⟨left, hleft, hparses, rfl⟩
    exact ⟨left, hleft, by simp [hparses]⟩

/-- What calls can make of an empty store. -/
def Reachable (database : EpochDatabase) : Prop :=
  ∃ calls, run publish emptyEpochDatabase calls = some database

/-- What every call keeps holds of every reachable database. -/
theorem Reachable.induction {P : EpochDatabase → Prop} {database : EpochDatabase}
    (h : Reachable database) (hempty : P emptyEpochDatabase)
    (hstep : ∀ before left call, P before → Call.leaves before call = some left →
      (EpochStore.stamp left before).parses → P (EpochStore.stamp left before)) :
    P database := by
  obtain ⟨calls, hrun⟩ := h
  refine run_induction (fun before call next hbefore hpublish => ?_) hempty hrun
  obtain ⟨left, hleft, hparses, rfl⟩ := publish_eq_some.mp hpublish
  exact hstep before left call hbefore hleft hparses

theorem Reachable.publish {before database : EpochDatabase} {call : Call} (h : Reachable before)
    (hpublish : publish before call = some database) : Reachable database := by
  obtain ⟨calls, hrun⟩ := h
  exact ⟨calls ++ [call], run_append.mpr ⟨before, hrun, by simp [hpublish]⟩⟩

end Publications

/-! ## A session of the normal World -/

namespace Sample

scoped instance : Sha256 := Sha256.standard

def time : Timestamp := ⟨"2026-08-29T12:00:00.000Z", 1788004800000⟩
def later : Timestamp := ⟨"2026-08-29T12:00:05.000Z", 1788004805000⟩

def sessionId : OpaqueId := ⟨"session-1", by decide⟩
def agentId (role : Role) : OpaqueId := ⟨"agent-" ++ role.name, by cases role <;> decide⟩
def assignmentId (role : Role) : OpaqueId :=
  ⟨"assignment-" ++ role.name, by cases role <;> decide⟩
def attemptId (role : Role) : OpaqueId := ⟨"attempt-" ++ role.name, by cases role <;> decide⟩
def receiptId (role : Role) : OpaqueId := ⟨"receipt-" ++ role.name, by cases role <;> decide⟩
def runId (role : Role) : OpaqueId := ⟨"run-" ++ role.name, by cases role <;> decide⟩
def nonce (role : Role) : String := "nonce-of-a-receipt-in-" ++ role.name ++ "-session"
def stamp (timestamp : Timestamp) : EventStamp := ⟨⟨"event-1", by decide⟩, timestamp⟩

def registration (role : Role) : RoleAgentRegistration where
  role := role
  agentId := agentId role
  agentNameAtRegistration := role.name
  roleProfileVersion := ⟨"role-profile-v2", by decide⟩
  agentsMdDigest := ⟨List.replicate 64 'e', by decide⟩
  registeredAt := time

def createPorts : CreateSessionPorts where
  sessionId := sessionId
  actionId := ⟨"action-1", by decide⟩
  timestamp := time
  runtimeLabel := "Codex Runtime"
  captures := PerRole.ofFn fun role =>
    ⟨assignmentId role, receiptId role, attemptId role, nonce role, time⟩
  event := stamp time

def envelope (role : Role) : AgentDecisionEnvelope where
  sessionId := sessionId
  actionHash := actionHash Fixtures.FIXTURE_ACTION
  runAssignmentId := assignmentId role
  role := role
  receiptId := receiptId role
  nonce := js (nonce role)
  verdict := .ALLOW
  reason := js "ok"

def envelopeText (role : Role) : JsString := canonicalJson (envelopeJson (envelope role))

def output (role : Role) : JsString :=
  EPOCH_DECISION_OPEN_MARKER ++ envelopeText role ++ EPOCH_DECISION_CLOSE_MARKER

/-- Reads the three envelopes back. -/
scoped instance : OutputPorts where
  jsonParse := fun text =>
    (ROLES.find? fun role => envelopeText role = text).map fun role =>
      envelopeJson (envelope role)
  redactRejectedDecisionOutput := id

def input (role : Role) : DispatchBindPollInput := ⟨assignmentId role, attemptId role⟩

def completedRun (role : Role) : AgentRun where
  id := (runId role).val
  agentId := (agentId role).val
  status := .completed
  prompt := ""
  output := some (output role)
  error := none
  usage := none
  threadId := none
  startedAt := some (.valid time)
  completedAt := some (.valid later)

def completedAttempt (role : Role) : AgentAttempt where
  attemptId := attemptId role
  sessionId := sessionId
  actionHash := actionHash Fixtures.FIXTURE_ACTION
  role := role
  agentId := agentId role
  assignmentId := assignmentId role
  runId := some (runId role)
  status := .COMPLETED
  runStartedAt := some time
  runCompletedAt := some later
  threadId := none
  usage := none
  outputDigest := some (sha256Digest (output role))

def observation (role : Role) : TerminalRunObservation where
  role := role
  agentId := agentId role
  assignmentId := assignmentId role
  runId := runId role
  attempt := completedAttempt role
  output := output role

def acceptPorts : AcceptPorts where
  timestamp := later
  outputs := fun index => match index with
    | 0 => (⟨"decision-inventory", by decide⟩, ⟨"output-inventory", by decide⟩)
    | 1 => (⟨"decision-budget", by decide⟩, ⟨"output-budget", by decide⟩)
    | _ => (⟨"decision-policy", by decide⟩, ⟨"output-policy", by decide⟩)
  diagnosticId := ⟨"diagnostic-1", by decide⟩
  validation :=
    { options :=
        { validationId := ⟨"validation-1", by decide⟩
          jointValidityCertificateId := ⟨"certificate-1", by decide⟩
          noCutProofId := ⟨"proof-1", by decide⟩
          verificationLatencyMs := 0
          createdAt := later }
      permitId := ⟨"permit-1", by decide⟩
      refreshPlanId := ⟨"plan-1", by decide⟩
      diagnosticId := ⟨"diagnostic-2", by decide⟩
      event := stamp later }

def openingCalls : List Call :=
  ROLES.map (fun role => .registerRole (registration role)) ++
    [.createSession ⟨.normalWorldV1, PerRole.ofFn agentId⟩ createPorts,
      .transitionToCollecting sessionId time (stamp time)]

def observingCalls : List Call :=
  ROLES.flatMap fun role =>
    [.transitionToDispatching (input role), .bindRunOnce (input role) (completedRun role) time,
      .mirrorRun (input role) (agentId role) (completedRun role)]

def acceptCall : Call :=
  .acceptInitial sessionId (PerRole.ofFn observation) acceptPorts

def calls : List Call := openingCalls ++ observingCalls ++ [acceptCall]

/-- The store with the three registrations. -/
def registered : EpochDatabase :=
  { emptyEpochDatabase with
    snapshotRevision := 3, roleAgentRegistrations := ROLES.map registration }

theorem run_registerRoles [OutputPorts] :
    run publish emptyEpochDatabase (ROLES.map fun role => .registerRole (registration role)) =
      some registered := rfl

theorem createPorts_fit : createPorts.Fit where
  session := by decide
  assignment := by decide
  nonce := by decide +kernel
  apart := by decide +kernel

/-- The new session of a scenario in that store. -/
def created (scenarioId : ScenarioId) : EpochDatabase :=
  EpochStore.stamp
    (opened registered ⟨scenarioId, PerRole.ofFn agentId⟩ (PerRole.ofFn registration) createPorts)
    registered

theorem publish_createSession [OutputPorts] (scenarioId : ScenarioId) :
    publish registered (.createSession ⟨scenarioId, PerRole.ofFn agentId⟩ createPorts) =
      some (created scenarioId) := by
  have hregistered : registered.parses := by decide
  have hparses : (created scenarioId).parses := opened_parses hregistered
  have hverified : verifyRequestedAgents registered ⟨scenarioId, PerRole.ofFn agentId⟩ =
      .ok (PerRole.ofFn registration) := rfl
  rw [publish_eq_some]
  refine ⟨_, ?_, hparses, rfl⟩
  have hcreate : createSession registered ⟨scenarioId, PerRole.ofFn agentId⟩
      (PerRole.ofFn registration) createPorts =
        .ok (opened registered ⟨scenarioId, PerRole.ofFn agentId⟩ (PerRole.ofFn registration)
          createPorts) :=
    createSession_eq ⟨rfl, rfl, rfl, rfl, rfl⟩ createPorts_fit
  simp only [Call.leaves, hverified]
  exact toOption_eq_some.mpr hcreate

/-- A run that opens a session, from where it is created. -/
theorem run_opening [OutputPorts] (scenarioId : ScenarioId) (rest : List Call) :
    run publish emptyEpochDatabase (ROLES.map (fun role => .registerRole (registration role)) ++
        .createSession ⟨scenarioId, PerRole.ofFn agentId⟩ createPorts :: rest) =
      run publish (created scenarioId) rest := by
  rw [run_append_of_eq run_registerRoles, run_cons_of_eq (publish_createSession scenarioId)]

def effectId : OpaqueId := ⟨"effect-1", by decide⟩

/-- The stock of the twin is observed again, under another value. -/
def restock : WorldLedger.WorldCommitInput where
  changes :=
    [{ resourceId := "stock:twin", value := jobj [("availableUnits", jnat 1)]
       sourceRevision := none }]
  reason := "restock"
  expectedSeq := none
  createdAt := some later

/-- The release of the session, and two commits of the World after it. -/
def laterCalls : List Call :=
  [.commit sessionId 4 effectId later, .worldCommit restock, .worldCommit restock]

/-- The session can be released at its revision and at no other, and what follows the
release is published. -/
def releasable (database : EpochDatabase) : Bool :=
  let commit := EffectGate.commitProtectedEffect database EffectGate.identityPort sessionId
  (commit 3 effectId later).toOption.isNone &&
    (commit 4 effectId later).toOption.any
      (fun
        | (left, .committed true _) => decide (EpochStore.stamp left database).parses
        | _ => false) &&
    (run publish database laterCalls).any fun after =>
      after.headSeq = database.headSeq + 2 && after.receipts.length = 3

theorem calls_releasable : (run publish emptyEpochDatabase calls).any releasable = true := by
  have hrest : (run publish (created .normalWorldV1)
      (.transitionToCollecting sessionId time (stamp time) :: observingCalls ++
        [acceptCall])).any releasable = true := by
    decide +kernel
  unfold calls openingCalls
  rw [List.append_assoc, List.append_assoc, List.cons_append, run_opening]
  exact hrest

theorem calls_publish : (run publish emptyEpochDatabase calls).isSome = true :=
  Option.isSome_of_any calls_releasable

/-- The session is ready at the current head. -/
def database : EpochDatabase := (run publish emptyEpochDatabase calls).get calls_publish

theorem reachable : Reachable database := ⟨calls, (Option.some_get calls_publish).symm⟩

theorem database_releasable : releasable database = true := by
  obtain ⟨d, hd, hreleasable⟩ := (Option.any_eq_true _ _).mp calls_releasable
  have heq : database = d := Option.get_of_eq_some calls_publish hd
  exact heq ▸ hreleasable

end Sample

end Service

end EpochGuard
