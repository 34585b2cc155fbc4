import EpochGuard.Fixtures
import EpochGuard.RefreshPlanner
import EpochGuard.RunObserver
import EpochGuard.SafetyDiagnostics

/-!
# The service

`epochguard-service.ts`: the store mutations that create a session, collect its
decisions, validate them, plan and capture a refresh, and close a session that
fails or is found in flight after a restart. Identifiers and clock readings are
arguments.
-/

namespace EpochGuard

open Json Checked

namespace Service

open DecisionParser Fixtures RunObserver SafetyDiagnostics

/-- What a mutation of the service may throw. -/
inductive ServiceError where
  | message (text : String)
  | run (failure : RunFailure)
  | normalization (error : DecisionNormalizationError)
  | validation (error : JointValidityValidationError)
  | integrity (error : SafetyDiagnosticIntegrityError)
  | agentsBusy (activeSessionId : OpaqueId)
  | unstableWorld (headSeq : Nat)
  | roleProfileMismatch (role : Role)
deriving DecidableEq

/-- A mutation of the service, which stops at its first error. -/
abbrev Mutated := Except ServiceError

/-- The states that a session does not leave. -/
def isTerminalSession : SessionState → Bool
  | .UNSTABLE_WORLD | .CONSISTENT_DENY | .COMMIT_RACE | .COMMITTED | .FAILED
  | .INTERRUPTED => true
  | _ => false

/-- The states in which a session was working when the process stopped, so that
a start interrupts it. -/
def isInFlightSession : SessionState → Bool
  | .CREATED | .DISPATCHING | .COLLECTING | .VALIDATING | .REOBSERVING | .COMMITTING => true
  | _ => false

/-- `sessionById`: the session, if it is stored, and an error if it is not the
only one of its identifier. -/
def sessionById (database : EpochDatabase) (sessionId : OpaqueId) :
    Mutated (Option EpochSession) :=
  atMostOne (database.sessions.filter fun s => s.sessionId = sessionId)
    (.message "EpochGuard Session ID is not unique")

/-- A session found by its identifier is the only one with it. -/
theorem sessionById_some {database : EpochDatabase} {sessionId : OpaqueId} {session : EpochSession}
    (h : sessionById database sessionId = .ok (some session)) :
    session ∈ database.sessions ∧ session.sessionId = sessionId ∧
      ∀ s ∈ database.sessions, s.sessionId = session.sessionId → s = session := by
  simp only [sessionById, atMostOne_eq_ok, Option.toList_some] at h
  obtain ⟨hs, hid⟩ := single?_mem (single?_eq_some.mpr h)
  simp only [decide_eq_true_eq] at hid
  refine ⟨hs, hid, fun s hmem heq => ?_⟩
  exact single?_unique (single?_eq_some.mpr h) hmem (by simp [heq, hid])

/-- The only registration of a role. -/
def roleRegistration (database : EpochDatabase) (role : Role) : Mutated RoleAgentRegistration :=
  orStop (single? database.roleAgentRegistrations fun r => r.role = role)
    (.message ("Role " ++ role.name ++ " must have exactly one registration"))

/-! ## Audit records -/

/-- One more than every audit sequence of the session. -/
def nextAuditSeq (database : EpochDatabase) (sessionId : OpaqueId) : Nat :=
  let events := (database.auditEvents.filter fun e => e.sessionId = sessionId).map
    AuditEvent.auditSeq
  let diagnostics := (database.diagnostics.filter fun d => d.sessionId = sessionId).map
    SafetyDiagnostic.auditSeq
  (events ++ diagnostics).foldl max 0 + 1

/-- The identifier and the time of an audit event. -/
structure EventStamp where
  eventId : OpaqueId
  createdAt : Timestamp

/-- Appends an audit event of the session as it now is, numbered above all its
audit records. -/
def appendEvent (database : EpochDatabase) (session : EpochSession) (type status : String)
    (artifactRefs : List ArtifactRef) (stamp : EventStamp) : EpochDatabase :=
  { database with
    auditEvents := database.auditEvents ++
      [{ eventId := stamp.eventId
         sessionId := session.sessionId
         actionHash := session.actionHash
         sessionRevision := session.sessionRevision
         auditSeq := nextAuditSeq database session.sessionId
         type
         status
         role := none
         artifactRefs
         createdAt := stamp.createdAt }] }

/-- What a caller says of a diagnostic; the rest is taken from the session. -/
structure DiagnosticValues where
  kind : DiagnosticKind
  stage : DiagnosticStage
  reasonCode : FailureCode
  role : Option Role := none
  attemptId : Option OpaqueId := none
  assignmentId : Option OpaqueId := none
  runId : Option OpaqueId := none
  artifactRefs : List ArtifactRef
  rejectedOutputArtifactId : Option OpaqueId := none
  recommendedAction : RecommendedAction

/-- The diagnostic of a session as it now is, numbered above all its audit
records. -/
def diagnosticFor (database : EpochDatabase) (session : EpochSession) (values : DiagnosticValues)
    (diagnosticId : OpaqueId) : SafetyDiagnostic where
  diagnosticId := diagnosticId
  sessionId := session.sessionId
  actionHash := session.actionHash
  sessionRevision := session.sessionRevision
  fixtureRef := some session.scenarioId.name
  kind := values.kind
  stage := values.stage
  reasonCode := values.reasonCode
  role := values.role
  attemptId := values.attemptId
  assignmentId := values.assignmentId
  runId := values.runId
  artifactRefs := values.artifactRefs
  causedByDiagnosticIds := []
  rejectedOutputArtifactId := values.rejectedOutputArtifactId
  auditSeq := nextAuditSeq database session.sessionId
  recommendedAction := values.recommendedAction

/-- Appends a diagnostic, if it has the shape that its reason asks for. -/
def appendDiagnostic (database : EpochDatabase) (session : EpochSession)
    (values : DiagnosticValues) (diagnosticId : OpaqueId) : Mutated EpochDatabase := do
  let diagnostic ←
    (buildSafetyDiagnostic (diagnosticFor database session values diagnosticId)).mapError .integrity
  return { database with diagnostics := database.diagnostics ++ [diagnostic] }

theorem appendDiagnostic_cases {database left : EpochDatabase} {session : EpochSession}
    {values : DiagnosticValues} {diagnosticId : OpaqueId}
    (h : appendDiagnostic database session values diagnosticId = .ok left) :
    assertDiagnosticShapeSemantics (diagnosticFor database session values diagnosticId) = .ok () ∧
      left = { database with
        diagnostics := database.diagnostics ++
          [diagnosticFor database session values diagnosticId] } := by
  simp only [appendDiagnostic, bind_eq_ok, mapError_eq_ok, buildSafetyDiagnostic_eq_ok,
    pure_eq_ok] at h
  obtain ⟨diagnostic, ⟨hshape, rfl⟩, rfl⟩ := h
  exact ⟨hshape, rfl⟩

/-- The references to an attempt, its assignment and its Run. -/
def attemptRefs (attempt : AgentAttempt) : List ArtifactRef :=
  [.record .ATTEMPT attempt.attemptId, .record .ASSIGNMENT attempt.assignmentId] ++
    (attempt.runId.map (ArtifactRef.record .RUN)).toList

section Sessions

variable [Sha256]

/-! ## Assignments and captures -/

/-- The identifiers that one capture uses, with its nonce and its time. -/
structure CaptureIds where
  assignmentId : OpaqueId
  receiptId : OpaqueId
  attemptId : OpaqueId
  nonce : String
  issuedAt : Timestamp

/-- The template of the prompts that new assignments get. -/
def CURRENT_PROMPT_TEMPLATE_VERSION : OpaqueId := ⟨"epoch-prompt-v2", by decide⟩

/-- A fresh assignment of a role. The hash of its pack is filled in when the
pack is built. -/
def newAssignment (session : EpochSession) (role : Role) (registration : RoleAgentRegistration)
    (runtimeLabel : String) (createdAt : Timestamp) (assignmentId receiptId : OpaqueId) :
    Except String RunAssignment := do
  let path ← orStop (evidencePackRelativePath session.sessionId role assignmentId)
    "Invalid Evidence Pack path"
  return { assignmentId
           sessionId := session.sessionId
           actionHash := session.actionHash
           agentId := registration.agentId
           agentNameAtAssignment := registration.agentNameAtRegistration
           role
           receiptId
           queryHash := ((getEpochGuardFixture session.scenarioId).querySpec role).queryHash
           roleProfileVersion := registration.roleProfileVersion
           promptTemplateVersion := CURRENT_PROMPT_TEMPLATE_VERSION
           agentsMdDigest := registration.agentsMdDigest
           runtimeLabelAtDispatch := runtimeLabel
           evidencePackRelativePath := path
           evidencePackHash := sha256Digest []
           boundRunId := none
           status := .CREATED
           consumedByDecisionCertificateId := none
           createdAt
           boundAt := none
           consumedAt := none }

/-- The attempt with which an assignment starts, without a Run. -/
def initialAttemptForAssignment (assignment : RunAssignment) (attemptId : OpaqueId) :
    AgentAttempt where
  attemptId := attemptId
  sessionId := assignment.sessionId
  actionHash := assignment.actionHash
  role := assignment.role
  agentId := assignment.agentId
  assignmentId := assignment.assignmentId
  runId := none
  status := .ASSIGNMENT_CREATED
  runStartedAt := none
  runCompletedAt := none
  threadId := none
  usage := none
  outputDigest := none

/-- Issues the receipt of an assignment, builds its pack from the records that
are then stored, and keeps the hash of the pack in the assignment. -/
def issueAndPack (database : EpochDatabase) (action : ActionIntent) (assignment : RunAssignment)
    (querySpec : RoleQuerySpec) (nonce : String) (issuedAt : Timestamp) :
    Except String EpochDatabase := do
  let (issuedDatabase, issued) ←
    ReceiptIssuer.issue database { action, assignment, querySpec } nonce issuedAt
  let built ← buildCanonicalEvidencePack
    { action
      querySpec
      assignment
      receipt := issued.receipt
      resourceVersion := issued.resourceVersion
      worldHeadSeq := issuedDatabase.headSeq }
  return issuedDatabase.setAssignment
    { assignment with evidencePackHash := built.evidencePackHash }

theorem issueAndPack_cases {database left : EpochDatabase} {action : ActionIntent}
    {assignment : RunAssignment} {querySpec : RoleQuerySpec} {nonce : String}
    {issuedAt : Timestamp}
    (h : issueAndPack database action assignment querySpec nonce issuedAt = .ok left) :
    ∃ issuedDatabase issued built,
      Issuance database { action, assignment, querySpec } nonce issuedDatabase issued ∧
      buildCanonicalEvidencePack
          { action, querySpec, assignment, receipt := issued.receipt,
            resourceVersion := issued.resourceVersion, worldHeadSeq := issuedDatabase.headSeq } =
        .ok built ∧
      left = issuedDatabase.setAssignment
        { assignment with evidencePackHash := built.evidencePackHash } := by
  simp only [issueAndPack, bind_eq_ok, pure_eq_ok, Prod.exists] at h
  obtain ⟨issuedDatabase, issued, hissue, built, hbuilt, rfl⟩ := h
  exact ⟨issuedDatabase, issued, built, ReceiptIssuer.issue_cases hissue, hbuilt, rfl⟩

/-! ## Creating a session -/

/-- The body of a request to create a session: a scenario and an Agent for each
role. -/
structure CreateSessionRequest where
  scenarioId : ScenarioId
  assignments : PerRole OpaqueId

/-- The identifiers, the nonces and the times that one `createSession` draws. -/
structure CreateSessionPorts where
  sessionId : OpaqueId
  actionId : OpaqueId
  timestamp : Timestamp
  runtimeLabel : String
  captures : PerRole CaptureIds
  event : EventStamp

/-- The registrations of the requested Agents (`verifyRequestedAgents`, apart
from the profiles on disk). -/
def verifyRequestedAgents (database : EpochDatabase) (request : CreateSessionRequest) :
    Mutated (PerRole RoleAgentRegistration) :=
  PerRole.mapRoles fun role => do
    let registration ← roleRegistration database role
    require (request.assignments.get role = registration.agentId) (.roleProfileMismatch role)
    return registration

/-- Stores a question unless it is stored already; another question under the
same hash is an error. -/
def storeQuerySpec (database : EpochDatabase) (query : RoleQuerySpec) :
    Except String EpochDatabase :=
  match database.roleQuerySpecs.filter fun q => q.queryHash = query.queryHash with
  | [] => return { database with roleQuerySpecs := database.roleQuerySpecs ++ [query] }
  | existing => do
      require (∀ q ∈ existing, canonicalJson q.toJson = canonicalJson query.toJson)
        "Stored RoleQuerySpec conflicts with the fixture contract"
      return database

/-- The session as `createSession` appends it. -/
def newSession (request : CreateSessionRequest) (action : ActionIntent) (sessionId : OpaqueId)
    (timestamp : Timestamp) : EpochSession where
  sessionId := sessionId
  scenarioId := request.scenarioId
  action := action
  actionHash := action.actionHash
  state := .DISPATCHING
  sessionRevision := 1
  coordinationMode := .PENDING
  frozenAssignments := request.assignments
  activeDecisionCertificateIds := PerRole.const none
  activeAttemptIds := PerRole.const none
  activeValidationId := none
  activeRefreshPlanId := none
  activePermitId := none
  stateUpdatedAt := timestamp
  createdAt := timestamp

/-- The session under construction, with the number of its packs. -/
structure Prepared where
  database : EpochDatabase
  session : EpochSession
  packs : Nat

/-- One capture: a fresh assignment and attempt, and the receipt of the
observation at the current head. -/
def captureInitial (prepared : Prepared) (ports : CreateSessionPorts)
    (fixture : EpochGuardFixture) (verified : PerRole RoleAgentRegistration)
    (step : FixtureCaptureStep) : Except String Prepared := do
  let { database, session, packs } := prepared
  require (database.headSeq = step.expectedHeadSeq)
    "Fixture capture is not at its declared World head"
  let role := step.role
  let ids := ports.captures.get role
  let assignment ← newAssignment session role (verified.get role) ports.runtimeLabel
    ports.timestamp ids.assignmentId ids.receiptId
  let attempt := initialAttemptForAssignment assignment ids.attemptId
  let named := { session with
    activeAttemptIds := session.activeAttemptIds.set role (some attempt.attemptId) }
  let appended := { database with
    runAssignments := database.runAssignments ++ [assignment]
    attempts := database.attempts ++ [attempt] }
  let issued ← issueAndPack (appended.setSession named) session.action assignment
    (fixture.querySpec role) ids.nonce ids.issuedAt
  return { database := issued, session := named, packs := packs + 1 }

/-- One step of a fixture: a commit to the World or the capture of a role's
observation. -/
def initialStep (ports : CreateSessionPorts) (fixture : EpochGuardFixture)
    (verified : PerRole RoleAgentRegistration) (prepared : Prepared) :
    FixtureInitialStep → Except String Prepared
  | .commit step => do
      let world ← applyFixtureCommit prepared.database.toWorld step
      return { prepared with database := { prepared.database with toWorld := world } }
  | .capture step => captureInitial prepared ports fixture verified step

/-- The mutation of `createSession`, for registrations verified before it. It
opens the one session of an untouched ledger, plays the fixture, and issues and
packs a receipt wherever the fixture captures for a role. -/
def createSession (database : EpochDatabase) (request : CreateSessionRequest)
    (verified : PerRole RoleAgentRegistration) (ports : CreateSessionPorts) :
    Mutated EpochDatabase := do
  let fixture := getEpochGuardFixture request.scenarioId
  match database.sessions.find? fun s =>
      !isTerminalSession s.state && s.frozenAssignments = request.assignments with
  | some conflicting => throw (.agentsBusy conflicting.sessionId)
  | none => do
      require (database.headSeq = 0 ∧ database.worldCommits = [] ∧
        database.resourceVersions = []) (.unstableWorld database.headSeq)
      let prepared ← Except.mapError .message do
        let world ← initializeFixtureWorld database.toWorld fixture
        let action ← buildFixtureActionIntent request.scenarioId ports.sessionId ports.actionId
        let queried ← ROLES.foldlM (fun db role => storeQuerySpec db (fixture.querySpec role))
          { database with toWorld := world }
        let session := newSession request action ports.sessionId ports.timestamp
        let started : Prepared :=
          { database := { queried with sessions := queried.sessions ++ [session] }
            session
            packs := 0 }
        fixture.initialSteps.foldlM (initialStep ports fixture verified) started
      require (prepared.packs = ROLES.length)
        (.message "Fixture must capture exactly three initial Role observations")
      return appendEvent prepared.database prepared.session "SESSION_STATE" "DISPATCHING" []
        ports.event

/-- `transitionToCollecting` -/
def transitionToCollecting (database : EpochDatabase) (sessionId : OpaqueId)
    (timestamp : Timestamp) (event : EventStamp) : Mutated EpochDatabase := do
  let closed : ServiceError := .message "Session cannot enter COLLECTING from its current state"
  let session ← orStop (← sessionById database sessionId) closed
  require (session.state = .DISPATCHING) closed
  let collecting := { session with
    state := .COLLECTING
    sessionRevision := session.sessionRevision + 1
    stateUpdatedAt := timestamp }
  return appendEvent (database.setSession collecting) collecting "SESSION_STATE" "COLLECTING" []
    event

/-! ## Validation -/

/-- The identifiers and the readings that a validation uses. -/
structure ValidationPorts where
  options : JointValidity.Options
  permitId : OpaqueId
  refreshPlanId : OpaqueId
  diagnosticId : OpaqueId
  event : EventStamp

/-- The claimed plan of a refresh, completed. -/
def completeRefreshPlan (database : EpochDatabase) (expected : RefreshPlan) :
    Mutated RefreshPlan := do
  let impossible : ServiceError :=
    .message "RefreshPlan cannot be completed from its current state"
  let plan ← orStop
    (database.refreshPlans.find? fun p => p.refreshPlanId = expected.refreshPlanId) impossible
  require (plan.status = .CLAIMED ∧ plan.claimedAttemptId ≠ none) impossible
  return { plan with status := .COMPLETED }

/-- Changes the first plan of an identifier. -/
def setFirstRefreshPlan (database : EpochDatabase) (plan : RefreshPlan) : EpochDatabase :=
  { database with
    refreshPlans := modifyFirst (fun p => p.refreshPlanId = plan.refreshPlanId) (fun _ => plan)
      database.refreshPlans }

/-- The records of a validation appended to the store; its own record names the
plan it is bound to, if there is one. -/
def appendResult (database : EpochDatabase) (result : JointValidity.Result)
    (refreshPlanId : Option OpaqueId) : EpochDatabase :=
  { database with
    validations := database.validations ++ [{ result.validationRecord with refreshPlanId }]
    jointValidityCertificates :=
      database.jointValidityCertificates ++ result.jointValidityCertificate.toList
    noCutProofs := database.noCutProofs ++ result.noCutProof.toList }

/-- The session after its validation, in the state for the outcome. -/
def validatedSession (session : EpochSession) (record : ValidationRecord) (state : SessionState)
    (refreshPlanId : Option OpaqueId) : EpochSession :=
  { session with
    activeValidationId := some record.validationId
    activeRefreshPlanId := refreshPlanId
    activePermitId := none
    state
    sessionRevision := session.sessionRevision + 1
    stateUpdatedAt := record.createdAt }

/-- The plan that the validation of a refreshed session completes. -/
def completedPlan (database : EpochDatabase) (refreshPlan : Option RefreshPlan) :
    Mutated (Option RefreshPlan) :=
  match refreshPlan with
  | none => return none
  | some expected => do
      let plan ← completeRefreshPlan database expected
      return some plan

/-- The permit that a validation issues, for its head and its dependency set. -/
def permitFor (session : EpochSession) (record : ValidationRecord)
    (certificate : JointValidityCertificate) (permitId : OpaqueId) : EffectPermit where
  permitId := permitId
  sessionId := session.sessionId
  actionHash := session.actionHash
  dependencySetHash := record.dependencySetHash
  jointValidityCertificateId := certificate.certificateId
  validatedHead := record.validatedHead
  idempotencyKey := session.action.idempotencyKey
  status := .ISSUED
  issuedAt := record.createdAt
  consumedAt := none

/-- `VALID_CURRENT_ALLOW`: the permit is issued, the plan of a refresh
completed, and the session made ready, all in the mutation that stores the
validation. -/
def persistReady (database : EpochDatabase) (session : EpochSession)
    (result : JointValidity.Result) (refreshPlan : Option RefreshPlan) (ports : ValidationPorts) :
    Mutated EpochDatabase := do
  let record := result.validationRecord
  let certificate ← orStop result.jointValidityCertificate
    (.message "Ready validation must create a JVC")
  let completed ← completedPlan database refreshPlan
  let planned := completed.elim database (setFirstRefreshPlan database)
  let planId := completed.map RefreshPlan.refreshPlanId
  let permit := permitFor session record certificate ports.permitId
  let appended := appendResult planned result planId
  let permitted := { appended with permits := appended.permits ++ [permit] }
  let ready := { validatedSession session record .READY_AT_CURRENT_HEAD
      (planId.or session.activeRefreshPlanId) with
    activePermitId := some permit.permitId }
  return appendEvent (permitted.setSession ready) ready "VALIDATION" "READY_AT_CURRENT_HEAD"
    [.record .VALIDATION record.validationId, .record .PERMIT permit.permitId] ports.event

/-- `NO_VALID_OBSERVED_WORLD_CUT`: the session is blocked with the proof and
with a plan to observe again, which is built from the session as it will be
stored. -/
def persistNoCut (database : EpochDatabase) (session : EpochSession)
    (result : JointValidity.Result) (ports : ValidationPorts) : Mutated EpochDatabase := do
  let record := result.validationRecord
  let proof ← orStop result.noCutProof (.message "No-Cut validation must create a Proof")
  let blocked := validatedSession session record .BLOCKED_NO_CUT session.activeRefreshPlanId
  let plan ← (RefreshPlanner.buildRefreshPlan
    ((appendResult database result record.refreshPlanId).setSession blocked)
    EffectGate.identityPort session.sessionId ports.refreshPlanId).mapError .message
  let planned := { blocked with activeRefreshPlanId := some plan.refreshPlanId }
  let appended := appendResult database result (some plan.refreshPlanId)
  let stored := { appended with refreshPlans := appended.refreshPlans ++ [plan] }
  let diagnosed ← appendDiagnostic (stored.setSession planned) planned
    { kind := .EXPECTED_BLOCK
      stage := .VALIDATE
      reasonCode := .NO_VALID_OBSERVED_WORLD_CUT
      artifactRefs :=
        [.record .VALIDATION record.validationId, .record .PROOF proof.proofId,
          .record .RECEIPT proof.conflictWitnessReceiptIds.1,
          .record .RECEIPT proof.conflictWitnessReceiptIds.2,
          .record .REFRESH_PLAN plan.refreshPlanId]
      recommendedAction := .REOBSERVE_INVALID } ports.diagnosticId
  return appendEvent diagnosed planned "VALIDATION" "BLOCKED_NO_CUT"
    [.record .VALIDATION record.validationId, .record .PROOF proof.proofId] ports.event

/-- The references to a completed refresh: its plan and its receipt. -/
def refreshedRefs (database : EpochDatabase) (completed : Option RefreshPlan) :
    Mutated (List ArtifactRef) :=
  match completed with
  | none => return []
  | some plan => do
      let missing : ServiceError :=
        .message "Completed RefreshPlan is missing its claimed evidence binding"
      let claimedAttempt ← orStop
        (database.attempts.find? fun a => some a.attemptId = plan.claimedAttemptId) missing
      let claimedAssignment ← orStop
        (database.runAssignments.find? fun a => a.assignmentId = claimedAttempt.assignmentId)
        missing
      return [.record .REFRESH_PLAN plan.refreshPlanId,
        .record .RECEIPT claimedAssignment.receiptId]

/-- `CONSISTENT_DENY`: the session ends, and its diagnostic names the plan and
the receipt of a refresh if there was one. -/
def persistDeny (database : EpochDatabase) (session : EpochSession)
    (result : JointValidity.Result) (refreshPlan : Option RefreshPlan) (ports : ValidationPorts) :
    Mutated EpochDatabase := do
  let record := result.validationRecord
  let completed ← completedPlan database refreshPlan
  let planned := completed.elim database (setFirstRefreshPlan database)
  let planId := completed.map RefreshPlan.refreshPlanId
  let refs ← refreshedRefs database completed
  let denied := validatedSession session record .CONSISTENT_DENY
    (planId.or session.activeRefreshPlanId)
  let appended := appendResult planned result planId
  let diagnosed ← appendDiagnostic (appended.setSession denied) denied
    { kind := .EXPECTED_BLOCK
      stage := .VALIDATE
      reasonCode := .CONSISTENT_DENY
      artifactRefs := .record .VALIDATION record.validationId :: refs
      recommendedAction := .NONE } ports.diagnosticId
  return appendEvent diagnosed denied "VALIDATION" "CONSISTENT_DENY"
    [.record .VALIDATION record.validationId] ports.event

/-- `HISTORICAL_BUT_STALE_NOW`: the session is stale, and no event is recorded
for it. -/
def persistStale (database : EpochDatabase) (session : EpochSession)
    (result : JointValidity.Result) (ports : ValidationPorts) : Mutated EpochDatabase :=
  let record := result.validationRecord
  let stale := validatedSession session record .HISTORICAL_STALE session.activeRefreshPlanId
  appendDiagnostic ((appendResult database result record.refreshPlanId).setSession stale) stale
    { kind := .EXPECTED_BLOCK
      stage := .VALIDATE
      reasonCode := .HISTORICAL_BUT_STALE_NOW
      artifactRefs := [.record .VALIDATION record.validationId]
      recommendedAction := .REOBSERVE_INVALID } ports.diagnosticId

/-- `persistValidation`: validates the stored session and records the outcome,
each in its own way: a permit, a No-Cut with its plan, a denial, or a stale
session. -/
def persistValidation (database : EpochDatabase) (session : EpochSession)
    (refreshPlan : Option RefreshPlan) (ports : ValidationPorts) : Mutated EpochDatabase := do
  let result ← (JointValidity.validateJointValidity database session.sessionId
    (JointValidity.identityResolver database.toWorld) ports.options).mapError .validation
  match result.validationRecord.outcome with
  | .VALID_CURRENT_ALLOW => persistReady database session result refreshPlan ports
  | .NO_VALID_OBSERVED_WORLD_CUT => persistNoCut database session result ports
  | .CONSISTENT_DENY => persistDeny database session result refreshPlan ports
  | .HISTORICAL_BUT_STALE_NOW => persistStale database session result ports
  | .FAILED =>
      let record := result.validationRecord
      let failed := validatedSession session record .FAILED session.activeRefreshPlanId
      return (appendResult database result record.refreshPlanId).setSession failed

/-! ## Failure of a claimed refresh -/

/-- What closing a claimed refresh leaves: the changed store and session, and
the attempt that the diagnostic is about. -/
structure RefreshFailureClosure where
  database : EpochDatabase
  session : EpochSession
  handled : Bool
  attempt : Option AgentAttempt

/-- The attempt that a plan was claimed for and its assignment belong to the
Budget Agent of the session, and the assignment has not been used. -/
def claimedBindingIsValid (session : EpochSession) (attempt : AgentAttempt)
    (assignment : RunAssignment) : Prop :=
  attempt.sessionId = session.sessionId ∧ attempt.actionHash = session.actionHash ∧
    attempt.role = .budget ∧ attempt.agentId = session.frozenAssignments.budget ∧
    assignment.sessionId = session.sessionId ∧ assignment.actionHash = session.actionHash ∧
    assignment.role = .budget ∧ assignment.agentId = attempt.agentId ∧
    assignment.assignmentId = attempt.assignmentId ∧ assignment.boundRunId = attempt.runId ∧
    assignment.consumedByDecisionCertificateId = none ∧ assignment.consumedAt = none

instance (session : EpochSession) (attempt : AgentAttempt) (assignment : RunAssignment) :
    Decidable (claimedBindingIsValid session attempt assignment) :=
  inferInstanceAs (Decidable (_ ∧ _))

/-- The session without attempts at work. -/
def noAttempts (session : EpochSession) : EpochSession :=
  { session with activeAttemptIds := PerRole.const none }

/-- The plan, no longer claimed by an attempt. -/
def invalidated (plan : RefreshPlan) : RefreshPlan :=
  { plan with status := .INVALIDATED, claimedAttemptId := none }

/-- The closure of an attempt and an assignment that are bound to each other
and to the session. -/
def closeBoundRefresh (database : EpochDatabase) (session : EpochSession) (plan : RefreshPlan)
    (attempt : AgentAttempt) (assignment : RunAssignment) (terminalStatus : AttemptState)
    (preserveCompletedAttemptRole : Option Role) : Mutated RefreshFailureClosure := do
  let rejected := database.setAssignment { assignment with status := .REJECTED }
  let parse := fun (a : AgentAttempt) =>
    (require a.parses (.message "Invalid AgentAttempt") : Mutated Unit)
  if preserveCompletedAttemptRole = some attempt.role ∧ attempt.status = .COMPLETED then do
    -- a semantic rejection comes after the Run: its attempt stays as it is
    parse attempt
    return { database := rejected, session, handled := true, attempt := some attempt }
  else do
    let alreadyTerminal := attempt.status = .FAILED || attempt.status = .INTERRUPTED ||
      attempt.status = .OUTPUT_REJECTED
    if alreadyTerminal || attempt.runId.isNone || attempt.runCompletedAt.isSome then do
      let closed := { attempt with
        status := if alreadyTerminal then attempt.status else terminalStatus }
      parse closed
      return { database := rejected.setAttempt closed
               session := { session with
                 activeAttemptIds := ⟨none, some attempt.attemptId, none⟩ }
               handled := true
               attempt := some closed }
    else
      return { database := rejected.setRefreshPlan (invalidated plan)
               session := noAttempts { session with activeRefreshPlanId := none }
               handled := true
               attempt := some attempt }

/-- What a failure of the session does to a claimed refresh: the assignment is
rejected, and the attempt closed if it can be; a claim whose records do not fit
together is dropped. -/
def closeClaimedRefreshFailure (database : EpochDatabase) (session : EpochSession)
    (terminalStatus : AttemptState) (preserveCompletedAttemptRole : Option Role) :
    Mutated RefreshFailureClosure :=
  let unhandled : RefreshFailureClosure :=
    { database, session, handled := false, attempt := none }
  match session.activeRefreshPlanId.bind fun planId =>
      single? database.refreshPlans fun p => p.refreshPlanId = planId with
  | none => return unhandled
  | some plan =>
      if plan.status ≠ .CLAIMED then return unhandled
      else
        let attempt := plan.claimedAttemptId.bind fun attemptId =>
          single? database.attempts fun a => a.attemptId = attemptId
        let assignment := attempt.bind fun a =>
          single? database.runAssignments fun r => r.assignmentId = a.assignmentId
        let unbound : RefreshFailureClosure :=
          { database := database.setRefreshPlan (invalidated plan)
            session := noAttempts { session with
              activeValidationId := none, activeRefreshPlanId := none }
            handled := true
            attempt }
        match attempt, assignment with
        | some attempt, some assignment =>
            if claimedBindingIsValid session attempt assignment then
              closeBoundRefresh database session plan attempt assignment terminalStatus
                preserveCompletedAttemptRole
            else return unbound
        | _, _ => return unbound

/-- A session that failed at a time. -/
def failedSession (session : EpochSession) (timestamp : Timestamp) : EpochSession :=
  { session with
    state := .FAILED
    sessionRevision := session.sessionRevision + 1
    stateUpdatedAt := timestamp
    activePermitId := none }

/-- The session after the closure: without a claimed refresh it has no active
attempts. -/
def RefreshFailureClosure.closedSession (closure : RefreshFailureClosure) : EpochSession :=
  if closure.handled then closure.session else noAttempts closure.session

/-! ## Accepting outputs -/

/-- The identifiers and the times that one `acceptAndValidate` draws. -/
structure AcceptPorts where
  timestamp : Timestamp
  /-- The identifiers of the decision and of the rejected output, for the
  observation at an index. -/
  outputs : Nat → OpaqueId × OpaqueId
  diagnosticId : OpaqueId
  validation : ValidationPorts

section Outputs

variable [OutputPorts]

/-- The outputs of a list of observations, normalized one after another. -/
def normalizeAll (database : EpochDatabase) (ports : AcceptPorts) :
    Nat → List TerminalRunObservation →
      Mutated (EpochDatabase × List DecisionNormalizationResult)
  | _, [] => return (database, [])
  | index, observation :: rest => do
      let (normalized, result) ← (normalizeAndConsumeDecision database
        observation.attempt.attemptId observation.output
        { certificateId := (ports.outputs index).1
          rejectedOutputArtifactId := (ports.outputs index).2
          createdAt := ports.timestamp }).mapError .normalization
      let (final, results) ← normalizeAll normalized ports (index + 1) rest
      return (final, result :: results)

/-- The artifact of a rejected output. -/
def DecisionNormalizationResult.artifact? :
    DecisionNormalizationResult → Option RejectedOutputArtifact
  | .accepted _ => none
  | .outputRejected artifact => some artifact

/-- The session fails on a malformed output, with its artifact. A claimed plan
is closed with it, and the diagnostic names the attempt and the artifact. -/
def closeMalformedOutput (database : EpochDatabase) (session : EpochSession)
    (artifact : RejectedOutputArtifact) (ports : AcceptPorts) : Mutated EpochDatabase := do
  let attempt ← orStop (database.attempts.find? fun a => a.attemptId = artifact.attemptId)
    (.message "Cannot read properties of undefined")
  let closure ← closeClaimedRefreshFailure database (failedSession session ports.timestamp)
    .FAILED none
  let closed := closure.closedSession
  appendDiagnostic (closure.database.setSession closed) closed
    { kind := .SYSTEM_FAILURE
      stage := .PARSE
      reasonCode := .OUTPUT_MALFORMED
      role := some attempt.role
      attemptId := some attempt.attemptId
      assignmentId := some attempt.assignmentId
      runId := attempt.runId
      artifactRefs := attemptRefs attempt ++ [.record .REJECTED_OUTPUT artifact.artifactId]
      rejectedOutputArtifactId := some artifact.artifactId
      recommendedAction := .NEW_SESSION } ports.diagnosticId

/-- The mutation of `acceptAndValidate`: every output is normalized, and the
session fails or is validated. -/
def acceptAndValidate (database : EpochDatabase) (sessionId : OpaqueId)
    (observations : List TerminalRunObservation) (refreshPlan : Option RefreshPlan)
    (ports : AcceptPorts) : Mutated EpochDatabase := do
  let disappeared : ServiceError := .message "Session disappeared before normalization"
  let _ ← orStop (← sessionById database sessionId) disappeared
  let (normalized, results) ← normalizeAll database ports 0 observations
  let session ← orStop (← sessionById normalized sessionId) disappeared
  match results.findSome? DecisionNormalizationResult.artifact? with
  | some artifact => closeMalformedOutput normalized session artifact ports
  | none => do
      let acceptedAttempts ← observations.mapM fun observation =>
        orStop (normalized.attempts.find? fun a =>
          a.attemptId = observation.attempt.attemptId) (.message "Accepted Attempt disappeared")
      let validating := { session with
        coordinationMode := if refreshPlan.isNone then deriveCoordinationMode acceptedAttempts
          else session.coordinationMode
        state := .VALIDATING
        sessionRevision := session.sessionRevision + 1
        stateUpdatedAt := ports.timestamp }
      persistValidation (normalized.setSession validating) validating refreshPlan
        ports.validation

end Outputs

/-! ## The refresh -/

/-- The fresh records of a claim, for a registration read before it. -/
def createClaimArtifacts (registration : RoleAgentRegistration) (runtimeLabel : String)
    (timestamp : Timestamp) (assignmentId receiptId attemptId : OpaqueId)
    (session : EpochSession) (_plan : RefreshPlan) (role : Role) (agentId : OpaqueId) :
    Except String RefreshPlanner.RefreshClaimArtifacts := do
  require (role = registration.role ∧ registration.agentId = agentId)
    "Refresh owner does not match the registered Role Agent"
  let assignment ← newAssignment session role registration runtimeLabel timestamp assignmentId
    receiptId
  return { assignment, attempt := initialAttemptForAssignment assignment attemptId }

/-- The mutation of `captureRefreshObservation`: at the head that the fixture
asks for, the claimed assignment gets its receipt and its pack. -/
def captureRefreshObservation (database : EpochDatabase) (fixture : EpochGuardFixture)
    (assignmentId : OpaqueId) (nonce : String) (issuedAt : Timestamp) :
    Mutated EpochDatabase := do
  let capture ← orStop fixture.refreshCapture (.message "Fixture has no refresh capture")
  require (database.headSeq = capture.expectedHeadSeq)
    (.message "World head changed before the explicit refresh capture")
  let mismatched : ServiceError :=
    .message "Refresh Assignment does not match the fixture capture"
  let assignment ← orStop
    (database.runAssignments.find? fun a => a.assignmentId = assignmentId) mismatched
  let session ← orStop (← sessionById database assignment.sessionId) mismatched
  require (assignment.role = capture.role) mismatched
  (issueAndPack database session.action assignment (fixture.querySpec capture.role) nonce
    issuedAt).mapError .message

/-! ## Closing a session -/

/-- The identifiers and the time that one `failSession` draws. -/
structure FailPorts where
  timestamp : Timestamp
  diagnosticId : OpaqueId
  event : EventStamp

/-- The attempt of a Run adapter's error, as it is stored if it is. -/
def adapterAttempt (database : EpochDatabase) : ServiceError → Option AgentAttempt
  | .run (.adapter _ _ (some attempt)) =>
      some ((database.attempts.find? fun a => a.attemptId = attempt.attemptId).getD attempt)
  | _ => none

/-- The reason that the diagnostic of an error names. -/
def failureReason : ServiceError → FailureCode
  | .validation error => error.reasonCode
  | .run (.adapter code _ _) => code
  | _ => .RUN_FAILED

/-- The stage that the diagnostic of an error names: the Run's, if the attempt
proves that a Run ended badly. -/
def failureStage (error : ServiceError) (attempt : Option AgentAttempt) : DiagnosticStage :=
  match error with
  | .validation _ => .VALIDATE
  | _ =>
      if attempt.any fun a => a.runId.isSome && (a.status = .FAILED || a.status = .INTERRUPTED) &&
          a.runCompletedAt.isSome then .RUN
      else .DISPATCH

/-- The mutation of `failSession`; a session that is gone or terminal stays as
it is. -/
def failSession (database : EpochDatabase) (sessionId : OpaqueId) (error : ServiceError)
    (ports : FailPorts) : Mutated EpochDatabase := do
  match ← sessionById database sessionId with
  | none => return database
  | some session =>
      if isTerminalSession session.state then return database
      else do
        let preserved := match error with
          | .validation e => e.mismatchedRole
          | _ => none
        let closure ← closeClaimedRefreshFailure database
          (failedSession session ports.timestamp) .FAILED preserved
        let closed := closure.closedSession
        let attempt := closure.attempt.or (adapterAttempt closure.database error)
        let diagnosed ← appendDiagnostic (closure.database.setSession closed) closed
          { kind := .SYSTEM_FAILURE
            stage := failureStage error attempt
            reasonCode := failureReason error
            role := attempt.map AgentAttempt.role
            attemptId := attempt.map AgentAttempt.attemptId
            assignmentId := attempt.map AgentAttempt.assignmentId
            runId := attempt.bind AgentAttempt.runId
            artifactRefs := attempt.elim [] attemptRefs
            recommendedAction := .NEW_SESSION } ports.diagnosticId
        return appendEvent diagnosed closed "SESSION_STATE" "FAILED" [] ports.event

/-! ## Recovery after a restart -/

/-- The statuses of an attempt whose Run has ended. -/
def isTerminalAttemptState (status : AttemptState) : Bool :=
  status = .COMPLETED || status = .FAILED || status = .INTERRUPTED ||
    status = .OUTPUT_REJECTED || status = .ACCEPTED

/-- The assignment of an active attempt after the restart. -/
def recoverAssignment (assignment : RunAssignment) (attempt : AgentAttempt) :
    Mutated RunAssignment := do
  let unconsumed := assignment.consumedByDecisionCertificateId.isNone &&
    assignment.consumedAt.isNone
  let consumed := assignment.consumedByDecisionCertificateId.isSome &&
    assignment.consumedAt.isSome
  match assignment.status with
  | .CREATED => do
      require (unconsumed = true ∧ assignment.boundRunId = none ∧ assignment.boundAt = none)
        (.message "Created active Assignment has an invalid timeline")
      return { assignment with status := .REJECTED }
  | .BOUND => do
      require (unconsumed = true ∧ assignment.boundRunId ≠ none ∧ assignment.boundAt ≠ none)
        (.message "Bound active Assignment has an invalid timeline")
      return { assignment with status := .REJECTED }
  | .CONSUMED => do
      require (consumed = true ∧ assignment.boundRunId ≠ none ∧ assignment.boundAt ≠ none ∧
          attempt.status = .ACCEPTED)
        (.message "Consumed active Assignment is not backed by acceptance")
      return assignment
  | .REJECTED => do
      require (unconsumed = true ∧ assignment.boundRunId.isNone = assignment.boundAt.isNone)
        (.message "Rejected active Assignment has an invalid timeline")
      return assignment

/-- The active attempt after the restart; its end is not before its start even
if the clock went back. -/
def interruptedAttempt (attempt : AgentAttempt) (timestamp : Timestamp) : AgentAttempt :=
  if isTerminalAttemptState attempt.status then attempt
  else
    { attempt with
      status := .INTERRUPTED
      runCompletedAt := if attempt.runId.isNone then attempt.runCompletedAt
        else match attempt.runStartedAt with
          | some startedAt => if timestamp.millis < startedAt.millis then some startedAt
              else some timestamp
          | none => some timestamp }

/-- The attempt that a role had at work is interrupted, and its assignment
rejected unless a decision has used it. Records that do not fit together stop
the start. -/
def recoverActiveAttempt (database : EpochDatabase) (session : EpochSession)
    (timestamp : Timestamp) (role : Role) : Mutated EpochDatabase :=
  match session.activeAttemptIds.get role with
  | none => return database
  | some attemptId => do
      let expectedAgentId := session.frozenAssignments.get role
      let attempt ← orStop (single? database.attempts fun a => a.attemptId = attemptId)
        (.message "In-flight Session active Attempt is missing or duplicated")
      require (attempt.sessionId = session.sessionId ∧ attempt.actionHash = session.actionHash ∧
          attempt.role = role ∧ attempt.agentId = expectedAgentId)
        (.message "In-flight Session active Attempt binding is invalid")
      let assignment ← orStop
        (single? database.runAssignments fun a => a.assignmentId = attempt.assignmentId)
        (.message "In-flight Session active Assignment is missing or duplicated")
      require (assignment.sessionId = session.sessionId ∧
          assignment.actionHash = session.actionHash ∧ assignment.role = role ∧
          assignment.agentId = expectedAgentId ∧ assignment.boundRunId = attempt.runId)
        (.message "In-flight Session active Assignment binding is invalid")
      let recovered ← recoverAssignment assignment attempt
      let interrupted := interruptedAttempt attempt timestamp
      require interrupted.parses (.message "Invalid AgentAttempt")
      return (database.setAssignment recovered).setAttempt interrupted

/-- The validation that the session names is its own. -/
def recoverValidation (database : EpochDatabase) (session : EpochSession) : Mutated Unit :=
  match session.activeValidationId with
  | none => return ()
  | some validationId =>
      require ((single? database.validations fun v => v.validationId = validationId).any
          (fun v => v.sessionId = session.sessionId && v.actionHash = session.actionHash) = true)
        (.message "In-flight Session active Validation binding is invalid")

/-- The claim of an interrupted refresh is dropped; a plan in any other state
must be a completed one. -/
def recoverRefreshPlan (database : EpochDatabase) (session : EpochSession)
    (referencedAttemptIds : List OpaqueId) : Mutated EpochDatabase :=
  match session.activeRefreshPlanId with
  | none => do
      require (session.state ≠ .REOBSERVING)
        (.message "REOBSERVING Session has no active RefreshPlan")
      return database
  | some planId => do
      let unbound : ServiceError :=
        .message "In-flight Session active RefreshPlan binding is invalid"
      let plan ← orStop (single? database.refreshPlans fun p => p.refreshPlanId = planId) unbound
      require (plan.sessionId = session.sessionId) unbound
      if plan.status = .CLAIMED then do
        require ((session.state = .REOBSERVING ∨ session.state = .COLLECTING) ∧
            ∃ attemptId ∈ plan.claimedAttemptId, attemptId ∈ referencedAttemptIds)
          (.message "In-flight Session CLAIMED RefreshPlan ownership is invalid")
        return database.setRefreshPlan (invalidated plan)
      else do
        require (plan.status = .COMPLETED ∧
            (session.state = .VALIDATING ∨ session.state = .COMMITTING))
          (.message "In-flight Session active RefreshPlan state/status is invalid")
        return database

/-- The permit of an interrupted commit is withdrawn. -/
def recoverPermit (database : EpochDatabase) (session : EpochSession) : Mutated EpochDatabase :=
  match session.activePermitId with
  | none => do
      require (session.state ≠ .COMMITTING)
        (.message "COMMITTING Session has no active Permit")
      return database
  | some permitId => do
      let unbound : ServiceError :=
        .message "In-flight Session active Permit binding is invalid"
      let permit ← orStop (single? database.permits fun p => p.permitId = permitId) unbound
      require (permit.sessionId = session.sessionId ∧ permit.actionHash = session.actionHash)
        unbound
      require (permit.status = .ISSUED)
        (.message "In-flight Session active Permit is not ISSUED")
      require (session.state = .COMMITTING)
        (.message "In-flight Session active Permit is restricted to COMMITTING")
      return database.setPermit { permit with status := .REVOKED, consumedAt := none }

/-- The identifiers that the recovery of one session draws. -/
structure RecoveryIds where
  diagnosticId : OpaqueId
  event : EventStamp

/-- The session with everything active taken from it. -/
def interruptedSession (session : EpochSession) (timestamp : Timestamp) : EpochSession :=
  { session with
    activeAttemptIds := PerRole.const none
    activeValidationId := none
    activeRefreshPlanId := none
    activePermitId := none
    state := .INTERRUPTED
    sessionRevision := session.sessionRevision + 1
    stateUpdatedAt := timestamp }

/-- Closes a session that a restart found in flight. Its attempts, its
assignments, its plan and its permit are closed first, then the session itself,
and a diagnostic and an event say so. -/
def recoverInFlightSession (database : EpochDatabase) (session : EpochSession)
    (timestamp : Timestamp) (ids : RecoveryIds) : Mutated EpochDatabase := do
  let referencedAttemptIds := session.activeAttemptIds.toList.filterMap id
  require referencedAttemptIds.Nodup
    (.message "In-flight Session references a duplicate active Attempt")
  let attempted ← ROLES.foldlM
    (fun db role => recoverActiveAttempt db session timestamp role) database
  recoverValidation attempted session
  let planned ← recoverRefreshPlan attempted session referencedAttemptIds
  let permitted ← recoverPermit planned session
  let interrupted := interruptedSession session timestamp
  let diagnosed ← appendDiagnostic (permitted.setSession interrupted) interrupted
    { kind := .SYSTEM_FAILURE
      stage := .DISPATCH
      reasonCode := .RUN_FAILED
      artifactRefs := []
      recommendedAction := .NEW_SESSION } ids.diagnosticId
  return appendEvent diagnosed interrupted "SESSION_STATE" "INTERRUPTED" [] ids.event

/-- The mutation of `initialize`: every session in flight is closed. -/
def recoverSessions (database : EpochDatabase) (timestamp : Timestamp)
    (ids : OpaqueId → RecoveryIds) : Mutated EpochDatabase :=
  (database.sessions.filter fun s => isInFlightSession s.state).foldlM
    (fun db session => recoverInFlightSession db session timestamp (ids session.sessionId))
    database

/-! ## Commit races, resets and registrations -/

/-- The identifiers that the record of one race draws. -/
structure RacePorts where
  diagnosticId : OpaqueId
  event : EventStamp

/-- Permits by the time of issue, the latest first. -/
def issuedLater (left right : EffectPermit) : Prop := ¬ left.issuedAt.text < right.issuedAt.text

instance : DecidableRel issuedLater := fun _ _ => inferInstanceAs (Decidable (¬ _))

/-- What the records of a race refer to. -/
def raceRefs (validation : ValidationRecord) (permit : EffectPermit) : List ArtifactRef :=
  [.record .VALIDATION validation.validationId, .record .PERMIT permit.permitId]

/-- The mutation of `recordCommitRace`: the event and the diagnostic of the
race, each at most once. -/
def recordCommitRace (database : EpochDatabase) (sessionId : OpaqueId) (ports : RacePorts) :
    Mutated EpochDatabase := do
  match ← sessionById database sessionId with
  | none => return database
  | some session =>
      if session.state ≠ .COMMIT_RACE then return database
      else
        let validation := database.validations.find? fun v =>
          some v.validationId = session.activeValidationId
        let permit := ((database.permits.filter fun p => p.sessionId = sessionId).insertionSort
          issuedLater).head?
        match validation, permit with
        | some validation, some permit => do
            let refs := raceRefs validation permit
            let hasRaceEvent := database.auditEvents.any fun e =>
              e.sessionId = sessionId && e.sessionRevision = session.sessionRevision &&
                e.type = "SESSION_STATE" && e.status = "COMMIT_RACE"
            let recorded := if hasRaceEvent then database
              else appendEvent database session "SESSION_STATE" "COMMIT_RACE" refs ports.event
            let hasRaceDiagnostic := recorded.diagnostics.any fun d =>
              d.sessionId = sessionId && d.sessionRevision = session.sessionRevision &&
                d.kind = .TRANSIENT_RACE && d.stage = .COMMIT && d.reasonCode = .COMMIT_RACE
            if hasRaceDiagnostic then return recorded
            else
              appendDiagnostic recorded session
                { kind := .TRANSIENT_RACE
                  stage := .COMMIT
                  reasonCode := .COMMIT_RACE
                  artifactRefs := refs
                  recommendedAction := .NONE } ports.diagnosticId
        | _, _ => return database

/-- The mutation of `resetDemo`; the registrations stay. A session whose
background task still runs counts as active. The source finds the session that
the error names with `localeCompare`, the model by code units, which is the same
order on the identifiers that `randomUUID` draws. -/
def resetDemo (database : EpochDatabase) (backgroundSessionIds : List OpaqueId) :
    Mutated EpochDatabase := do
  let active := database.sessions.filter fun s =>
    backgroundSessionIds.contains s.sessionId || !isTerminalSession s.state
  match (JointValidity.sortIds (active.map EpochSession.sessionId)).head? with
  | some sessionId => throw (.agentsBusy sessionId)
  | none => return { emptyEpochDatabase with
      snapshotRevision := database.snapshotRevision
      roleAgentRegistrations := database.roleAgentRegistrations }

/-- The mutation of `initializeRoleAgents` for one role, with the checks of
`checkedRegistrations`. -/
def registerRole (database : EpochDatabase) (registration : RoleAgentRegistration) :
    Mutated EpochDatabase := do
  let checked := database.roleAgentRegistrations
  require ((checked.map RoleAgentRegistration.role).Nodup ∧
      (checked.map RoleAgentRegistration.agentId).Nodup)
    (.roleProfileMismatch registration.role)
  require (∀ r ∈ checked, r.role ≠ registration.role ∧ r.agentId ≠ registration.agentId)
    (.roleProfileMismatch registration.role)
  return { database with roleAgentRegistrations := checked ++ [registration] }

end Sessions

end Service

end EpochGuard
