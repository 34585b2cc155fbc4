import EpochGuard.EffectGate

/-!
# The refresh planner

`refresh-planner.ts`: the plan that names the one owner whose receipt misses
the World head, and the store mutation that claims it.
-/

namespace EpochGuard

open Json Checked

namespace RefreshPlanner

open EffectGate (WorldPort)

/-- The interval of a receipt, with the Agent that observed it and would observe
it again. -/
structure RefreshEvidenceInterval where
  agentId : OpaqueId
  receiptId : OpaqueId
  bounds : HalfOpen

/-- A thrown error, after the planner's common prefix. -/
abbrev Planned := Except String

/-- The active decisions of a session, one for each role in the order of the
roles. -/
def orderedActiveDecisionIds (session : EpochSession) : Planned (PerRole OpaqueId) :=
  orStop session.activeDecisionCertificateIds.all? "all three active Decision IDs are required"

/-- The role that an Agent is frozen for in a session. -/
def roleForAgent (session : EpochSession) (agentId : OpaqueId) : Planned Role :=
  orStop (single? ROLES fun role => session.frozenAssignments.get role = agentId)
    "RefreshPlan owner must map to exactly one frozen Role"

/-- The owners whose interval misses a head, for one interval for each role. -/
def refreshSet (head : Nat) (evidence : PerRole RefreshEvidenceInterval) :
    Planned (List OpaqueId) := do
  require (head ≤ maxSafeInteger) "head must be a non-negative safe integer"
  require (evidence.map RefreshEvidenceInterval.agentId).Distinct
    "each Role must have a distinct Agent owner"
  require (∀ role, (evidence.get role).bounds.start ≤ maxSafeInteger)
    "interval start must be a non-negative safe integer"
  require (∀ role, ∀ u ∈ (evidence.get role).bounds.stop,
      u ≤ maxSafeInteger ∧ (evidence.get role).bounds.start < u)
    "finite interval end must be greater than its start"
  return (evidence.toList.filter fun e => head ∉ e.bounds).map RefreshEvidenceInterval.agentId

/-- The one owner that a plan may have so far is the Agent of the budget. -/
def requireP0BudgetOwner (session : EpochSession) (agentIds : List OpaqueId) :
    Planned OpaqueId := do
  require (agentIds = [session.frozenAssignments.budget])
    ("P0 supports exactly one Budget refresh owner; other or multi-owner claim/bind " ++
      "requires a future contract upgrade")
  return session.frozenAssignments.budget

@[simp] theorem requireP0BudgetOwner_eq_ok {session : EpochSession} {agentIds : List OpaqueId}
    {agentId : OpaqueId} :
    requireP0BudgetOwner session agentIds = .ok agentId ↔
      agentIds = [session.frozenAssignments.budget] ∧
        session.frozenAssignments.budget = agentId := by
  simp [requireP0BudgetOwner]

section Build

variable [Sha256]

/-- The blocked session and its current No-Cut validation. A session that is
blocked for another reason, or whose validation is of an older head, has no
plan. -/
def requireBlockedValidation (database : EpochDatabase) (sessionId refreshPlanId : OpaqueId) :
    Planned (EpochSession × ValidationRecord) := do
  let session ← orStop (single? database.sessions fun s => s.sessionId = sessionId)
    "Session ID must resolve exactly once"
  require (session.state ≠ .HISTORICAL_STALE)
    ("P0 cannot close HISTORICAL_STALE refresh provenance; a future contract upgrade is " ++
      "required")
  require (session.state = .BLOCKED_NO_CUT)
    "P0 only plans refresh for BLOCKED_NO_CUT Sessions"
  let notBlocked :=
    "blocked Session must have one active Validation and no Permit or in-flight Attempt"
  let activeValidationId ← orStop session.activeValidationId notBlocked
  require (session.activePermitId = none ∧ session.activeAttemptIds = PerRole.const none)
    notBlocked
  let validation ← orStop
    (single? database.validations fun v => v.validationId = activeValidationId)
    "active Validation must resolve exactly once"
  require (validation.outcome = .NO_VALID_OBSERVED_WORLD_CUT ∧ validation.noCutProofId ≠ none ∧
      validation.jointValidityCertificateId = none ∧
      validation.validatedHead = database.headSeq)
    "P0 requires a current NO_VALID_OBSERVED_WORLD_CUT Validation"
  require (validation.sessionId = session.sessionId ∧
      validation.actionHash = session.actionHash)
    "Session and active Validation bindings do not match"
  require (∀ p ∈ validation.refreshPlanId, p = refreshPlanId)
    "Validation is already bound to another RefreshPlan"
  require (∀ p ∈ session.activeRefreshPlanId, p = refreshPlanId)
    "Session is already bound to another RefreshPlan"
  return (session, validation)

/-- The receipt of one active decision and the interval of its version. -/
def requireEvidence (database : EpochDatabase) (world : WorldPort) (session : EpochSession)
    (validation : ValidationRecord) (activeDecisionIds : PerRole OpaqueId) (role : Role) :
    Planned RefreshEvidenceInterval := do
  let active := "active " ++ role.name
  let decision ← orStop
    (single? database.decisions fun d => d.certificateId = activeDecisionIds.get role)
    (active ++ " Decision must resolve exactly once")
  require (decision.status = .ACTIVE ∧ decision.supersededByCertificateId = none ∧
      decision.sessionId = session.sessionId ∧ decision.actionHash = session.actionHash ∧
      decision.role = role)
    (active ++ " Decision binding is invalid")
  let owner ← roleForAgent session decision.agentId
  require (owner = role) (active ++ " Decision binding is invalid")
  let receipt ← orStop (single? database.receipts fun r => r.receiptId = decision.receiptId)
    (active ++ " Receipt must resolve exactly once")
  require (receipt.sessionId = session.sessionId ∧ receipt.actionHash = session.actionHash ∧
      receipt.agentId = decision.agentId ∧
      receipt.runAssignmentId = decision.runAssignmentId ∧ receipt.role = role ∧
      receipt.source = role ∧ receipt.observedAtSeq ≤ validation.validatedHead)
    (active ++ " Receipt binding is invalid")
  let unresolved := active ++ " Receipt history must resolve authoritatively"
  let version ← orStop (← world database.toWorld receipt) unresolved
  require version.parses unresolved
  require (version.sourceRevision = receipt.sourceRevision ∧
      version.valueHash = receipt.valueHash ∧ version.Verified ∧
      receipt.observedAtSeq ∈ version.interval)
    (active ++ " Receipt history is invalid")
  return { agentId := decision.agentId, receiptId := decision.receiptId,
           bounds := version.interval }

/-- The end of an interval, an open one read as the sequence after the head. -/
def effectiveUntil (validation : ValidationRecord) (interval : RefreshEvidenceInterval) : Nat :=
  interval.bounds.stop.getD (validation.validatedHead + 1)

/-- The least receipt identifier among the intervals with a property. -/
def leastReceiptId (evidence : PerRole RefreshEvidenceInterval)
    (p : RefreshEvidenceInterval → Bool) : Option OpaqueId :=
  (JointValidity.sortIds
    ((evidence.toList.filter p).map RefreshEvidenceInterval.receiptId)).head?

/-- The stored proof is the one that the evidence gives. -/
def proofCloses (session : EpochSession) (validation : ValidationRecord)
    (activeDecisionIds : PerRole OpaqueId) (dependencySetHash : Sha256Digest)
    (evidence : PerRole RefreshEvidenceInterval) (proof : NoCutProof) : Prop :=
  let lowerBound := (evidence.map fun e => e.bounds.start).greatest
  let upperBound := (evidence.map (effectiveUntil validation)).least
  let latestStartingReceiptId := leastReceiptId evidence fun e => e.bounds.start = lowerBound
  let earliestEndingReceiptId :=
    leastReceiptId evidence fun e => effectiveUntil validation e = upperBound
  let witnesses := [proof.conflictWitnessReceiptIds.1, proof.conflictWitnessReceiptIds.2]
  proof.validationId = validation.validationId ∧ proof.sessionId = session.sessionId ∧
    proof.actionHash = session.actionHash ∧ proof.dependencySetHash = dependencySetHash ∧
    proof.validatedAtHead = validation.validatedHead ∧ proof.lowerBound = lowerBound ∧
    proof.upperBound = upperBound ∧ validation.lowerBound = some lowerBound ∧
    validation.upperBound = some upperBound ∧ upperBound ≤ lowerBound ∧
    proof.decisionCertificateIds = activeDecisionIds ∧
    some proof.latestStartingReceiptId = latestStartingReceiptId ∧
    some proof.earliestEndingReceiptId = earliestEndingReceiptId ∧
    proof.latestStartingReceiptId ≠ proof.earliestEndingReceiptId ∧ witnesses.Nodup ∧
    proof.earliestEndingReceiptId ∈ witnesses ∧ proof.latestStartingReceiptId ∈ witnesses

instance (session : EpochSession) (validation : ValidationRecord)
    (activeDecisionIds : PerRole OpaqueId) (dependencySetHash : Sha256Digest)
    (evidence : PerRole RefreshEvidenceInterval) (proof : NoCutProof) :
    Decidable
      (proofCloses session validation activeDecisionIds dependencySetHash evidence proof) :=
  inferInstanceAs (Decidable (_ ∧ _))

/-- Builds, but does not store, the plan for the one owner of a No-Cut. The
owners are computed again from the versions of the World, and the proof must
have found the same. -/
def buildRefreshPlan (database : EpochDatabase) (world : WorldPort)
    (sessionId refreshPlanId : OpaqueId) : Planned RefreshPlan := do
  let (session, validation) ← requireBlockedValidation database sessionId refreshPlanId
  let activeDecisionCertificateIds ← orderedActiveDecisionIds session
  require (activeDecisionCertificateIds = validation.decisionCertificateIds)
    "Validation is not frozen to the active Decision tuple"
  let evidence ← PerRole.mapRoles
    (requireEvidence database world session validation activeDecisionCertificateIds)
  let receiptIds := evidence.map RefreshEvidenceInterval.receiptId
  require receiptIds.Distinct "active Decisions must bind three distinct Receipts"
  let dependencySetHash := EffectGate.snapshotReceiptDependencySetHash receiptIds.toList
  require (dependencySetHash = validation.dependencySetHash)
    "Validation dependency set is not derived from active Decisions"
  let proof ← orStop
    (single? database.noCutProofs fun p => some p.proofId = validation.noCutProofId)
    "Validation NoCutProof must resolve exactly once"
  require (proofCloses session validation activeDecisionCertificateIds dependencySetHash evidence
      proof)
    "NoCutProof does not close over the current Validation and active dependency set"
  let _ ← requireP0BudgetOwner session proof.refreshAgentIds
  let agentIds ← refreshSet validation.validatedHead evidence
  let _ ← requireP0BudgetOwner session agentIds
  require (proof.refreshAgentIds = agentIds)
    "NoCutProof refresh owners do not match authoritative Receipt intervals"
  return { refreshPlanId
           sessionId := session.sessionId
           baseSessionRevision := session.sessionRevision
           validatedHead := validation.validatedHead
           dependencySetHash
           activeDecisionCertificateIds
           agentIds
           status := .AVAILABLE
           claimedAttemptId := none }

/-! ## Claiming -/

/-- The validation that the session holds is the one that the plan was built
from. -/
def activeValidationBindsPlan (database : EpochDatabase) (session : EpochSession)
    (plan : RefreshPlan) : Bool :=
  (single? database.validations fun v =>
      some v.validationId = session.activeValidationId).any fun validation =>
    validation.sessionId = session.sessionId &&
      validation.refreshPlanId = some plan.refreshPlanId &&
      validation.baseSessionRevision + 1 = plan.baseSessionRevision

/-- The fields of a plan that are fixed when it is built. -/
def samePlan (plan authoritative : RefreshPlan) : Prop :=
  plan.baseSessionRevision = authoritative.baseSessionRevision ∧
    plan.validatedHead = authoritative.validatedHead ∧
    plan.dependencySetHash = authoritative.dependencySetHash ∧
    plan.activeDecisionCertificateIds = authoritative.activeDecisionCertificateIds ∧
    plan.agentIds = authoritative.agentIds

instance : DecidableRel samePlan := fun _ _ => inferInstanceAs (Decidable (_ ∧ _))

/-- Whether the plan could be built again as it is. -/
def planStillMatches (database : EpochDatabase) (session : EpochSession) (plan : RefreshPlan)
    (world : WorldPort) : Bool :=
  plan.status = .AVAILABLE && plan.claimedAttemptId.isNone &&
    activeValidationBindsPlan database session plan &&
    match buildRefreshPlan database world session.sessionId plan.refreshPlanId with
    | .ok authoritative => plan.sessionId = authoritative.sessionId && samePlan plan authoritative
    | .error _ => false

/-- What a claim adds to the store, as a factory of the caller makes it. -/
structure RefreshClaimArtifacts where
  assignment : RunAssignment
  attempt : AgentAttempt

/-- The assignment and the attempt of a claim are fresh, and they belong to the
session, to the owner of the plan and to each other. -/
def assertClaimArtifacts (database : EpochDatabase) (session : EpochSession) (role : Role)
    (agentId : OpaqueId) (artifacts : RefreshClaimArtifacts) : Planned Unit := do
  let { assignment, attempt } := artifacts
  require attempt.parses "Invalid AgentAttempt"
  let expectedQuery := buildRoleQuerySpec session.action.toActionCanonicalFields role
  require (assignment.sessionId = session.sessionId ∧
      assignment.actionHash = session.actionHash ∧ assignment.agentId = agentId ∧
      assignment.role = role ∧ assignment.status = .CREATED ∧
      assignment.queryHash = expectedQuery.queryHash ∧ assignment.boundRunId = none ∧
      assignment.boundAt = none ∧ assignment.consumedAt = none ∧
      assignment.consumedByDecisionCertificateId = none)
    "claim factory returned an invalid fresh Assignment"
  require (attempt.sessionId = session.sessionId ∧ attempt.actionHash = session.actionHash ∧
      attempt.agentId = agentId ∧ attempt.role = role ∧
      attempt.assignmentId = assignment.assignmentId ∧ attempt.status = .ASSIGNMENT_CREATED ∧
      attempt.runId = none ∧ attempt.runStartedAt = none ∧ attempt.runCompletedAt = none)
    "claim factory returned an invalid fresh Attempt"
  require ((∀ a ∈ database.runAssignments, a.assignmentId ≠ assignment.assignmentId ∧
        a.receiptId ≠ assignment.receiptId) ∧
      (∀ r ∈ database.receipts, r.receiptId ≠ assignment.receiptId) ∧
      ∀ t ∈ database.attempts, t.attemptId ≠ attempt.attemptId)
    "claim factory reused an Assignment or Attempt ID"

/-- The session as it was when its plan was built. -/
def planningSession (session : EpochSession) (plan : RefreshPlan) : EpochSession :=
  { session with
    state := .BLOCKED_NO_CUT
    sessionRevision := plan.baseSessionRevision
    activeAttemptIds := PerRole.const none }

/-- What the claimed attempt and its assignment look like, while the session is
in flight and after it has failed. -/
def claimedLifecycleMatches (inFlight : Bool) (attempt : AgentAttempt)
    (assignment : RunAssignment) : Prop :=
  (if inFlight then
    attempt.status = .ASSIGNMENT_CREATED ∨ attempt.status = .DISPATCHING ∨
      attempt.status = .QUEUED ∨ attempt.status = .RUNNING
  else
    attempt.status = .FAILED ∨ attempt.status = .INTERRUPTED ∨
      attempt.status = .OUTPUT_REJECTED) ∧
    ((assignment.boundRunId = none ∧ assignment.boundAt = none ∧ attempt.runId = none ∧
        (assignment.status = .CREATED ∨ inFlight = false ∧ assignment.status = .REJECTED)) ∨
      (assignment.boundRunId ≠ none ∧ assignment.boundAt ≠ none ∧
        attempt.runId = assignment.boundRunId ∧
        (assignment.status = .BOUND ∨ inFlight = false ∧ assignment.status = .REJECTED)))

instance (inFlight : Bool) (attempt : AgentAttempt) (assignment : RunAssignment) :
    Decidable (claimedLifecycleMatches inFlight attempt assignment) :=
  inferInstanceAs (Decidable (_ ∧ _))

/-- The attempt that a claimed plan closes over. The plan is built again from
the session as it was before the claim, and must come out the same; any failure
on the way is an error of the claim, and no answer to it. -/
def assertClaimedPlanClosure (database : EpochDatabase) (session : EpochSession)
    (plan : RefreshPlan) (agentId : OpaqueId) (world : WorldPort) : Planned OpaqueId := do
  let inFlight := session.state = .REOBSERVING || session.state = .COLLECTING
  let terminal := session.state = .FAILED || session.state = .INTERRUPTED
  let notClosed := "CLAIMED RefreshPlan does not close over an allowed Session state, active " ++
    "pointers, and post-CAS revision"
  let claimedAttemptId ← orStop plan.claimedAttemptId notClosed
  require (plan.status = .CLAIMED ∧ plan.sessionId = session.sessionId ∧
      (inFlight || terminal) = true ∧ plan.baseSessionRevision < session.sessionRevision ∧
      session.activeRefreshPlanId = some plan.refreshPlanId ∧ session.activePermitId = none ∧
      session.activeAttemptIds = ⟨none, some claimedAttemptId, none⟩ ∧
      database.headSeq = plan.validatedHead ∧
      activeValidationBindsPlan database session plan = true) notClosed
  let planningSessions := database.sessions.filter fun s => s.sessionId = session.sessionId
  require (planningSessions.length = 1)
    "CLAIMED RefreshPlan Session must resolve exactly once"
  let authoritative ← buildRefreshPlan (database.setSession (planningSession session plan)) world
    session.sessionId plan.refreshPlanId
  require (samePlan plan authoritative)
    ("CLAIMED RefreshPlan no longer matches its frozen head, dependency, Decisions, or " ++
      "NoCutProof")
  let attempt ← orStop (single? database.attempts fun a => a.attemptId = claimedAttemptId)
    "CLAIMED RefreshPlan must resolve exactly one Attempt"
  require attempt.parses "Invalid AgentAttempt"
  let assignment ← orStop
    (single? database.runAssignments fun a => a.assignmentId = attempt.assignmentId)
    "claimed Attempt must resolve exactly one Assignment"
  let assignmentAttempts :=
    database.attempts.filter fun a => a.assignmentId = assignment.assignmentId
  require (assignmentAttempts.length = 1 ∧ attempt.sessionId = session.sessionId ∧
      attempt.actionHash = session.actionHash ∧ attempt.role = .budget ∧
      attempt.agentId = agentId ∧ assignment.sessionId = session.sessionId ∧
      assignment.actionHash = session.actionHash ∧ assignment.role = .budget ∧
      assignment.agentId = agentId ∧
      assignment.queryHash =
        (buildRoleQuerySpec session.action.toActionCanonicalFields .budget).queryHash ∧
      assignment.consumedAt = none ∧ assignment.consumedByDecisionCertificateId = none ∧
      claimedLifecycleMatches inFlight attempt assignment)
    ("CLAIMED RefreshPlan Attempt/Assignment lifecycle, owner, or Run binding is invalid " ++
      "for the Session state")
  return attempt.attemptId

/-- The answer to a second request for a plan that an attempt is at work on. -/
structure AlreadyReobservingErrorBody where
  sessionId : OpaqueId
  refreshPlanId : OpaqueId
  attemptId : OpaqueId
deriving DecidableEq

/-- How a request to refresh ends. Only the first of the four starts an attempt.
-/
inductive ClaimRefreshPlanResult where
  | CLAIMED (role : Role) (agentId : OpaqueId) (plan : RefreshPlan) (assignment : RunAssignment)
      (attempt : AgentAttempt)
  | ALREADY_REOBSERVING (error : AlreadyReobservingErrorBody)
  | STALE_VIEW (error : StaleViewErrorBody)
  | INVALIDATED (refreshPlanId : OpaqueId) (actualSessionRevision : Nat)
deriving DecidableEq

/-- A mutation that stops has a result (`AbortRefreshClaim`) or throws. -/
inductive Stop where
  | abort (result : ClaimRefreshPlanResult)
  | thrown (message : String)
deriving DecidableEq

abbrev Claim := Except Stop

/-- A request to refresh: the revision and the plan that the caller has seen. -/
structure RefreshSessionRequest where
  expectedSessionRevision : Nat
  refreshPlanId : OpaqueId
deriving DecidableEq

/-- The only plan of a session, if the request names it. -/
def requirePlan (database : EpochDatabase) (session : EpochSession)
    (request : RefreshSessionRequest) : Claim RefreshPlan := do
  let sessionPlans := database.refreshPlans.filter fun p => p.sessionId = session.sessionId
  let matchingPlans := sessionPlans.filter fun p => p.refreshPlanId = request.refreshPlanId
  require (matchingPlans ≠ []) (.thrown "RefreshPlan does not exist for this Session")
  let plan ← orStop (only? matchingPlans) (.thrown "RefreshPlan ID must resolve exactly once")
  require (sessionPlans.length = 1)
    (.thrown "P0 supports only one explicit Budget RefreshPlan per Session")
  return plan

/-- A plan that no longer holds takes its session with it: the session ends as
an unstable world. -/
def invalidatePlan (database : EpochDatabase) (session : EpochSession) (plan : RefreshPlan)
    (timestamp : Timestamp) : EpochDatabase :=
  (database.setRefreshPlan
      { plan with status := .INVALIDATED, claimedAttemptId := none }).setSession
    { session with
      activeRefreshPlanId := none
      activePermitId := none
      state := .UNSTABLE_WORLD
      sessionRevision := session.sessionRevision + 1
      stateUpdatedAt := timestamp }

/-- A plan after its claim, which names the attempt. -/
def claimedPlan (plan : RefreshPlan) (attempt : AgentAttempt) : RefreshPlan :=
  { plan with status := .CLAIMED, claimedAttemptId := some attempt.attemptId }

/-- The store after a claim: a fresh assignment and attempt, which the plan and
the session name. -/
def recordClaim (database : EpochDatabase) (session : EpochSession) (plan : RefreshPlan)
    (role : Role) (artifacts : RefreshClaimArtifacts) (timestamp : Timestamp) : EpochDatabase :=
  let appended :=
    { database with
      runAssignments := database.runAssignments ++ [artifacts.assignment]
      attempts := database.attempts ++ [artifacts.attempt] }
  (appended.setRefreshPlan (claimedPlan plan artifacts.attempt)).setSession
    { session with
      activeAttemptIds := session.activeAttemptIds.set role (some artifacts.attempt.attemptId)
      state := .REOBSERVING
      sessionRevision := session.sessionRevision + 1
      stateUpdatedAt := timestamp }

/-- The mutation of `claimRefreshPlan`. A claimed plan answers with its attempt,
one that still holds is claimed for records that the factory makes, and one that
does not is invalidated. The factory may throw. -/
def claimRefreshPlan (database : EpochDatabase) (world : WorldPort) (sessionId : OpaqueId)
    (request : RefreshSessionRequest) (timestamp : Timestamp)
    (createArtifacts : EpochSession → RefreshPlan → Role → OpaqueId →
      Except String RefreshClaimArtifacts) :
    Claim (EpochDatabase × ClaimRefreshPlanResult) := do
  require (∃ s ∈ database.sessions, s.sessionId = sessionId) (.thrown "Session does not exist")
  let session ← orStop (single? database.sessions fun s => s.sessionId = sessionId)
    (.thrown "Session ID must resolve exactly once")
  let plan ← requirePlan database session request
  let stale : Stop := .abort (.STALE_VIEW (makeStaleViewError session.sessionId
    request.expectedSessionRevision session.sessionRevision))
  require (plan.status ≠ .COMPLETED ∧ plan.status ≠ .INVALIDATED) stale
  let agentId ← (requireP0BudgetOwner session plan.agentIds).mapError .thrown
  if plan.status = .CLAIMED then do
    let claimedAttemptId ←
      (assertClaimedPlanClosure database session plan agentId world).mapError .thrown
    throw (.abort (.ALREADY_REOBSERVING ⟨session.sessionId, plan.refreshPlanId, claimedAttemptId⟩))
  else do
    require (request.expectedSessionRevision = session.sessionRevision) stale
    if session.activeRefreshPlanId ≠ some plan.refreshPlanId ∨
        planStillMatches database session plan world = false then
      return (invalidatePlan database session plan timestamp,
        .INVALIDATED plan.refreshPlanId (session.sessionRevision + 1))
    else do
      let role ← (roleForAgent session agentId).mapError .thrown
      require (session.activeAttemptIds.get role = none)
        (.thrown "Refresh owner already has an active Attempt")
      let artifacts ← (createArtifacts session plan role agentId).mapError .thrown
      (assertClaimArtifacts database session role agentId artifacts).mapError .thrown
      return (recordClaim database session plan role artifacts timestamp,
        .CLAIMED role agentId (claimedPlan plan artifacts.attempt) artifacts.assignment
          artifacts.attempt)

end Build

end RefreshPlanner

end EpochGuard
