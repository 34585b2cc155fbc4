import EpochGuard.JointValidity
import EpochGuard.SafetyDiagnostics

/-!
# The contract of the dashboard snapshot

What `contracts.ts` says of a snapshot, in the dashboard and in the server
alike: its shape, and the rules between its fields that
`addSnapshotInvariantIssues` reports as issues. A snapshot is accepted when no
rule reports one.
-/

namespace EpochGuard

namespace SnapshotContract

open Json Checked JointValidity

/-! ## The shape -/

/-- How a decision's receipt stands at the head of the world. -/
inductive EvidenceState where
  | CURRENT | RETAINED | INVALID_AT_HEAD
deriving DecidableEq, Repr

/-- What the gate in front of the effect is doing. -/
inductive GateState where
  | WAITING | CHECKING | LOCKED | READY | RELEASED | FAILED
deriving DecidableEq, Repr

/-- What is known of the three receipts together. -/
inductive JointValidityState where
  | PENDING | VALID_CURRENT | NO_CUT | HISTORICAL_STALE
deriving DecidableEq, Repr

/-- What the user may ask of the session as it is shown. -/
inductive AvailableAction where
  | REOBSERVE_INVALID | COMMIT
deriving DecidableEq, Repr

/-- A receipt as the snapshot shows it, without its value. -/
structure ReceiptView where
  receiptId : OpaqueId
  sourceRevision : Nat
  observedAtSeq : Nat
  validFromSeq : Nat
  validUntilSeq : Option Nat
deriving DecidableEq

/-- Which Run of which Agent, under which profile and prompt and on which pack,
has made a decision. -/
structure RuntimeProofView where
  assignmentId : OpaqueId
  threadId : Option JsString
  runtimeLabel : JsString
  roleProfileVersion : OpaqueId
  promptTemplateVersion : OpaqueId
  agentsMdDigest : Sha256Digest
  evidencePackRelativePath : JsString
  evidencePackHash : Sha256Digest
  runStartedAt : Option Timestamp
  runCompletedAt : Option Timestamp
  outputDigest : Option Sha256Digest
  usage : Option RunUsage
deriving DecidableEq

/-- The decision that a role's Agent is held to. -/
structure ActiveDecisionView where
  certificateId : OpaqueId
  runId : OpaqueId
  verdict : Verdict
  factSummary : JsString
  evidenceState : EvidenceState
  receipt : ReceiptView
  runtimeProof : RuntimeProofView
deriving DecidableEq

/-- An attempt that has not ended in a decision. -/
structure InFlightAttemptView where
  attemptId : OpaqueId
  assignmentId : OpaqueId
  runId : Option OpaqueId
  status : AttemptState
  runStartedAt : Option Timestamp
  runCompletedAt : Option Timestamp
deriving DecidableEq

/-- The Agent of a role with its decision and its attempt. -/
structure AgentSnapshotView where
  role : Role
  agentId : OpaqueId
  agentNameAtAssignment : JsString
  runCount : Nat
  activeDecision : Option ActiveDecisionView
  inFlightAttempt : Option InFlightAttemptView
deriving DecidableEq

/-- A receipt of the two whose intervals do not meet. -/
structure WitnessView where
  role : Role
  receiptId : OpaqueId
  «from» : Nat
  «until» : Option Nat
deriving DecidableEq

/-- The witness is a tuple of two. -/
structure NoCutProofView where
  proofId : OpaqueId
  dependencySetHash : Sha256Digest
  lowerBound : Nat
  upperBound : Nat
  witness : WitnessView × WitnessView
deriving DecidableEq

/-- The gate, with what it has permitted and let through. -/
structure GateView where
  state : GateState
  reasonCode : Option FailureCode
  effectsInSession : Nat
  permitId : Option OpaqueId
  effectId : Option OpaqueId
deriving DecidableEq

/-- `requiredDecisions` and `totalAgents` are the literal 3. -/
structure MetricsView where
  activeDecisions : Nat
  allowDecisions : Nat
  denyDecisions : Nat
  reobservedAgents : Nat
  rerunsAvoided : Nat
  verificationLatencyMs : Option JsNumber
deriving DecidableEq

/-- The common interval of the three receipts, or the proof that there is none.
-/
structure JointValidityView where
  state : JointValidityState
  lowerBound : Option Nat
  upperBound : Option Nat
  currentHeadCovered : Option Bool
  noCutProof : Option NoCutProofView
deriving DecidableEq

/-- The plan that would make the receipts valid together. -/
structure RefreshPlanView where
  refreshPlanId : OpaqueId
  status : RefreshPlanState
  agentIds : List OpaqueId
  reasonCode : FailureCode
deriving DecidableEq

/-- A line of the audit trail. -/
structure DashboardEvent where
  eventId : OpaqueId
  sequence : Nat
  type : JsString
  status : JsString
  role : Option Role
  summary : JsString
  createdAt : Timestamp
deriving DecidableEq

/-- The snapshot that the dashboard shows, after its fields have been read;
`agents` is a tuple of three, in the places of `ROLES`. -/
structure Snapshot where
  snapshotRevision : Nat
  sessionRevision : Nat
  stateUpdatedAt : Timestamp
  generatedAt : Timestamp
  sessionId : OpaqueId
  scenarioId : ScenarioId
  coordinationMode : CoordinationMode
  sessionState : SessionState
  action : ActionCanonicalFields
  actionHash : Sha256Digest
  worldHead : Nat
  gate : GateView
  metrics : MetricsView
  agents : PerRole AgentSnapshotView
  jointValidity : JointValidityView
  refreshPlan : Option RefreshPlanView
  availableActions : List AvailableAction
  latestDiagnostics : List SafetyDiagnostics.SafetyDiagnosticView
  events : List DashboardEvent
deriving DecidableEq

/-! ## The projection rules -/

/-- Whether an identifier must be there or must not. -/
inductive Presence where
  | REQUIRED | FORBIDDEN
deriving DecidableEq

/-- Which refresh plan a state of the session goes with. -/
inductive PlanRule where
  | AVAILABLE | ABSENT_OR_COMPLETED
deriving DecidableEq

/-- Which decisions a state of the session goes with. -/
inductive DecisionsRule where
  | THREE | THREE_CURRENT_VALID_ALLOW | THREE_CURRENT_VALID_WITH_DENY
deriving DecidableEq

/-- What a snapshot must show in a state of its session. -/
structure AuthoritativeSnapshotProjectionRule where
  gateState : GateState
  reasonCode : Option FailureCode
  jointValidityState : JointValidityState
  permit : Presence
  effect : Presence
  refreshPlan : PlanRule
  decisions : DecisionsRule
  availableActions : List AvailableAction
deriving DecidableEq

/-- `AUTHORITATIVE_SNAPSHOT_PROJECTION_RULES`, at the states that have one: what
the gate, the joint validity, the permit, the effect, the plan and the actions
must be. -/
def authoritativeProjectionRule :
    SessionState → Option AuthoritativeSnapshotProjectionRule
  | .BLOCKED_NO_CUT => some
      { gateState := .LOCKED
        reasonCode := some .NO_VALID_OBSERVED_WORLD_CUT
        jointValidityState := .NO_CUT
        permit := .FORBIDDEN
        effect := .FORBIDDEN
        refreshPlan := .AVAILABLE
        decisions := .THREE
        availableActions := [.REOBSERVE_INVALID] }
  | .HISTORICAL_STALE => some
      { gateState := .LOCKED
        reasonCode := some .HISTORICAL_BUT_STALE_NOW
        jointValidityState := .HISTORICAL_STALE
        permit := .FORBIDDEN
        effect := .FORBIDDEN
        refreshPlan := .AVAILABLE
        decisions := .THREE
        availableActions := [.REOBSERVE_INVALID] }
  | .CONSISTENT_DENY => some
      { gateState := .LOCKED
        reasonCode := some .CONSISTENT_DENY
        jointValidityState := .VALID_CURRENT
        permit := .FORBIDDEN
        effect := .FORBIDDEN
        refreshPlan := .ABSENT_OR_COMPLETED
        decisions := .THREE_CURRENT_VALID_WITH_DENY
        availableActions := [] }
  | .READY_AT_CURRENT_HEAD => some
      { gateState := .READY
        reasonCode := none
        jointValidityState := .VALID_CURRENT
        permit := .REQUIRED
        effect := .FORBIDDEN
        refreshPlan := .ABSENT_OR_COMPLETED
        decisions := .THREE_CURRENT_VALID_ALLOW
        availableActions := [.COMMIT] }
  | .COMMITTED => some
      { gateState := .RELEASED
        reasonCode := none
        jointValidityState := .VALID_CURRENT
        permit := .REQUIRED
        effect := .REQUIRED
        refreshPlan := .ABSENT_OR_COMPLETED
        decisions := .THREE_CURRENT_VALID_ALLOW
        availableActions := [] }
  | _ => none

/-- COMMIT is offered to a ready session only. -/
theorem commit_offered {state : SessionState} {rule : AuthoritativeSnapshotProjectionRule}
    (h : authoritativeProjectionRule state = some rule)
    (hcommit : .COMMIT ∈ rule.availableActions) : state = .READY_AT_CURRENT_HEAD := by
  cases state <;> simp only [authoritativeProjectionRule, reduceCtorEq, Option.some.injEq] at h
  all_goals
    subst h
    simp at hcommit ⊢

/-! ## Predicates of the rules -/

/-- `sameIdSet`: the same elements, once each. -/
def sameIdSet {α : Type} [DecidableEq α] (left right : List α) : Bool :=
  left.length = right.length && left.Nodup && right.Nodup && left.all (· ∈ right)

theorem mem_of_sameIdSet {α : Type} [DecidableEq α] {left right : List α}
    (h : sameIdSet left right = true) (a : α) : a ∈ left ↔ a ∈ right := by
  simp only [sameIdSet, Bool.and_eq_true, decide_eq_true_eq, List.all_eq_true] at h
  obtain ⟨⟨⟨hlength, hleft⟩, -⟩, hsubset⟩ := h
  refine ⟨hsubset a, fun ha => ?_⟩
  have hperm := (hleft.subperm hsubset).perm_of_length_le hlength.ge
  exact hperm.mem_iff.mpr ha

variable (snapshot : Snapshot)

/-- The receipt of a decision is current. -/
def receiptCoversWorldHead (decision : ActiveDecisionView) : Bool :=
  decision.receipt.validFromSeq ≤ snapshot.worldHead &&
    decision.receipt.validUntilSeq.all (snapshot.worldHead < ·)

/-- The interval of a receipt is one that can have been seen at the head, and it
was observed within. -/
def receiptHasValidTemporalSemantics (receipt : ReceiptView) : Bool :=
  let effectiveUntil := receipt.validUntilSeq.getD (snapshot.worldHead + 1)
  receipt.validUntilSeq.all (fun u => receipt.validFromSeq < u && u ≤ snapshot.worldHead) &&
    receipt.validFromSeq ≤ receipt.observedAtSeq &&
    receipt.observedAtSeq < effectiveUntil && receipt.observedAtSeq ≤ snapshot.worldHead

def refreshReasonForJointValidity : JointValidityState → Option FailureCode
  | .NO_CUT => some .NO_VALID_OBSERVED_WORLD_CUT
  | .HISTORICAL_STALE => some .HISTORICAL_BUT_STALE_NOW
  | _ => none

def agentDecisionIsCurrentValid (agent : AgentSnapshotView) : Bool :=
  agent.activeDecision.any fun decision =>
    decision.evidenceState ≠ .INVALID_AT_HEAD && receiptCoversWorldHead snapshot decision

def agentDecisionIsInvalidAtHead (agent : AgentSnapshotView) : Bool :=
  agent.activeDecision.any fun decision =>
    decision.evidenceState = .INVALID_AT_HEAD && !receiptCoversWorldHead snapshot decision

/-- A refresh attempt in one of these states, with an assignment of its own and
no Run of the decision it is to replace. -/
def agentHasNewRefreshAttempt (states : List AttemptState) (agent : AgentSnapshotView) : Bool :=
  agent.activeDecision.any fun decision =>
    agent.inFlightAttempt.any fun attempt =>
      states.contains attempt.status && 1 < agent.runCount &&
        attempt.assignmentId ≠ decision.runtimeProof.assignmentId &&
        attempt.runId.all (· ≠ decision.runId)

def ACTIVE_IN_FLIGHT_ATTEMPT_STATES : List AttemptState :=
  [.ASSIGNMENT_CREATED, .DISPATCHING, .QUEUED, .RUNNING]

def TERMINAL_REFRESH_ATTEMPT_STATES : List AttemptState :=
  [.FAILED, .INTERRUPTED, .OUTPUT_REJECTED]

def agentHasActiveNewRefreshAttempt (agent : AgentSnapshotView) : Bool :=
  agentHasNewRefreshAttempt ACTIVE_IN_FLIGHT_ATTEMPT_STATES agent

def agentHasTerminalNewRefreshAttempt (agent : AgentSnapshotView) : Bool :=
  agentHasNewRefreshAttempt TERMINAL_REFRESH_ATTEMPT_STATES agent

def agentHasValidateRejectedCompletedRefreshAttempt (agent : AgentSnapshotView) : Bool :=
  snapshot.sessionState = .FAILED && snapshot.gate.reasonCode = some .DECISION_INVALID &&
    agent.activeDecision.any fun decision =>
      agent.inFlightAttempt.any fun attempt =>
        attempt.status = .COMPLETED && 1 < agent.runCount &&
          attempt.assignmentId ≠ decision.runtimeProof.assignmentId &&
          attempt.runId.any fun runId =>
            runId ≠ decision.runId &&
              snapshot.latestDiagnostics.head?.any fun diagnostic =>
                diagnostic.stage = .VALIDATE && diagnostic.reasonCode = .DECISION_INVALID &&
                  diagnostic.role = some agent.role && diagnostic.relevantIds.length = 3 &&
                  [ArtifactRef.record .ATTEMPT attempt.attemptId,
                    .record .ASSIGNMENT attempt.assignmentId, .record .RUN runId].all
                    (· ∈ diagnostic.relevantIds)

/-! ## What the rules read -/

def decisions : List ActiveDecisionView :=
  snapshot.agents.toList.filterMap AgentSnapshotView.activeDecision

def allowDecisions : Nat := (decisions snapshot).countP fun d => d.verdict = .ALLOW

def denyDecisions : Nat := (decisions snapshot).length - allowDecisions snapshot

def agentIdsWith (p : AgentSnapshotView → Bool) : List OpaqueId :=
  (snapshot.agents.toList.filter p).map AgentSnapshotView.agentId

def reobservedAgentIds : List OpaqueId := agentIdsWith snapshot fun agent => 1 < agent.runCount

def inFlightAgentIds : List OpaqueId :=
  agentIdsWith snapshot fun agent => agent.inFlightAttempt.isSome

def invalidAgentIds : List OpaqueId :=
  sortIds (agentIdsWith snapshot fun agent =>
    agent.activeDecision.any fun decision => !receiptCoversWorldHead snapshot decision)

def decisionsValidAtHead : Bool :=
  (decisions snapshot).length = 3 && (decisions snapshot).all fun decision =>
    decision.evidenceState ≠ .INVALID_AT_HEAD && receiptCoversWorldHead snapshot decision

structure ReceiptEntry where
  role : Role
  receipt : ReceiptView
deriving DecidableEq

def receiptEntries : List ReceiptEntry :=
  snapshot.agents.toList.filterMap fun agent =>
    agent.activeDecision.map fun decision => ⟨agent.role, decision.receipt⟩

/-- The three decisions, when there are three. -/
def activeDecisions? : Option (PerRole ActiveDecisionView) :=
  (snapshot.agents.map AgentSnapshotView.activeDecision).all?

def expectedLower : Option Nat :=
  (activeDecisions? snapshot).map fun ds => (ds.map (·.receipt.validFromSeq)).greatest

def expectedUpper : Option Nat :=
  (activeDecisions? snapshot).map fun ds =>
    (ds.map (·.receipt.validUntilSeq.getD (snapshot.worldHead + 1))).least

/-! ## The rules -/

inductive PathKey where
  | key (name : String)
  | index (i : Nat)
deriving DecidableEq

structure Issue where
  message : String
  path : List PathKey
deriving DecidableEq

/-- `if (condition) snapshotIssue(context, message, path)` -/
def issueIf (condition : Bool) (message : String) (path : List PathKey) : List Issue :=
  if condition then [⟨message, path⟩] else []

@[simp] theorem issueIf_eq_nil {condition : Bool} {message : String} {path : List PathKey} :
    issueIf condition message path = [] ↔ condition = false := by
  cases condition <;> simp [issueIf]

namespace AgentSnapshotView

variable (agent : AgentSnapshotView)

def certificateIds : List OpaqueId := (agent.activeDecision.map (·.certificateId)).toList

def receiptIds : List OpaqueId := (agent.activeDecision.map (·.receipt.receiptId)).toList

def attemptIds : List OpaqueId := (agent.inFlightAttempt.map (·.attemptId)).toList

def assignmentIds : List OpaqueId :=
  (agent.activeDecision.map (·.runtimeProof.assignmentId)).toList ++
    (agent.inFlightAttempt.map (·.assignmentId)).toList

def runIds : List OpaqueId :=
  (agent.activeDecision.map (·.runId)).toList ++ (agent.inFlightAttempt.bind (·.runId)).toList

end AgentSnapshotView

/-- The identifiers that an agent refers to in each namespace. -/
def identityNamespaces : List (String × (AgentSnapshotView → List OpaqueId)) :=
  [("certificateId", AgentSnapshotView.certificateIds),
    ("receiptId", AgentSnapshotView.receiptIds), ("attemptId", AgentSnapshotView.attemptIds),
    ("assignmentId", AgentSnapshotView.assignmentIds), ("runId", AgentSnapshotView.runIds)]

/-- The identifiers of one namespace, each with the place of its agent. -/
def identityReferences (ids : AgentSnapshotView → List OpaqueId) : List (OpaqueId × Role) :=
  ROLES.flatMap fun role => (ids (snapshot.agents.get role)).map (·, role)

/-- Whether an identifier refers to another agent than where it occurs first. -/
def duplicatedAcrossAgents (references : List (OpaqueId × Role)) : Bool :=
  references.any fun reference =>
    (references.find? fun first => first.1 = reference.1).any (·.2 ≠ reference.2)

def validateUniqueSnapshotIdentityReferences : List Issue :=
  identityNamespaces.flatMap fun ns =>
    issueIf (duplicatedAcrossAgents (identityReferences snapshot ns.2))
      (ns.1 ++ " values must be unique across Agent projections within their ID namespace")
      [.key "agents"]

def agentIdentityIssues : List Issue :=
  issueIf (!(ROLES.all fun role => (snapshot.agents.get role).role = role))
      "agents must be ordered inventory, budget, policy" [.key "agents"] ++
    issueIf (!(snapshot.agents.map AgentSnapshotView.agentId).toList.Nodup)
      "agents must contain three distinct Agent identities" [.key "agents"] ++
    validateUniqueSnapshotIdentityReferences snapshot

def metricsIssues : List Issue :=
  issueIf (snapshot.metrics.activeDecisions ≠ (decisions snapshot).length ||
      snapshot.metrics.allowDecisions ≠ allowDecisions snapshot ||
      snapshot.metrics.denyDecisions ≠ denyDecisions snapshot ||
      snapshot.metrics.reobservedAgents ≠ (reobservedAgentIds snapshot).length)
    "decision and run metrics must match Agent projections" [.key "metrics"]

/-- The rules of the agent in place `i`. -/
def agentIssues (i : Nat) (agent : AgentSnapshotView) : List Issue :=
  issueIf (agent.runCount <
      agent.activeDecision.toList.length + agent.inFlightAttempt.toList.length)
    "runCount cannot be lower than represented runs"
    [.key "agents", .index i, .key "runCount"] ++
  agent.activeDecision.toList.flatMap fun decision =>
    issueIf (!receiptHasValidTemporalSemantics snapshot decision.receipt)
        ("Receipt observation and half-open validity interval must be temporally coherent " ++
          "at worldHead")
        [.key "agents", .index i, .key "activeDecision", .key "receipt"] ++
      issueIf ((decision.evidenceState ≠ .INVALID_AT_HEAD : Bool) ≠
          receiptCoversWorldHead snapshot decision)
        "Decision evidenceState must agree with half-open Receipt coverage at worldHead"
        [.key "agents", .index i, .key "activeDecision", .key "evidenceState"]

/-- The action is parsed once more before it is hashed; it has passed already. -/
def actionIssues [Sha256] : List Issue :=
  issueIf (snapshot.actionHash ≠ EpochGuard.actionHash snapshot.action)
    "actionHash does not match the Snapshot Action" [.key "actionHash"]

def ruleIssues (rule : AuthoritativeSnapshotProjectionRule) : List Issue :=
  issueIf (snapshot.gate.state ≠ rule.gateState || snapshot.gate.reasonCode ≠ rule.reasonCode ||
      snapshot.jointValidity.state ≠ rule.jointValidityState)
    ("Authoritative Session state requires its exact Gate, reason, and joint-validity " ++
      "projection") [.key "sessionState"] ++
  issueIf ((rule.permit = .REQUIRED : Bool) ≠ snapshot.gate.permitId.isSome)
    "Permit presence must match authoritative Session state" [.key "gate", .key "permitId"] ++
  issueIf ((rule.effect = .REQUIRED : Bool) ≠ snapshot.gate.effectId.isSome ||
      snapshot.gate.effectsInSession ≠ if rule.effect = .REQUIRED then 1 else 0)
    "Effect presence/count must match authoritative Session state" [.key "gate"] ++
  issueIf (snapshot.agents.toList.any fun agent => agent.inFlightAttempt.isSome)
    "Authoritative stable Session states cannot retain an in-flight Attempt"
    [.key "agents"] ++
  issueIf (!match rule.decisions with
      | .THREE => decide ((decisions snapshot).length = 3)
      | .THREE_CURRENT_VALID_ALLOW =>
          decisionsValidAtHead snapshot && allowDecisions snapshot = 3
      | .THREE_CURRENT_VALID_WITH_DENY =>
          decisionsValidAtHead snapshot && 0 < denyDecisions snapshot)
    "Active Decisions must match the authoritative Session outcome" [.key "agents"]

def gateIssues : List Issue :=
  issueIf (snapshot.gate.state = .READY && snapshot.sessionState ≠ .READY_AT_CURRENT_HEAD)
    "READY Gate is reserved for READY_AT_CURRENT_HEAD" [.key "gate", .key "state"] ++
  issueIf (snapshot.gate.reasonCode = some .CONSISTENT_DENY &&
      snapshot.sessionState ≠ .CONSISTENT_DENY)
    "CONSISTENT_DENY reason is reserved for the CONSISTENT_DENY outcome"
    [.key "gate", .key "reasonCode"] ++
  issueIf (snapshot.gate.state = .LOCKED && snapshot.gate.permitId.isSome)
    "LOCKED Gate cannot carry a Permit" [.key "gate", .key "permitId"] ++
  issueIf (snapshot.gate.permitId.isSome &&
      !([.READY_AT_CURRENT_HEAD, .COMMITTING, .COMMITTED] : List SessionState).contains
        snapshot.sessionState)
    "Permit is restricted to ready/commit projections" [.key "gate", .key "permitId"] ++
  issueIf (snapshot.sessionState = .FAILED && snapshot.gate.state = .WAITING &&
      snapshot.gate.reasonCode = none)
    "FAILED cannot masquerade as an unreasoned WAITING projection" [.key "gate"] ++
  (if snapshot.gate.state = .RELEASED then
    issueIf (snapshot.gate.effectsInSession ≠ 1 || snapshot.gate.effectId = none ||
        snapshot.gate.permitId = none || snapshot.sessionState ≠ .COMMITTED ||
        snapshot.jointValidity.state ≠ .VALID_CURRENT || (decisions snapshot).length ≠ 3 ||
        allowDecisions snapshot ≠ 3 || !decisionsValidAtHead snapshot ||
        snapshot.availableActions.length ≠ 0)
      ("RELEASED requires COMMITTED, one Permit-bound Effect, three current-valid ALLOW " ++
        "Decisions, and no action") [.key "gate"]
  else
    issueIf (snapshot.gate.effectsInSession ≠ 0 || snapshot.gate.effectId ≠ none)
      "non-RELEASED snapshots cannot project an Effect" [.key "gate"]) ++
  issueIf (snapshot.sessionState = .COMMITTED && snapshot.gate.state ≠ .RELEASED)
    "COMMITTED must project a RELEASED Gate" [.key "sessionState"] ++
  issueIf (snapshot.gate.state = .READY &&
      (snapshot.sessionState ≠ .READY_AT_CURRENT_HEAD || snapshot.gate.permitId = none ||
        snapshot.jointValidity.state ≠ .VALID_CURRENT || allowDecisions snapshot ≠ 3))
    "READY requires READY_AT_CURRENT_HEAD, a Permit, and three ALLOW Decisions" [.key "gate"]

/-! ### Joint validity -/

/-- The entry with the least receipt identifier among those with a property. -/
def canonicalEntry (p : ReceiptView → Bool) : Option ReceiptEntry :=
  (((receiptEntries snapshot).filter fun entry => p entry.receipt).insertionSort
    fun left right => OpaqueId.le left.receipt.receiptId right.receipt.receiptId).head?

def canonicalLatestStart : Option ReceiptEntry :=
  canonicalEntry snapshot fun receipt => some receipt.validFromSeq = expectedLower snapshot

/-- An open end is not the earliest one, even where it counts as the number
after the head. -/
def canonicalEarliestEnd : Option ReceiptEntry :=
  canonicalEntry snapshot fun receipt =>
    receipt.validUntilSeq.isSome && receipt.validUntilSeq = expectedUpper snapshot

def witnessAgrees (entry : Option ReceiptEntry) (witness : WitnessView) : Bool :=
  entry.any fun entry =>
    witness.role = entry.role && witness.receiptId = entry.receipt.receiptId &&
      witness.from = entry.receipt.validFromSeq && witness.until = entry.receipt.validUntilSeq

section Hashes

variable [Sha256]

def snapshotReceiptDependencySetHash (receiptIds : List OpaqueId) : Sha256Digest :=
  sha256Digest (canonicalJson (.arr ((sortIds receiptIds).map fun i => jstr i.val)))

def expectedDependencySetHash : Option Sha256Digest :=
  (activeDecisions? snapshot).map fun ds =>
    snapshotReceiptDependencySetHash (ds.map (·.receipt.receiptId)).toList

def noCutAgrees (proof : NoCutProofView) : Bool :=
  snapshot.jointValidity.lowerBound = some proof.lowerBound &&
    snapshot.jointValidity.upperBound = some proof.upperBound &&
    some proof.lowerBound = expectedLower snapshot &&
    some proof.upperBound = expectedUpper snapshot && proof.upperBound ≤ proof.lowerBound &&
    some proof.dependencySetHash = expectedDependencySetHash snapshot &&
    snapshot.jointValidity.currentHeadCovered = some false &&
    witnessAgrees (canonicalEarliestEnd snapshot) proof.witness.1 &&
    witnessAgrees (canonicalLatestStart snapshot) proof.witness.2

/-- The bounds of the three receipts, with what one of them says of the head. -/
def boundsReconcile (covered : Bool) (p : Nat → Nat → Bool) : Bool :=
  snapshot.jointValidity.noCutProof = none &&
    snapshot.jointValidity.currentHeadCovered = some covered &&
    snapshot.jointValidity.lowerBound = expectedLower snapshot &&
    snapshot.jointValidity.upperBound = expectedUpper snapshot &&
    (expectedLower snapshot).any fun lower => (expectedUpper snapshot).any fun upper =>
      lower < upper && p lower upper

def jointValidityIssues : List Issue :=
  match snapshot.jointValidity.state with
  | .VALID_CURRENT =>
      issueIf (!boundsReconcile snapshot true fun lower upper =>
          lower ≤ snapshot.worldHead && snapshot.worldHead < upper)
        "VALID_CURRENT bounds, proof, and current-head coverage must reconcile"
        [.key "jointValidity"]
  | .NO_CUT =>
      issueIf (!snapshot.jointValidity.noCutProof.any (noCutAgrees snapshot))
        ("NO_CUT requires L>=U and the deterministic canonical earliest-end/latest-start " ++
          "Receipt witness") [.key "jointValidity"]
  | .PENDING =>
      issueIf (snapshot.jointValidity.lowerBound ≠ none ||
          snapshot.jointValidity.upperBound ≠ none ||
          snapshot.jointValidity.currentHeadCovered ≠ none ||
          snapshot.jointValidity.noCutProof ≠ none)
        "PENDING cannot project validity evidence" [.key "jointValidity"]
  | .HISTORICAL_STALE =>
      issueIf (!boundsReconcile snapshot false fun lower upper =>
          !(lower ≤ snapshot.worldHead && snapshot.worldHead < upper))
        "HISTORICAL_STALE bounds must be coherent but exclude the current head"
        [.key "jointValidity"]

end Hashes

/-! ### The refresh plan -/

def planIssues (plan : RefreshPlanView) : List Issue :=
  issueIf (!plan.agentIds.Nodup || plan.agentIds.any fun agentId =>
      !(snapshot.agents.map AgentSnapshotView.agentId).toList.contains agentId)
    "refreshPlan owners must be distinct projected Agents"
    [.key "refreshPlan", .key "agentIds"] ++
  issueIf (plan.status = .AVAILABLE && snapshot.sessionState ≠ .BLOCKED_NO_CUT &&
      snapshot.sessionState ≠ .HISTORICAL_STALE)
    "AVAILABLE RefreshPlan is reserved for blocked/historical refresh projections"
    [.key "refreshPlan"] ++
  issueIf ((refreshReasonForJointValidity snapshot.jointValidity.state).any
      (plan.reasonCode ≠ ·))
    "RefreshPlan reason must match the retained NO_CUT or HISTORICAL_STALE validation"
    [.key "refreshPlan", .key "reasonCode"] ++
  issueIf (plan.status = .CLAIMED &&
      !([.REOBSERVING, .COLLECTING, .FAILED, .INTERRUPTED] : List SessionState).contains
        snapshot.sessionState)
    ("CLAIMED RefreshPlan is restricted to REOBSERVING/COLLECTING or terminal " ++
      "FAILED/INTERRUPTED projections") [.key "refreshPlan", .key "status"] ++
  issueIf (plan.status = .COMPLETED &&
      !([.VALIDATING, .CONSISTENT_DENY, .READY_AT_CURRENT_HEAD, .COMMITTING, .COMMITTED,
        .COMMIT_RACE, .FAILED, .INTERRUPTED] : List SessionState).contains
        snapshot.sessionState)
    ("COMPLETED RefreshPlan is restricted to post-refresh validation, stable, commit, or " ++
      "terminal projections") [.key "refreshPlan", .key "status"]

/-- Each agent fits its place as an owner of the plan, or not. -/
def ownersFit (plan : RefreshPlanView) (owner other : AgentSnapshotView → Bool) : Bool :=
  snapshot.agents.toList.all fun agent =>
    if plan.agentIds.contains agent.agentId then owner agent else other agent

def reobservingCoherent (plan : RefreshPlanView) : Bool :=
  plan.status = .CLAIMED && (decisions snapshot).length = 3 &&
    (refreshReasonForJointValidity snapshot.jointValidity.state).isSome &&
    (invalidAgentIds snapshot).length ≠ 0 &&
    sameIdSet plan.agentIds (invalidAgentIds snapshot) &&
    sameIdSet plan.agentIds (inFlightAgentIds snapshot) &&
    sameIdSet plan.agentIds (reobservedAgentIds snapshot) &&
    ownersFit snapshot plan
      (fun agent => agentDecisionIsInvalidAtHead snapshot agent &&
        agentHasActiveNewRefreshAttempt agent)
      (fun agent => agentDecisionIsCurrentValid snapshot agent &&
        agent.inFlightAttempt = none)

/-- The owners that have accepted a new decision already. -/
def completedOwnerIds (plan : RefreshPlanView) : List OpaqueId :=
  agentIdsWith snapshot fun agent =>
    plan.agentIds.contains agent.agentId && agent.inFlightAttempt = none &&
      1 < agent.runCount && agentDecisionIsCurrentValid snapshot agent

def collectingCoherent (plan : RefreshPlanView) : Bool :=
  plan.status = .CLAIMED && (decisions snapshot).length = 3 &&
    (inFlightAgentIds snapshot).length ≠ 0 &&
    (snapshot.jointValidity.state = .PENDING ||
      (completedOwnerIds snapshot plan).length = 0 &&
        (refreshReasonForJointValidity snapshot.jointValidity.state).isSome) &&
    sameIdSet plan.agentIds (reobservedAgentIds snapshot) &&
    sameIdSet (invalidAgentIds snapshot) (inFlightAgentIds snapshot) &&
    ownersFit snapshot plan
      (fun agent =>
        if agent.inFlightAttempt ≠ none then
          agentDecisionIsInvalidAtHead snapshot agent && agentHasActiveNewRefreshAttempt agent
        else agentDecisionIsCurrentValid snapshot agent && 1 < agent.runCount)
      (fun agent => agent.inFlightAttempt = none && agentDecisionIsCurrentValid snapshot agent)

def initialValidatingProjection : Bool :=
  snapshot.refreshPlan = none && (reobservedAgentIds snapshot).length = 0

def refreshValidatingProjection : Bool :=
  snapshot.refreshPlan.any fun plan =>
    plan.status = .COMPLETED && decisionsValidAtHead snapshot &&
      sameIdSet plan.agentIds (reobservedAgentIds snapshot) &&
      snapshot.agents.toList.all fun agent =>
        !plan.agentIds.contains agent.agentId ||
          agent.activeDecision.any fun decision => decision.evidenceState = .CURRENT

def validatingCoherent : Bool :=
  (decisions snapshot).length = 3 && (inFlightAgentIds snapshot).length = 0 &&
    snapshot.gate.state = .CHECKING && snapshot.gate.reasonCode = none &&
    snapshot.gate.effectsInSession = 0 && snapshot.gate.permitId = none &&
    snapshot.gate.effectId = none && snapshot.jointValidity.state = .PENDING &&
    snapshot.availableActions.length = 0 &&
    (initialValidatingProjection snapshot || refreshValidatingProjection snapshot)

def terminalClaimedCoherent (plan : RefreshPlanView) : Bool :=
  (decisions snapshot).length = 3 && (inFlightAgentIds snapshot).length ≠ 0 &&
    sameIdSet plan.agentIds (reobservedAgentIds snapshot) &&
    sameIdSet (invalidAgentIds snapshot) (inFlightAgentIds snapshot) &&
    ownersFit snapshot plan
      (fun agent =>
        if agent.inFlightAttempt = none then
          1 < agent.runCount && agentDecisionIsCurrentValid snapshot agent
        else
          agentDecisionIsInvalidAtHead snapshot agent &&
            (agentHasTerminalNewRefreshAttempt agent ||
              agentHasValidateRejectedCompletedRefreshAttempt snapshot agent))
      (fun agent => agent.inFlightAttempt = none && agentDecisionIsCurrentValid snapshot agent)

def completedProjectionCoherent (plan : RefreshPlanView) : Bool :=
  (decisions snapshot).length = 3 && decisionsValidAtHead snapshot &&
    (inFlightAgentIds snapshot).length = 0 &&
    sameIdSet plan.agentIds (reobservedAgentIds snapshot)

def refreshIssues : List Issue :=
  issueIf (snapshot.sessionState = .REOBSERVING &&
      !snapshot.refreshPlan.any (reobservingCoherent snapshot))
    ("REOBSERVING must retain three old Decisions and bind exactly invalid owners to active " ++
      "new Attempts") [.key "refreshPlan"] ++
  (if snapshot.sessionState = .COLLECTING then
    match snapshot.refreshPlan with
    | none =>
        issueIf ((reobservedAgentIds snapshot).length ≠ 0)
          "Initial COLLECTING may omit a Plan only before any Agent is reobserved"
          [.key "refreshPlan"]
    | some plan =>
        issueIf (!collectingCoherent snapshot plan)
          ("COLLECTING refresh requires the full CLAIMED owner set partitioned into " ++
            "completed current Decisions and remaining invalid active Attempts; completed " ++
            "evidence makes validity PENDING") [.key "refreshPlan"]
  else []) ++
  issueIf (snapshot.sessionState = .VALIDATING && !validatingCoherent snapshot)
    ("VALIDATING requires three Decisions, no Attempt, PENDING/CHECKING with no side " ++
      "effect/action, and either an unreobserved initial flow or the exact COMPLETED refresh " ++
      "projection") [.key "sessionState"] ++
  issueIf ((snapshot.sessionState = .FAILED || snapshot.sessionState = .INTERRUPTED) &&
      snapshot.refreshPlan.any fun plan =>
        plan.status = .CLAIMED && !terminalClaimedCoherent snapshot plan)
    ("FAILED/INTERRUPTED CLAIMED Plan owners must partition into completed current " ++
      "Decisions and invalid owners with fresh terminal Attempts; COMPLETED requires a " ++
      "bound FAILED VALIDATE/DECISION_INVALID diagnostic") [.key "refreshPlan"] ++
  issueIf (snapshot.refreshPlan.any fun plan =>
      plan.status = .COMPLETED && !completedProjectionCoherent snapshot plan)
    ("COMPLETED RefreshPlan requires exact reobserved owners, three current-valid " ++
      "Decisions, and no in-flight Attempt") [.key "refreshPlan"] ++
  issueIf ((snapshot.jointValidity.state = .NO_CUT ||
      snapshot.jointValidity.state = .HISTORICAL_STALE) && snapshot.refreshPlan = none)
    "NO_CUT/HISTORICAL_STALE validation evidence must retain its RefreshPlan"
    [.key "refreshPlan"]

def rulePlanIssues (rule : AuthoritativeSnapshotProjectionRule) : List Issue :=
  match rule.refreshPlan with
  | .AVAILABLE =>
      issueIf (!snapshot.refreshPlan.any fun plan =>
          plan.status = .AVAILABLE && sameIdSet plan.agentIds (invalidAgentIds snapshot) &&
            some plan.reasonCode = rule.reasonCode)
        ("Blocked/historical RefreshPlan must be AVAILABLE with the exact invalid-Receipt " ++
          "owner set") [.key "refreshPlan"]
  | .ABSENT_OR_COMPLETED =>
      issueIf (!(if (reobservedAgentIds snapshot).length = 0 then
          decide (snapshot.refreshPlan = none)
        else snapshot.refreshPlan.any fun plan =>
          plan.status = .COMPLETED && sameIdSet plan.agentIds (reobservedAgentIds snapshot) &&
            (plan.reasonCode = .NO_VALID_OBSERVED_WORLD_CUT ||
              plan.reasonCode = .HISTORICAL_BUT_STALE_NOW)))
        ("Current-valid terminal/ready outcomes require no initial Plan or the exact " ++
          "COMPLETED refresh Plan") [.key "refreshPlan"]

/-- A plan has at most three owners. -/
def rerunsIssues : List Issue :=
  issueIf (match snapshot.refreshPlan with
      | none => decide (snapshot.metrics.rerunsAvoided ≠ 0)
      | some plan => snapshot.metrics.rerunsAvoided + plan.agentIds.length ≠ 3)
    "rerunsAvoided must match the selective refresh plan"
    [.key "metrics", .key "rerunsAvoided"]

def actionsIssues : List Issue :=
  issueIf (!sameIdSet snapshot.availableActions
      (((authoritativeProjectionRule snapshot.sessionState).map
        AuthoritativeSnapshotProjectionRule.availableActions).getD []))
    ("availableActions must match the authoritative state; non-authoritative and CLAIMED " ++
      "projections expose no mutation action") [.key "availableActions"]

/-! ### All rules, in order -/

variable [Sha256]

def addSnapshotInvariantIssues : List Issue :=
  agentIdentityIssues snapshot ++ metricsIssues snapshot ++
    (agentIssues snapshot 0 snapshot.agents.inventory ++
      agentIssues snapshot 1 snapshot.agents.budget ++
      agentIssues snapshot 2 snapshot.agents.policy) ++
    actionIssues snapshot ++
    (authoritativeProjectionRule snapshot.sessionState).toList.flatMap (ruleIssues snapshot) ++
    gateIssues snapshot ++ jointValidityIssues snapshot ++
    snapshot.refreshPlan.toList.flatMap (planIssues snapshot) ++ refreshIssues snapshot ++
    (authoritativeProjectionRule snapshot.sessionState).toList.flatMap
      (rulePlanIssues snapshot) ++
    rerunsIssues snapshot ++ actionsIssues snapshot

end SnapshotContract

end EpochGuard
