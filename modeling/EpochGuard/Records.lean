import EpochGuard.Types

/-!
# The records of the store

The stored records of `types.ts`, the action and query hashes, and
`EpochDatabase`. Literal fields (`schemaVersion`, `issuer`, an action's `type`
and `market`) have one value and appear only where a text is built from them.
-/

namespace EpochGuard

open Json Checked

/-! ## Actions and role queries -/

structure ActionCanonicalFields where
  campaignId : OpaqueId
  requestedUnits : Nat
  estimatedCostCents : Nat
deriving DecidableEq

structure ActionIntent extends ActionCanonicalFields where
  actionId : OpaqueId
  sessionId : OpaqueId
  actionHash : Sha256Digest
  idempotencyKey : String
deriving DecidableEq

/-- The literal market of every action. -/
def market : OpaqueId := ⟨"SG", by decide⟩

/-- The numeral that `String` writes for a natural number. -/
def natNumeral (n : Nat) : List Char := Nat.toDigits 10 n

/-- A natural number as a JSON number. -/
def natNumber (n : Nat) : JsNumber where
  numeral := natNumeral n
  nonempty := Nat.toDigits_ne_nil
  chars := by
    simp only [List.all_eq_true]
    intro c hc
    have hd : c.isDigit = true := Nat.isDigit_of_mem_toDigits (by omega) (by omega) hc
    simp [isNumeralChar, hd]

/-- A natural number as a JSON value. -/
def jnat (n : Nat) : Value := .num (natNumber n)
/-- A text as a JSON value. -/
def jstr (s : String) : Value := .str (js s)
/-- A digest as a JSON value. -/
def jdigest (digest : Sha256Digest) : Value := .str (digest.chars.flatMap charUnits)

/-- An object literal with ASCII keys. -/
def jobj (entries : List (String × Value)) : Value :=
  .obj (entries.map fun e => (js e.1, e.2))

def ActionCanonicalFields.toJson (action : ActionCanonicalFields) : Value :=
  jobj [("schemaVersion", jnat 1), ("type", jstr "PUBLISH_CAMPAIGN"),
    ("campaignId", jstr action.campaignId.val),
    ("requestedUnits", jnat action.requestedUnits),
    ("estimatedCostCents", jnat action.estimatedCostCents),
    ("market", jstr market.val)]

/-- `canonicalizeAction` -/
def canonicalizeAction (action : ActionCanonicalFields) : JsString :=
  canonicalJson action.toJson

section Hashes

variable [Sha256]

/-- The hash by which all records of a session name its action. -/
def actionHash (action : ActionCanonicalFields) : Sha256Digest :=
  sha256Digest (canonicalizeAction action)

/-- The key under which the effect of an action is released at most once: the
session and the hash of its action. -/
def idempotencyKeyFor (sessionId : OpaqueId) (hash : Sha256Digest) : String :=
  sessionId.val ++ ":" ++ hash.val

/-- What `ActionIntentSchema` asks beyond the field types. -/
def ActionIntent.parses (intent : ActionIntent) : Prop :=
  0 < intent.requestedUnits ∧ jsLength intent.idempotencyKey ≤ 768 ∧
    intent.actionHash = EpochGuard.actionHash intent.toActionCanonicalFields ∧
    intent.idempotencyKey =
      idempotencyKeyFor intent.sessionId (EpochGuard.actionHash intent.toActionCanonicalFields)

instance (intent : ActionIntent) : Decidable intent.parses :=
  inferInstanceAs (Decidable (_ ∧ _))

end Hashes

/-- The part of the action one role sees; its constructor is the `role`, and
the `source`, of the query. -/
inductive ActionProjection where
  | inventory (campaignId : OpaqueId) (requestedUnits : Nat)
  | budget (campaignId : OpaqueId) (estimatedCostCents : Nat)
  | policy (campaignId : OpaqueId)
deriving DecidableEq

/-- The role that sees this part of the action. -/
def ActionProjection.role : ActionProjection → Role
  | .inventory .. => .inventory
  | .budget .. => .budget
  | .policy .. => .policy

/-- The projection as the canonical text of its query has it. -/
def ActionProjection.toJson : ActionProjection → Value
  | .inventory c n => jobj [("campaignId", jstr c.val), ("requestedUnits", jnat n)]
  | .budget c n => jobj [("campaignId", jstr c.val), ("estimatedCostCents", jnat n)]
  | .policy c => jobj [("campaignId", jstr c.val), ("market", jstr market.val)]

/-- The question that a role's Agent answers: what it sees of the action, and
which entity of its source it looks at. The hash is of the other fields. -/
structure RoleQuerySpec where
  actionHash : Sha256Digest
  entityKey : OpaqueId
  actionProjection : ActionProjection
  queryHash : Sha256Digest
deriving DecidableEq

namespace RoleQuerySpec

/-- The role whose Agent is asked. -/
def role (spec : RoleQuerySpec) : Role := spec.actionProjection.role
/-- The source that the question is about. -/
def source (spec : RoleQuerySpec) : Source := spec.actionProjection.role

/-- The entries of a query without its hash. -/
def canonicalFields (spec : RoleQuerySpec) : List (String × Value) :=
  [("schemaVersion", jnat 1), ("actionHash", jdigest spec.actionHash),
    ("role", jstr spec.role.name), ("source", jstr spec.source.name),
    ("entityKey", jstr spec.entityKey.val),
    ("actionProjection", spec.actionProjection.toJson)]

def toJson (spec : RoleQuerySpec) : Value :=
  jobj (spec.canonicalFields ++ [("queryHash", jdigest spec.queryHash)])

end RoleQuerySpec

/-- `canonicalizeRoleQuery`: the query without its own hash. -/
def canonicalizeRoleQuery (spec : RoleQuerySpec) : JsString :=
  canonicalJson (jobj spec.canonicalFields)

section Queries

variable [Sha256]

/-- The entity key and the projection of the action for a role. -/
def roleProjection (action : ActionCanonicalFields) : Role → OpaqueId × ActionProjection
  | .inventory => (action.campaignId, .inventory action.campaignId action.requestedUnits)
  | .budget => (action.campaignId, .budget action.campaignId action.estimatedCostCents)
  | .policy => (market, .policy action.campaignId)

/-- The question of a role about an action. The hash is of the text without the
hash, which the placeholder therefore does not enter. -/
def buildRoleQuerySpec (action : ActionCanonicalFields) (role : Role) : RoleQuerySpec :=
  let projection := roleProjection action role
  let candidate : RoleQuerySpec :=
    { actionHash := actionHash action
      entityKey := projection.1
      actionProjection := projection.2
      queryHash := ⟨List.replicate 64 '0', by decide⟩ }
  { candidate with queryHash := sha256Digest (canonicalizeRoleQuery candidate) }

@[simp] theorem buildRoleQuerySpec_role (action : ActionCanonicalFields) (role : Role) :
    (buildRoleQuerySpec action role).role = role := by
  cases role <;> rfl

@[simp] theorem buildRoleQuerySpec_actionHash (action : ActionCanonicalFields) (role : Role) :
    (buildRoleQuerySpec action role).actionHash = actionHash action := rfl

theorem buildRoleQuerySpec_entityKey (action : ActionCanonicalFields) (role : Role) :
    (buildRoleQuerySpec action role).entityKey = (roleProjection action role).1 := rfl

end Queries

/-- The Agent that is registered for a role, with the versions of the profile it
was registered under. -/
structure RoleAgentRegistration where
  role : Role
  agentId : OpaqueId
  agentNameAtRegistration : String
  roleProfileVersion : OpaqueId
  agentsMdDigest : Sha256Digest
  registeredAt : Timestamp
deriving DecidableEq

/-! ## World -/

/-- One resource of a World commit, by the versions before and after it. -/
structure WorldCommitChange where
  resourceId : OpaqueId
  previousVersionId : Option OpaqueId
  nextVersionId : OpaqueId
deriving DecidableEq

/-- An entry of the commit log of the World. -/
structure WorldCommit where
  seq : Nat
  changes : List WorldCommitChange
  reason : String
  createdAt : Timestamp
deriving DecidableEq

/-- A value that `JsonValueSchema` has let through. -/
structure JsonValue where
  val : Value
  plain : Plain val

/-- What `JsonValueSchema` makes of a value: its records are copied without
their own `__proto__` properties, at any depth. -/
def JsonValue.parse (value : Value) : JsonValue := ⟨dropProto value, plain_dropProto value⟩

/-- A stored value is parsed to itself. -/
@[simp] theorem JsonValue.parse_val (value : JsonValue) : JsonValue.parse value.val = value := by
  cases value with
  | mk val plain => simp [parse, dropProto_of_plain val plain]

/-- A version of a resource: its value, the hash under which receipts name the
value, and the half-open interval of commits during which it is the current
version. -/
structure ResourceVersion where
  id : OpaqueId
  resourceId : OpaqueId
  sourceRevision : Nat
  value : JsonValue
  valueHash : Sha256Digest
  validFromSeq : Nat
  validUntilSeq : Option Nat

/-- What `ResourceVersionSchema` asks beyond the field types. -/
def ResourceVersion.parses (version : ResourceVersion) : Prop :=
  ∀ until' ∈ version.validUntilSeq, version.validFromSeq < until'

instance (version : ResourceVersion) : Decidable version.parses :=
  match h : version.validUntilSeq with
  | none => .isTrue (by simp [ResourceVersion.parses, h])
  | some u => decidable_of_iff (version.validFromSeq < u) (by simp [ResourceVersion.parses, h])

/-- The world part of the store. -/
structure World where
  headSeq : Nat
  worldCommits : List WorldCommit
  resourceVersions : List ResourceVersion

/-! ## Assignments, attempts, receipts, decisions -/

/-- The tokens of a Run, as far as the runtime reported them. -/
structure RunUsage where
  inputTokens : Option Nat
  cachedInputTokens : Option Nat
  outputTokens : Option Nat
deriving DecidableEq

/-- The assignment of one role: the question, the receipt and the evidence pack
that an Agent is given, the Run that it is bound to, and the decision that used
it up. -/
structure RunAssignment where
  assignmentId : OpaqueId
  sessionId : OpaqueId
  actionHash : Sha256Digest
  agentId : OpaqueId
  agentNameAtAssignment : String
  role : Role
  receiptId : OpaqueId
  queryHash : Sha256Digest
  roleProfileVersion : OpaqueId
  promptTemplateVersion : OpaqueId
  agentsMdDigest : Sha256Digest
  runtimeLabelAtDispatch : String
  evidencePackRelativePath : String
  evidencePackHash : Sha256Digest
  boundRunId : Option OpaqueId
  status : AssignmentState
  consumedByDecisionCertificateId : Option OpaqueId
  createdAt : Timestamp
  boundAt : Option Timestamp
  consumedAt : Option Timestamp
deriving DecidableEq

/-- The mirror of a Run: what the launchpad reported of it, and whether its
output was accepted. -/
structure AgentAttempt where
  attemptId : OpaqueId
  sessionId : OpaqueId
  actionHash : Sha256Digest
  role : Role
  agentId : OpaqueId
  assignmentId : OpaqueId
  runId : Option OpaqueId
  status : AttemptState
  runStartedAt : Option Timestamp
  runCompletedAt : Option Timestamp
  threadId : Option String
  usage : Option RunUsage
  outputDigest : Option Sha256Digest
deriving DecidableEq

/-- `Date.parse(a) <= Date.parse(b)`, when both are present. -/
def timestampsOrdered (startedAt completedAt : Option Timestamp) : Prop :=
  ∀ s ∈ startedAt, ∀ c ∈ completedAt, s.millis ≤ c.millis

instance (a b : Option Timestamp) : Decidable (timestampsOrdered a b) :=
  match a, b with
  | none, _ => .isTrue (by simp [timestampsOrdered])
  | some _, none => .isTrue (by simp [timestampsOrdered])
  | some s, some c => decidable_of_iff (s.millis ≤ c.millis) (by simp [timestampsOrdered])

/-- Which of Run binding, start and completion a status goes with. -/
def attemptEvidenceMatches (status : AttemptState) (bound started completed : Bool) : Bool :=
  match status with
  | .ASSIGNMENT_CREATED | .DISPATCHING => !bound && !started && !completed
  | .QUEUED => bound && !started && !completed
  | .RUNNING => bound && started && !completed
  | .COMPLETED | .OUTPUT_REJECTED | .ACCEPTED => bound && started && completed
  | .FAILED | .INTERRUPTED =>
      (!bound && !started && !completed) || (bound && !started && completed) ||
        (bound && started && completed)

/-- The times of an attempt are in order and fit its status;
`addAttemptTimelineIssue` reports the failure of either. -/
def attemptTimelineIsValid (status : AttemptState) (runId : Option OpaqueId)
    (runStartedAt runCompletedAt : Option Timestamp) : Prop :=
  timestampsOrdered runStartedAt runCompletedAt ∧
    attemptEvidenceMatches status runId.isSome runStartedAt.isSome runCompletedAt.isSome = true

instance (status : AttemptState) (runId : Option OpaqueId) (s c : Option Timestamp) :
    Decidable (attemptTimelineIsValid status runId s c) :=
  inferInstanceAs (Decidable (_ ∧ _))

/-- The bounds on a thread identifier, where the runtime gave one. -/
def threadIdParses (threadId : Option String) : Prop :=
  ∀ t ∈ threadId, 1 ≤ jsLength t ∧ jsLength t ≤ 512

instance (threadId : Option String) : Decidable (threadIdParses threadId) :=
  match threadId with
  | none => .isTrue (by simp [threadIdParses])
  | some t => decidable_of_iff (1 ≤ jsLength t ∧ jsLength t ≤ 512) (by simp [threadIdParses])

/-- What `AgentAttemptSchema` asks beyond the field types. -/
def AgentAttempt.parses (attempt : AgentAttempt) : Prop :=
  attemptTimelineIsValid attempt.status attempt.runId attempt.runStartedAt
      attempt.runCompletedAt ∧
    threadIdParses attempt.threadId

instance (attempt : AgentAttempt) : Decidable attempt.parses :=
  inferInstanceAs (Decidable (_ ∧ _))

/-- The record of an observation: which version of which entity the Agent of an
assignment was shown, at which commit, and the nonce that its output must
repeat. -/
structure ObservationReceipt where
  receiptId : OpaqueId
  sessionId : OpaqueId
  actionHash : Sha256Digest
  agentId : OpaqueId
  runAssignmentId : OpaqueId
  role : Role
  source : Source
  entityKey : OpaqueId
  queryHash : Sha256Digest
  sourceRevision : Nat
  valueHash : Sha256Digest
  observedAtSeq : Nat
  nonce : String
  issuedAt : Timestamp
deriving DecidableEq

/-- An Agent's own texts may hold any code units. -/
structure AgentDecisionEnvelope where
  sessionId : OpaqueId
  actionHash : Sha256Digest
  runAssignmentId : OpaqueId
  role : Role
  receiptId : OpaqueId
  nonce : JsString
  verdict : Verdict
  reason : JsString
deriving DecidableEq

/-- The decision of a role, with the receipt that it depends on; `receiptIds` is
a tuple of one. -/
structure DependencyCertificate where
  certificateId : OpaqueId
  sessionId : OpaqueId
  actionHash : Sha256Digest
  agentId : OpaqueId
  runAssignmentId : OpaqueId
  runId : OpaqueId
  role : Role
  verdict : Verdict
  receiptId : OpaqueId
  decisionDigest : Sha256Digest
  status : DecisionState
  supersededByCertificateId : Option OpaqueId
  createdAt : Timestamp
deriving DecidableEq

/-! ## Sessions -/

/-- A session: its action, what it holds active for each role and in all, and
its state. `frozenAssignments` holds the Agent of each role. -/
structure EpochSession where
  sessionId : OpaqueId
  scenarioId : ScenarioId
  action : ActionIntent
  actionHash : Sha256Digest
  state : SessionState
  sessionRevision : Nat
  coordinationMode : CoordinationMode
  frozenAssignments : PerRole OpaqueId
  activeDecisionCertificateIds : PerRole (Option OpaqueId)
  activeAttemptIds : PerRole (Option OpaqueId)
  activeValidationId : Option OpaqueId
  activeRefreshPlanId : Option OpaqueId
  activePermitId : Option OpaqueId
  stateUpdatedAt : Timestamp
  createdAt : Timestamp
deriving DecidableEq

/-! ## Validation, permits, effects -/

/-- A joint validation: the decisions it read, the head it was made at, the
bounds of the common interval, and the records that came of it. -/
structure ValidationRecord where
  validationId : OpaqueId
  sessionId : OpaqueId
  actionHash : Sha256Digest
  baseSessionRevision : Nat
  decisionCertificateIds : PerRole OpaqueId
  dependencySetHash : Sha256Digest
  validatedHead : Nat
  outcome : ValidationOutcome
  lowerBound : Option Nat
  upperBound : Option Nat
  jointValidityCertificateId : Option OpaqueId
  noCutProofId : Option OpaqueId
  refreshPlanId : Option OpaqueId
  verificationLatencyMs : NNRat
  createdAt : Timestamp
deriving DecidableEq

/-- The interval of one receipt as a certificate holds it. -/
structure Interval where
  receiptId : OpaqueId
  source : Source
  sourceRevision : Nat
  «from» : Nat
  «until» : Option Nat
deriving DecidableEq

/-- The certificate that three decisions hold together: the intervals of their
receipts, and a commit that lies in all of them. -/
structure JointValidityCertificate where
  certificateId : OpaqueId
  validationId : OpaqueId
  sessionId : OpaqueId
  actionHash : Sha256Digest
  dependencySetHash : Sha256Digest
  validatedAtHead : Nat
  selectedCutSeq : Nat
  currentHeadCovered : Bool
  decisionCertificateIds : PerRole OpaqueId
  intervals : PerRole Interval
  createdAt : Timestamp
deriving DecidableEq

/-- The permission to release the effect of a session once, for the evidence and
the head of one certificate. -/
structure EffectPermit where
  permitId : OpaqueId
  sessionId : OpaqueId
  actionHash : Sha256Digest
  dependencySetHash : Sha256Digest
  jointValidityCertificateId : OpaqueId
  validatedHead : Nat
  idempotencyKey : String
  status : PermitState
  issuedAt : Timestamp
  consumedAt : Option Timestamp
deriving DecidableEq

/-- The proof that no commit lies in all three intervals, with the two receipts
that witness it and the Agents that have to look again. -/
structure NoCutProof where
  proofId : OpaqueId
  validationId : OpaqueId
  sessionId : OpaqueId
  actionHash : Sha256Digest
  dependencySetHash : Sha256Digest
  decisionCertificateIds : PerRole OpaqueId
  validatedAtHead : Nat
  lowerBound : Nat
  upperBound : Nat
  latestStartingReceiptId : OpaqueId
  earliestEndingReceiptId : OpaqueId
  conflictWitnessReceiptIds : OpaqueId × OpaqueId
  refreshAgentIds : List OpaqueId
  createdAt : Timestamp
deriving DecidableEq

/-- The protected effect, with the permit that it used up. -/
structure EffectRecord where
  effectId : OpaqueId
  idempotencyKey : String
  permitId : OpaqueId
  sessionId : OpaqueId
  actionHash : Sha256Digest
  dependencySetHash : Sha256Digest
  jointValidityCertificateId : OpaqueId
  createdAt : Timestamp
deriving DecidableEq

/-- A plan to observe again for some of the Agents; a claim makes it the
business of one attempt. -/
structure RefreshPlan where
  refreshPlanId : OpaqueId
  sessionId : OpaqueId
  baseSessionRevision : Nat
  validatedHead : Nat
  dependencySetHash : Sha256Digest
  activeDecisionCertificateIds : PerRole OpaqueId
  agentIds : List OpaqueId
  status : RefreshPlanState
  claimedAttemptId : Option OpaqueId
deriving DecidableEq

/-! ## Diagnostics and audit -/

/-- The kinds of reference that name a record by its identifier. -/
inductive RecordRefKind where
  | ATTEMPT | ASSIGNMENT | RUN | REJECTED_OUTPUT | RECEIPT | SOURCE_VERSION | VALIDATION
  | PROOF | REFRESH_PLAN | PERMIT | EFFECT
deriving DecidableEq, Repr

/-- The literal by which the contract names a kind of reference. -/
def RecordRefKind.name : RecordRefKind → String
  | .ATTEMPT => "ATTEMPT"
  | .ASSIGNMENT => "ASSIGNMENT"
  | .RUN => "RUN"
  | .REJECTED_OUTPUT => "REJECTED_OUTPUT"
  | .RECEIPT => "RECEIPT"
  | .SOURCE_VERSION => "SOURCE_VERSION"
  | .VALIDATION => "VALIDATION"
  | .PROOF => "PROOF"
  | .REFRESH_PLAN => "REFRESH_PLAN"
  | .PERMIT => "PERMIT"
  | .EFFECT => "EFFECT"

/-- What a diagnostic or an audit event refers to: a stored record or the digest
of an output. -/
inductive ArtifactRef where
  | ENVELOPE_DIGEST (id : Sha256Digest)
  | record (kind : RecordRefKind) (id : OpaqueId)
deriving DecidableEq

/-- A diagnostic: what went wrong in a session, at which stage, for which
records, and which earlier diagnostics caused it. -/
structure SafetyDiagnostic where
  diagnosticId : OpaqueId
  sessionId : OpaqueId
  actionHash : Sha256Digest
  sessionRevision : Nat
  fixtureRef : Option String
  kind : DiagnosticKind
  stage : DiagnosticStage
  reasonCode : FailureCode
  role : Option Role
  attemptId : Option OpaqueId
  assignmentId : Option OpaqueId
  runId : Option OpaqueId
  artifactRefs : List ArtifactRef
  causedByDiagnosticIds : List OpaqueId
  rejectedOutputArtifactId : Option OpaqueId
  auditSeq : Nat
  recommendedAction : RecommendedAction
deriving DecidableEq

/-- An entry of the audit trail of a session. -/
structure AuditEvent where
  eventId : OpaqueId
  sessionId : OpaqueId
  actionHash : Sha256Digest
  sessionRevision : Nat
  auditSeq : Nat
  type : String
  status : String
  role : Option Role
  artifactRefs : List ArtifactRef
  createdAt : Timestamp
deriving DecidableEq

/-- Why an output was rejected before it was read as a decision. -/
inductive RejectedOutputReason where
  | PARSE_REJECTED | OUTPUT_TOO_LARGE
deriving DecidableEq, Repr

/-- What is kept of a rejected output. One that is too large is kept as digest
and length only. -/
structure RejectedOutputArtifact where
  artifactId : OpaqueId
  sessionId : OpaqueId
  attemptId : OpaqueId
  reason : RejectedOutputReason
  originalDigest : Sha256Digest
  originalByteLength : Nat
  sanitizedContent : Option JsString
  sanitizedContentDigest : Option Sha256Digest
  createdAt : Timestamp
deriving DecidableEq

/-! ## The database -/

/-- The whole store of a partition, as one file holds it. Records refer to each
other by their identifiers, and nothing in the types makes such a reference
valid. -/
structure EpochDatabase extends World where
  snapshotRevision : Nat
  roleAgentRegistrations : List RoleAgentRegistration
  roleQuerySpecs : List RoleQuerySpec
  runAssignments : List RunAssignment
  receipts : List ObservationReceipt
  sessions : List EpochSession
  attempts : List AgentAttempt
  decisions : List DependencyCertificate
  validations : List ValidationRecord
  jointValidityCertificates : List JointValidityCertificate
  noCutProofs : List NoCutProof
  refreshPlans : List RefreshPlan
  permits : List EffectPermit
  effects : List EffectRecord
  diagnostics : List SafetyDiagnostic
  rejectedOutputArtifacts : List RejectedOutputArtifact
  auditEvents : List AuditEvent

/-- The World before its first commit. -/
def emptyWorld : World := ⟨0, [], []⟩

/-- The store that a first start writes. -/
def emptyEpochDatabase : EpochDatabase where
  toWorld := emptyWorld
  snapshotRevision := 0
  roleAgentRegistrations := []
  roleQuerySpecs := []
  runAssignments := []
  receipts := []
  sessions := []
  attempts := []
  decisions := []
  validations := []
  jointValidityCertificates := []
  noCutProofs := []
  refreshPlans := []
  permits := []
  effects := []
  diagnostics := []
  rejectedOutputArtifacts := []
  auditEvents := []

/-- What `EpochDatabaseSchema` asks beyond the field types. -/
def EpochDatabase.parses [Sha256] (database : EpochDatabase) : Prop :=
  (∀ v ∈ database.resourceVersions, v.parses) ∧
    (∀ a ∈ database.attempts, a.parses) ∧
    ∀ s ∈ database.sessions, s.action.parses

instance [Sha256] (database : EpochDatabase) : Decidable database.parses :=
  inferInstanceAs (Decidable (_ ∧ _))

/-! ## Changing a stored record

A record that was found by its identifier is changed in place.
-/

namespace EpochDatabase

/-- The store after `Object.assign` on the assignment with this identifier; the
functions below do the same to the other records. -/
def setAssignment (database : EpochDatabase) (assignment : RunAssignment) : EpochDatabase :=
  { database with
    runAssignments := modifyWhere (fun a => a.assignmentId = assignment.assignmentId)
      (fun _ => assignment) database.runAssignments }

def setAttempt (database : EpochDatabase) (attempt : AgentAttempt) : EpochDatabase :=
  { database with
    attempts := modifyWhere (fun a => a.attemptId = attempt.attemptId) (fun _ => attempt)
      database.attempts }

def setSession (database : EpochDatabase) (session : EpochSession) : EpochDatabase :=
  { database with
    sessions := modifyWhere (fun s => s.sessionId = session.sessionId) (fun _ => session)
      database.sessions }

def setDecision (database : EpochDatabase) (decision : DependencyCertificate) : EpochDatabase :=
  { database with
    decisions := modifyWhere (fun d => d.certificateId = decision.certificateId)
      (fun _ => decision) database.decisions }

def setRefreshPlan (database : EpochDatabase) (plan : RefreshPlan) : EpochDatabase :=
  { database with
    refreshPlans := modifyWhere (fun p => p.refreshPlanId = plan.refreshPlanId) (fun _ => plan)
      database.refreshPlans }

def setPermit (database : EpochDatabase) (permit : EffectPermit) : EpochDatabase :=
  { database with
    permits := modifyWhere (fun p => p.permitId = permit.permitId) (fun _ => permit)
      database.permits }

end EpochDatabase

end EpochGuard
