import EpochGuard.EvidencePack

/-!
# Receipts

`receipt-issuer.ts`: the server-owned, assignment-bound observation of a
resource at the current head, and the interval behind a receipt.
-/

namespace EpochGuard

open Json Checked

def AssignmentState.name : AssignmentState → String
  | .CREATED => "CREATED"
  | .BOUND => "BOUND"
  | .CONSUMED => "CONSUMED"
  | .REJECTED => "REJECTED"

/-- A field that may be `null`. -/
def nullable {α : Type} (f : α → String) (o : Option α) : Value :=
  (o.map fun a => jstr (f a)).getD .null

def RunAssignment.toJson (assignment : RunAssignment) : Value :=
  jobj [("assignmentId", jstr assignment.assignmentId.val),
    ("sessionId", jstr assignment.sessionId.val), ("actionHash", jdigest assignment.actionHash),
    ("agentId", jstr assignment.agentId.val),
    ("agentNameAtAssignment", jstr assignment.agentNameAtAssignment),
    ("role", jstr assignment.role.name), ("receiptId", jstr assignment.receiptId.val),
    ("queryHash", jdigest assignment.queryHash),
    ("roleProfileVersion", jstr assignment.roleProfileVersion.val),
    ("promptTemplateVersion", jstr assignment.promptTemplateVersion.val),
    ("agentsMdDigest", jdigest assignment.agentsMdDigest),
    ("runtimeLabelAtDispatch", jstr assignment.runtimeLabelAtDispatch),
    ("evidencePackRelativePath", jstr assignment.evidencePackRelativePath),
    ("evidencePackHash", jdigest assignment.evidencePackHash),
    ("boundRunId", nullable OpaqueId.val assignment.boundRunId),
    ("status", jstr assignment.status.name),
    ("consumedByDecisionCertificateId",
      nullable OpaqueId.val assignment.consumedByDecisionCertificateId),
    ("createdAt", jstr assignment.createdAt.text),
    ("boundAt", nullable Timestamp.text assignment.boundAt),
    ("consumedAt", nullable Timestamp.text assignment.consumedAt)]

/-- Two values have the same canonical text. -/
def assertCanonicalEqual (actual expected : Value) (message : String) : Except String Unit :=
  require (canonicalJson actual = canonicalJson expected) message

variable [Sha256]

/-- Resolves and validates the authoritative interval behind a server Receipt.
A finite upper bound must already be at or behind the current World head. -/
def resolveReceiptResourceVersion (world : World) (receipt : ObservationReceipt) :
    Except String ResourceVersion := do
  require (receipt.observedAtSeq ≤ world.headSeq)
    "Receipt observation is ahead of the authoritative World head"
  let match' ← resolveResourceVersionByIdentity world receipt.source receipt.entityKey
    receipt.sourceRevision
  let version ← orStop match' "Receipt source revision is not present in World history"
  require (version.valueHash = receipt.valueHash)
    "Receipt value hash does not match World history"
  require (version.validFromSeq ≤ receipt.observedAtSeq)
    "Receipt predates its ResourceVersion"
  require (∀ u ∈ version.validUntilSeq, receipt.observedAtSeq < u)
    "Receipt is outside the ResourceVersion half-open interval"
  require (∀ u ∈ version.validUntilSeq, u ≤ world.headSeq)
    "Finite ResourceVersion horizon is ahead of the World head"
  return version

/-- What an observation is issued for. -/
structure IssueObservationInput where
  action : ActionIntent
  assignment : RunAssignment
  querySpec : RoleQuerySpec

/-- The receipt, and the version that it was issued for. -/
structure IssuedObservation where
  receipt : ObservationReceipt
  resourceVersion : ResourceVersion

/-- Issues one server-owned, assignment-bound observation at the current head,
with the nonce and the time that its factory and clock give. -/
def ReceiptIssuer.issue (database : EpochDatabase) (input : IssueObservationInput)
    (nonce : String) (issuedAt : Timestamp) :
    Except String (EpochDatabase × IssuedObservation) := do
  let { action, assignment, querySpec } := input
  require action.parses "Invalid ActionIntent"
  require (assignment.status = .CREATED ∧ assignment.boundRunId = none ∧
      assignment.consumedByDecisionCertificateId = none)
    "Receipt issuance requires an unused CREATED Assignment"
  require (assignment.sessionId = action.sessionId ∧ assignment.actionHash = action.actionHash)
    "Assignment is not bound to the supplied ActionIntent"
  require (assignment.role = querySpec.role ∧ assignment.queryHash = querySpec.queryHash)
    "Assignment is not bound to the supplied RoleQuerySpec"
  assertCanonicalEqual querySpec.toJson
    (buildRoleQuerySpec action.toActionCanonicalFields assignment.role).toJson
    "RoleQuerySpec does not reconstruct from the frozen ActionIntent"
  let storedAssignment ← orStop
    (single? database.runAssignments fun a => a.assignmentId = assignment.assignmentId)
    "Receipt issuance requires exactly one stored Assignment"
  assertCanonicalEqual storedAssignment.toJson assignment.toJson
    "Stored Assignment differs from the Receipt issuance input"
  let storedQueries := database.roleQuerySpecs.filter fun q => q.queryHash = querySpec.queryHash
  require (storedQueries ≠ []) "Receipt issuance requires a stored RoleQuerySpec"
  storedQueries.forM fun storedQuery => assertCanonicalEqual storedQuery.toJson querySpec.toJson
    "Stored RoleQuerySpec differs from the Receipt issuance input"
  require (∀ r ∈ database.receipts, r.receiptId ≠ assignment.receiptId ∧
      r.runAssignmentId ≠ assignment.assignmentId)
    "Assignment already has an issued Receipt"
  let resourceId ← orStop (resourceIdFor querySpec.source querySpec.entityKey)
    "Invalid resource identifier"
  let current ← resolveResourceVersionAt database.toWorld resourceId.val database.headSeq
  let resourceVersion ← orStop current
    "No authoritative ResourceVersion exists at the World head"
  require (∀ r ∈ database.receipts, r.nonce ≠ nonce) "Receipt nonce has already been issued"
  require (32 ≤ jsLength nonce ∧ jsLength nonce ≤ 512) "Invalid Receipt nonce"
  let receipt : ObservationReceipt :=
    { receiptId := assignment.receiptId
      sessionId := assignment.sessionId
      actionHash := assignment.actionHash
      agentId := assignment.agentId
      runAssignmentId := assignment.assignmentId
      role := assignment.role
      source := querySpec.source
      entityKey := querySpec.entityKey
      queryHash := querySpec.queryHash
      sourceRevision := resourceVersion.sourceRevision
      valueHash := resourceVersion.valueHash
      observedAtSeq := database.headSeq
      nonce
      issuedAt }
  -- the complete temporal reconstruction is validated before it is visible
  let _ ← resolveReceiptResourceVersion database.toWorld receipt
  return ({ database with receipts := database.receipts ++ [receipt] },
    { receipt, resourceVersion })

/-- What an issuance has checked, and the receipt that it appends: the version
is the one in force at the head, and it is found again by the source's revision.
-/
structure Issuance (database : EpochDatabase) (input : IssueObservationInput) (nonce : String)
    (left : EpochDatabase) (issued : IssuedObservation) : Prop where
  unused : input.assignment.status = .CREATED ∧ input.assignment.boundRunId = none ∧
    input.assignment.consumedByDecisionCertificateId = none
  stored : ∃ a, single? database.runAssignments
    (fun b => b.assignmentId = input.assignment.assignmentId) = some a
  fresh : ∀ r ∈ database.receipts, r.receiptId ≠ input.assignment.receiptId ∧
    r.runAssignmentId ≠ input.assignment.assignmentId ∧ r.nonce ≠ nonce
  receipt : issued.receipt.receiptId = input.assignment.receiptId ∧
    issued.receipt.runAssignmentId = input.assignment.assignmentId ∧
    issued.receipt.nonce = nonce ∧ issued.receipt.observedAtSeq = database.headSeq ∧
    issued.receipt.source = input.querySpec.source ∧
    issued.receipt.entityKey = input.querySpec.entityKey
  version : issued.receipt.sourceRevision = issued.resourceVersion.sourceRevision ∧
    issued.receipt.valueHash = issued.resourceVersion.valueHash
  current : ∃ resourceId, resourceIdFor input.querySpec.source input.querySpec.entityKey =
      some resourceId ∧
    resolveResourceVersionAt database.toWorld resourceId.val database.headSeq =
      .ok (some issued.resourceVersion)
  resolved : ∃ v, resolveReceiptResourceVersion database.toWorld issued.receipt = .ok v
  left : left = { database with receipts := database.receipts ++ [issued.receipt] }

theorem ReceiptIssuer.issue_cases {database left : EpochDatabase} {input : IssueObservationInput}
    {nonce : String} {issuedAt : Timestamp} {issued : IssuedObservation}
    (h : ReceiptIssuer.issue database input nonce issuedAt = .ok (left, issued)) :
    Issuance database input nonce left issued := by
  simp only [ReceiptIssuer.issue, bind_eq_ok, require_eq_ok, orStop_eq_ok, pure_eq_ok,
    Prod.mk.injEq] at h
  obtain ⟨-, -, -, hunused, -, -, -, -, -, -, stored, hstored, -, -, -, -, -, -, -, hfresh,
    resourceId, hresource, _, hcurrent, version, rfl, -, hnonce, -, -, resolved, hresolved, rfl,
    rfl⟩ := h
  refine ⟨hunused, ⟨stored, hstored⟩, ?_, ⟨rfl, rfl, rfl, rfl, rfl, rfl⟩, ⟨rfl, rfl⟩,
    ⟨resourceId, hresource, hcurrent⟩, ⟨resolved, hresolved⟩, rfl⟩
  intro r hr
  exact ⟨(hfresh r hr).1, (hfresh r hr).2, hnonce r hr⟩

end EpochGuard
