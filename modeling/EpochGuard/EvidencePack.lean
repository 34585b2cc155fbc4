import EpochGuard.WorldLedger

/-!
# Evidence packs

`evidence-pack-writer.ts`: the authoritative verdict of a role on a World
value, and the canonical pack that a role's Agent is given. A pack is built
from persisted records alone.
-/

namespace EpochGuard

open Json Checked

/-! ## Authoritative verdicts -/

/-- The number in an object whose one property is `key`. -/
def countProperty? (key : String) : Value → Option Nat
  | .obj [(k, .num n)] => if k = js key then n.safeNat? else none
  | _ => none

/-- The truth value in an object whose one property is `key`. -/
def flagProperty? (key : String) : Value → Option Bool
  | .obj [(k, .bool b)] => if k = js key then some b else none
  | _ => none

/-- What the inventory shows, if the value has the form of the inventory. -/
def availableUnits? : Value → Option Nat := countProperty? "availableUnits"
/-- What the budget shows, if the value has the form of the budget. -/
def remainingBudgetCents? : Value → Option Nat := countProperty? "remainingBudgetCents"
/-- What the policy shows, if the value has the form of the policy. -/
def permitted? : Value → Option Bool := flagProperty? "permitted"

/-- Recomputes the business verdict from authoritative Action and World
values; there is none on a value of the wrong form. -/
def evaluateAuthoritativeVerdict (role : Role) (action : ActionCanonicalFields)
    (value : Value) : Option Verdict :=
  match role with
  | .inventory =>
      (availableUnits? value).map fun n => if action.requestedUnits ≤ n then .ALLOW else .DENY
  | .budget =>
      (remainingBudgetCents? value).map fun n =>
        if action.estimatedCostCents ≤ n then .ALLOW else .DENY
  | .policy => (permitted? value).map fun b => if b then .ALLOW else .DENY

/-- What the World says when it permits an action in a role. -/
def Permits (role : Role) (action : ActionCanonicalFields) (value : Value) : Prop :=
  match role with
  | .inventory => ∃ n, availableUnits? value = some n ∧ action.requestedUnits ≤ n
  | .budget => ∃ n, remainingBudgetCents? value = some n ∧ action.estimatedCostCents ≤ n
  | .policy => permitted? value = some true

theorem evaluateAuthoritativeVerdict_allow {role : Role} {action : ActionCanonicalFields}
    {value : Value} :
    evaluateAuthoritativeVerdict role action value = some .ALLOW ↔
      Permits role action value := by
  cases role <;> simp [evaluateAuthoritativeVerdict, Permits]

/-! ## Packs -/

/-- A file name of a pack path: a letter or digit, then letters, digits, `.`,
`_` and `-`. -/
def isPathSegment (s : String) : Bool :=
  match s.toList with
  | [] => false
  | c :: cs => c.isAlphanum && cs.all (fun d => isIdChar d && d != ':') && cs.length < 128

/-- Where the pack of an assignment is written, in the workspace of its Agent.
-/
def evidencePackRelativePath (sessionId : OpaqueId) (role : Role) (assignmentId : OpaqueId) :
    Option String :=
  if isPathSegment sessionId.val && isPathSegment assignmentId.val then
    some (".epochguard/sessions/" ++ sessionId.val ++ "/" ++ role.name ++ "/" ++
      assignmentId.val ++ ".json")
  else none

/-- The part of a pack that names the assignment and the receipt; an output has
to repeat it. -/
def bindingFor (assignment : RunAssignment) : Value :=
  jobj [("runAssignmentId", jstr assignment.assignmentId.val),
    ("sessionId", jstr assignment.sessionId.val), ("role", jstr assignment.role.name),
    ("actionHash", jdigest assignment.actionHash), ("queryHash", jdigest assignment.queryHash),
    ("roleProfileVersion", jstr assignment.roleProfileVersion.val),
    ("promptTemplateVersion", jstr assignment.promptTemplateVersion.val)]

/-- The records that a pack is built from. -/
structure EvidencePackBuildInput where
  action : ActionIntent
  querySpec : RoleQuerySpec
  assignment : RunAssignment
  receipt : ObservationReceipt
  resourceVersion : ResourceVersion
  worldHeadSeq : Nat

/-- A pack with the text that is written and the hash of that text. -/
structure BuiltCanonicalEvidencePack where
  canonicalText : JsString
  evidencePackHash : Sha256Digest
  evidencePackRelativePath : String
deriving DecidableEq

variable [Sha256]

/-- The records belong together: they name one session, action, Agent, role and
question, the version is the receipt's, and it was in force when it was
observed. The first check that fails gives the error. -/
def assertBindings (input : EvidencePackBuildInput) : Except String Unit := do
  let { action, querySpec, assignment, receipt, resourceVersion, worldHeadSeq } := input
  require (worldHeadSeq ≤ maxSafeInteger)
    "Evidence Pack World head must be a non-negative safe integer"
  require (assignment.sessionId = action.sessionId ∧ assignment.actionHash = action.actionHash)
    "Evidence Pack Assignment is not bound to its ActionIntent"
  require (assignment.role = querySpec.role ∧ assignment.queryHash = querySpec.queryHash)
    "Evidence Pack Assignment is not bound to its RoleQuerySpec"
  let expectedQuerySpec := buildRoleQuerySpec action.toActionCanonicalFields assignment.role
  require (canonicalJson querySpec.toJson = canonicalJson expectedQuerySpec.toJson)
    "Evidence Pack RoleQuerySpec does not reconstruct from ActionIntent"
  require (receipt.receiptId = assignment.receiptId ∧
      receipt.runAssignmentId = assignment.assignmentId ∧
      receipt.sessionId = assignment.sessionId ∧ receipt.actionHash = assignment.actionHash ∧
      receipt.agentId = assignment.agentId ∧ receipt.role = assignment.role ∧
      receipt.queryHash = assignment.queryHash ∧ receipt.source = querySpec.source ∧
      receipt.entityKey = querySpec.entityKey)
    "Evidence Pack Receipt binding does not match its Assignment"
  let resourceId ← orStop (resourceIdFor receipt.source receipt.entityKey)
    "Invalid resource identifier"
  require (resourceVersion.resourceId = resourceId ∧
      resourceVersion.sourceRevision = receipt.sourceRevision ∧
      resourceVersion.valueHash = receipt.valueHash)
    "Evidence Pack ResourceVersion does not match its Receipt"
  require (receipt.observedAtSeq ≤ worldHeadSeq ∧
      receipt.observedAtSeq ∈ resourceVersion.interval)
    "Evidence Pack Receipt is outside its authoritative interval"
  require (∀ u ∈ resourceVersion.validUntilSeq, u ≤ worldHeadSeq)
    "Evidence Pack finite horizon is ahead of the World head"
  let expectedPath ← orStop
    (evidencePackRelativePath assignment.sessionId assignment.role assignment.assignmentId)
    "Invalid Evidence Pack path"
  require (assignment.evidencePackRelativePath = expectedPath)
    "Assignment Evidence Pack path is not assignment-scoped"

/-- The rule by which the Agent of a role is to decide. -/
def decisionRule : Role → String
  | .inventory => "ALLOW iff availableUnits >= requestedUnits."
  | .budget => "ALLOW iff remainingBudgetCents >= estimatedCostCents."
  | .policy => "ALLOW iff permitted === true."

/-- What a role's Agent observes of the World value. -/
def observationFor (role : Role) (value : Value) : Option (String × Value) :=
  match role with
  | .inventory => (availableUnits? value).map fun n => ("availableUnits", jnat n)
  | .budget => (remainingBudgetCents? value).map fun n => ("remainingBudgetCents", jnat n)
  | .policy => (permitted? value).map fun b => ("permitted", .bool b)

/-- The content of a pack: the binding, the question, the rule, and the value
that was observed. -/
def buildPayload (querySpec : RoleQuerySpec) (assignment : RunAssignment)
    (receipt : ObservationReceipt) (resourceVersion : ResourceVersion) : Option Value := do
  let observed ← observationFor querySpec.role resourceVersion.value.val
  return jobj [("assignment", bindingFor assignment),
    ("action", querySpec.actionProjection.toJson),
    ("observation", jobj [("receiptId", jstr receipt.receiptId.val),
      ("nonce", jstr receipt.nonce), observed,
      ("observedAtSeq", jnat receipt.observedAtSeq)]),
    ("decisionRule", jstr (decisionRule querySpec.role)),
    ("responseMarker", jstr "EPOCH_DECISION")]

/-- Builds trusted bytes solely from persisted server records. -/
def buildCanonicalEvidencePack (input : EvidencePackBuildInput) :
    Except String BuiltCanonicalEvidencePack := do
  require input.action.parses "Invalid ActionIntent"
  let resourceVersion ← parseVerifiedResourceVersion input.resourceVersion
  assertBindings input
  let payload ← orStop
    (buildPayload input.querySpec input.assignment input.receipt resourceVersion)
    "Invalid World value"
  let canonicalText := canonicalJson payload
  return { canonicalText
           evidencePackHash := sha256Digest canonicalText
           evidencePackRelativePath := input.assignment.evidencePackRelativePath }

end EpochGuard
