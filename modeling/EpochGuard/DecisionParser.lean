import EpochGuard.ReceiptIssuer
import Mathlib.Data.List.DropRight

/-!
# Decisions

`decision-parser.ts`: the records that a decision must be bound to, the
envelope in an Agent's output, and the one-time consumption of an assignment
by a decision.
-/

namespace EpochGuard

open Json Checked

/-- A failure of the parser or of a check of bindings. -/
structure DecisionNormalizationError where
  reasonCode : FailureCode
  message : String
deriving DecidableEq

namespace DecisionParser

/-- The one record with a property; none or several are a failure. -/
def requireUnique {α : Type} (values : List α) (predicate : α → Bool) (label : String) :
    Except DecisionNormalizationError α :=
  orStop (single? values predicate)
    ⟨.DECISION_INVALID, label ++ " must resolve to exactly one record"⟩

/-- `assertEqual`, with the reason code that most checks have. -/
def assertEqual {α : Type} [DecidableEq α] (actual expected : α) (label : String)
    (reasonCode : FailureCode := .BINDING_MISMATCH) : Except DecisionNormalizationError Unit :=
  require (actual = expected)
    ⟨reasonCode, label ++ " does not match the authoritative binding"⟩

@[simp] theorem requireUnique_eq_ok {α : Type} {values : List α} {predicate : α → Bool}
    {label : String} {a : α} :
    requireUnique values predicate label = .ok a ↔ single? values predicate = some a := by
  simp [requireUnique]

@[simp] theorem assertEqual_eq_ok {α : Type} [DecidableEq α] {actual expected : α}
    {label : String} {reasonCode : FailureCode} {u : Unit} :
    assertEqual actual expected label reasonCode = .ok u ↔ actual = expected := by
  simp [assertEqual]

/-! ## Bindings -/

/-- The frozen Agent of a role. -/
def frozenAgentId (session : EpochSession) (role : Role) : OpaqueId :=
  session.frozenAssignments.get role

section Bindings

variable [Sha256]

/-- The hashes and the idempotency key of a session are those of its action. -/
def assertCanonicalAction (session : EpochSession) : Except DecisionNormalizationError Unit := do
  let canonicalHash := actionHash session.action.toActionCanonicalFields
  assertEqual session.action.sessionId session.sessionId "Action Session"
  assertEqual session.action.actionHash canonicalHash "Action canonical hash"
    .ACTION_HASH_MISMATCH
  assertEqual session.actionHash canonicalHash "Session Action hash" .ACTION_HASH_MISMATCH
  assertEqual session.action.idempotencyKey (idempotencyKeyFor session.sessionId canonicalHash)
    "Action idempotency key" .ACTION_HASH_MISMATCH

/-- Assignment and receipt carry the question that the action gives their role,
and that is the question which is stored. -/
def assertRoleQueryBinding (database : EpochDatabase) (session : EpochSession)
    (assignment : RunAssignment) (receipt : ObservationReceipt) :
    Except DecisionNormalizationError Unit := do
  let expectedSpec := buildRoleQuerySpec session.action.toActionCanonicalFields assignment.role
  assertEqual assignment.queryHash expectedSpec.queryHash "Assignment query hash"
    .QUERY_HASH_MISMATCH
  assertEqual receipt.queryHash expectedSpec.queryHash "Receipt query hash"
    .QUERY_HASH_MISMATCH
  assertEqual receipt.source expectedSpec.source "Receipt source"
  assertEqual receipt.entityKey expectedSpec.entityKey "Receipt entity key"
  let storedSpec ← requireUnique database.roleQuerySpecs
    (fun q => q.actionHash = expectedSpec.actionHash ∧ q.role = expectedSpec.role)
    "Role Query Spec"
  require (canonicalJson storedSpec.toJson = canonicalJson expectedSpec.toJson)
    ⟨.QUERY_HASH_MISMATCH,
      "Stored Role Query Spec does not match the canonical Action projection"⟩

end Bindings

/-- The Agent of an assignment is the one that is registered for the role and
that the session was created with, under the same profile. -/
def assertRegistrationBinding (database : EpochDatabase) (session : EpochSession)
    (assignment : RunAssignment) : Except DecisionNormalizationError Unit := do
  let registration ← requireUnique database.roleAgentRegistrations
    (fun r => r.role = assignment.role) "Role Agent Registration"
  assertEqual registration.agentId assignment.agentId "Registered Agent"
  assertEqual registration.agentId (frozenAgentId session assignment.role) "Frozen Role Agent"
  assertEqual registration.roleProfileVersion assignment.roleProfileVersion
    "Role Profile version" .ROLE_PROFILE_MISMATCH
  assertEqual registration.agentsMdDigest assignment.agentsMdDigest "Role Profile digest"
    .ROLE_PROFILE_MISMATCH

/-- Attempt and assignment name each other, one session and action, one Agent
and role, and one Run. -/
def assertAttemptAndAssignmentBinding (session : EpochSession) (attempt : AgentAttempt)
    (assignment : RunAssignment) : Except DecisionNormalizationError Unit := do
  assertEqual attempt.assignmentId assignment.assignmentId "Attempt Assignment"
  assertEqual attempt.sessionId session.sessionId "Attempt Session"
  assertEqual attempt.actionHash session.actionHash "Attempt Action"
  assertEqual attempt.agentId assignment.agentId "Attempt Agent"
  assertEqual attempt.role assignment.role "Attempt Role"
  assertEqual assignment.sessionId session.sessionId "Assignment Session"
  assertEqual assignment.actionHash session.actionHash "Assignment Action"
  assertEqual assignment.agentId (frozenAgentId session assignment.role)
    "Assignment frozen Agent"
  assertEqual assignment.boundRunId attempt.runId "Assignment Run"
  require (attempt.runId ≠ none ∧ assignment.boundRunId ≠ none)
    ⟨.DECISION_INVALID, "Decision requires an Assignment bound to a real Run"⟩

/-- An attempt and its assignment, bound to each other, to one Run and to their
session, as `assertAttemptAndAssignmentBinding` checks them one by one. -/
structure AttemptBinding (session : EpochSession) (attempt : AgentAttempt)
    (assignment : RunAssignment) : Prop where
  assignmentId : attempt.assignmentId = assignment.assignmentId
  attemptSession : attempt.sessionId = session.sessionId
  attemptAction : attempt.actionHash = session.actionHash
  agent : attempt.agentId = assignment.agentId
  role : attempt.role = assignment.role
  assignmentSession : assignment.sessionId = session.sessionId
  assignmentAction : assignment.actionHash = session.actionHash
  owner : assignment.agentId = frozenAgentId session assignment.role
  run : assignment.boundRunId = attempt.runId
  hasRun : attempt.runId ≠ none

theorem assertAttemptAndAssignmentBinding_eq_ok {session : EpochSession} {attempt : AgentAttempt}
    {assignment : RunAssignment} {u : Unit} :
    assertAttemptAndAssignmentBinding session attempt assignment = .ok u ↔
      AttemptBinding session attempt assignment := by
  simp only [assertAttemptAndAssignmentBinding, bind_eq_ok, assertEqual_eq_ok, require_eq_ok]
  constructor
  · rintro ⟨⟨⟩, h1, ⟨⟩, h2, ⟨⟩, h3, ⟨⟩, h4, ⟨⟩, h5, ⟨⟩, h6, ⟨⟩, h7, ⟨⟩, h8, ⟨⟩, h9, h10, -⟩
    exact ⟨h1, h2, h3, h4, h5, h6, h7, h8, h9, h10⟩
  · rintro ⟨h1, h2, h3, h4, h5, h6, h7, h8, h9, h10⟩
    exact ⟨⟨⟩, h1, ⟨⟩, h2, ⟨⟩, h3, ⟨⟩, h4, ⟨⟩, h5, ⟨⟩, h6, ⟨⟩, h7, ⟨⟩, h8, ⟨⟩, h9, h10, h9 ▸ h10⟩

/-- The receipt is the one that was issued for the assignment. -/
def assertReceiptBinding (assignment : RunAssignment) (receipt : ObservationReceipt) :
    Except DecisionNormalizationError Unit := do
  assertEqual receipt.receiptId assignment.receiptId "Assignment Receipt"
  assertEqual receipt.runAssignmentId assignment.assignmentId "Receipt Assignment"
  assertEqual receipt.sessionId assignment.sessionId "Receipt Session"
  assertEqual receipt.actionHash assignment.actionHash "Receipt Action"
  assertEqual receipt.agentId assignment.agentId "Receipt Agent"
  assertEqual receipt.role assignment.role "Receipt Role"
  assertEqual receipt.source assignment.role "Receipt source Role"

/-- A receipt, bound to its assignment. -/
structure ReceiptBinding (assignment : RunAssignment) (receipt : ObservationReceipt) : Prop where
  receiptId : receipt.receiptId = assignment.receiptId
  assignmentId : receipt.runAssignmentId = assignment.assignmentId
  session : receipt.sessionId = assignment.sessionId
  action : receipt.actionHash = assignment.actionHash
  agent : receipt.agentId = assignment.agentId
  role : receipt.role = assignment.role
  source : receipt.source = assignment.role

theorem assertReceiptBinding_eq_ok {assignment : RunAssignment} {receipt : ObservationReceipt}
    {u : Unit} :
    assertReceiptBinding assignment receipt = .ok u ↔ ReceiptBinding assignment receipt := by
  simp only [assertReceiptBinding, bind_eq_ok, assertEqual_eq_ok]
  constructor
  · rintro ⟨⟨⟩, h1, ⟨⟩, h2, ⟨⟩, h3, ⟨⟩, h4, ⟨⟩, h5, ⟨⟩, h6, h7⟩
    exact ⟨h1, h2, h3, h4, h5, h6, h7⟩
  · rintro ⟨h1, h2, h3, h4, h5, h6, h7⟩
    exact ⟨⟨⟩, h1, ⟨⟩, h2, ⟨⟩, h3, ⟨⟩, h4, ⟨⟩, h5, ⟨⟩, h6, h7⟩

/-- A decision with the records that it rests on. -/
structure BoundDecision where
  decision : DependencyCertificate
  assignment : RunAssignment
  attempt : AgentAttempt
  receipt : ObservationReceipt
deriving DecidableEq

/-- The records behind an active decision, once every binding between them has
been checked; the validator reads no decision but through this function. -/
def resolveBoundDecision [Sha256] (database : EpochDatabase) (session : EpochSession)
    (decision : DependencyCertificate) : Except DecisionNormalizationError BoundDecision := do
  assertCanonicalAction session
  assertEqual decision.sessionId session.sessionId "Decision Session"
  assertEqual decision.actionHash session.actionHash "Decision Action" .ACTION_HASH_MISMATCH
  require (decision.status = .ACTIVE)
    ⟨.DECISION_INVALID, "Only an ACTIVE Decision can be validated"⟩
  let assignment ← requireUnique database.runAssignments
    (fun a => a.assignmentId = decision.runAssignmentId) "Decision Assignment"
  let attempt ← requireUnique database.attempts
    (fun a => a.assignmentId = assignment.assignmentId) "Decision Attempt"
  let receipt ← requireUnique database.receipts
    (fun r => r.receiptId = decision.receiptId) "Decision Receipt"
  require (assignment.status = .CONSUMED ∧
      assignment.consumedByDecisionCertificateId = some decision.certificateId ∧
      assignment.consumedAt ≠ none)
    ⟨.DECISION_INVALID, "Decision Assignment was not consumed exactly once"⟩
  require (attempt.status = .ACCEPTED ∧ attempt.runId ≠ none ∧ attempt.outputDigest ≠ none)
    ⟨.DECISION_INVALID, "Decision does not have accepted terminal Run evidence"⟩
  assertAttemptAndAssignmentBinding session attempt assignment
  assertReceiptBinding assignment receipt
  assertRegistrationBinding database session assignment
  assertRoleQueryBinding database session assignment receipt
  assertEqual decision.agentId assignment.agentId "Decision Agent"
  assertEqual decision.role assignment.role "Decision Role"
  assertEqual (some decision.runId) assignment.boundRunId "Decision Run"
  assertEqual decision.receiptId assignment.receiptId "Decision Receipt"
  return { decision, assignment, attempt, receipt }

/-- The receipt that a decision is bound to is a stored one, and the one that it
names. -/
theorem resolveBoundDecision_receipt [Sha256] {database : EpochDatabase}
    {session : EpochSession} {decision : DependencyCertificate} {binding : BoundDecision}
    (h : resolveBoundDecision database session decision = .ok binding) :
    binding.receipt ∈ database.receipts ∧ binding.receipt.receiptId = decision.receiptId := by
  simp only [resolveBoundDecision, bind_eq_ok, requireUnique_eq_ok, pure_eq_ok] at h
  obtain ⟨-, -, -, -, -, -, -, -, _, -, _, -, receipt, hreceipt, -, -, -, -, -, -, -, -, -, -,
    -, -, -, -, -, -, -, -, -, -, rfl⟩ := h
  simpa using single?_mem hreceipt

/-! ## The envelope in an output -/

/-- What an output starts with. -/
def EPOCH_DECISION_OPEN_MARKER : JsString := js "<EPOCH_DECISION>"
/-- What an output ends with. -/
def EPOCH_DECISION_CLOSE_MARKER : JsString := js "</EPOCH_DECISION>"
/-- An output above this size is not read. -/
def MAX_DECISION_OUTPUT_BYTES : Nat := 16 * 1024

/-- The bytes of one code unit in UTF-8; a lone surrogate becomes U+FFFD. -/
def unitBytes (u : UInt16) : Nat := if u < 0x80 then 1 else if u < 0x800 then 2 else 3

/-- `Buffer.byteLength(value, "utf8")` -/
def utf8Length : JsString → Nat
  | [] => 0
  | [u] => unitBytes u
  | u :: v :: rest =>
      if isHighSurrogate u && isLowSurrogate v then 4 + utf8Length rest
      else unitBytes u + utf8Length (v :: rest)

/-- Occurrences of a literal that do not overlap; the code units to skip are
those of the occurrence found last. -/
def countLiteralFrom (literal : JsString) : Nat → JsString → Nat
  | _, [] => 0
  | skip + 1, _ :: rest => countLiteralFrom literal skip rest
  | 0, u :: rest =>
      if literal.isPrefixOf (u :: rest) then
        1 + countLiteralFrom literal (literal.length - 1) rest
      else countLiteralFrom literal 0 rest

/-- How often a literal occurs in a text, each search going on behind the
occurrence before it. -/
def countLiteral (value literal : JsString) : Nat := countLiteralFrom literal 0 value

/-- What `String.prototype.trim` removes: white space and line terminators. -/
def isTrimmed (u : UInt16) : Bool :=
  (0x09 ≤ u && u ≤ 0x0D) || u == 0x20 || u == 0xA0 || u == 0x1680 ||
    (0x2000 ≤ u && u ≤ 0x200A) || u == 0x2028 || u == 0x2029 || u == 0x202F ||
    u == 0x205F || u == 0x3000 || u == 0xFEFF

/-- `String.prototype.trim` -/
def trim (s : JsString) : JsString := (s.dropWhile isTrimmed).rdropWhile isTrimmed

/-- The text between two markers that a text starts and ends with. -/
def betweenMarkers (trimmed : JsString) : JsString :=
  (trimmed.drop EPOCH_DECISION_OPEN_MARKER.length).take
    (trimmed.length - EPOCH_DECISION_CLOSE_MARKER.length - EPOCH_DECISION_OPEN_MARKER.length)

/-- The characters of an ASCII string. -/
def asciiChars? (s : JsString) : Option (List Char) :=
  if s.all (· < 0x80) then some (s.map fun u => Char.ofNat u.toNat) else none

/-- `OpaqueIdSchema`, of a JSON value. -/
def opaqueId? : Value → Option OpaqueId
  | .str s => (asciiChars? s).bind OpaqueId.ofChars?
  | _ => none

/-- `Sha256DigestSchema`, of a JSON value. -/
def digest? : Value → Option Sha256Digest
  | .str s => do
      let cs ← asciiChars? s
      let hex := cs.drop 7
      if h : hex.length = 64 ∧ hex.all isHexDigit = true then
        if cs.take 7 = "sha256:".toList then some ⟨hex, h⟩ else none
      else none
  | _ => none

/-- A text whose length in code units is within bounds. -/
def text? (shortest longest : Nat) : Value → Option JsString
  | .str s => if shortest ≤ s.length ∧ s.length ≤ longest then some s else none
  | _ => none

/-- The element of an enumeration with a name. -/
def named? {α : Type} (members : List α) (name : α → String) : Value → Option α
  | .str s => members.find? fun a => js (name a) = s
  | _ => none

/-- The nine keys of an envelope. -/
def envelopeKeys : List String :=
  ["schemaVersion", "sessionId", "actionHash", "runAssignmentId", "role", "receiptId", "nonce",
    "verdict", "reason"]

/-- `AgentDecisionEnvelopeSchema.safeParse`: the fields of the schema and no
other ones, an own `__proto__` property apart, which the check skips. -/
def parseEnvelope : Value → Option AgentDecisionEnvelope
  | .obj entries => do
      let field := fun (key : String) => (entries.find? fun e => e.1 = js key).map Prod.snd
      let schemaVersion ← field "schemaVersion"
      let sessionId ← (← field "sessionId") |> opaqueId?
      let actionHash ← (← field "actionHash") |> digest?
      let runAssignmentId ← (← field "runAssignmentId") |> opaqueId?
      let role ← (← field "role") |> named? ROLES Role.name
      let receiptId ← (← field "receiptId") |> opaqueId?
      let nonce ← (← field "nonce") |> text? 32 512
      let verdict ← (← field "verdict") |> named? [.ALLOW, .DENY] Verdict.name
      let reason ← (← field "reason") |> text? 1 1000
      let isOne := match schemaVersion with
        | .num n => n.numeral == ['1']
        | _ => false
      let isKnown := fun (e : JsString × Value) =>
        e.1 = protoKey || envelopeKeys.any fun key => e.1 = js key
      if isOne && entries.all isKnown then
        some { sessionId, actionHash, runAssignmentId, role, receiptId, nonce, verdict, reason }
      else none
  | _ => none

/-- The JSON value of an envelope, whose canonical text is what a decision's
digest is of. -/
def envelopeJson (envelope : AgentDecisionEnvelope) : Value :=
  .obj [(js "schemaVersion", jnat 1), (js "sessionId", jstr envelope.sessionId.val),
    (js "actionHash", jdigest envelope.actionHash),
    (js "runAssignmentId", jstr envelope.runAssignmentId.val),
    (js "role", jstr envelope.role.name), (js "receiptId", jstr envelope.receiptId.val),
    (js "nonce", .str envelope.nonce), (js "verdict", jstr envelope.verdict.name),
    (js "reason", .str envelope.reason)]

/-- The language's `JSON.parse`, and the redaction of a rejected output. The
redaction is a parameter: `redactRejectedDecisionOutput` is some twenty regular
expressions applied line by line, and no result turns on which texts they mask.
What the parser itself relies on are the three checks that
`buildRejectedOutputArtifact` makes of the redacted text, which are modelled
below and stand in every theorem about a rejected output. -/
class OutputPorts where
  jsonParse : JsString → Option Value
  redactRejectedDecisionOutput : JsString → JsString

section Outputs

variable [Sha256] [OutputPorts]

open OutputPorts

/-- The envelope of an output. The checks are made in this order, so that the
first of them which fails is the one reported: the size, the number of markers,
their places, the JSON, the schema. -/
def parseDecisionEnvelope (rawOutput : JsString) :
    Except DecisionNormalizationError AgentDecisionEnvelope := do
  require (utf8Length rawOutput ≤ MAX_DECISION_OUTPUT_BYTES)
    ⟨.OUTPUT_MALFORMED, "Decision output exceeds 16384 UTF-8 bytes"⟩
  require (countLiteral rawOutput EPOCH_DECISION_OPEN_MARKER = 1 ∧
      countLiteral rawOutput EPOCH_DECISION_CLOSE_MARKER = 1)
    ⟨.OUTPUT_MALFORMED, "Decision output must contain exactly one marker envelope"⟩
  let trimmed := trim rawOutput
  require (EPOCH_DECISION_OPEN_MARKER.isPrefixOf trimmed = true ∧
      EPOCH_DECISION_CLOSE_MARKER.isSuffixOf trimmed = true)
    ⟨.OUTPUT_MALFORMED, "Decision envelope cannot have leading or trailing free text"⟩
  let candidate ← orStop (jsonParse (trim (betweenMarkers trimmed)))
    ⟨.OUTPUT_MALFORMED, "Decision envelope contains invalid JSON"⟩
  orStop (parseEnvelope candidate)
    ⟨.OUTPUT_MALFORMED, "Decision envelope failed the strict contract schema"⟩

/-- The identifiers and the time that the caller gives. -/
structure DecisionNormalizationOptions where
  certificateId : OpaqueId
  rejectedOutputArtifactId : OpaqueId
  createdAt : Timestamp

/-- What is kept of an output that is not an envelope. Its redacted text has to
be no longer than the output, stable under a second redaction, and fail the
parser in the same way. -/
def buildRejectedOutputArtifact (database : EpochDatabase) (sessionId attemptId : OpaqueId)
    (rawOutput : JsString) (originalFailure : DecisionNormalizationError)
    (options : DecisionNormalizationOptions) :
    Except DecisionNormalizationError RejectedOutputArtifact := do
  let artifactId := options.rejectedOutputArtifactId
  let originalDigest := sha256Digest rawOutput
  let originalByteLength := utf8Length rawOutput
  require (∀ a ∈ database.rejectedOutputArtifacts, a.artifactId ≠ artifactId)
    ⟨.DECISION_INVALID, "Rejected Output Artifact ID already exists"⟩
  let createdAt := options.createdAt
  if MAX_DECISION_OUTPUT_BYTES < originalByteLength then
    return { artifactId, sessionId, attemptId, reason := .OUTPUT_TOO_LARGE, originalDigest,
             originalByteLength, sanitizedContent := none, sanitizedContentDigest := none,
             createdAt }
  else do
    let sanitizedContent := redactRejectedDecisionOutput rawOutput
    require (utf8Length sanitizedContent ≤ originalByteLength ∧
        redactRejectedDecisionOutput sanitizedContent = sanitizedContent)
      ⟨.DECISION_INVALID, "Rejected output redaction must be non-expanding and idempotent"⟩
    require (parseDecisionEnvelope sanitizedContent = .error originalFailure)
      ⟨.DECISION_INVALID, "Rejected output redaction must replay the original parser failure"⟩
    return { artifactId, sessionId, attemptId, reason := .PARSE_REJECTED, originalDigest,
             originalByteLength, sanitizedContent := some sanitizedContent,
             sanitizedContentDigest := some (sha256Digest sanitizedContent), createdAt }

/-! ## One-time consumption -/

/-- What becomes of an output: a decision, or the artifact of its rejection. -/
inductive DecisionNormalizationResult where
  | accepted (decision : DependencyCertificate)
  | outputRejected (rejectedOutputArtifact : RejectedOutputArtifact)
deriving DecidableEq

/-- The records of an attempt that is ready for its one decision. -/
structure ConsumableRecords where
  attempt : AgentAttempt
  assignment : RunAssignment
  session : EpochSession
  receipt : ObservationReceipt
  runId : OpaqueId

/-- The records of a completed attempt whose assignment has not been used, with
all their bindings to each other, to the session, to the question and to the
output. -/
def requireConsumable (database : EpochDatabase) (attemptId : OpaqueId) (rawOutput : JsString) :
    Except DecisionNormalizationError ConsumableRecords := do
  let attempt ← requireUnique database.attempts (fun a => a.attemptId = attemptId)
    "Decision Attempt"
  let assignment ← requireUnique database.runAssignments
    (fun a => a.assignmentId = attempt.assignmentId) "Decision Assignment"
  let session ← requireUnique database.sessions (fun s => s.sessionId = assignment.sessionId)
    "Decision Session"
  let receipt ← requireUnique database.receipts (fun r => r.receiptId = assignment.receiptId)
    "Decision Receipt"
  assertCanonicalAction session
  let unavailable : DecisionNormalizationError :=
    ⟨.DECISION_INVALID, "Assignment is not available for one-time consumption"⟩
  require (assignment.status = .BOUND ∧ assignment.consumedByDecisionCertificateId = none ∧
    assignment.consumedAt = none) unavailable
  let runId ← orStop assignment.boundRunId unavailable
  require (attempt.status = .COMPLETED ∧ attempt.runId ≠ none ∧ attempt.runStartedAt ≠ none ∧
      attempt.runCompletedAt ≠ none ∧ attempt.outputDigest ≠ none)
    ⟨.DECISION_INVALID, "Attempt is not a completed authoritative Run"⟩
  assertEqual attempt.outputDigest (some (sha256Digest rawOutput)) "Run output digest"
  assertAttemptAndAssignmentBinding session attempt assignment
  assertRegistrationBinding database session assignment
  assertReceiptBinding assignment receipt
  assertRoleQueryBinding database session assignment receipt
  assertEqual (session.activeAttemptIds.get assignment.role) (some attempt.attemptId)
    "Session active Attempt"
  return { attempt, assignment, session, receipt, runId }

/-- What `requireConsumable` has checked of the records it returns: each was
found once, they are bound to each other, and the attempt waits for this very
output. -/
structure Consumable (database : EpochDatabase) (attemptId : OpaqueId) (rawOutput : JsString)
    (records : ConsumableRecords) : Prop where
  attempt : single? database.attempts (fun a => a.attemptId = attemptId) = some records.attempt
  assignment : single? database.runAssignments
    (fun a => a.assignmentId = records.attempt.assignmentId) = some records.assignment
  session : single? database.sessions
    (fun s => s.sessionId = records.assignment.sessionId) = some records.session
  receipt : single? database.receipts
    (fun r => r.receiptId = records.assignment.receiptId) = some records.receipt
  bound : records.assignment.status = .BOUND
  unconsumed : records.assignment.consumedByDecisionCertificateId = none
  run : records.assignment.boundRunId = some records.runId
  completed : records.attempt.status = .COMPLETED
  output : records.attempt.outputDigest = some (sha256Digest rawOutput)
  attemptBinding : AttemptBinding records.session records.attempt records.assignment
  receiptBinding : ReceiptBinding records.assignment records.receipt
  active : records.session.activeAttemptIds.get records.assignment.role =
    some records.attempt.attemptId

omit [OutputPorts] in
/-- What is known of records that an output can be consumed with. -/
theorem requireConsumable_cases {database : EpochDatabase} {attemptId : OpaqueId}
    {rawOutput : JsString} {records : ConsumableRecords}
    (h : requireConsumable database attemptId rawOutput = .ok records) :
    Consumable database attemptId rawOutput records := by
  simp only [requireConsumable, bind_eq_ok, requireUnique_eq_ok, require_eq_ok, orStop_eq_ok,
    assertEqual_eq_ok, pure_eq_ok, assertAttemptAndAssignmentBinding_eq_ok,
    assertReceiptBinding_eq_ok] at h
  obtain ⟨attempt, hattempt, assignment, hassignment, session, hsession, receipt, hreceipt, -, -,
    -, hassigned, runId, hrun, -, hcompleted, -, houtput, -, hbinding, -, -, -, hreceiptBinding,
    -, -, -, hactive, rfl⟩ := h
  exact ⟨hattempt, hassignment, hsession, hreceipt, hassigned.1, hassigned.2.1, hrun,
    hcompleted.1, houtput, hbinding, hreceiptBinding, hactive⟩

/-- The envelope repeats the binding that the Agent was given in its pack. -/
def assertEnvelopeBinding (envelope : AgentDecisionEnvelope) (assignment : RunAssignment)
    (receipt : ObservationReceipt) : Except DecisionNormalizationError Unit := do
  assertEqual envelope.sessionId assignment.sessionId "Envelope Session"
  assertEqual envelope.actionHash assignment.actionHash "Envelope Action" .ACTION_HASH_MISMATCH
  assertEqual envelope.runAssignmentId assignment.assignmentId "Envelope Assignment"
  assertEqual envelope.role assignment.role "Envelope Role"
  assertEqual envelope.receiptId receipt.receiptId "Envelope Receipt"
  assertEqual envelope.nonce (js receipt.nonce) "Envelope nonce"

/-- The active decision that a new one of the role supersedes, if there is one. -/
def requireSupersedable (database : EpochDatabase) (session : EpochSession) (role : Role) :
    Except DecisionNormalizationError (Option DependencyCertificate) :=
  match session.activeDecisionCertificateIds.get role with
  | none => return none
  | some existingActiveId => do
      let existingActive ← requireUnique database.decisions
        (fun d => d.certificateId = existingActiveId) "Active Decision"
      require (existingActive.status = .ACTIVE ∧ existingActive.role = role ∧
          existingActive.sessionId = session.sessionId ∧
          existingActive.actionHash = session.actionHash)
        ⟨.DECISION_INVALID, "Existing active Decision is not supersedable"⟩
      return some existingActive

omit [Sha256] [OutputPorts] in
/-- The decision that is superseded is the one that the session points to. -/
theorem requireSupersedable_cases {database : EpochDatabase} {session : EpochSession} {role : Role}
    {existing : Option DependencyCertificate}
    (h : requireSupersedable database session role = .ok existing) :
    existing.map DependencyCertificate.certificateId =
        session.activeDecisionCertificateIds.get role ∧
      ∀ d ∈ existing,
        single? database.decisions (fun c => c.certificateId = d.certificateId) = some d ∧
        d.status = .ACTIVE ∧ d.role = role ∧ d.sessionId = session.sessionId ∧
        d.actionHash = session.actionHash := by
  unfold requireSupersedable at h
  split at h
  · rename_i hnone
    obtain rfl := pure_eq_ok.mp h
    exact ⟨by simp [hnone], by simp⟩
  · rename_i id hsome
    simp only [bind_eq_ok, requireUnique_eq_ok, require_eq_ok, pure_eq_ok] at h
    obtain ⟨d, hd, -, hactive, rfl⟩ := h
    have hid : d.certificateId = id := by simpa using (single?_mem hd).2
    refine ⟨by simp [hsome, hid], ?_⟩
    intro c hc
    obtain rfl := Option.mem_some.mp hc
    exact ⟨hid ▸ hd, hactive⟩

/-- The decision of an envelope. Everything but the verdict is taken from the
stored records. -/
def certificateFor (records : ConsumableRecords) (envelope : AgentDecisionEnvelope)
    (options : DecisionNormalizationOptions) : DependencyCertificate where
  certificateId := options.certificateId
  sessionId := records.assignment.sessionId
  actionHash := records.assignment.actionHash
  agentId := records.assignment.agentId
  runAssignmentId := records.assignment.assignmentId
  runId := records.runId
  role := records.assignment.role
  verdict := envelope.verdict
  receiptId := records.receipt.receiptId
  decisionDigest := sha256Digest (canonicalJson (envelopeJson envelope))
  status := .ACTIVE
  supersededByCertificateId := none
  createdAt := options.createdAt

/-- The store after a decision: its assignment is consumed, and the decision
takes the place of the one that was active. -/
def consume (database : EpochDatabase) (records : ConsumableRecords)
    (existingActive : Option DependencyCertificate) (certificate : DependencyCertificate) :
    EpochDatabase :=
  let { attempt, assignment, session, .. } := records
  let consumed := (database.setAssignment { assignment with
      status := .CONSUMED
      consumedByDecisionCertificateId := some certificate.certificateId
      consumedAt := some certificate.createdAt }).setAttempt { attempt with status := .ACCEPTED }
  let superseded := existingActive.elim consumed fun existing =>
    consumed.setDecision { existing with
      status := .SUPERSEDED, supersededByCertificateId := some certificate.certificateId }
  let appended := { superseded with decisions := superseded.decisions ++ [certificate] }
  appended.setSession { session with
    activeDecisionCertificateIds :=
      session.activeDecisionCertificateIds.set assignment.role (some certificate.certificateId)
    activeAttemptIds := session.activeAttemptIds.set assignment.role none }

/-- The store after an output that is not an envelope. -/
def rejectOutput (database : EpochDatabase) (records : ConsumableRecords)
    (artifact : RejectedOutputArtifact) : EpochDatabase :=
  let rejected :=
    (database.setAssignment { records.assignment with status := .REJECTED }).setAttempt
      { records.attempt with status := .OUTPUT_REJECTED }
  { rejected with rejectedOutputArtifacts := rejected.rejectedOutputArtifacts ++ [artifact] }

/-- The check and the change that a store mutation makes for one output. An
output that is not an envelope is a result, so that its artifact is stored. -/
def normalizeAndConsumeDecision (database : EpochDatabase) (attemptId : OpaqueId)
    (rawOutput : JsString) (options : DecisionNormalizationOptions) :
    Except DecisionNormalizationError (EpochDatabase × DecisionNormalizationResult) := do
  let records ← requireConsumable database attemptId rawOutput
  match parseDecisionEnvelope rawOutput with
  | .error failure => do
      require (failure.reasonCode = .OUTPUT_MALFORMED) failure
      let artifact ← buildRejectedOutputArtifact database records.session.sessionId
        records.attempt.attemptId rawOutput failure options
      return (rejectOutput database records artifact, .outputRejected artifact)
  | .ok envelope => do
      assertEnvelopeBinding envelope records.assignment records.receipt
      require (∀ d ∈ database.decisions, d.certificateId ≠ options.certificateId)
        ⟨.DECISION_INVALID, "Decision Certificate ID already exists"⟩
      let existingActive ← requireSupersedable database records.session records.assignment.role
      let certificate := certificateFor records envelope options
      return (consume database records existingActive certificate, .accepted certificate)

/-- A normalization rejects the output of an attempt that could be consumed, or
consumes it. -/
theorem normalizeAndConsumeDecision_cases {database left : EpochDatabase} {attemptId : OpaqueId}
    {rawOutput : JsString} {options : DecisionNormalizationOptions}
    {result : DecisionNormalizationResult}
    (h : normalizeAndConsumeDecision database attemptId rawOutput options = .ok (left, result)) :
    ∃ records, Consumable database attemptId rawOutput records ∧
      ((∃ failure artifact, parseDecisionEnvelope rawOutput = .error failure ∧
          buildRejectedOutputArtifact database records.session.sessionId
            records.attempt.attemptId rawOutput failure options = .ok artifact ∧
          left = rejectOutput database records artifact ∧ result = .outputRejected artifact) ∨
        ∃ envelope existing, parseDecisionEnvelope rawOutput = .ok envelope ∧
          (∀ d ∈ database.decisions, d.certificateId ≠ options.certificateId) ∧
          requireSupersedable database records.session records.assignment.role = .ok existing ∧
          left = consume database records existing (certificateFor records envelope options) ∧
          result = .accepted (certificateFor records envelope options)) := by
  simp only [normalizeAndConsumeDecision, bind_eq_ok] at h
  obtain ⟨records, hrecords, h⟩ := h
  refine ⟨records, requireConsumable_cases hrecords, ?_⟩
  cases hparse : parseDecisionEnvelope rawOutput with
  | error failure =>
    simp only [hparse, bind_eq_ok, require_eq_ok, pure_eq_ok, Prod.mk.injEq] at h
    obtain ⟨-, -, artifact, hartifact, rfl, rfl⟩ := h
    exact .inl ⟨failure, artifact, rfl, hartifact, rfl, rfl⟩
  | ok envelope =>
    simp only [hparse, bind_eq_ok, require_eq_ok, pure_eq_ok, Prod.mk.injEq] at h
    obtain ⟨-, -, -, hfresh, existing, hexisting, rfl, rfl⟩ := h
    exact .inr ⟨envelope, existing, rfl, hfresh, hexisting, rfl, rfl⟩

end Outputs

end DecisionParser

end EpochGuard
