import EpochGuard.EffectGate

/-!
# Safety diagnostics

`safety-diagnostics.ts`: the shape that a diagnostic of each kind must have
when it is built, and the evidence that a stored one must still name when it is
shown.
-/

namespace EpochGuard

open Json Checked

namespace SafetyDiagnostics

/-- What kind of fault a check of diagnostics has found. -/
inductive SafetyDiagnosticIntegrityCode where
  | INVALID_DIAGNOSTIC | INVALID_DIAGNOSTIC_CAUSAL_CHAIN | UNRESOLVED_ARTIFACT_REF
deriving DecidableEq, Repr

/-- A fault in a diagnostic, or in what it names. -/
structure SafetyDiagnosticIntegrityError where
  code : SafetyDiagnosticIntegrityCode
  message : String
deriving DecidableEq

/-- A computation over diagnostics, which stops at its first failed check. -/
abbrev Checks := Except SafetyDiagnosticIntegrityError

/-- A diagnostic is not well formed. -/
def invalid (message : String) : SafetyDiagnosticIntegrityError := ⟨.INVALID_DIAGNOSTIC, message⟩

/-- A diagnostic and the stored records do not fit together. -/
def chain (message : String) : SafetyDiagnosticIntegrityError :=
  ⟨.INVALID_DIAGNOSTIC_CAUSAL_CHAIN, message⟩

/-! ## The shape of a diagnostic -/

/-- The identifiers in the references of one kind (`refsOfKind`). -/
def refsOfKind (diagnostic : SafetyDiagnostic) (kind : RecordRefKind) : List OpaqueId :=
  diagnostic.artifactRefs.filterMap fun
    | .record k id => if k = kind then some id else none
    | .ENVELOPE_DIGEST _ => none

/-- `requireRef`, for a reference with any identifier. -/
def requireAnyRef (diagnostic : SafetyDiagnostic) (kind : RecordRefKind) : Checks Unit :=
  require (refsOfKind diagnostic kind ≠ [])
    (invalid ("Diagnostic is missing its required " ++ kind.name ++ " reference."))

/-- `requireRef` of an identifier, where there is one. -/
def requireRef (diagnostic : SafetyDiagnostic) (kind : RecordRefKind) (id : Option OpaqueId) :
    Checks Unit :=
  require (∀ i ∈ id, i ∈ refsOfKind diagnostic kind)
    (invalid ("Diagnostic is missing its required " ++ kind.name ++ " reference."))

/-- The shape that a diagnostic must have: references without repetition, the
references that its fields call for, and the kind, the stage and the references
that go with its reason. -/
def assertDiagnosticShapeSemantics (diagnostic : SafetyDiagnostic) : Checks Unit := do
  require diagnostic.artifactRefs.Nodup (invalid "Diagnostic ArtifactRefs must be unique.")
  require diagnostic.causedByDiagnosticIds.Nodup (chain "Diagnostic causes must be unique.")
  require (diagnostic.diagnosticId ∉ diagnostic.causedByDiagnosticIds)
    (chain "A Diagnostic cannot cause itself.")
  requireRef diagnostic .ATTEMPT diagnostic.attemptId
  requireRef diagnostic .ASSIGNMENT diagnostic.assignmentId
  requireRef diagnostic .RUN diagnostic.runId
  requireRef diagnostic .REJECTED_OUTPUT diagnostic.rejectedOutputArtifactId
  require (diagnostic.stage = .RUN →
      diagnostic.kind = .SYSTEM_FAILURE ∧
        (diagnostic.reasonCode = .RUN_FAILED ∨ diagnostic.reasonCode = .RUN_TIMEOUT) ∧
        diagnostic.role ≠ none ∧ diagnostic.attemptId ≠ none ∧
        diagnostic.assignmentId ≠ none ∧ diagnostic.runId ≠ none)
    (invalid ("RUN Diagnostics require terminal Run, Attempt, Assignment, Role, and " ++
      "failure semantics."))
  if diagnostic.reasonCode = .OUTPUT_MALFORMED then
    require (diagnostic.kind = .SYSTEM_FAILURE ∧ diagnostic.stage = .PARSE ∧
        diagnostic.attemptId ≠ none ∧ diagnostic.assignmentId ≠ none ∧
        diagnostic.rejectedOutputArtifactId ≠ none)
      (invalid ("Malformed output must carry PARSE provenance and its rejected-output " ++
        "Artifact."))
  if diagnostic.reasonCode = .NO_VALID_OBSERVED_WORLD_CUT then do
    require (diagnostic.kind = .EXPECTED_BLOCK ∧ diagnostic.stage = .VALIDATE ∧
        diagnostic.role = none ∧ diagnostic.recommendedAction = .REOBSERVE_INVALID)
      (invalid ("No-Cut Diagnostics must be an expected VALIDATE block with selective " ++
        "re-observation."))
    requireAnyRef diagnostic .VALIDATION
    requireAnyRef diagnostic .PROOF
    require (2 ≤ (refsOfKind diagnostic .RECEIPT).length)
      (invalid "No-Cut Diagnostics require both witness Receipt references.")
  if diagnostic.reasonCode = .HISTORICAL_BUT_STALE_NOW then do
    require (diagnostic.kind = .EXPECTED_BLOCK ∧ diagnostic.stage = .VALIDATE ∧
        diagnostic.recommendedAction = .REOBSERVE_INVALID)
      (invalid "Historical-stale Diagnostics must be an expected VALIDATE block.")
    requireAnyRef diagnostic .VALIDATION
  if diagnostic.reasonCode = .CONSISTENT_DENY then do
    require (diagnostic.kind = .EXPECTED_BLOCK ∧ diagnostic.stage = .VALIDATE)
      (invalid "Consistent DENY must be recorded as an expected VALIDATE block.")
    requireAnyRef diagnostic .VALIDATION
  if diagnostic.reasonCode = .COMMIT_RACE then do
    require (diagnostic.kind = .TRANSIENT_RACE ∧ diagnostic.stage = .COMMIT)
      (invalid "Commit races must be TRANSIENT_RACE/COMMIT Diagnostics.")
    requireAnyRef diagnostic .VALIDATION
    requireAnyRef diagnostic .PERMIT

/-- A diagnostic is built by checking its shape. The schema's own part of the
check is carried by the types of the fields. -/
def buildSafetyDiagnostic (input : SafetyDiagnostic) : Checks SafetyDiagnostic := do
  assertDiagnosticShapeSemantics input
  return input

@[simp] theorem buildSafetyDiagnostic_eq_ok {input diagnostic : SafetyDiagnostic} :
    buildSafetyDiagnostic input = .ok diagnostic ↔
      assertDiagnosticShapeSemantics input = .ok () ∧ input = diagnostic := by
  simp only [buildSafetyDiagnostic, bind_eq_ok, pure_eq_ok]
  constructor
  · rintro ⟨⟨⟩, h⟩
    exact h
  · intro h
    exact ⟨(), h⟩

/-! ## References that resolve -/

section Resolve

variable (database : EpochDatabase) (diagnostic : SafetyDiagnostic)

/-- Exactly one record satisfies the predicate. -/
def resolvesOnce {α : Type} (values : List α) (predicate : α → Bool) : Bool :=
  (single? values predicate).isSome

/-- A reference names one stored record, of the session and the action of the
diagnostic where the record has these. -/
def artifactRefResolves : ArtifactRef → Bool
  | .ENVELOPE_DIGEST id => resolvesOnce database.attempts fun a =>
      a.outputDigest = some id && a.sessionId = diagnostic.sessionId &&
        a.actionHash = diagnostic.actionHash
  | .record kind id =>
      let sameSessionAction := fun (sessionId : OpaqueId) (actionHash : Sha256Digest) =>
        sessionId = diagnostic.sessionId && actionHash = diagnostic.actionHash
      match kind with
      | .ATTEMPT => resolvesOnce database.attempts fun a =>
          a.attemptId = id && sameSessionAction a.sessionId a.actionHash
      | .ASSIGNMENT => resolvesOnce database.runAssignments fun a =>
          a.assignmentId = id && sameSessionAction a.sessionId a.actionHash
      -- a Run is known only through the attempt that mirrors it
      | .RUN => resolvesOnce database.attempts fun a =>
          a.runId = some id && sameSessionAction a.sessionId a.actionHash
      | .REJECTED_OUTPUT =>
          (single? database.rejectedOutputArtifacts fun r =>
              r.artifactId = id && r.sessionId = diagnostic.sessionId).any fun artifact =>
            database.attempts.any fun a =>
              a.attemptId = artifact.attemptId && sameSessionAction a.sessionId a.actionHash
      | .RECEIPT => resolvesOnce database.receipts fun r =>
          r.receiptId = id && sameSessionAction r.sessionId r.actionHash
      | .SOURCE_VERSION =>
          (single? database.resourceVersions fun v => v.id = id).any fun version =>
            database.receipts.any fun r => sameSessionAction r.sessionId r.actionHash &&
              r.sourceRevision = version.sourceRevision && r.valueHash = version.valueHash
      | .VALIDATION => resolvesOnce database.validations fun v =>
          v.validationId = id && sameSessionAction v.sessionId v.actionHash
      | .PROOF => resolvesOnce database.noCutProofs fun p =>
          p.proofId = id && sameSessionAction p.sessionId p.actionHash
      | .REFRESH_PLAN => resolvesOnce database.refreshPlans fun p =>
          p.refreshPlanId = id && p.sessionId = diagnostic.sessionId
      | .PERMIT => resolvesOnce database.permits fun p =>
          p.permitId = id && sameSessionAction p.sessionId p.actionHash
      | .EFFECT => resolvesOnce database.effects fun e =>
          e.effectId = id && sameSessionAction e.sessionId e.actionHash

/-- The one reference of a kind (`requireExactRef`). -/
def requireExactRef (kind : RecordRefKind) : Checks OpaqueId :=
  orStop (only? (refsOfKind diagnostic kind))
    (chain ("Diagnostic must carry exactly one authoritative " ++ kind.name ++ " reference."))

/-- All references are of the kinds that the reason of the diagnostic allows. -/
def assertOnlyRefKinds (allowedKinds : List RecordRefKind) : Checks Unit :=
  require (diagnostic.artifactRefs.all (fun
      | .record kind _ => allowedKinds.contains kind
      | .ENVELOPE_DIGEST _ => false) = true)
    (chain ("Diagnostic contains an unrelated ArtifactRef outside its authoritative " ++
      "causal closure."))

/-- Two lists have the same identifiers, each once. -/
def sameIdSet (left right : List OpaqueId) : Prop :=
  left.length = right.length ∧ left.Nodup ∧ ∀ id ∈ left, id ∈ right

instance (left right : List OpaqueId) : Decidable (sameIdSet left right) :=
  inferInstanceAs (Decidable (_ ∧ _))

/-! ## The evidence behind a validation -/

/-- The records behind one decision, as the closure of a diagnostic reads them.
-/
structure ResolvedDiagnosticEvidence where
  assignment : RunAssignment
  attempt : AgentAttempt
  decision : DependencyCertificate
  receipt : ObservationReceipt
  registration : RoleAgentRegistration
  version : ResourceVersion

variable [Sha256]

/-- The version with a receipt's revision and value hash, of whatever resource,
if it is the only one. -/
def receiptVersion (receipt : ObservationReceipt) : Option ResourceVersion :=
  single? database.resourceVersions fun v =>
    v.sourceRevision = receipt.sourceRevision && v.valueHash = receipt.valueHash

/-- The evidence of one decision of a validation: its assignment and its
accepted attempt, its receipt, the question and the registration behind it, and
the version that the receipt names. The version is looked up by its revision and
its value hash alone. -/
def resolveDecisionReceiptEvidence (decisionId : OpaqueId) (expectedRole : Role) :
    Checks ResolvedDiagnosticEvidence := do
  let misordered :=
    chain "Diagnostic Validation contains a cross-boundary or misordered Decision."
  let decision ← orStop (single? database.decisions fun d => d.certificateId = decisionId)
    misordered
  require (decision.sessionId = diagnostic.sessionId ∧
    decision.actionHash = diagnostic.actionHash ∧ decision.role = expectedRole) misordered
  let unaccepted := chain
    "Diagnostic Decision does not close over its consumed Assignment and accepted Attempt."
  let assignment ← orStop
    (single? database.runAssignments fun a => a.assignmentId = decision.runAssignmentId)
    unaccepted
  let attempt ← orStop
    (single? database.attempts fun a =>
      a.assignmentId = decision.runAssignmentId && a.runId = some decision.runId)
    unaccepted
  require (assignment.sessionId = diagnostic.sessionId ∧
      assignment.actionHash = diagnostic.actionHash ∧ assignment.agentId = decision.agentId ∧
      assignment.role = decision.role ∧ assignment.boundRunId = some decision.runId ∧
      assignment.status = .CONSUMED ∧
      assignment.consumedByDecisionCertificateId = some decision.certificateId ∧
      assignment.consumedAt ≠ none ∧ attempt.sessionId = diagnostic.sessionId ∧
      attempt.actionHash = diagnostic.actionHash ∧ attempt.agentId = decision.agentId ∧
      attempt.role = decision.role ∧ attempt.status = .ACCEPTED ∧
      attempt.runCompletedAt ≠ none) unaccepted
  let unobserved := chain "Diagnostic Decision does not close over its authoritative Receipt."
  let receipt ← orStop (single? database.receipts fun r => r.receiptId = decision.receiptId)
    unobserved
  require (receipt.sessionId = diagnostic.sessionId ∧
      receipt.actionHash = diagnostic.actionHash ∧ receipt.agentId = decision.agentId ∧
      receipt.role = decision.role ∧ receipt.runAssignmentId = decision.runAssignmentId ∧
      assignment.receiptId = receipt.receiptId ∧ assignment.queryHash = receipt.queryHash)
    unobserved
  let unasked := chain "Diagnostic Receipt does not close over its frozen Role Query."
  let session ← orStop (single? database.sessions fun s => s.sessionId = diagnostic.sessionId)
    unasked
  let query ← orStop (single? database.roleQuerySpecs fun q => q.queryHash = receipt.queryHash)
    unasked
  let registration ← orStop
    (single? database.roleAgentRegistrations fun r =>
      r.role = decision.role && r.agentId = decision.agentId)
    unasked
  require (session.actionHash = diagnostic.actionHash ∧
      session.action.sessionId = diagnostic.sessionId ∧
      session.action.actionHash = diagnostic.actionHash ∧
      session.frozenAssignments.get decision.role = decision.agentId ∧
      assignment.roleProfileVersion = registration.roleProfileVersion ∧
      assignment.agentsMdDigest = registration.agentsMdDigest ∧
      canonicalJson query.toJson = canonicalJson
        (buildRoleQuerySpec session.action.toActionCanonicalFields receipt.role).toJson ∧
      query.actionHash = diagnostic.actionHash ∧ query.role = receipt.role ∧
      query.source = receipt.source ∧ query.entityKey = receipt.entityKey) unasked
  let unversioned :=
    chain "Diagnostic Receipt does not close over one authoritative ResourceVersion."
  let version ← orStop (receiptVersion database receipt) unversioned
  require (version.Verified ∧ version.validFromSeq ≤ receipt.observedAtSeq ∧
      receipt.observedAtSeq < version.validUntilSeq.getD (database.headSeq + 1) ∧
      receipt.observedAtSeq ≤ database.headSeq) unversioned
  return { assignment, attempt, decision, receipt, registration, version }

/-- The evidence of all three decisions, with the bounds of their intervals and
the Agents that the head of the validation has left behind, all recomputed. -/
structure ValidationEvidenceClosure where
  evidence : PerRole ResolvedDiagnosticEvidence
  lowerBound : Nat
  upperBound : Nat
  invalidAgentIds : List OpaqueId

/-- The end of a version, if it was known at a head. -/
def intervalUntilAtHead (version : ResourceVersion) (head : Nat) : Option Nat :=
  version.validUntilSeq.filter (· ≤ head)

/-- The end of a version at a head, an open one read as the next sequence. -/
def effectiveUntilAtHead (version : ResourceVersion) (head : Nat) : Nat :=
  (intervalUntilAtHead version head).getD (head + 1)

/-- The evidence of a validation resolves, is not from after its head, and gives
the dependency set and the bounds that the validation states. -/
def resolveValidationEvidenceClosure (validation : ValidationRecord) :
    Checks ValidationEvidenceClosure := do
  let head := validation.validatedHead
  require (validation.sessionId = diagnostic.sessionId ∧
      validation.actionHash = diagnostic.actionHash ∧ head ≤ database.headSeq)
    (chain "Diagnostic Validation crosses its Session/Action or references a future head.")
  let evidence ← PerRole.mapRoles fun role =>
    resolveDecisionReceiptEvidence database diagnostic
      (validation.decisionCertificateIds.get role) role
  require (∀ role, (evidence.get role).receipt.observedAtSeq ≤ head ∧
      (evidence.get role).version.validFromSeq ≤ head)
    (chain "Diagnostic Validation depends on evidence from after its validated head.")
  let lowerBound := (evidence.map fun e => e.version.validFromSeq).greatest
  let upperBound := (evidence.map fun e => effectiveUntilAtHead e.version head).least
  require (validation.dependencySetHash = EffectGate.snapshotReceiptDependencySetHash
        (evidence.map fun e => e.receipt.receiptId).toList ∧
      validation.lowerBound = some lowerBound ∧ validation.upperBound = some upperBound)
    (chain ("Diagnostic Validation does not match its Receipt dependency set and interval " ++
      "bounds."))
  let invalid := evidence.toList.filter fun e => head ∉ e.version.interval
  return { evidence, lowerBound, upperBound,
           invalidAgentIds := invalid.map fun e => e.decision.agentId }

/-! ## The closures of the expected blocks and of a commit race -/

/-- The interval of a certificate is that of the receipt and the version behind
it, as known at the head. -/
def certificateIntervalMatches (head : Nat) (interval : Interval)
    (item : ResolvedDiagnosticEvidence) : Prop :=
  interval.receiptId = item.receipt.receiptId ∧ interval.source = item.receipt.source ∧
    interval.sourceRevision = item.receipt.sourceRevision ∧
    interval.from = item.version.validFromSeq ∧
    interval.until = intervalUntilAtHead item.version head

instance (head : Nat) (interval : Interval) (item : ResolvedDiagnosticEvidence) :
    Decidable (certificateIntervalMatches head interval item) :=
  inferInstanceAs (Decidable (_ ∧ _))

/-- The certificate of a validation that found a common commit is stored and
states what the evidence gives. -/
def assertJointValidityCertificateClosure (validation : ValidationRecord)
    (closure : ValidationEvidenceClosure) : Checks JointValidityCertificate := do
  let certificateId ← orStop validation.jointValidityCertificateId
    (chain "Current-world Diagnostic Validation is missing its JointValidityCertificate.")
  let open' := chain
    "Diagnostic JointValidityCertificate does not close over its current-world Validation."
  let certificate ← orStop
    (single? database.jointValidityCertificates fun c => c.certificateId = certificateId) open'
  require (certificate.validationId = validation.validationId ∧
      certificate.sessionId = diagnostic.sessionId ∧
      certificate.actionHash = diagnostic.actionHash ∧
      certificate.dependencySetHash = validation.dependencySetHash ∧
      certificate.validatedAtHead = validation.validatedHead ∧
      certificate.selectedCutSeq = validation.validatedHead ∧
      certificate.currentHeadCovered = true ∧
      closure.lowerBound ≤ certificate.selectedCutSeq ∧
      certificate.selectedCutSeq < closure.upperBound ∧
      certificate.decisionCertificateIds = validation.decisionCertificateIds ∧
      ∀ role, certificateIntervalMatches validation.validatedHead
        (certificate.intervals.get role) (closure.evidence.get role)) open'
  return certificate

/-- The plan that a diagnostic names is the one that its validation gave rise
to. -/
def assertOriginRefreshPlanClosure (validation : ValidationRecord)
    (closure : ValidationEvidenceClosure) : Checks RefreshPlan := do
  let refreshRef ← requireExactRef diagnostic .REFRESH_PLAN
  require (validation.refreshPlanId = some refreshRef)
    (chain "Diagnostic RefreshPlan reference does not match its origin Validation.")
  let unbound := chain ("Diagnostic RefreshPlan does not bind its revision, head, " ++
    "dependency, Decisions, and invalid owners.")
  let plan ← orStop (single? database.refreshPlans fun p => p.refreshPlanId = refreshRef) unbound
  require (plan.sessionId = diagnostic.sessionId ∧
      plan.baseSessionRevision = validation.baseSessionRevision + 1 ∧
      plan.validatedHead = validation.validatedHead ∧
      plan.dependencySetHash = validation.dependencySetHash ∧
      plan.activeDecisionCertificateIds = validation.decisionCertificateIds ∧
      sameIdSet plan.agentIds closure.invalidAgentIds ∧
      (plan.status = .AVAILABLE → plan.claimedAttemptId = none) ∧
      (plan.status = .CLAIMED ∨ plan.status = .COMPLETED → plan.claimedAttemptId ≠ none))
    unbound
  return plan

/-- The receipt with the least identifier among those whose bound is extreme. -/
def extremeReceiptId (evidence : PerRole ResolvedDiagnosticEvidence)
    (extreme : ResolvedDiagnosticEvidence → Bool) : Option OpaqueId :=
  (JointValidity.sortIds ((evidence.toList.filter extreme).map fun e => e.receipt.receiptId)).head?

/-- The diagnostic of a validation without a common commit names the stored
proof and its two witnesses, which are recomputed here. -/
def assertNoCutDiagnosticClosure : Checks Unit := do
  assertOnlyRefKinds diagnostic [.VALIDATION, .PROOF, .RECEIPT, .REFRESH_PLAN]
  let validationRef ← requireExactRef diagnostic .VALIDATION
  let proofRef ← requireExactRef diagnostic .PROOF
  let receiptRefs := refsOfKind diagnostic .RECEIPT
  require (receiptRefs.length = 2)
    (chain "No-Cut Diagnostic must reference exactly its two canonical witness Receipts.")
  let broken := chain
    "No-Cut Diagnostic Validation and Proof do not form one authoritative chain."
  let validation ← orStop
    (single? database.validations fun v => v.validationId = validationRef) broken
  let proof ← orStop (single? database.noCutProofs fun p => p.proofId = proofRef) broken
  require (validation.sessionId = diagnostic.sessionId ∧
      validation.actionHash = diagnostic.actionHash ∧
      validation.outcome = .NO_VALID_OBSERVED_WORLD_CUT ∧
      validation.noCutProofId = some proof.proofId ∧
      validation.jointValidityCertificateId = none ∧
      proof.validationId = validation.validationId ∧ proof.sessionId = diagnostic.sessionId ∧
      proof.actionHash = diagnostic.actionHash ∧
      proof.validatedAtHead = validation.validatedHead ∧
      proof.dependencySetHash = validation.dependencySetHash ∧
      some proof.lowerBound = validation.lowerBound ∧
      some proof.upperBound = validation.upperBound ∧
      proof.decisionCertificateIds = validation.decisionCertificateIds) broken
  let closure ← resolveValidationEvidenceClosure database diagnostic validation
  let plan ← assertOriginRefreshPlanClosure database diagnostic validation closure
  let evidence := closure.evidence
  let head := proof.validatedAtHead
  let effectiveUpper := (evidence.map fun e => effectiveUntilAtHead e.version head).least
  let earliestEndingReceiptId := extremeReceiptId evidence fun e =>
    effectiveUntilAtHead e.version head = effectiveUpper
  let latestStartingReceiptId := extremeReceiptId evidence fun e =>
    e.version.validFromSeq = closure.lowerBound
  let canonicalWitness := [earliestEndingReceiptId, latestStartingReceiptId]
  require (proof.dependencySetHash = EffectGate.snapshotReceiptDependencySetHash
        (evidence.map fun e => e.receipt.receiptId).toList ∧
      proof.lowerBound = closure.lowerBound ∧ proof.upperBound = closure.upperBound ∧
      closure.upperBound ≤ closure.lowerBound ∧
      some proof.earliestEndingReceiptId = earliestEndingReceiptId ∧
      some proof.latestStartingReceiptId = latestStartingReceiptId ∧
      sameIdSet proof.refreshAgentIds closure.invalidAgentIds ∧
      sameIdSet proof.refreshAgentIds plan.agentIds ∧
      [some proof.conflictWitnessReceiptIds.1, some proof.conflictWitnessReceiptIds.2] =
        canonicalWitness ∧
      sameIdSet receiptRefs (canonicalWitness.filterMap id))
    (chain "No-Cut Diagnostic does not reference its canonical witness closure.")

/-- The diagnostic of a lost race names the validation and the permit that the
race revoked: the head has moved past it, no effect was made for it, and the
event of the race is recorded. -/
def assertCommitRaceDiagnosticClosure : Checks Unit := do
  assertOnlyRefKinds diagnostic [.VALIDATION, .PERMIT]
  let validationRef ← requireExactRef diagnostic .VALIDATION
  let permitRef ← requireExactRef diagnostic .PERMIT
  let broken := chain
    "Commit-race Diagnostic Validation and Permit do not form one authoritative chain."
  let validation ← orStop
    (single? database.validations fun v => v.validationId = validationRef) broken
  let permit ← orStop (single? database.permits fun p => p.permitId = permitRef) broken
  let session ← orStop (single? database.sessions fun s => s.sessionId = diagnostic.sessionId)
    broken
  let raceEvent ← orStop
    (single? database.auditEvents fun e =>
      e.sessionId = diagnostic.sessionId && e.actionHash = diagnostic.actionHash &&
        e.sessionRevision = diagnostic.sessionRevision && e.type = "SESSION_STATE" &&
        e.status = "COMMIT_RACE")
    broken
  let isLatest := diagnostic.sessionRevision = session.sessionRevision
  require (validation.sessionId = diagnostic.sessionId ∧
      validation.actionHash = diagnostic.actionHash ∧
      validation.outcome = .VALID_CURRENT_ALLOW ∧ validation.noCutProofId = none ∧
      validation.jointValidityCertificateId ≠ none ∧
      validation.validatedHead < database.headSeq ∧ permit.sessionId = diagnostic.sessionId ∧
      permit.actionHash = diagnostic.actionHash ∧
      some permit.jointValidityCertificateId = validation.jointValidityCertificateId ∧
      permit.dependencySetHash = validation.dependencySetHash ∧
      permit.validatedHead = validation.validatedHead ∧
      permit.idempotencyKey = session.action.idempotencyKey ∧ permit.status = .REVOKED ∧
      permit.consumedAt = none ∧ permit.issuedAt.millis ≤ raceEvent.createdAt.millis ∧
      diagnostic.sessionRevision ≤ session.sessionRevision ∧
      (isLatest → session.state = .COMMIT_RACE ∧
        session.activeValidationId = some validation.validationId ∧
        ∀ p ∈ session.activePermitId, p = permit.permitId)) broken
  let authoritativePermit := single? database.permits fun p =>
    p.sessionId = diagnostic.sessionId && p.actionHash = diagnostic.actionHash &&
      some p.jointValidityCertificateId = validation.jointValidityCertificateId &&
      p.dependencySetHash = validation.dependencySetHash &&
      p.validatedHead = validation.validatedHead
  require (authoritativePermit.map EffectPermit.permitId = some permit.permitId)
    (chain "Commit-race Diagnostic must reference the unique Permit for its Validation chain.")
  let closure ← resolveValidationEvidenceClosure database diagnostic validation
  let certificate ←
    assertJointValidityCertificateClosure database diagnostic validation closure
  let expectedRaceEventRefs : List ArtifactRef :=
    [.record .VALIDATION validation.validationId, .record .PERMIT permit.permitId]
  let activeDecisionIds := session.activeDecisionCertificateIds.toList.filterMap id
  require (closure.lowerBound < closure.upperBound ∧
      raceEvent.artifactRefs.length = 2 ∧ raceEvent.artifactRefs.Nodup ∧
      (∀ reference ∈ raceEvent.artifactRefs, reference ∈ expectedRaceEventRefs) ∧
      validation.createdAt.millis ≤ permit.issuedAt.millis ∧
      certificate.createdAt.millis ≤ permit.issuedAt.millis ∧
      (∀ role, (closure.evidence.get role).decision.verdict = .ALLOW) ∧
      (isLatest → activeDecisionIds = validation.decisionCertificateIds.toList) ∧
      ∀ e ∈ database.effects, e.permitId ≠ permit.permitId ∧
        (e.idempotencyKey = permit.idempotencyKey →
          raceEvent.createdAt.millis < e.createdAt.millis))
    (chain ("Commit-race Diagnostic does not close three ALLOW Decisions or its no-effect " ++
      "race lifecycle."))

/-- The diagnostic of a stale validation: the intervals had a common commit, but
the head is not one. -/
def assertHistoricalStaleDiagnosticClosure : Checks Unit := do
  assertOnlyRefKinds diagnostic [.VALIDATION, .REFRESH_PLAN, .RECEIPT]
  let validationRef ← requireExactRef diagnostic .VALIDATION
  let unmatched :=
    chain "Historical-stale Diagnostic must reference its matching historical Validation."
  let validation ← orStop
    (single? database.validations fun v => v.validationId = validationRef) unmatched
  require (validation.outcome = .HISTORICAL_BUT_STALE_NOW ∧ validation.noCutProofId = none ∧
    validation.jointValidityCertificateId = none) unmatched
  let closure ← resolveValidationEvidenceClosure database diagnostic validation
  let plan ← assertOriginRefreshPlanClosure database diagnostic validation closure
  let head := validation.validatedHead
  let invalidReceiptIds := (closure.evidence.toList.filter fun e =>
    plan.agentIds.contains e.decision.agentId).map fun e => e.receipt.receiptId
  let referencedReceiptIds := refsOfKind diagnostic .RECEIPT
  require (closure.lowerBound < closure.upperBound ∧
      ¬ (closure.lowerBound ≤ head ∧ head < closure.upperBound) ∧
      closure.invalidAgentIds ≠ [] ∧
      (referencedReceiptIds ≠ [] → sameIdSet referencedReceiptIds invalidReceiptIds))
    (chain ("Historical-stale Diagnostic does not close its past cut and current invalid " ++
      "owners."))

/-- The evidence of the roles that a refresh replaced. -/
def refreshedEvidence (closure originClosure : ValidationEvidenceClosure) (plan : RefreshPlan) :
    List ResolvedDiagnosticEvidence :=
  ROLES.filterMap fun role =>
    let item := closure.evidence.get role
    if plan.agentIds.contains item.decision.agentId &&
        item.decision.certificateId !=
          (originClosure.evidence.get role).decision.certificateId then
      some item
    else none

/-- The diagnostic of a consistent denial: a common commit at the head, and a
decision that denies. After a refresh, its plan is completed and its references
are the receipts of the refreshed roles. -/
def assertConsistentDenyDiagnosticClosure : Checks Unit := do
  assertOnlyRefKinds diagnostic [.VALIDATION, .REFRESH_PLAN, .RECEIPT]
  let validationRef ← requireExactRef diagnostic .VALIDATION
  let unmatched := chain "Consistent-DENY Diagnostic must reference its matching Validation."
  let validation ← orStop
    (single? database.validations fun v => v.validationId = validationRef) unmatched
  require (validation.outcome = .CONSISTENT_DENY ∧ validation.noCutProofId = none) unmatched
  let closure ← resolveValidationEvidenceClosure database diagnostic validation
  let _ ← assertJointValidityCertificateClosure database diagnostic validation closure
  require (closure.lowerBound < closure.upperBound ∧
      ∃ role, (closure.evidence.get role).decision.verdict = .DENY)
    (chain "Consistent-DENY Diagnostic does not close a valid cut containing a DENY Decision.")
  let receiptRefs := refsOfKind diagnostic .RECEIPT
  match validation.refreshPlanId with
  | none =>
      require (refsOfKind diagnostic .REFRESH_PLAN = [] ∧ receiptRefs = [])
        (chain ("Initial Consistent-DENY Diagnostic cannot reference unrelated refresh " ++
          "artifacts."))
  | some refreshPlanId => do
      let originValidation ← orStop
        (single? database.validations fun v => v.refreshPlanId = some refreshPlanId &&
          (v.outcome = .NO_VALID_OBSERVED_WORLD_CUT || v.outcome = .HISTORICAL_BUT_STALE_NOW))
        (chain "Refreshed Consistent-DENY Diagnostic is missing its origin Validation.")
      let originClosure ← resolveValidationEvidenceClosure database diagnostic originValidation
      let plan ←
        assertOriginRefreshPlanClosure database diagnostic originValidation originClosure
      let refreshed := refreshedEvidence closure originClosure plan
      require (plan.status = .COMPLETED ∧ plan.claimedAttemptId ≠ none ∧
          sameIdSet (refreshed.map fun e => e.decision.agentId) plan.agentIds ∧
          (∀ role, (closure.evidence.get role).decision.agentId ∈ plan.agentIds ∨
            (closure.evidence.get role).decision.certificateId =
              (originClosure.evidence.get role).decision.certificateId) ∧
          (∃ e ∈ refreshed, some e.attempt.attemptId = plan.claimedAttemptId) ∧
          sameIdSet receiptRefs (refreshed.map fun e => e.receipt.receiptId))
        (chain ("Refreshed Consistent-DENY Diagnostic does not close its completed " ++
          "selective refresh."))

/-- The closure that goes with the reason of a diagnostic; other reasons ask for
none. -/
def assertReasonSpecificClosure : Checks Unit :=
  match diagnostic.reasonCode with
  | .NO_VALID_OBSERVED_WORLD_CUT => assertNoCutDiagnosticClosure database diagnostic
  | .COMMIT_RACE => assertCommitRaceDiagnosticClosure database diagnostic
  | .HISTORICAL_BUT_STALE_NOW => assertHistoricalStaleDiagnosticClosure database diagnostic
  | .CONSISTENT_DENY => assertConsistentDenyDiagnosticClosure database diagnostic
  | _ => return ()

/-! ## Direct provenance -/

omit [Sha256] in
/-- The record that an identifier names, where a diagnostic has one. -/
def resolveProvenance {α : Type} (id : Option OpaqueId) (find : OpaqueId → Option α)
    (error : SafetyDiagnosticIntegrityError) : Checks (Option α) :=
  match id with
  | none => return none
  | some id => (orStop (find id) error).map some

/-- The attempt and the assignment that a diagnostic names, and what they must
be bound to. -/
def assertDirectProvenance (expectedAgentId : Option OpaqueId) : Checks Unit := do
  let attempt ← resolveProvenance diagnostic.attemptId
    (fun id => single? database.attempts fun a => a.attemptId = id)
    ⟨.UNRESOLVED_ARTIFACT_REF, "Diagnostic Attempt provenance is unresolved."⟩
  let assignment ← resolveProvenance diagnostic.assignmentId
    (fun id => single? database.runAssignments fun a => a.assignmentId = id)
    ⟨.UNRESOLVED_ARTIFACT_REF, "Diagnostic Assignment provenance is unresolved."⟩
  require (∀ a ∈ attempt, a.sessionId = diagnostic.sessionId ∧
      a.actionHash = diagnostic.actionHash ∧ (∀ r ∈ diagnostic.role, a.role = r) ∧
      (∀ i ∈ expectedAgentId, a.agentId = i) ∧
      (∀ i ∈ diagnostic.assignmentId, a.assignmentId = i) ∧
      ∀ i ∈ diagnostic.runId, a.runId = some i)
    (chain "Diagnostic Attempt provenance crosses a frozen binding.")
  require (∀ a ∈ assignment, a.sessionId = diagnostic.sessionId ∧
      a.actionHash = diagnostic.actionHash ∧ (∀ r ∈ diagnostic.role, a.role = r) ∧
      (∀ i ∈ expectedAgentId, a.agentId = i) ∧ ∀ i ∈ diagnostic.runId, a.boundRunId = some i)
    (chain "Diagnostic Assignment provenance crosses a frozen binding.")
  require (∀ t ∈ attempt, ∀ a ∈ assignment, t.agentId = a.agentId)
    (chain "Diagnostic Attempt and Assignment must bind the same Agent.")
  require (diagnostic.stage = .RUN → ∃ a ∈ attempt,
      (a.status = .FAILED ∨ a.status = .INTERRUPTED) ∧ a.runCompletedAt ≠ none)
    (chain "RUN Diagnostic provenance must point at a terminal failed Attempt mirror.")
  match diagnostic.rejectedOutputArtifactId with
  | none => return ()
  | some artifactId => do
      let foreign := chain "Rejected output does not belong to the Diagnostic Attempt."
      let artifact ← orStop
        (single? database.rejectedOutputArtifacts fun r => r.artifactId = artifactId) foreign
      require (artifact.sessionId = diagnostic.sessionId ∧
        some artifact.attemptId = diagnostic.attemptId) foreign

/-! ## The diagnostics of a session -/

/-- The checks of one stored diagnostic, among those that were selected: its
session and action, its provenance, its references, what its reason asks for,
and that its causes come before it. -/
def assertCausalChain (selected : List SafetyDiagnostic) : Checks Unit := do
  let unbound := chain ("Diagnostic must bind an existing Session, its immutable Action, " ++
    "and a persisted Session revision.")
  let session ← orStop (single? database.sessions fun s => s.sessionId = diagnostic.sessionId)
    unbound
  require (session.actionHash = diagnostic.actionHash ∧
    diagnostic.sessionRevision ≤ session.sessionRevision) unbound
  assertDirectProvenance database diagnostic (diagnostic.role.map session.frozenAssignments.get)
  require (diagnostic.artifactRefs.all (artifactRefResolves database diagnostic) = true)
    ⟨.UNRESOLVED_ARTIFACT_REF,
      "Diagnostic contains an unresolved or cross-Session ArtifactRef."⟩
  assertReasonSpecificClosure database diagnostic
  require (∀ causeId ∈ diagnostic.causedByDiagnosticIds,
      ∃ cause ∈ selected.find? fun d => d.diagnosticId = causeId,
        cause.sessionId = diagnostic.sessionId ∧ cause.actionHash = diagnostic.actionHash ∧
          cause.sessionRevision ≤ diagnostic.sessionRevision ∧
          cause.auditSeq < diagnostic.auditSeq)
    (chain ("Diagnostic cause must resolve to an earlier Diagnostic in the same Session " ++
      "and Action."))

end Resolve

section Views

variable [Sha256]

/-- The pass that collects the diagnostics: each one is built anew, and has
neither the identifier nor the audit sequence of one that was seen before it. -/
def collectDiagnostics (seen : List SafetyDiagnostic) : List SafetyDiagnostic → Checks Unit
  | [] => return ()
  | candidate :: rest => do
      let diagnostic ← buildSafetyDiagnostic candidate
      require (∀ d ∈ seen, d.diagnosticId ≠ diagnostic.diagnosticId)
        (chain "Diagnostic IDs must be unique.")
      require (∀ d ∈ seen, d.sessionId = diagnostic.sessionId →
          d.auditSeq ≠ diagnostic.auditSeq)
        (chain "Diagnostic audit sequences must be unique within a Session.")
      collectDiagnostics (diagnostic :: seen) rest

/-- The diagnostics of one session, or all of them. Causes come earlier in the
audit sequence, so that the search for cycles at the end of the source's
function finds none; it is left out. -/
def assertSafetyDiagnosticCausalChains (database : EpochDatabase)
    (sessionId : Option OpaqueId) : Checks Unit := do
  let selected := database.diagnostics.filter fun d => ∀ id ∈ sessionId, d.sessionId = id
  collectDiagnostics [] selected
  selected.forM fun diagnostic => assertCausalChain database diagnostic selected

/-- What the dashboard is shown of a diagnostic. -/
structure SafetyDiagnosticView where
  diagnosticId : OpaqueId
  kind : DiagnosticKind
  stage : DiagnosticStage
  reasonCode : FailureCode
  role : Option Role
  relevantIds : List ArtifactRef
  auditSeq : Nat
  recommendedAction : RecommendedAction
deriving DecidableEq

/-- What a view shows of a diagnostic whose shape has been checked. -/
def toSafetyDiagnosticView (diagnostic : SafetyDiagnostic) : SafetyDiagnosticView where
  diagnosticId := diagnostic.diagnosticId
  kind := diagnostic.kind
  stage := diagnostic.stage
  reasonCode := diagnostic.reasonCode
  role := diagnostic.role
  relevantIds := diagnostic.artifactRefs
  auditSeq := diagnostic.auditSeq
  recommendedAction := diagnostic.recommendedAction

/-- Latest first, and by identifier within one audit sequence. -/
def newerFirst (left right : SafetyDiagnostic) : Prop :=
  right.auditSeq < left.auditSeq ∨
    left.auditSeq = right.auditSeq ∧ OpaqueId.le left.diagnosticId right.diagnosticId

instance : DecidableRel newerFirst := fun _ _ => inferInstanceAs (Decidable (_ ∨ _))

/-- The diagnostics that a session's view shows: the latest three, after every
diagnostic of the session has been checked. -/
def latestSafetyDiagnosticViews (database : EpochDatabase) (sessionId : OpaqueId)
    (limit : Int) : Checks (List SafetyDiagnosticView) := do
  assertSafetyDiagnosticCausalChains database (some sessionId)
  let selected := database.diagnostics.filter fun d => d.sessionId = sessionId
  let latest := (selected.insertionSort newerFirst).take (max 0 (min limit 3)).toNat
  return latest.map toSafetyDiagnosticView

/-! ## The validation behind a diagnostic -/

variable {database : EpochDatabase} {diagnostic : SafetyDiagnostic}

/-- The reasons whose closure reads the evidence of a validation. -/
def closesValidation : List FailureCode :=
  [.NO_VALID_OBSERVED_WORLD_CUT, .COMMIT_RACE, .HISTORICAL_BUT_STALE_NOW, .CONSISTENT_DENY]

/-- The one validation that a diagnostic names is stored, and its evidence
resolves. -/
def ResolvesValidation (database : EpochDatabase) (diagnostic : SafetyDiagnostic) : Prop :=
  ∃ validation ∈ database.validations,
    refsOfKind diagnostic .VALIDATION = [validation.validationId] ∧
      ∃ closure, resolveValidationEvidenceClosure database diagnostic validation = .ok closure

/-- The four closures look their validation up in the same way. -/
theorem resolvesValidation_of_lookup {reference : OpaqueId} {validation : ValidationRecord}
    {closure : ValidationEvidenceClosure}
    (hreference : requireExactRef diagnostic .VALIDATION = .ok reference)
    (hvalidation : single? database.validations (fun v => v.validationId = reference) =
      some validation)
    (hclosure : resolveValidationEvidenceClosure database diagnostic validation = .ok closure) :
    ResolvesValidation database diagnostic := by
  obtain ⟨hstored, hid⟩ := single?_mem hvalidation
  obtain rfl := of_decide_eq_true hid
  rw [requireExactRef, orStop_eq_ok, only?_eq_some] at hreference
  exact ⟨validation, hstored, hreference, closure, hclosure⟩

theorem resolvesValidation_of_noCut
    (h : assertNoCutDiagnosticClosure database diagnostic = .ok ()) :
    ResolvesValidation database diagnostic := by
  simp only [assertNoCutDiagnosticClosure, bind_eq_ok, orStop_eq_ok] at h
  obtain ⟨-, -, reference, hreference, -, -, -, -, validation, hvalidation, -, -, -, -, closure,
    hclosure, -⟩ := h
  exact resolvesValidation_of_lookup hreference hvalidation hclosure

theorem resolvesValidation_of_commitRace
    (h : assertCommitRaceDiagnosticClosure database diagnostic = .ok ()) :
    ResolvesValidation database diagnostic := by
  simp only [assertCommitRaceDiagnosticClosure, bind_eq_ok, orStop_eq_ok] at h
  obtain ⟨-, -, reference, hreference, -, -, validation, hvalidation, -, -, -, -, -, -, -, -, -, -,
    closure, hclosure, -⟩ := h
  exact resolvesValidation_of_lookup hreference hvalidation hclosure

theorem resolvesValidation_of_historicalStale
    (h : assertHistoricalStaleDiagnosticClosure database diagnostic = .ok ()) :
    ResolvesValidation database diagnostic := by
  simp only [assertHistoricalStaleDiagnosticClosure, bind_eq_ok, orStop_eq_ok] at h
  obtain ⟨-, -, reference, hreference, validation, hvalidation, -, -, closure, hclosure, -⟩ := h
  exact resolvesValidation_of_lookup hreference hvalidation hclosure

theorem resolvesValidation_of_consistentDeny
    (h : assertConsistentDenyDiagnosticClosure database diagnostic = .ok ()) :
    ResolvesValidation database diagnostic := by
  simp only [assertConsistentDenyDiagnosticClosure, bind_eq_ok, orStop_eq_ok] at h
  obtain ⟨-, -, reference, hreference, validation, hvalidation, -, -, closure, hclosure, -⟩ := h
  exact resolvesValidation_of_lookup hreference hvalidation hclosure

theorem resolvesValidation_of_closure (hreason : diagnostic.reasonCode ∈ closesValidation)
    (h : assertReasonSpecificClosure database diagnostic = .ok ()) :
    ResolvesValidation database diagnostic := by
  simp only [closesValidation, List.mem_cons, List.not_mem_nil, or_false] at hreason
  rcases hreason with hreason | hreason | hreason | hreason <;>
    rw [assertReasonSpecificClosure, hreason] at h
  · exact resolvesValidation_of_noCut h
  · exact resolvesValidation_of_commitRace h
  · exact resolvesValidation_of_historicalStale h
  · exact resolvesValidation_of_consistentDeny h

/-- The evidence that a closure holds for a role is the resolved evidence of the
role's decision. -/
theorem evidence_of_closure {validation : ValidationRecord} {closure : ValidationEvidenceClosure}
    (h : resolveValidationEvidenceClosure database diagnostic validation = .ok closure)
    (role : Role) :
    resolveDecisionReceiptEvidence database diagnostic
      (validation.decisionCertificateIds.get role) role = .ok (closure.evidence.get role) := by
  simp only [resolveValidationEvidenceClosure, bind_eq_ok, PerRole.mapRoles_eq_ok, pure_eq_ok]
    at h
  obtain ⟨-, -, evidence, hevidence, -, -, -, -, rfl⟩ := h
  exact hevidence role

/-- A session's diagnostics are shown only when every one of them whose reason
closes over a validation resolves that validation's evidence. -/
theorem resolvesValidation_of_latestSafetyDiagnosticViews {sessionId : OpaqueId} {limit : Int}
    {views : List SafetyDiagnosticView}
    (h : latestSafetyDiagnosticViews database sessionId limit = .ok views)
    (hstored : diagnostic ∈ database.diagnostics) (hsession : diagnostic.sessionId = sessionId)
    (hreason : diagnostic.reasonCode ∈ closesValidation) :
    ResolvesValidation database diagnostic := by
  simp only [latestSafetyDiagnosticViews, assertSafetyDiagnosticCausalChains, bind_eq_ok] at h
  obtain ⟨⟨⟩, ⟨⟨⟩, -, hchains⟩, -⟩ := h
  have hselected : diagnostic ∈ database.diagnostics.filter fun d =>
      ∀ id ∈ some sessionId, d.sessionId = id :=
    List.mem_filter.mpr ⟨hstored, by simpa using hsession⟩
  have hchain := forM_eq_ok.mp hchains diagnostic hselected
  simp only [assertCausalChain, bind_eq_ok] at hchain
  obtain ⟨-, -, -, -, -, -, -, -, ⟨⟩, hclosure, -⟩ := hchain
  exact resolvesValidation_of_closure hreason hclosure

end Views

end SafetyDiagnostics

end EpochGuard
