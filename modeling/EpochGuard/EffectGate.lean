import EpochGuard.JointValidity

/-!
# The effect gate

`effect-gate.ts`: the release of the protected effect. Every freshness and
provenance check runs in the store mutation that appends the effect; an effect
that exists already is returned after its whole evidence has been checked
again.
-/

namespace EpochGuard

open Json Checked

/-- The answer to a request that names an old revision of its session. -/
structure StaleViewErrorBody where
  message : String
  sessionId : OpaqueId
  expectedSessionRevision : Nat
  actualSessionRevision : Nat
deriving DecidableEq

def makeStaleViewError (sessionId : OpaqueId) (expectedSessionRevision : Nat)
    (actualSessionRevision : Nat) : StaleViewErrorBody where
  message := "Session changed; refresh before retrying the action."
  sessionId := sessionId
  expectedSessionRevision := expectedSessionRevision
  actualSessionRevision := actualSessionRevision

namespace EffectGate

/-- A refusal of the gate: its reason, its text, how many effects the session
has, and the error body of a stale view. -/
structure Rejection where
  reasonCode : FailureCode
  message : String
  effectsInSession : Nat
  error : Option StaleViewErrorBody
deriving DecidableEq

/-- The answer of the gate. An effect that exists already is answered like a new
one, told apart by `created`. -/
inductive CommitProtectedEffectResult where
  | committed (created : Bool) (effect : EffectRecord)
  | rejected (rejection : Rejection)
deriving DecidableEq

/-- A mutation that stops is rejected (`AbortEffectCommit`) or throws. -/
inductive Stop where
  | abort (rejection : Rejection)
  | thrown (message : String)
deriving DecidableEq

/-- A computation of the gate: it answers, or it stops at its first failed
check. -/
abbrev Gate := Except Stop

/-- The rejection with this reason and text. -/
def reject (reasonCode : FailureCode) (message : String) (effectsInSession : Nat) : Stop :=
  .abort { reasonCode, message, effectsInSession, error := none }

/-- The one record with a property; none or several are rejected. -/
def requireSingle {α : Type} (values : List α) (predicate : α → Bool)
    (reasonCode : FailureCode) (message : String) (effectsInSession : Nat) : Gate α :=
  orStop (single? values predicate) (reject reasonCode message effectsInSession)

@[simp] theorem requireSingle_eq_ok {α : Type} {values : List α} {predicate : α → Bool}
    {reasonCode : FailureCode} {message : String} {n : Nat} {a : α} :
    requireSingle values predicate reasonCode message n = .ok a ↔
      single? values predicate = some a := by
  simp [requireSingle]

/-- The World as the gate sees it. -/
abbrev WorldPort := World → ObservationReceipt → Except String (Option ResourceVersion)

/-- The active decisions in the order of the roles, all three of which must be
there. -/
def orderedActiveDecisionIds (session : EpochSession) (effectsInSession : Nat) :
    Gate (PerRole OpaqueId) :=
  orStop session.activeDecisionCertificateIds.all?
    (reject .DECISION_INVALID "all three active Decision IDs are required" effectsInSession)

/-- The Agent that the session was created with for a role. -/
def expectedAgentForRole (session : EpochSession) (role : Role) : OpaqueId :=
  session.frozenAssignments.get role

/-- How many effects the session has, for the text of a rejection. -/
def effectScopeCount (database : EpochDatabase) (sessionId : OpaqueId) : Nat :=
  (database.effects.filter fun e => e.sessionId = sessionId).length

/-! ## Registrations -/

/-- The registrations of the session's Agents: one for each role, for three
Agents, and each for the Agent that the session was created with. -/
def requireFrozenRoleRegistrations (database : EpochDatabase) (session : EpochSession)
    (effectsInSession : Nat) : Gate (PerRole RoleAgentRegistration) := do
  let registrations := database.roleAgentRegistrations
  require (registrations.length = ROLES.length)
    (reject .DECISION_INVALID
      "the frozen Registration set must contain exactly three Role entries" effectsInSession)
  require ((registrations.map RoleAgentRegistration.role).Nodup ∧
      (registrations.map RoleAgentRegistration.agentId).Nodup)
    (reject .DECISION_INVALID
      "frozen Registrations must cover each Role once with distinct Agents" effectsInSession)
  PerRole.mapRoles fun role => do
    let name := role.name
    let mismatch := reject .DECISION_INVALID
      s!"{name} frozen Registration does not match the Session Agent" effectsInSession
    let registration ← orStop (registrations.find? fun r => r.role = role) mismatch
    require (registration.agentId = expectedAgentForRole session role) mismatch
    return registration

/-- The assignment was made for the registered Agent under the registered
profile. -/
def requireRegisteredAssignmentProfile (registrations : PerRole RoleAgentRegistration)
    (role : Role) (expectedAgentId : OpaqueId) (assignment : RunAssignment)
    (effectsInSession : Nat) : Gate Unit :=
  let registration := registrations.get role
  let name := role.name
  require (registration.agentId = expectedAgentId ∧
      assignment.agentId = registration.agentId ∧
      assignment.roleProfileVersion = registration.roleProfileVersion ∧
      assignment.agentsMdDigest = registration.agentsMdDigest)
    (reject .DECISION_INVALID
      s!"{name} Assignment tuple does not match its frozen Registration" effectsInSession)

/-! ## The evidence of one role

The release and the check of a released effect ask the same of the records
behind each role's decision, in the same order. They differ in their texts, in
the head they ask about, and in what the certificate's interval must be.
-/

/-- The texts of the checks, for the name of a role. -/
structure EvidenceTexts where
  decisionUnique : String → String
  decisionInvalid : String → String
  assignmentUnique : String → String
  assignmentInvalid : String → String
  attemptUnique : String → String
  attemptMalformed : String → String
  attemptInvalid : String → String
  receiptUnique : String → String
  provenanceInvalid : String → String
  unresolved : String → String
  notValid : String → String
  evidenceInvalid : String → String
  contradicts : String → String
  intervalUnique : String → String
  intervalInvalid : String → String

/-- The records behind the decision of one role, from the decision to the
version of the World, once all of them are checked. -/
structure RoleEvidence where
  decision : DependencyCertificate
  assignment : RunAssignment
  attempt : AgentAttempt
  receipt : ObservationReceipt
  version : ResourceVersion
  interval : Interval

section Evidence

variable [Sha256]

/-- Some stored query has the hash and the canonical text of the expected one. -/
def persistedQueryMatches (database : EpochDatabase) (expectedQuery : RoleQuerySpec) : Bool :=
  database.roleQuerySpecs.any fun q => q.queryHash = expectedQuery.queryHash &&
    canonicalizeRoleQuery q = canonicalizeRoleQuery expectedQuery

/-- The checks of one role. `observedInProvenance` says with which check the
receipt is compared with the head, `intervalMatches` what the certificate's
interval must be. -/
def requireRoleEvidence (database : EpochDatabase) (session : EpochSession) (world : WorldPort)
    (certificate : JointValidityCertificate) (expectedActionHash : Sha256Digest) (head : Nat)
    (texts : EvidenceTexts) (observedInProvenance : Bool)
    (intervalMatches : Interval → ObservationReceipt → ResourceVersion → Bool)
    (effectsInSession : Nat) (registrations : PerRole RoleAgentRegistration)
    (activeDecisionIds : PerRole OpaqueId) (role : Role) : Gate RoleEvidence := do
  let name := role.name
  let expectedAgentId := expectedAgentForRole session role
  let decision ← requireSingle database.decisions
    (fun d => d.certificateId = activeDecisionIds.get role) .DECISION_INVALID
    (texts.decisionUnique name) effectsInSession
  require (decision.status = .ACTIVE ∧ decision.supersededByCertificateId = none ∧
      decision.sessionId = session.sessionId ∧ decision.actionHash = expectedActionHash ∧
      decision.role = role ∧ decision.agentId = expectedAgentId ∧ decision.verdict = .ALLOW)
    (reject .DECISION_INVALID (texts.decisionInvalid name) effectsInSession)
  let assignment ← requireSingle database.runAssignments
    (fun a => a.assignmentId = decision.runAssignmentId) .DECISION_INVALID
    (texts.assignmentUnique name) effectsInSession
  require (assignment.status = .CONSUMED ∧ assignment.boundRunId = some decision.runId ∧
      assignment.consumedByDecisionCertificateId = some decision.certificateId ∧
      assignment.boundAt ≠ none ∧ assignment.consumedAt ≠ none ∧
      assignment.sessionId = session.sessionId ∧ assignment.actionHash = expectedActionHash ∧
      assignment.agentId = expectedAgentId ∧ assignment.role = role ∧
      assignment.receiptId = decision.receiptId)
    (reject .DECISION_INVALID (texts.assignmentInvalid name) effectsInSession)
  requireRegisteredAssignmentProfile registrations role expectedAgentId assignment
    effectsInSession
  let attempt ← requireSingle database.attempts
    (fun a => a.assignmentId = assignment.assignmentId) .DECISION_INVALID
    (texts.attemptUnique name) effectsInSession
  require attempt.parses
    (reject .DECISION_INVALID (texts.attemptMalformed name) effectsInSession)
  require (attempt.status = .ACCEPTED ∧ attempt.sessionId = session.sessionId ∧
      attempt.actionHash = expectedActionHash ∧ attempt.role = role ∧
      attempt.agentId = expectedAgentId ∧ attempt.runId = some decision.runId ∧
      attempt.outputDigest ≠ none)
    (reject .DECISION_INVALID (texts.attemptInvalid name) effectsInSession)
  let receipt ← requireSingle database.receipts
    (fun r => r.receiptId = decision.receiptId) .DECISION_INVALID
    (texts.receiptUnique name) effectsInSession
  let expectedQuery := buildRoleQuerySpec session.action.toActionCanonicalFields role
  require (persistedQueryMatches database expectedQuery = true ∧
      assignment.queryHash = expectedQuery.queryHash ∧
      receipt.queryHash = expectedQuery.queryHash ∧
      receipt.sessionId = session.sessionId ∧ receipt.actionHash = expectedActionHash ∧
      receipt.agentId = expectedAgentId ∧
      receipt.runAssignmentId = assignment.assignmentId ∧ receipt.role = role ∧
      receipt.source = role ∧ receipt.entityKey = expectedQuery.entityKey ∧
      (observedInProvenance = true → receipt.observedAtSeq ≤ head))
    (reject .DECISION_INVALID (texts.provenanceInvalid name) effectsInSession)
  let resolvedVersion ← (world database.toWorld receipt).mapError .thrown
  let unresolved := reject .HISTORY_UNVERIFIABLE (texts.unresolved name) effectsInSession
  let version ← orStop resolvedVersion unresolved
  require version.parses unresolved
  require (version.sourceRevision = receipt.sourceRevision ∧
      version.valueHash = receipt.valueHash ∧ version.Verified ∧
      receipt.observedAtSeq ∈ version.interval ∧
      (observedInProvenance = false → receipt.observedAtSeq ≤ head) ∧
      head ∈ version.interval)
    (reject .HISTORY_UNVERIFIABLE (texts.notValid name) effectsInSession)
  let authoritativeVerdict ← orStop
    (evaluateAuthoritativeVerdict role session.action.toActionCanonicalFields version.value.val)
    (reject .HISTORY_UNVERIFIABLE (texts.evidenceInvalid name) effectsInSession)
  -- an integrity rejection, not a freshness race
  require (authoritativeVerdict = .ALLOW)
    (reject .DECISION_INVALID (texts.contradicts name) effectsInSession)
  let interval ← requireSingle certificate.intervals.toList
    (fun i => i.receiptId = receipt.receiptId) .BINDING_MISMATCH
    (texts.intervalUnique name) effectsInSession
  require (intervalMatches interval receipt version = true)
    (reject .BINDING_MISMATCH (texts.intervalInvalid name) effectsInSession)
  return { decision, assignment, attempt, receipt, version, interval }

end Evidence

/-- The interval is the one that history has now. -/
def activeIntervalMatches (interval : Interval) (receipt : ObservationReceipt)
    (version : ResourceVersion) : Bool :=
  interval.source = receipt.source && interval.sourceRevision = receipt.sourceRevision &&
    interval.from = version.validFromSeq && interval.until = version.validUntilSeq

/-- The interval is the one that history had at the committed head: an open
end may have been set by a later commit. -/
def committedIntervalMatches (validatedHead : Nat) (interval : Interval)
    (receipt : ObservationReceipt) (version : ResourceVersion) : Bool :=
  let closedAfterCommit := interval.until.isNone && version.validUntilSeq.any (validatedHead < ·)
  interval.source = receipt.source && interval.sourceRevision = receipt.sourceRevision &&
    interval.from = version.validFromSeq &&
    (interval.until = version.validUntilSeq || closedAfterCommit) &&
    interval.from ≤ validatedHead && interval.until.all (validatedHead < ·)

/-- The texts of the checks before a release. -/
def activeTexts : EvidenceTexts where
  decisionUnique := fun role => s!"active {role} Decision must resolve exactly once"
  decisionInvalid := fun role =>
    s!"active {role} Decision is not a current ALLOW bound to its frozen Agent"
  assignmentUnique := fun role => s!"{role} Assignment must resolve exactly once"
  assignmentInvalid := fun role => s!"{role} Assignment/Run/Decision binding is invalid"
  attemptUnique := fun role => s!"{role} accepted Attempt must resolve exactly once"
  attemptMalformed := fun role => s!"{role} Attempt is malformed"
  attemptInvalid := fun role => s!"{role} Attempt does not prove the accepted bound Run"
  receiptUnique := fun role => s!"{role} Receipt must resolve exactly once"
  provenanceInvalid := fun role => s!"{role} Receipt/query/Assignment provenance is invalid"
  unresolved := fun role => s!"{role} source history cannot resolve the Receipt revision"
  notValid := fun role => s!"{role} Receipt is not valid at the current World head"
  evidenceInvalid := fun role => s!"{role} authoritative evidence is invalid"
  contradicts := fun role => s!"{role} ALLOW contradicts the authoritative decision rule"
  intervalUnique := fun role => s!"{role} JVC interval must resolve exactly once"
  intervalInvalid := fun role => s!"{role} JVC interval does not match authoritative history"

/-- The texts of the checks of a release that has taken place. -/
def committedTexts : EvidenceTexts where
  decisionUnique := fun role => s!"committed {role} Decision must resolve exactly once"
  decisionInvalid := fun role =>
    s!"committed {role} Decision is not an active ALLOW for its frozen Agent"
  assignmentUnique := fun role => s!"committed {role} Assignment must resolve exactly once"
  assignmentInvalid := fun role =>
    s!"committed {role} Assignment/Run/Decision binding is invalid"
  attemptUnique := fun role => s!"committed {role} Attempt must resolve exactly once"
  attemptMalformed := fun role => s!"committed {role} Attempt is malformed"
  attemptInvalid := fun role => s!"committed {role} Attempt does not prove its accepted Run"
  receiptUnique := fun role => s!"committed {role} Receipt must resolve exactly once"
  provenanceInvalid := fun role => s!"committed {role} Receipt/query provenance is invalid"
  unresolved := fun role =>
    s!"committed {role} source history cannot resolve the Receipt revision"
  notValid := fun role => s!"committed {role} Receipt was not valid at the committed head"
  evidenceInvalid := fun role => s!"committed {role} authoritative evidence is invalid"
  contradicts := fun role =>
    s!"committed {role} ALLOW contradicts the authoritative decision rule"
  intervalUnique := fun role => s!"committed {role} JVC interval must resolve exactly once"
  intervalInvalid := fun role =>
    s!"committed {role} JVC interval is not historically self-consistent"

section Closures

variable [Sha256]

/-- The hash of the set of receipts that a validation depends on. -/
def snapshotReceiptDependencySetHash (receiptIds : List OpaqueId) : Sha256Digest :=
  JointValidity.jointValidityDependencySetHash receiptIds

/-- The receipts of the three roles. -/
def receiptIds (evidence : PerRole RoleEvidence) : PerRole OpaqueId :=
  evidence.map fun e => e.receipt.receiptId

/-- The attempts of the three roles. -/
def attemptIds (evidence : PerRole RoleEvidence) : PerRole OpaqueId :=
  evidence.map fun e => e.attempt.attemptId

/-- The Runs of the three roles. -/
def runIds (evidence : PerRole RoleEvidence) : PerRole OpaqueId :=
  evidence.map fun e => e.decision.runId

/-- The latest start and the earliest end of the three intervals, an open end
read as the sequence after `head`. -/
def intervalBounds (intervals : PerRole HalfOpen) (head : Nat) : Nat × Nat :=
  ((intervals.map HalfOpen.start).greatest,
    (intervals.map fun i => i.stop.getD (head + 1)).least)

/-- The half-open interval that a certificate states. -/
def boundsOf (interval : Interval) : HalfOpen := ⟨interval.from, interval.until⟩

/-- The recomputed bounds are the validation's, and the head lies between them. -/
def boundsMatch (validation : ValidationRecord) (bounds : Nat × Nat) (head : Nat) : Prop :=
  validation.lowerBound = some bounds.1 ∧ validation.upperBound = some bounds.2 ∧
    bounds.1 < bounds.2 ∧ bounds.1 ≤ head ∧ head < bounds.2

instance (validation : ValidationRecord) (bounds : Nat × Nat) (head : Nat) :
    Decidable (boundsMatch validation bounds head) :=
  inferInstanceAs (Decidable (_ ∧ _))

/-- The evidence behind an effect still closes: the records of every role are
those that the release was made on, three distinct ones of each kind, and their
intervals meet at the committed head. -/
def validateCommittedEvidenceClosure (database : EpochDatabase) (session : EpochSession)
    (world : WorldPort) (certificate : JointValidityCertificate) (validation : ValidationRecord)
    (expectedActionHash dependencySetHash : Sha256Digest) (validatedHead : Nat)
    (effectsInSession : Nat) : Gate Unit := do
  let activeDecisionIds ← orderedActiveDecisionIds session effectsInSession
  let registrations ← requireFrozenRoleRegistrations database session effectsInSession
  let evidence ← PerRole.mapRoles (requireRoleEvidence database session world certificate
    expectedActionHash validatedHead committedTexts true
    (committedIntervalMatches validatedHead) effectsInSession registrations activeDecisionIds)
  require ((receiptIds evidence).Distinct ∧ (attemptIds evidence).Distinct ∧
      (runIds evidence).Distinct)
    (reject .DECISION_INVALID
      "committed closure must contain three distinct Receipts, Attempts, and Runs"
      effectsInSession)
  let bounds := intervalBounds (evidence.map fun e => boundsOf e.interval) validatedHead
  require (snapshotReceiptDependencySetHash (receiptIds evidence).toList = dependencySetHash ∧
      boundsMatch validation bounds validatedHead)
    (reject .BINDING_MISMATCH
      "committed dependency set or historical interval intersection is invalid"
      effectsInSession)

/-- The check of one decision that a completed plan was made for: an active one
that the refresh kept, or for the Budget the one that the refresh has
superseded. -/
def requirePlanDecision (database : EpochDatabase) (session : EpochSession)
    (plan : RefreshPlan) (activeDecisionIds : PerRole OpaqueId)
    (expectedActionHash : Sha256Digest) (effectsInSession : Nat) (role : Role) :
    Gate DependencyCertificate := do
  let name := role.name
  let priorDecisionId := plan.activeDecisionCertificateIds.get role
  let currentDecisionId := activeDecisionIds.get role
  let decision ← requireSingle database.decisions
    (fun d => d.certificateId = priorDecisionId) .BINDING_MISMATCH
    s!"completed RefreshPlan {name} Decision must resolve exactly once" effectsInSession
  require (decision.sessionId = session.sessionId ∧ decision.actionHash = expectedActionHash ∧
      decision.role = role ∧ decision.agentId = expectedAgentForRole session role ∧
      (if role = .budget then
        decision.status = .SUPERSEDED ∧
          decision.supersededByCertificateId = some currentDecisionId
      else
        priorDecisionId = currentDecisionId ∧ decision.status = .ACTIVE ∧
          decision.supersededByCertificateId = none))
    (reject .BINDING_MISMATCH
      (s!"completed RefreshPlan {name} Decision does not close over the " ++
        "retained/replaced active tuple")
      effectsInSession)
  return decision

/-- A validation after a refresh closes over the plan of that refresh: the plan
is completed and made for the Budget Agent alone, its own decisions are the
present ones but for the budget, and the claimed attempt is the accepted one of
the present budget decision. -/
def validateCompletedRefreshPlanClosure (database : EpochDatabase) (session : EpochSession)
    (validation : ValidationRecord) (expectedActionHash : Sha256Digest)
    (effectsInSession : Nat) : Gate Unit := do
  match validation.refreshPlanId with
  | none =>
      require (session.activeRefreshPlanId = none)
        (reject .BINDING_MISMATCH
          "an initial Validation must not retain an active RefreshPlan pointer"
          effectsInSession)
  | some refreshPlanId => do
      require (session.activeRefreshPlanId = some refreshPlanId)
        (reject .BINDING_MISMATCH
          "the active RefreshPlan pointer must match the active Validation" effectsInSession)
      let plan ← requireSingle database.refreshPlans (fun p => p.refreshPlanId = refreshPlanId)
        .BINDING_MISMATCH "the committed Validation RefreshPlan must resolve exactly once"
        effectsInSession
      let activeDecisionIds ← orderedActiveDecisionIds session effectsInSession
      let mismatch := reject .BINDING_MISMATCH
        ("the completed RefreshPlan does not bind the committed Session revision, head, and " ++
          "P0 Budget replacement")
        effectsInSession
      let claimedAttemptId ← orStop plan.claimedAttemptId mismatch
      require (plan.status = .COMPLETED ∧ plan.sessionId = session.sessionId ∧
          plan.baseSessionRevision < validation.baseSessionRevision ∧
          validation.baseSessionRevision < session.sessionRevision ∧
          plan.validatedHead = validation.validatedHead ∧
          plan.agentIds = [session.frozenAssignments.budget] ∧
          plan.activeDecisionCertificateIds.inventory = activeDecisionIds.inventory ∧
          plan.activeDecisionCertificateIds.policy = activeDecisionIds.policy ∧
          plan.activeDecisionCertificateIds.budget ≠ activeDecisionIds.budget)
        mismatch
      let prior ← PerRole.mapRoles (requirePlanDecision database session plan activeDecisionIds
        expectedActionHash effectsInSession)
      let priorReceiptIds := prior.map DependencyCertificate.receiptId
      require (plan.activeDecisionCertificateIds.Distinct ∧ priorReceiptIds.Distinct ∧
          snapshotReceiptDependencySetHash priorReceiptIds.toList = plan.dependencySetHash)
        (reject .BINDING_MISMATCH
          "the completed RefreshPlan dependency snapshot is not self-consistent"
          effectsInSession)
      let claimedAttempt ← requireSingle database.attempts
        (fun a => a.attemptId = claimedAttemptId) .BINDING_MISMATCH
        "the completed RefreshPlan claimed Attempt must resolve exactly once" effectsInSession
      let currentBudgetDecision ← requireSingle database.decisions
        (fun d => d.certificateId = activeDecisionIds.budget) .BINDING_MISMATCH
        "the completed RefreshPlan current Budget Decision must resolve exactly once"
        effectsInSession
      require claimedAttempt.parses
        (reject .BINDING_MISMATCH
          "the completed RefreshPlan claimed Attempt or current Budget Decision is malformed"
          effectsInSession)
      require (claimedAttempt.status = .ACCEPTED ∧ claimedAttempt.outputDigest ≠ none ∧
          claimedAttempt.sessionId = session.sessionId ∧
          claimedAttempt.actionHash = expectedActionHash ∧ claimedAttempt.role = .budget ∧
          claimedAttempt.agentId = session.frozenAssignments.budget ∧
          claimedAttempt.assignmentId = currentBudgetDecision.runAssignmentId ∧
          claimedAttempt.runId = some currentBudgetDecision.runId)
        (reject .BINDING_MISMATCH
          ("the completed RefreshPlan claimed Attempt does not close over the current " ++
            "Budget Decision")
          effectsInSession)

/-- A session that neither observes nor plans to. -/
def isQuiescent (database : EpochDatabase) (session : EpochSession) : Prop :=
  session.activeAttemptIds = PerRole.const none ∧
    ∀ p ∈ database.refreshPlans, p.sessionId = session.sessionId →
      p.status ≠ .AVAILABLE ∧ p.status ≠ .CLAIMED

instance (database : EpochDatabase) (session : EpochSession) :
    Decidable (isQuiescent database session) :=
  inferInstanceAs (Decidable (_ ∧ _))

/-- The effect that the session has already. It is returned only after the whole
chain behind it has been checked again: the closed session, the consumed permit,
the certificate, the validation, the evidence of the three roles at the
committed head, and the plan of a refresh. A session with two effects is
rejected. -/
def returnExistingEffect (database : EpochDatabase) (session : EpochSession)
    (world : WorldPort) (expectedActionHash : Sha256Digest) (expectedIdempotencyKey : String) :
    Gate (Option EffectRecord) := do
  match database.effects.filter fun e => e.sessionId = session.sessionId with
  | [] => return none
  | [effect] => do
      let mismatch := fun message => reject .BINDING_MISMATCH message 1
      require (effect.actionHash = expectedActionHash ∧
          effect.idempotencyKey = expectedIdempotencyKey)
        (reject .ACTION_HASH_MISMATCH
          "the existing Effect does not match the immutable Session Action" 1)
      require (session.state = .COMMITTED ∧ session.activePermitId = some effect.permitId ∧
          isQuiescent database session)
        (mismatch "the existing Effect is not owned by a closed COMMITTED Session")
      let permit ← requireSingle database.permits (fun p => p.permitId = effect.permitId)
        .BINDING_MISMATCH "the existing Effect Permit must resolve exactly once" 1
      require (permit.status = .CONSUMED ∧ permit.consumedAt = some effect.createdAt ∧
          permit.sessionId = effect.sessionId ∧ permit.actionHash = effect.actionHash ∧
          permit.idempotencyKey = effect.idempotencyKey ∧
          permit.dependencySetHash = effect.dependencySetHash ∧
          permit.jointValidityCertificateId = effect.jointValidityCertificateId ∧
          permit.validatedHead ≤ database.headSeq)
        (mismatch
          "the existing Effect and consumed Permit do not close over the same commit")
      let certificate ← requireSingle database.jointValidityCertificates
        (fun c => c.certificateId = effect.jointValidityCertificateId) .BINDING_MISMATCH
        "the existing Effect JVC must resolve exactly once" 1
      require (certificate.sessionId = effect.sessionId ∧
          certificate.actionHash = effect.actionHash ∧
          certificate.dependencySetHash = effect.dependencySetHash ∧
          certificate.validatedAtHead = permit.validatedHead ∧
          certificate.selectedCutSeq = permit.validatedHead ∧
          certificate.currentHeadCovered = true)
        (mismatch "the existing Effect, Permit, and JVC historical fields do not match")
      let validation ← requireSingle database.validations
        (fun v => v.validationId = certificate.validationId) .BINDING_MISMATCH
        "the committed JVC Validation must resolve exactly once" 1
      let activeDecisionIds ← orderedActiveDecisionIds session 1
      require (session.activeValidationId = some validation.validationId ∧
          validation.sessionId = effect.sessionId ∧ validation.actionHash = effect.actionHash ∧
          validation.dependencySetHash = effect.dependencySetHash ∧
          validation.validatedHead = permit.validatedHead ∧
          validation.outcome = .VALID_CURRENT_ALLOW ∧
          validation.jointValidityCertificateId = some certificate.certificateId ∧
          validation.noCutProofId = none ∧
          validation.decisionCertificateIds = activeDecisionIds ∧
          certificate.decisionCertificateIds = activeDecisionIds)
        (mismatch "the committed Validation does not close over Session, JVC, and Decisions")
      validateCommittedEvidenceClosure database session world certificate validation
        expectedActionHash effect.dependencySetHash permit.validatedHead 1
      validateCompletedRefreshPlanClosure database session validation expectedActionHash 1
      return some effect
  | several => throw (reject .BINDING_MISMATCH
      "a Session must not contain more than one protected Effect" several.length)

/-! ## The release -/

/-- The session record is found by its identifier, and changed in place. -/
def updateSession (database : EpochDatabase) (sessionId : OpaqueId)
    (f : EpochSession → EpochSession) : EpochDatabase :=
  { database with sessions := modifyWhere (fun s => s.sessionId = sessionId) f database.sessions }

/-- A permit that is still open is withdrawn; one that is not is left. -/
def revoke (permit : EffectPermit) : EffectPermit :=
  if permit.status = .ISSUED then { permit with status := .REVOKED, consumedAt := none }
  else permit

/-- The head has moved since the permit was issued: the permit is withdrawn and
the session closed, and the request is told so. Nothing else of the store
changes. -/
def invalidateCommitRace (database : EpochDatabase) (session : EpochSession)
    (permitId : OpaqueId) (timestamp : Timestamp) :
    EpochDatabase × CommitProtectedEffectResult :=
  let revoked :=
    { database with
      permits := modifyFirst (fun p => p.permitId = permitId) revoke database.permits }
  (updateSession revoked session.sessionId fun s =>
    { s with
      state := .COMMIT_RACE
      activePermitId := none
      sessionRevision := s.sessionRevision + 1
      stateUpdatedAt := timestamp },
   .rejected
    { reasonCode := .COMMIT_RACE
      message := "World head changed after Permit validation."
      effectsInSession := effectScopeCount database session.sessionId
      error := none })

/-- The session, once its action is the one it was created with: the stored
action parses, and the hashes and the idempotency key are those recomputed from
it. -/
def requireSession (database : EpochDatabase) (sessionId : OpaqueId) : Gate EpochSession := do
  let matching := database.sessions.filter fun s => s.sessionId = sessionId
  require (matching ≠ []) (reject .SESSION_NOT_FOUND "EpochGuard Session was not found." 0)
  let session ← orStop (only? matching)
    (reject .BINDING_MISMATCH "the Session ID must resolve exactly once"
      (effectScopeCount database sessionId))
  let count := effectScopeCount database session.sessionId
  require session.action.parses
    (reject .ACTION_HASH_MISMATCH
      "the persisted Action does not satisfy the frozen contract" count)
  let expectedActionHash := actionHash session.action.toActionCanonicalFields
  require (session.actionHash = expectedActionHash ∧
      session.action.actionHash = expectedActionHash ∧
      session.action.sessionId = session.sessionId ∧
      session.action.idempotencyKey = idempotencyKeyFor session.sessionId expectedActionHash)
    (reject .ACTION_HASH_MISMATCH
      "the Session Action hash or idempotency scope changed" count)
  return session

/-- The permit of a session that is ready at the current head. The caller names
the revision it has seen, the session neither observes nor has a plan open, and
the permit is issued and unused for this session, action and key. -/
def requireReadyPermit (database : EpochDatabase) (session : EpochSession)
    (expectedSessionRevision : Nat) (expectedActionHash : Sha256Digest)
    (expectedIdempotencyKey : String) : Gate EffectPermit := do
  let staleView := makeStaleViewError session.sessionId expectedSessionRevision
    session.sessionRevision
  require (expectedSessionRevision = session.sessionRevision)
    (.abort { reasonCode := .STALE_VIEW, message := staleView.message, effectsInSession := 0,
              error := some staleView })
  require (session.state = .READY_AT_CURRENT_HEAD)
    (reject .BINDING_MISMATCH "only READY_AT_CURRENT_HEAD may enter the Effect Gate" 0)
  require (isQuiescent database session)
    (reject .BINDING_MISMATCH
      "READY Session must not retain an in-flight Attempt or AVAILABLE/CLAIMED RefreshPlan" 0)
  let activePermitId ← orStop session.activePermitId
    (reject .BINDING_MISMATCH "the ready Session has no active Permit" 0)
  let permit ← requireSingle database.permits (fun p => p.permitId = activePermitId)
    .BINDING_MISMATCH "the active Permit must resolve exactly once" 0
  require (permit.status = .ISSUED ∧ permit.consumedAt = none ∧
      permit.sessionId = session.sessionId ∧ permit.actionHash = expectedActionHash ∧
      permit.idempotencyKey = expectedIdempotencyKey)
    (reject .BINDING_MISMATCH
      "Permit status, Session, Action, or idempotency binding is invalid" 0)
  return permit

/-- The records that a permit was issued on. -/
structure Release where
  permit : EffectPermit
  certificate : JointValidityCertificate
  validation : ValidationRecord
  evidence : PerRole RoleEvidence

/-- All checks on the evidence behind a permit at the current head: certificate
and validation were made at it for the active decisions, the records of each
role close and are valid at it, the receipts, attempts and Runs are distinct,
and the recomputed dependency set and bounds are those of the permit. -/
def requireRelease (database : EpochDatabase) (session : EpochSession) (world : WorldPort)
    (expectedActionHash : Sha256Digest) (permit : EffectPermit) : Gate Release := do
  let head := database.headSeq
  let certificate ← requireSingle database.jointValidityCertificates
    (fun c => c.certificateId = permit.jointValidityCertificateId) .BINDING_MISMATCH
    "Permit JVC must resolve exactly once" 0
  let validation ← requireSingle database.validations
    (fun v => v.validationId = certificate.validationId) .BINDING_MISMATCH
    "JVC Validation must resolve exactly once" 0
  let activeDecisionIds ← orderedActiveDecisionIds session 0
  require (session.activeValidationId = some validation.validationId ∧
      validation.sessionId = session.sessionId ∧ validation.actionHash = expectedActionHash ∧
      validation.outcome = .VALID_CURRENT_ALLOW ∧ validation.validatedHead = head ∧
      validation.jointValidityCertificateId = some certificate.certificateId ∧
      validation.noCutProofId = none ∧
      validation.decisionCertificateIds = activeDecisionIds ∧
      certificate.sessionId = session.sessionId ∧
      certificate.actionHash = expectedActionHash ∧ certificate.validatedAtHead = head ∧
      certificate.selectedCutSeq = head ∧ certificate.currentHeadCovered = true ∧
      certificate.decisionCertificateIds = activeDecisionIds ∧
      permit.validatedHead = certificate.validatedAtHead ∧
      permit.dependencySetHash = certificate.dependencySetHash ∧
      validation.dependencySetHash = certificate.dependencySetHash)
    (reject .BINDING_MISMATCH
      "Permit, JVC, Validation, head, or active Decision tuple does not match" 0)
  let registrations ← requireFrozenRoleRegistrations database session 0
  let evidence ← PerRole.mapRoles (requireRoleEvidence database session world certificate
    expectedActionHash head activeTexts false activeIntervalMatches 0 registrations
    activeDecisionIds)
  require (receiptIds evidence).Distinct
    (reject .BINDING_MISMATCH "active Decisions must use distinct Receipts" 0)
  require ((attemptIds evidence).Distinct ∧ (runIds evidence).Distinct)
    (reject .DECISION_INVALID "active Decisions must prove three distinct Attempts and Runs" 0)
  let bounds := intervalBounds (evidence.map fun e => e.version.interval) head
  let dependencySetHash := snapshotReceiptDependencySetHash (receiptIds evidence).toList
  require (dependencySetHash = validation.dependencySetHash ∧
      dependencySetHash = certificate.dependencySetHash ∧
      dependencySetHash = permit.dependencySetHash ∧ boundsMatch validation bounds head)
    (reject .BINDING_MISMATCH
      "dependency set or current-head interval intersection changed" 0)
  validateCompletedRefreshPlanClosure database session validation expectedActionHash 0
  return { permit, certificate, validation, evidence }

/-- The record of the release. Its key and its hashes are recomputed from the
session's action and the evidence, not copied from the permit. -/
def effectRecordFor (session : EpochSession) (release : Release) (effectId : OpaqueId)
    (timestamp : Timestamp) : EffectRecord where
  effectId := effectId
  idempotencyKey := idempotencyKeyFor session.sessionId
    (actionHash session.action.toActionCanonicalFields)
  permitId := release.permit.permitId
  sessionId := session.sessionId
  actionHash := actionHash session.action.toActionCanonicalFields
  dependencySetHash := snapshotReceiptDependencySetHash (receiptIds release.evidence).toList
  jointValidityCertificateId := release.certificate.certificateId
  createdAt := timestamp

/-- Appends the effect, consumes its permit and closes the session. These are
the only three changes that a release makes, and they are made in one mutation
of the store, so that no effect is ever stored beside an open permit. -/
def recordEffect (database : EpochDatabase) (effect : EffectRecord) : EpochDatabase :=
  let consumed :=
    { database with
      effects := database.effects ++ [effect]
      permits := modifyWhere (fun p => p.permitId = effect.permitId)
        (fun p => { p with status := .CONSUMED, consumedAt := some effect.createdAt })
        database.permits }
  updateSession consumed effect.sessionId fun s =>
    { s with
      state := .COMMITTED
      sessionRevision := s.sessionRevision + 1
      stateUpdatedAt := effect.createdAt }

/-- The mutation of `commitProtectedEffect`, with the identifier and the time
that its ports give. In order: the session and its action are checked; an effect
that exists is returned; the ready permit is found; a head that has moved is a
race; and only after all evidence has been checked at the head is the effect
recorded. -/
def commitProtectedEffect (database : EpochDatabase) (world : WorldPort)
    (sessionId : OpaqueId) (expectedSessionRevision : Nat) (effectId : OpaqueId)
    (timestamp : Timestamp) : Gate (EpochDatabase × CommitProtectedEffectResult) := do
  let session ← requireSession database sessionId
  let expectedActionHash := actionHash session.action.toActionCanonicalFields
  let expectedIdempotencyKey := idempotencyKeyFor session.sessionId expectedActionHash
  match ← returnExistingEffect database session world expectedActionHash
      expectedIdempotencyKey with
  | some effect => return (database, .committed false effect)
  | none => do
      let permit ← requireReadyPermit database session expectedSessionRevision
        expectedActionHash expectedIdempotencyKey
      if database.headSeq ≠ permit.validatedHead then
        return invalidateCommitRace database session permit.permitId timestamp
      else do
        let release ← requireRelease database session world expectedActionHash permit
        let concurrentExisting := database.effects.find? fun e =>
          e.sessionId = session.sessionId ∧ e.actionHash = expectedActionHash ∧
            e.idempotencyKey = expectedIdempotencyKey
        match concurrentExisting with
        | some effect => return (database, .committed false effect)
        | none => do
            let effect := effectRecordFor session release effectId timestamp
            require (∀ e ∈ database.effects, e.effectId ≠ effect.effectId)
              (reject .BINDING_MISMATCH "Effect ID factory returned a duplicate ID" 0)
            return (recordEffect database effect, .committed true effect)

/-- The port that the service gives the gate: the identity rule. -/
def identityPort : WorldPort := fun world receipt =>
  resolveResourceVersionByIdentity world receipt.source receipt.entityKey receipt.sourceRevision

end Closures

end EffectGate

end EpochGuard
