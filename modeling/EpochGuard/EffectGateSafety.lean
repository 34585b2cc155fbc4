import EpochGuard.EffectGate
import EpochGuard.LedgerHistory

/-!
# Safety of the effect gate

What the checks of the gate establish, said once for each of them, and from
it the soundness of a release: at the head the World permits the action.
-/

namespace EpochGuard

open Json Checked

namespace EffectGate

section Soundness

variable [Sha256]

/-! ## What the checks establish -/

/-- The records that a role's checks have accepted. `matches'` is the rule for
the certificate's interval. -/
structure Supports (database : EpochDatabase) (session : EpochSession) (world : WorldPort)
    (certificate : JointValidityCertificate) (expectedActionHash : Sha256Digest) (head : Nat)
    (matches' : Interval → ObservationReceipt → ResourceVersion → Bool)
    (registrations : PerRole RoleAgentRegistration) (activeDecisionIds : PerRole OpaqueId)
    (role : Role) (e : RoleEvidence) : Prop where
  decision : single? database.decisions
    (fun d => d.certificateId = activeDecisionIds.get role) = some e.decision
  decisionBound : e.decision.status = .ACTIVE ∧ e.decision.supersededByCertificateId = none ∧
    e.decision.sessionId = session.sessionId ∧ e.decision.actionHash = expectedActionHash ∧
    e.decision.role = role ∧ e.decision.agentId = expectedAgentForRole session role ∧
    e.decision.verdict = .ALLOW
  assignment : single? database.runAssignments
    (fun a => a.assignmentId = e.decision.runAssignmentId) = some e.assignment
  assignmentBound : e.assignment.status = .CONSUMED ∧
    e.assignment.boundRunId = some e.decision.runId ∧
    e.assignment.consumedByDecisionCertificateId = some e.decision.certificateId ∧
    e.assignment.boundAt ≠ none ∧ e.assignment.consumedAt ≠ none ∧
    e.assignment.sessionId = session.sessionId ∧
    e.assignment.actionHash = expectedActionHash ∧
    e.assignment.agentId = expectedAgentForRole session role ∧ e.assignment.role = role ∧
    e.assignment.receiptId = e.decision.receiptId
  profile : (registrations.get role).agentId = expectedAgentForRole session role ∧
    e.assignment.agentId = (registrations.get role).agentId ∧
    e.assignment.roleProfileVersion = (registrations.get role).roleProfileVersion ∧
    e.assignment.agentsMdDigest = (registrations.get role).agentsMdDigest
  attempt : single? database.attempts
    (fun a => a.assignmentId = e.assignment.assignmentId) = some e.attempt
  attemptParses : e.attempt.parses
  attemptBound : e.attempt.status = .ACCEPTED ∧ e.attempt.sessionId = session.sessionId ∧
    e.attempt.actionHash = expectedActionHash ∧ e.attempt.role = role ∧
    e.attempt.agentId = expectedAgentForRole session role ∧
    e.attempt.runId = some e.decision.runId ∧ e.attempt.outputDigest ≠ none
  receipt : single? database.receipts
    (fun r => r.receiptId = e.decision.receiptId) = some e.receipt
  provenance : persistedQueryMatches database
      (buildRoleQuerySpec session.action.toActionCanonicalFields role) = true ∧
    e.assignment.queryHash =
      (buildRoleQuerySpec session.action.toActionCanonicalFields role).queryHash ∧
    e.receipt.queryHash =
      (buildRoleQuerySpec session.action.toActionCanonicalFields role).queryHash ∧
    e.receipt.sessionId = session.sessionId ∧ e.receipt.actionHash = expectedActionHash ∧
    e.receipt.agentId = expectedAgentForRole session role ∧
    e.receipt.runAssignmentId = e.assignment.assignmentId ∧ e.receipt.role = role ∧
    e.receipt.source = role ∧
    e.receipt.entityKey =
      (buildRoleQuerySpec session.action.toActionCanonicalFields role).entityKey
  observed : e.receipt.observedAtSeq ≤ head
  version : world database.toWorld e.receipt = .ok (some e.version)
  versionParses : e.version.parses
  versionValid : e.version.sourceRevision = e.receipt.sourceRevision ∧
    e.version.valueHash = e.receipt.valueHash ∧ e.version.Verified ∧
    e.receipt.observedAtSeq ∈ e.version.interval ∧ head ∈ e.version.interval
  permits : Permits role session.action.toActionCanonicalFields e.version.value.val
  interval : single? certificate.intervals.toList
    (fun i => i.receiptId = e.receipt.receiptId) = some e.interval
  intervalMatches : matches' e.interval e.receipt e.version = true

section

variable {database : EpochDatabase} {session : EpochSession} {world : WorldPort}
  {certificate : JointValidityCertificate} {expectedActionHash : Sha256Digest} {head : Nat}
  {matches' : Interval → ObservationReceipt → ResourceVersion → Bool}
  {registrations : PerRole RoleAgentRegistration} {activeDecisionIds : PerRole OpaqueId}
  {role : Role} {e : RoleEvidence} {texts : EvidenceTexts} {observedInProvenance : Bool} {n : Nat}

/-- The checks of one role pass exactly on the evidence that supports it,
whatever their texts, and wherever the observation is compared with the head. -/
theorem requireRoleEvidence_eq_ok :
    requireRoleEvidence database session world certificate expectedActionHash head texts
        observedInProvenance matches' n registrations activeDecisionIds role = .ok e ↔
      Supports database session world certificate expectedActionHash head matches'
        registrations activeDecisionIds role e := by
  simp only [requireRoleEvidence, requireRegisteredAssignmentProfile, bind_eq_ok, require_eq_ok,
    orStop_eq_ok, requireSingle_eq_ok, mapError_eq_ok, pure_eq_ok]
  constructor
  · intro h
    obtain ⟨decision, hdecision, -, hdecisionBound, assignment, hassignment, -, hassignmentBound,
      -, hprofile, attempt, hattempt, -, hparses, -, hattemptBound, receipt, hreceipt, -,
      hprovenance, _, hworld, version, rfl, -, hversionParses, -, hvalid, verdict, hverdict, -,
      rfl, interval, hinterval, -, hmatches, rfl⟩ := h
    have hobserved : receipt.observedAtSeq ≤ head := by
      cases observedInProvenance with
      | true => exact hprovenance.2.2.2.2.2.2.2.2.2.2 rfl
      | false => exact hvalid.2.2.2.2.1 rfl
    obtain ⟨hq, hq1, hq2, hr1, hr2, hr3, hr4, hr5, hr6, hr7, -⟩ := hprovenance
    obtain ⟨hv1, hv2, hv3, hv4, -, hv5⟩ := hvalid
    exact
      { decision := hdecision, decisionBound := hdecisionBound, assignment := hassignment,
        assignmentBound := hassignmentBound, profile := hprofile, attempt := hattempt,
        attemptParses := hparses, attemptBound := hattemptBound, receipt := hreceipt,
        provenance := ⟨hq, hq1, hq2, hr1, hr2, hr3, hr4, hr5, hr6, hr7⟩, observed := hobserved,
        version := hworld, versionParses := hversionParses,
        versionValid := ⟨hv1, hv2, hv3, hv4, hv5⟩,
        permits := evaluateAuthoritativeVerdict_allow.mp hverdict, interval := hinterval,
        intervalMatches := hmatches }
  · intro h
    obtain ⟨hq, hq1, hq2, hr1, hr2, hr3, hr4, hr5, hr6, hr7⟩ := h.provenance
    obtain ⟨hv1, hv2, hv3, hv4, hv5⟩ := h.versionValid
    exact ⟨_, h.decision, (), h.decisionBound, _, h.assignment, (), h.assignmentBound, (),
      h.profile, _, h.attempt, (), h.attemptParses, (), h.attemptBound, _, h.receipt, (),
      ⟨hq, hq1, hq2, hr1, hr2, hr3, hr4, hr5, hr6, hr7, fun _ => h.observed⟩, _, h.version, _, rfl,
      (), h.versionParses, (), ⟨hv1, hv2, hv3, hv4, fun _ => h.observed, hv5⟩, _,
      evaluateAuthoritativeVerdict_allow.mpr h.permits, (), rfl, _, h.interval, (),
      h.intervalMatches, rfl⟩

/-- Two decisions of one role are the same, and so are all records behind them. -/
theorem Supports.runId_eq (h : Supports database session world certificate expectedActionHash head
    matches' registrations activeDecisionIds role e) : e.attempt.runId = some e.decision.runId :=
  h.attemptBound.2.2.2.2.2.1

end

/-- A session whose action is the one it was created with. -/
structure SessionBound (database : EpochDatabase) (sessionId : OpaqueId)
    (session : EpochSession) : Prop where
  only : database.sessions.filter (fun s => s.sessionId = sessionId) = [session]
  actionParses : session.action.parses
  bound : session.actionHash = actionHash session.action.toActionCanonicalFields ∧
    session.action.actionHash = actionHash session.action.toActionCanonicalFields ∧
    session.action.sessionId = session.sessionId ∧
    session.action.idempotencyKey =
      idempotencyKeyFor session.sessionId (actionHash session.action.toActionCanonicalFields)

/-- A session that may enter the gate, with its permit: nothing is in flight,
and the permit that it points to is issued, not consumed, and bound to its
action. -/
structure Ready (database : EpochDatabase) (session : EpochSession) (permit : EffectPermit) :
    Prop where
  state : session.state = .READY_AT_CURRENT_HEAD
  quiescent : isQuiescent database session
  activePermit : session.activePermitId = some permit.permitId
  unique : single? database.permits (fun p => p.permitId = permit.permitId) = some permit
  issued : permit.status = .ISSUED ∧ permit.consumedAt = none
  permitBound : permit.sessionId = session.sessionId ∧
    permit.actionHash = actionHash session.action.toActionCanonicalFields ∧
    permit.idempotencyKey =
      idempotencyKeyFor session.sessionId (actionHash session.action.toActionCanonicalFields)

/-- Everything that stands behind a release at the current head: the permit's
certificate and validation, which agree on session, action, head and decisions,
the registrations of the Agents, and for each role evidence that permits the
action at the head. -/
structure Backed (database : EpochDatabase) (session : EpochSession) (world : WorldPort)
    (expectedActionHash : Sha256Digest)
    (activeDecisionIds : PerRole OpaqueId) (registrations : PerRole RoleAgentRegistration)
    (release : Release) : Prop where
  certificate : single? database.jointValidityCertificates
    (fun c => c.certificateId = release.permit.jointValidityCertificateId) =
      some release.certificate
  validation : single? database.validations
    (fun v => v.validationId = release.certificate.validationId) = some release.validation
  active : session.activeDecisionCertificateIds.all? = some activeDecisionIds
  bound : session.activeValidationId = some release.validation.validationId ∧
    release.validation.sessionId = session.sessionId ∧
    release.validation.actionHash = expectedActionHash ∧
    release.validation.outcome = .VALID_CURRENT_ALLOW ∧
    release.validation.validatedHead = database.headSeq ∧
    release.validation.jointValidityCertificateId = some release.certificate.certificateId ∧
    release.validation.noCutProofId = none ∧
    release.validation.decisionCertificateIds = activeDecisionIds ∧
    release.certificate.sessionId = session.sessionId ∧
    release.certificate.actionHash = expectedActionHash ∧
    release.certificate.validatedAtHead = database.headSeq ∧
    release.certificate.selectedCutSeq = database.headSeq ∧
    release.certificate.currentHeadCovered = true ∧
    release.certificate.decisionCertificateIds = activeDecisionIds ∧
    release.permit.validatedHead = release.certificate.validatedAtHead ∧
    release.permit.dependencySetHash = release.certificate.dependencySetHash ∧
    release.validation.dependencySetHash = release.certificate.dependencySetHash
  registered : requireFrozenRoleRegistrations database session 0 = .ok registrations
  evidence : ∀ role, Supports database session world release.certificate expectedActionHash
    database.headSeq activeIntervalMatches registrations activeDecisionIds role
    (release.evidence.get role)
  distinct : (receiptIds release.evidence).Distinct ∧ (attemptIds release.evidence).Distinct ∧
    (runIds release.evidence).Distinct
  dependencySet :
    snapshotReceiptDependencySetHash (receiptIds release.evidence).toList =
        release.validation.dependencySetHash ∧
      snapshotReceiptDependencySetHash (receiptIds release.evidence).toList =
        release.certificate.dependencySetHash ∧
      snapshotReceiptDependencySetHash (receiptIds release.evidence).toList =
        release.permit.dependencySetHash
  bounds : boundsMatch release.validation
    (intervalBounds (release.evidence.map fun e => e.version.interval) database.headSeq)
    database.headSeq
  planClosed : validateCompletedRefreshPlanClosure database session release.validation
    expectedActionHash 0 = .ok ()

section

variable {database : EpochDatabase} {session : EpochSession} {sessionId : OpaqueId}
  {world : WorldPort} {permit : EffectPermit} {release : Release}
  {expectedActionHash : Sha256Digest}

theorem requireSession_eq_ok :
    requireSession database sessionId = .ok session ↔ SessionBound database sessionId session := by
  simp only [requireSession, bind_eq_ok, require_eq_ok, orStop_eq_ok, only?_eq_some, pure_eq_ok]
  constructor
  · rintro ⟨-, -, _, honly, -, hparses, -, hbound, rfl⟩
    exact ⟨honly, hparses, hbound⟩
  · intro h
    exact ⟨(), by simp [h.only], _, h.only, (), h.actionParses, (), h.bound, rfl⟩

theorem requireReadyPermit_cases {expectedSessionRevision : Nat}
    (h : requireReadyPermit database session expectedSessionRevision
      (actionHash session.action.toActionCanonicalFields)
      (idempotencyKeyFor session.sessionId
        (actionHash session.action.toActionCanonicalFields)) = .ok permit) :
    expectedSessionRevision = session.sessionRevision ∧ Ready database session permit := by
  simp only [requireReadyPermit, bind_eq_ok, require_eq_ok, orStop_eq_ok, requireSingle_eq_ok,
    pure_eq_ok] at h
  obtain ⟨-, hrevision, -, hstate, -, hquiescent, permitId, hactive, _, hpermit, -,
    ⟨hissued, hopen, hbound⟩, rfl⟩ := h
  obtain rfl : _ = permitId := by simpa using (single?_mem hpermit).2
  exact ⟨hrevision, hstate, hquiescent, hactive, hpermit, ⟨hissued, hopen⟩, hbound⟩

theorem requireRelease_cases
    (h : requireRelease database session world expectedActionHash permit = .ok release) :
    release.permit = permit ∧ ∃ activeDecisionIds registrations,
      Backed database session world expectedActionHash activeDecisionIds registrations
        release := by
  simp only [requireRelease, orderedActiveDecisionIds, bind_eq_ok, require_eq_ok, orStop_eq_ok,
    requireSingle_eq_ok, PerRole.mapRoles_eq_ok, requireRoleEvidence_eq_ok, pure_eq_ok] at h
  obtain ⟨certificate, hcertificate, validation, hvalidation, activeDecisionIds, hactive, -,
    hbound, registrations, hregistrations, evidence, hevidence, -, hreceipts, -,
    ⟨hattempts, hruns⟩, -, ⟨hset, hset', hset'', hbounds⟩, ⟨⟩, hplan, rfl⟩ := h
  exact ⟨rfl, activeDecisionIds, registrations,
    { certificate := hcertificate, validation := hvalidation, active := hactive,
      bound := hbound, registered := hregistrations, evidence := hevidence,
      distinct := ⟨hreceipts, hattempts, hruns⟩, dependencySet := ⟨hset, hset', hset''⟩,
      bounds := hbounds, planClosed := hplan }⟩

theorem returnExistingEffect_eq_none {hash : Sha256Digest} {key : String} :
    returnExistingEffect database session world hash key = .ok none ↔
      database.effects.filter (fun e => e.sessionId = session.sessionId) = [] := by
  unfold returnExistingEffect
  cases hl : database.effects.filter fun e => e.sessionId = session.sessionId with
  | nil => simp
  | cons effect rest =>
    cases rest with
    | nil => simp
    | cons _ _ => simp

end

/-- What a request that does not stop may do: return the effect there is,
invalidate a permit of an older head, or release. -/
inductive CommitOutcome (database : EpochDatabase) (world : WorldPort) (sessionId : OpaqueId)
    (expectedSessionRevision : Nat) (effectId : OpaqueId) (timestamp : Timestamp) :
    EpochDatabase × CommitProtectedEffectResult → Prop
  | existing {session : EpochSession} {effect : EffectRecord}
      (bound : SessionBound database sessionId session)
      (returned : returnExistingEffect database session world
        (actionHash session.action.toActionCanonicalFields)
        (idempotencyKeyFor session.sessionId
          (actionHash session.action.toActionCanonicalFields)) = .ok (some effect)) :
      CommitOutcome database world sessionId expectedSessionRevision effectId timestamp
        (database, .committed false effect)
  | race {session : EpochSession} {permit : EffectPermit}
      (bound : SessionBound database sessionId session)
      (none : database.effects.filter (fun e => e.sessionId = session.sessionId) = [])
      (revision : expectedSessionRevision = session.sessionRevision)
      (ready : Ready database session permit) (moved : database.headSeq ≠ permit.validatedHead) :
      CommitOutcome database world sessionId expectedSessionRevision effectId timestamp
        (invalidateCommitRace database session permit.permitId timestamp)
  | created {session : EpochSession} {release : Release} {activeDecisionIds : PerRole OpaqueId}
      {registrations : PerRole RoleAgentRegistration}
      (bound : SessionBound database sessionId session)
      (none : database.effects.filter (fun e => e.sessionId = session.sessionId) = [])
      (revision : expectedSessionRevision = session.sessionRevision)
      (ready : Ready database session release.permit)
      (current : database.headSeq = release.permit.validatedHead)
      (backed : Backed database session world (actionHash session.action.toActionCanonicalFields)
        activeDecisionIds registrations release)
      (fresh : ∀ e ∈ database.effects, e.effectId ≠ effectId) :
      CommitOutcome database world sessionId expectedSessionRevision effectId timestamp
        (recordEffect database (effectRecordFor session release effectId timestamp),
          .committed true (effectRecordFor session release effectId timestamp))

section

variable {database : EpochDatabase} {world : WorldPort} {sessionId : OpaqueId}
  {expectedSessionRevision : Nat} {effectId : OpaqueId} {timestamp : Timestamp}
  {out : EpochDatabase × CommitProtectedEffectResult}

omit [Sha256] in
/-- An effect that was not found at first is not found before the release
either: the search under one identity and the count agree. -/
theorem find?_effect_eq_none {session : EpochSession} {hash : Sha256Digest} {key : String}
    (h : database.effects.filter (fun e => e.sessionId = session.sessionId) = []) :
    (database.effects.find? fun e =>
      e.sessionId = session.sessionId ∧ e.actionHash = hash ∧ e.idempotencyKey = key) = none := by
  rw [List.find?_eq_none]
  intro e he hmatch
  have hmem : e ∈ database.effects.filter (fun e => e.sessionId = session.sessionId) := by
    simp only [decide_eq_true_eq] at hmatch
    simp [he, hmatch.1]
  simp [h] at hmem

theorem commit_cases
    (h : commitProtectedEffect database world sessionId expectedSessionRevision effectId
      timestamp = .ok out) :
    CommitOutcome database world sessionId expectedSessionRevision effectId timestamp out := by
  simp only [commitProtectedEffect, bind_eq_ok, requireSession_eq_ok] at h
  obtain ⟨session, hbound, existing, hexisting, h⟩ := h
  cases existing with
  | some effect =>
    simp only [pure_eq_ok] at h
    subst h
    exact .existing hbound hexisting
  | none =>
    have hnone := returnExistingEffect_eq_none.mp hexisting
    simp only [bind_eq_ok] at h
    obtain ⟨permit, hpermit, h⟩ := h
    obtain ⟨hrevision, hready⟩ := requireReadyPermit_cases hpermit
    by_cases hmoved : database.headSeq ≠ permit.validatedHead
    · rw [if_pos hmoved, pure_eq_ok] at h
      subst h
      exact .race hbound hnone hrevision hready hmoved
    · rw [if_neg hmoved] at h
      simp only [bind_eq_ok, find?_effect_eq_none hnone, require_eq_ok, pure_eq_ok] at h
      obtain ⟨release, hrelease, -, hfresh, rfl⟩ := h
      obtain ⟨rfl, activeDecisionIds, registrations, hbacked⟩ := requireRelease_cases hrelease
      exact .created hbound hnone hrevision hready (not_not.mp hmoved) hbacked hfresh

end

/-! ## Soundness of a release -/

/-- The resource that a role observes for an action. -/
def observedResource (action : ActionCanonicalFields) (role : Role) : String :=
  role.name ++ ":" ++ (roleProjection action role).1.val

/-- The World at the head permits the action, on the word of three receipts
that three Runs of three Attempts have answered. -/
structure PermittedAtHead (database : EpochDatabase) (session : EpochSession)
    (evidence : PerRole RoleEvidence) : Prop where
  current : ∀ role, database.resourceVersions.filter
      (coversAt (observedResource session.action.toActionCanonicalFields role)
        database.headSeq) = [(evidence.get role).version]
  named : ∀ role, Identifies database.toWorld role
      (roleProjection session.action.toActionCanonicalFields role).1
      (evidence.get role).receipt.sourceRevision (evidence.get role).version ∧
    (evidence.get role).receipt.valueHash = (evidence.get role).version.valueHash
  answered : ∀ role,
    ((evidence.get role).receipt ∈ database.receipts ∧
      (evidence.get role).attempt ∈ database.attempts ∧
      (evidence.get role).decision ∈ database.decisions) ∧
    (evidence.get role).receipt.runAssignmentId = (evidence.get role).attempt.assignmentId ∧
    (evidence.get role).decision.receiptId = (evidence.get role).receipt.receiptId ∧
    (evidence.get role).attempt.runId = some (evidence.get role).decision.runId
  distinct : (receiptIds evidence).Distinct ∧ (attemptIds evidence).Distinct ∧
    (runIds evidence).Distinct
  permits : ∀ role, Permits role session.action.toActionCanonicalFields
    (evidence.get role).version.value.val

section

variable {database : EpochDatabase} {session : EpochSession}
  {certificate : JointValidityCertificate} {expectedActionHash : Sha256Digest} {head : Nat}
  {matches' : Interval → ObservationReceipt → ResourceVersion → Bool}
  {registrations : PerRole RoleAgentRegistration} {activeDecisionIds : PerRole OpaqueId}
  {role : Role} {e : RoleEvidence}

/-- Under the identity rule the supported receipt names its version. -/
theorem Supports.identifies
    (h : Supports database session identityPort certificate expectedActionHash head matches'
      registrations activeDecisionIds role e) :
    Identifies database.toWorld role
      (roleProjection session.action.toActionCanonicalFields role).1 e.receipt.sourceRevision
      e.version := by
  obtain ⟨-, -, -, -, -, -, -, -, hsource, hkey⟩ := h.provenance
  have hversion := resolveResourceVersionByIdentity_eq_some.mp h.version
  rwa [hsource, hkey, buildRoleQuerySpec_entityKey] at hversion

/-- In a ledger that keeps its invariant, a version that covers the head and
that the identity rule names is the current one of the role's resource. -/
theorem Supports.current (hinv : WorldLedger.LedgerInv database.toWorld)
    (h : Supports database session identityPort certificate expectedActionHash head matches'
      registrations activeDecisionIds role e) :
    database.resourceVersions.filter
      (coversAt (observedResource session.action.toActionCanonicalFields role) head) =
        [e.version] := by
  have hnames := h.identifies
  have hresource : e.version.resourceId.val =
      observedResource session.action.toActionCanonicalFields role :=
    OpaqueId.parse?_eq_some.mp hnames.resource
  have hcovers : head ∈ e.version.interval := h.versionValid.2.2.2.2
  have hmem : e.version ∈ database.resourceVersions.filter
      (coversAt (observedResource session.action.toActionCanonicalFields role) head) := by
    simp [coversAt, hnames.mem, hresource, hcovers]
  have hlen := hinv.length_covering
    (observedResource session.action.toActionCanonicalFields role) head
  rw [← WorldLedger.filter_coversAt] at hlen
  exact eq_singleton_of_mem hlen hmem

theorem Backed.permittedAtHead {release : Release}
    (hinv : WorldLedger.LedgerInv database.toWorld)
    (h : Backed database session identityPort expectedActionHash activeDecisionIds registrations
      release) : PermittedAtHead database session release.evidence where
  current := fun role => (h.evidence role).current hinv
  named := fun role => ⟨(h.evidence role).identifies, (h.evidence role).versionValid.2.1.symm⟩
  answered := by
    intro role
    have hrole := h.evidence role
    have hattempt := single?_mem hrole.attempt
    have hreceipt := single?_mem hrole.receipt
    simp only [decide_eq_true_eq] at hattempt hreceipt
    obtain ⟨-, -, -, -, -, -, hassignment, -⟩ := hrole.provenance
    exact ⟨⟨hreceipt.1, hattempt.1, (single?_mem hrole.decision).1⟩,
      hassignment.trans hattempt.2.symm, hreceipt.2.symm, hrole.runId_eq⟩
  distinct := h.distinct
  permits := fun role => (h.evidence role).permits

end

/-- A release is sound. When an effect is created on a ledger that only commits
have written, the World at the head permits the action in the view of all three
roles, the permit was issued for this session, action and head, and the session
had no effect before. Nothing is assumed of the other collections of the
database. -/
theorem commitProtectedEffect_sound (start : SafeNat)
    (calls : List WorldLedger.WorldCommitInput) (database : EpochDatabase)
    (hworld : database.toWorld = WorldLedger.afterCalls (WorldLedger.emptyLedger start) calls)
    (sessionId : OpaqueId) (expectedSessionRevision : Nat) (effectId : OpaqueId)
    (timestamp : Timestamp) (database' : EpochDatabase) (effect : EffectRecord)
    (h : commitProtectedEffect database identityPort sessionId expectedSessionRevision effectId
      timestamp = .ok (database', .committed true effect)) :
    ∃ session permit evidence,
      database.sessions.filter (fun s => s.sessionId = sessionId) = [session] ∧
      PermittedAtHead database session evidence ∧
      (permit ∈ database.permits ∧ permit.permitId = effect.permitId ∧
        permit.status = .ISSUED ∧ permit.sessionId = sessionId ∧
        permit.actionHash = actionHash session.action.toActionCanonicalFields ∧
        permit.validatedHead = database.headSeq) ∧
      ∀ e ∈ database.effects, e.sessionId ≠ sessionId := by
  have hinv : WorldLedger.LedgerInv database.toWorld :=
    hworld ▸ (WorldLedger.faithful_afterCalls start calls).inv
  cases commit_cases h with
  | @created session release activeDecisionIds registrations hbound hnone hrevision hready
      hcurrent hbacked hfresh =>
    have hsession : session.sessionId = sessionId := by
      have hmem : session ∈ database.sessions.filter fun s => s.sessionId = sessionId := by
        simp [hbound.only]
      simpa using (List.mem_filter.mp hmem).2
    refine ⟨session, release.permit, release.evidence, hbound.only,
      hbacked.permittedAtHead hinv, ⟨(single?_mem hready.unique).1, rfl, hready.issued.1,
        hready.permitBound.1.trans hsession, hready.permitBound.2.1, hcurrent.symm⟩, ?_⟩
    intro e he heq
    have hmem : e ∈ database.effects.filter fun e => e.sessionId = session.sessionId := by
      simp [he, heq, hsession]
    simp [hnone] at hmem

end Soundness

/-! ## A release of the fixture's action -/

namespace Sample

scoped instance : Sha256 := Sha256.standard

def action : ActionCanonicalFields where
  campaignId := ⟨"campaign_7", by decide⟩
  requestedUnits := 1
  estimatedCostCents := 500000

def value : Role → Value
  | .inventory => jobj [("availableUnits", jnat 1)]
  | .budget => jobj [("remainingBudgetCents", jnat 800000)]
  | .policy => jobj [("permitted", .bool true)]

def actionDigest : Sha256Digest := actionHash action

def receiptId (role : Role) : OpaqueId :=
  ⟨"receipt_" ++ role.name, by cases role <;> decide⟩

def receiptSet : JsString :=
  canonicalJson (.arr (([.budget, .inventory, .policy] : List Role).map fun role =>
    jstr (receiptId role).val))

def time : Timestamp := ⟨"2026-08-29T12:00:00.000Z", 1788004800000⟩

def commit : WorldLedger.WorldCommitInput where
  changes := ROLES.map fun role =>
    { resourceId := observedResource action role, value := value role, sourceRevision := none }
  reason := "World observations"
  expectedSeq := none
  createdAt := some time

def world : World :=
  WorldLedger.afterCalls (WorldLedger.emptyLedger ⟨9, by decide⟩) [commit]

def sessionId : OpaqueId := ⟨"session_7", by decide⟩
def agentId (role : Role) : OpaqueId := ⟨"agent_" ++ role.name, by cases role <;> decide⟩
def assignmentId (role : Role) : OpaqueId :=
  ⟨"assignment_" ++ role.name, by cases role <;> decide⟩
def attemptId (role : Role) : OpaqueId := ⟨"attempt_" ++ role.name, by cases role <;> decide⟩
def runId (role : Role) : OpaqueId := ⟨"run_" ++ role.name, by cases role <;> decide⟩
def decisionId (role : Role) : OpaqueId := ⟨"decision_" ++ role.name, by cases role <;> decide⟩
def profileVersion : OpaqueId := ⟨"role-profile-v1", by decide⟩
def promptVersion : OpaqueId := ⟨"prompt-template-v1", by decide⟩
def validationId : OpaqueId := ⟨"validation_1", by decide⟩
def certificateId : OpaqueId := ⟨"jvc_1", by decide⟩
def permitId : OpaqueId := ⟨"permit_1", by decide⟩
def effectId : OpaqueId := ⟨"effect_1", by decide⟩

def registration (role : Role) : RoleAgentRegistration where
  role := role
  agentId := agentId role
  agentNameAtRegistration := role.name
  roleProfileVersion := profileVersion
  agentsMdDigest := actionDigest
  registeredAt := time

def assignment (role : Role) : RunAssignment where
  assignmentId := assignmentId role
  sessionId := sessionId
  actionHash := actionDigest
  agentId := agentId role
  agentNameAtAssignment := role.name
  role := role
  receiptId := receiptId role
  queryHash := (buildRoleQuerySpec action role).queryHash
  roleProfileVersion := profileVersion
  promptTemplateVersion := promptVersion
  agentsMdDigest := actionDigest
  runtimeLabelAtDispatch := "agent"
  evidencePackRelativePath :=
    (evidencePackRelativePath sessionId role (assignmentId role)).getD ""
  evidencePackHash := actionDigest
  boundRunId := some (runId role)
  status := .CONSUMED
  consumedByDecisionCertificateId := some (decisionId role)
  createdAt := time
  boundAt := some time
  consumedAt := some time

def attempt (role : Role) : AgentAttempt where
  attemptId := attemptId role
  sessionId := sessionId
  actionHash := actionDigest
  role := role
  agentId := agentId role
  assignmentId := assignmentId role
  runId := some (runId role)
  status := .ACCEPTED
  runStartedAt := some time
  runCompletedAt := some time
  threadId := none
  usage := none
  outputDigest := some actionDigest

def receipt (role : Role) : ObservationReceipt where
  receiptId := receiptId role
  sessionId := sessionId
  actionHash := actionDigest
  agentId := agentId role
  runAssignmentId := assignmentId role
  role := role
  source := role
  entityKey := (roleProjection action role).1
  queryHash := (buildRoleQuerySpec action role).queryHash
  sourceRevision := 10
  valueHash := sha256Digest (canonicalJson (value role))
  observedAtSeq := 10
  nonce := "nonce-of-a-receipt-in-" ++ role.name ++ "-session"
  issuedAt := time

def decision (role : Role) : DependencyCertificate where
  certificateId := decisionId role
  sessionId := sessionId
  actionHash := actionDigest
  agentId := agentId role
  runAssignmentId := assignmentId role
  runId := runId role
  role := role
  verdict := .ALLOW
  receiptId := receiptId role
  decisionDigest := actionDigest
  status := .ACTIVE
  supersededByCertificateId := none
  createdAt := time

def session : EpochSession where
  sessionId := sessionId
  scenarioId := .normalWorldV1
  action :=
    { toActionCanonicalFields := action
      actionId := ⟨"action_1", by decide⟩
      sessionId := sessionId
      actionHash := actionDigest
      idempotencyKey := idempotencyKeyFor sessionId actionDigest }
  actionHash := actionDigest
  state := .READY_AT_CURRENT_HEAD
  sessionRevision := 5
  coordinationMode := .CONCURRENT
  frozenAssignments := PerRole.ofFn agentId
  activeDecisionCertificateIds := PerRole.ofFn fun role => some (decisionId role)
  activeAttemptIds := .const none
  activeValidationId := some validationId
  activeRefreshPlanId := none
  activePermitId := some permitId
  stateUpdatedAt := time
  createdAt := time

def validation : ValidationRecord where
  validationId := validationId
  sessionId := sessionId
  actionHash := actionDigest
  baseSessionRevision := 4
  decisionCertificateIds := PerRole.ofFn decisionId
  dependencySetHash := sha256Digest receiptSet
  validatedHead := 10
  outcome := .VALID_CURRENT_ALLOW
  lowerBound := some 10
  upperBound := some 11
  jointValidityCertificateId := some certificateId
  noCutProofId := none
  refreshPlanId := none
  verificationLatencyMs := 0
  createdAt := time

def certificate : JointValidityCertificate where
  certificateId := certificateId
  validationId := validationId
  sessionId := sessionId
  actionHash := actionDigest
  dependencySetHash := sha256Digest receiptSet
  validatedAtHead := 10
  selectedCutSeq := 10
  currentHeadCovered := true
  decisionCertificateIds := PerRole.ofFn decisionId
  intervals := PerRole.ofFn fun role =>
    { receiptId := receiptId role, source := role, sourceRevision := 10, «from» := 10,
      «until» := none }
  createdAt := time

def permit : EffectPermit where
  permitId := permitId
  sessionId := sessionId
  actionHash := actionDigest
  dependencySetHash := sha256Digest receiptSet
  jointValidityCertificateId := certificateId
  validatedHead := 10
  idempotencyKey := idempotencyKeyFor sessionId actionDigest
  status := .ISSUED
  issuedAt := time
  consumedAt := none

def database : EpochDatabase :=
  { emptyEpochDatabase with
    toWorld := world
    roleAgentRegistrations := ROLES.map registration
    roleQuerySpecs := ROLES.map (buildRoleQuerySpec action)
    runAssignments := ROLES.map assignment
    receipts := ROLES.map receipt
    sessions := [session]
    attempts := ROLES.map attempt
    decisions := ROLES.map decision
    validations := [validation]
    jointValidityCertificates := [certificate]
    permits := [permit] }

def effect : EffectRecord where
  effectId := effectId
  idempotencyKey := idempotencyKeyFor sessionId actionDigest
  permitId := permitId
  sessionId := sessionId
  actionHash := actionDigest
  dependencySetHash := sha256Digest receiptSet
  jointValidityCertificateId := certificateId
  createdAt := time

theorem database_toWorld : database.toWorld =
    WorldLedger.afterCalls (WorldLedger.emptyLedger ⟨9, by decide⟩) [commit] := by
  simp only [database, world]

theorem released :
    (commitProtectedEffect database identityPort sessionId 5 effectId time).toOption.map Prod.snd =
      some (.committed true effect) := by decide +kernel

end Sample

open scoped Sample in
theorem commitProtectedEffect_sound_sample :
    ∃ session permit evidence,
      Sample.database.sessions.filter (fun s => s.sessionId = Sample.sessionId) = [session] ∧
      PermittedAtHead Sample.database session evidence ∧
      (permit ∈ Sample.database.permits ∧ permit.permitId = Sample.effect.permitId ∧
        permit.status = .ISSUED ∧ permit.sessionId = Sample.sessionId ∧
        permit.actionHash = actionHash session.action.toActionCanonicalFields ∧
        permit.validatedHead = Sample.database.headSeq) ∧
      ∀ e ∈ Sample.database.effects, e.sessionId ≠ Sample.sessionId := by
  obtain ⟨⟨database', result⟩, hrun, rfl⟩ := exists_of_toOption_map Sample.released
  exact commitProtectedEffect_sound ⟨9, by decide⟩ [Sample.commit] Sample.database
    Sample.database_toWorld Sample.sessionId 5 Sample.effectId Sample.time database' Sample.effect
    hrun

end EffectGate

end EpochGuard
