import EpochGuard.EvidenceChain

/-!
# Retries of a release

A release leaves records that the gate accepts again on every later request,
whatever the World has become in the meantime, so that a session is released at
most once and every retry is told of the one effect.
-/

namespace EpochGuard

open Json Checked

/-! ## Versions after a commit -/

section Versions

variable [Sha256] {world world' : World} {input : WorldLedger.WorldCommitInput}
  {pending : List ResourceVersion} {source : Source} {entityKey : OpaqueId} {revision : Nat}
  {version : ResourceVersion}

/-- The identity rule names a version also after a commit that closes it. -/
theorem Identifies.commit (h : Identifies world source entityKey revision version)
    (hstep : WorldLedger.CommitStep world input pending world')
    (hfrom : version.validFromSeq ≤ world.headSeq) :
    Identifies world' source entityKey revision
      (WorldLedger.settle pending world'.headSeq version) where
  resource := by
    rw [WorldLedger.settle_resourceId]
    exact h.resource
  revision := by
    rw [WorldLedger.settle_eq]
    exact h.revision
  only := by
    have hsettled : ∀ v, hasRevision version.resourceId.val revision
        (WorldLedger.settle pending world'.headSeq v) =
          hasRevision version.resourceId.val revision v := by
      intro v
      rw [WorldLedger.settle_eq]
      rfl
    have hnew : pending.filter (hasRevision version.resourceId.val revision) = [] := by
      rw [List.filter_eq_nil_iff]
      intro p hp hnamed
      simp only [hasRevision, Bool.and_eq_true, decide_eq_true_eq, OpaqueId.val_inj] at hnamed
      exact (hstep.fresh p hp).revision version h.mem hnamed.1.symm
        (h.revision.trans hnamed.2.symm)
    rw [WorldLedger.settle_resourceId, hstep.resourceVersions, List.filter_append, hnew,
      List.append_nil, List.filter_map]
    have hold : world.resourceVersions.filter
        (hasRevision version.resourceId.val revision ∘ WorldLedger.settle pending world'.headSeq) =
          [version] := by
      rw [← h.only]
      exact List.filter_congr fun v _ => hsettled v
    rw [hold, List.map_singleton]
  safe := h.safe
  intact := by
    obtain ⟨hparses, hverified⟩ := h.intact
    have hhead := hstep.headSeq
    unfold WorldLedger.settle
    split_ifs
    · refine ⟨?_, hverified⟩
      intro u hu
      obtain rfl := Option.some.inj hu
      show version.validFromSeq < world'.headSeq
      omega
    · exact ⟨hparses, hverified⟩

omit [Sha256] in
/-- A sequence up to the old head that a version covers, it still covers. -/
theorem mem_interval_settle {seq : Nat} (hseq : seq ∈ version.interval) {n : Nat} (hn : seq < n) :
    seq ∈ (WorldLedger.settle pending n version).interval := by
  unfold WorldLedger.settle
  split_ifs
  · exact ⟨hseq.1, fun u hu => Option.some.inj hu ▸ hn⟩
  · exact hseq

end Versions

namespace EffectGate

variable [Sha256]

/-! ## What the gate checks of a released effect -/

/-- The records behind a released effect, as the gate asks for them again. -/
structure Settled (database : EpochDatabase) (session : EpochSession) (effect : EffectRecord)
    (activeDecisionIds : PerRole OpaqueId) (registrations : PerRole RoleAgentRegistration)
    (release : Release) : Prop where
  bound : SessionBound database session.sessionId session
  only : database.effects.filter (fun e => e.sessionId = session.sessionId) = [effect]
  named : effect.actionHash = actionHash session.action.toActionCanonicalFields ∧
    effect.idempotencyKey =
      idempotencyKeyFor session.sessionId (actionHash session.action.toActionCanonicalFields)
  closed : session.state = .COMMITTED ∧ session.activePermitId = some effect.permitId ∧
    isQuiescent database session
  permit : single? database.permits (fun p => p.permitId = effect.permitId) = some release.permit
  permitBound : release.permit.status = .CONSUMED ∧
    release.permit.consumedAt = some effect.createdAt ∧
    release.permit.sessionId = effect.sessionId ∧
    release.permit.actionHash = effect.actionHash ∧
    release.permit.idempotencyKey = effect.idempotencyKey ∧
    release.permit.dependencySetHash = effect.dependencySetHash ∧
    release.permit.jointValidityCertificateId = effect.jointValidityCertificateId ∧
    release.permit.validatedHead ≤ database.headSeq
  certificate : single? database.jointValidityCertificates
    (fun c => c.certificateId = effect.jointValidityCertificateId) = some release.certificate
  certificateBound : release.certificate.sessionId = effect.sessionId ∧
    release.certificate.actionHash = effect.actionHash ∧
    release.certificate.dependencySetHash = effect.dependencySetHash ∧
    release.certificate.validatedAtHead = release.permit.validatedHead ∧
    release.certificate.selectedCutSeq = release.permit.validatedHead ∧
    release.certificate.currentHeadCovered = true
  validation : single? database.validations
    (fun v => v.validationId = release.certificate.validationId) = some release.validation
  active : session.activeDecisionCertificateIds.all? = some activeDecisionIds
  validationBound : session.activeValidationId = some release.validation.validationId ∧
    release.validation.sessionId = effect.sessionId ∧
    release.validation.actionHash = effect.actionHash ∧
    release.validation.dependencySetHash = effect.dependencySetHash ∧
    release.validation.validatedHead = release.permit.validatedHead ∧
    release.validation.outcome = .VALID_CURRENT_ALLOW ∧
    release.validation.jointValidityCertificateId = some release.certificate.certificateId ∧
    release.validation.noCutProofId = none ∧
    release.validation.decisionCertificateIds = activeDecisionIds ∧
    release.certificate.decisionCertificateIds = activeDecisionIds
  registered : requireFrozenRoleRegistrations database session 1 = .ok registrations
  evidence : ∀ role, Supports database session identityPort release.certificate
    (actionHash session.action.toActionCanonicalFields) release.permit.validatedHead
    (committedIntervalMatches release.permit.validatedHead) registrations activeDecisionIds role
    (release.evidence.get role)
  distinct : (receiptIds release.evidence).Distinct ∧ (attemptIds release.evidence).Distinct ∧
    (runIds release.evidence).Distinct
  dependencySet :
    snapshotReceiptDependencySetHash (receiptIds release.evidence).toList = effect.dependencySetHash
  bounds : boundsMatch release.validation
    (intervalBounds (release.evidence.map fun e => boundsOf e.interval)
      release.permit.validatedHead) release.permit.validatedHead
  planClosed : validateCompletedRefreshPlanClosure database session release.validation
    (actionHash session.action.toActionCanonicalFields) 1 = .ok ()

section Settled

variable {database : EpochDatabase} {session : EpochSession} {effect : EffectRecord}
  {activeDecisionIds : PerRole OpaqueId} {registrations : PerRole RoleAgentRegistration}
  {release : Release}

theorem Settled.returned
    (h : Settled database session effect activeDecisionIds registrations release) :
    returnExistingEffect database session identityPort
      (actionHash session.action.toActionCanonicalFields)
      (idempotencyKeyFor session.sessionId (actionHash session.action.toActionCanonicalFields)) =
        .ok (some effect) := by
  have hcommitted : validateCommittedEvidenceClosure database session identityPort
      release.certificate release.validation (actionHash session.action.toActionCanonicalFields)
      effect.dependencySetHash release.permit.validatedHead 1 = .ok () := by
    simp only [validateCommittedEvidenceClosure, orderedActiveDecisionIds, bind_eq_ok,
      orStop_eq_ok, require_eq_ok, PerRole.mapRoles_eq_ok, requireRoleEvidence_eq_ok]
    exact ⟨_, h.active, _, h.registered, _, h.evidence, (), h.distinct, h.dependencySet, h.bounds⟩
  simp only [returnExistingEffect, h.only, orderedActiveDecisionIds, bind_eq_ok, orStop_eq_ok,
    require_eq_ok, requireSingle_eq_ok, pure_eq_ok]
  exact ⟨(), h.named, (), h.closed, _, h.permit, (), h.permitBound, _, h.certificate, (),
    h.certificateBound, _, h.validation, _, h.active, (), h.validationBound, (), hcommitted, (),
    h.planClosed, trivial⟩

/-- A request for a released session is told of its effect. -/
theorem Settled.commit
    (h : Settled database session effect activeDecisionIds registrations release)
    (expectedSessionRevision : Nat) (effectId : OpaqueId) (timestamp : Timestamp) :
    commitProtectedEffect database identityPort session.sessionId expectedSessionRevision effectId
      timestamp = .ok (database, .committed false effect) := by
  simp only [commitProtectedEffect, bind_eq_ok, requireSession_eq_ok]
  exact ⟨session, h.bound, some effect, h.returned, rfl⟩

end Settled

/-! ## Evidence carried over to a later store -/

section Carry

variable {database database' : EpochDatabase} {session session' : EpochSession}
  {certificate : JointValidityCertificate} {expectedActionHash : Sha256Digest} {head : Nat}
  {matches' : Interval → ObservationReceipt → ResourceVersion → Bool}
  {registrations : PerRole RoleAgentRegistration} {activeDecisionIds : PerRole OpaqueId}
  {role : Role} {e : RoleEvidence} {version : ResourceVersion}

/-- Two stores with the same records behind the decisions. -/
structure SameEvidence (database database' : EpochDatabase) : Prop where
  registrations : database'.roleAgentRegistrations = database.roleAgentRegistrations
  queries : database'.roleQuerySpecs = database.roleQuerySpecs
  assignments : database'.runAssignments = database.runAssignments
  attempts : database'.attempts = database.attempts
  receipts : database'.receipts = database.receipts
  decisions : database'.decisions = database.decisions
  plans : database'.refreshPlans = database.refreshPlans

/-- Two records of one session that differ in its progress. -/
structure SameSession (session session' : EpochSession) : Prop where
  id : session'.sessionId = session.sessionId
  action : session'.action = session.action
  frozen : session'.frozenAssignments = session.frozenAssignments
  decisions : session'.activeDecisionCertificateIds = session.activeDecisionCertificateIds
  plan : session'.activeRefreshPlanId = session.activeRefreshPlanId
  revision : session.sessionRevision ≤ session'.sessionRevision

/-- The version behind a receipt may have been closed in the meantime. -/
theorem Supports.carry
    (h : Supports database session identityPort certificate expectedActionHash head matches'
      registrations activeDecisionIds role e)
    (hsame : SameEvidence database database') (hsession : SameSession session session')
    {matches'' : Interval → ObservationReceipt → ResourceVersion → Bool}
    (hversion : identityPort database'.toWorld e.receipt = .ok (some version))
    (hfields : version.sourceRevision = e.version.sourceRevision ∧
      version.valueHash = e.version.valueHash ∧ version.value = e.version.value)
    (hcovers : e.receipt.observedAtSeq ∈ version.interval ∧ head ∈ version.interval)
    (hmatches : matches'' e.interval e.receipt version = true) :
    Supports database' session' identityPort certificate expectedActionHash head matches''
      registrations activeDecisionIds role { e with version } := by
  have hnamed := resolveResourceVersionByIdentity_eq_some.mp hversion
  obtain ⟨hrevision, hhash, hvalue⟩ := hfields
  constructor
  case decision => exact hsame.decisions ▸ h.decision
  case decisionBound =>
    rw [hsession.id, expectedAgentForRole, hsession.frozen]
    exact h.decisionBound
  case assignment => exact hsame.assignments ▸ h.assignment
  case assignmentBound =>
    rw [hsession.id, expectedAgentForRole, hsession.frozen]
    exact h.assignmentBound
  case profile =>
    rw [expectedAgentForRole, hsession.frozen]
    exact h.profile
  case attempt => exact hsame.attempts ▸ h.attempt
  case attemptParses => exact h.attemptParses
  case attemptBound =>
    rw [hsession.id, expectedAgentForRole, hsession.frozen]
    exact h.attemptBound
  case receipt => exact hsame.receipts ▸ h.receipt
  case provenance =>
    rw [hsession.id, expectedAgentForRole, hsession.frozen, hsession.action, persistedQueryMatches,
      hsame.queries]
    exact h.provenance
  case observed => exact h.observed
  case version => exact hversion
  case versionParses => exact hnamed.intact.1
  case versionValid =>
    -- only the end of the version's interval may differ from what the release saw
    exact ⟨hrevision.trans h.versionValid.1, hhash.trans h.versionValid.2.1, hnamed.intact.2,
      hcovers.1, hcovers.2⟩
  case permits =>
    rw [hsession.action]
    show Permits role _ version.value.val
    rw [hvalue]
    exact h.permits
  case interval => exact h.interval
  case intervalMatches => exact hmatches

omit [Sha256] in
/-- The interval of a certificate at its own head still matches after it. -/
theorem committedIntervalMatches_of_active {interval : Interval} {receipt : ObservationReceipt}
    (h : activeIntervalMatches interval receipt version = true) (hhead : head ∈ version.interval) :
    committedIntervalMatches head interval receipt version = true := by
  simp only [activeIntervalMatches, Bool.and_eq_true, decide_eq_true_eq] at h
  obtain ⟨⟨⟨hsource, hrevision⟩, hfrom⟩, huntil⟩ := h
  obtain ⟨hstart, hstop⟩ := hhead
  simp only [committedIntervalMatches, Bool.and_eq_true, Bool.or_eq_true, decide_eq_true_eq]
  refine ⟨⟨⟨⟨⟨hsource, hrevision⟩, hfrom⟩, .inl huntil⟩, hfrom ▸ hstart⟩, ?_⟩
  rw [huntil]
  cases hend : version.validUntilSeq with
  | none => rfl
  | some u => simpa using hstop u hend

omit [Sha256] in
/-- A version that is closed after the committed head keeps its match. -/
theorem committedIntervalMatches_settle {interval : Interval} {receipt : ObservationReceipt}
    {pending : List ResourceVersion} {n : Nat}
    (h : committedIntervalMatches head interval receipt version = true) (hn : head < n) :
    committedIntervalMatches head interval receipt (WorldLedger.settle pending n version) =
      true := by
  unfold WorldLedger.settle
  split_ifs with hclosed
  · simp only [WorldLedger.closedBy, Bool.and_eq_true, Option.isNone_iff_eq_none] at hclosed
    simp only [committedIntervalMatches, hclosed.1, Bool.and_eq_true, Bool.or_eq_true,
      decide_eq_true_eq, Option.any_none, Bool.and_false, or_false, Bool.false_eq_true] at h
    obtain ⟨⟨⟨⟨⟨hsource, hrevision⟩, hfrom⟩, hopen⟩, hstart⟩, -⟩ := h
    simp [committedIntervalMatches, hsource, hrevision, hfrom, hopen, hfrom ▸ hstart, hn]
  · exact h

omit [Sha256] in
theorem requireFrozenRoleRegistrations_carry {n n' : Nat}
    (hsame : SameEvidence database database') (hsession : SameSession session session')
    (h : requireFrozenRoleRegistrations database session n = .ok registrations) :
    requireFrozenRoleRegistrations database' session' n' = .ok registrations := by
  simp only [requireFrozenRoleRegistrations, bind_eq_ok, require_eq_ok, orStop_eq_ok,
    PerRole.mapRoles_eq_ok, pure_eq_ok] at h ⊢
  simp only [expectedAgentForRole, hsame.registrations, hsession.frozen] at h ⊢
  exact h

omit [Sha256] in
theorem requirePlanDecision_carry {plan : RefreshPlan} {n n' : Nat}
    {decision : DependencyCertificate} (hsame : SameEvidence database database')
    (hsession : SameSession session session')
    (h : requirePlanDecision database session plan activeDecisionIds expectedActionHash n role =
      .ok decision) :
    requirePlanDecision database' session' plan activeDecisionIds expectedActionHash n' role =
      .ok decision := by
  simp only [requirePlanDecision, bind_eq_ok, require_eq_ok, requireSingle_eq_ok,
    pure_eq_ok] at h ⊢
  simp only [expectedAgentForRole, hsame.decisions, hsession.frozen, hsession.id] at h ⊢
  exact h

theorem validateCompletedRefreshPlanClosure_carry {validation : ValidationRecord} {n n' : Nat}
    (hsame : SameEvidence database database') (hsession : SameSession session session')
    (h : validateCompletedRefreshPlanClosure database session validation expectedActionHash n =
      .ok ()) :
    validateCompletedRefreshPlanClosure database' session' validation expectedActionHash n' =
      .ok () := by
  unfold validateCompletedRefreshPlanClosure at h ⊢
  rw [hsession.plan]
  split at h
  · simpa using h
  · simp only [orderedActiveDecisionIds, bind_eq_ok, require_eq_ok, orStop_eq_ok,
      requireSingle_eq_ok, PerRole.mapRoles_eq_ok] at h ⊢
    simp only [hsame.plans, hsame.decisions, hsame.attempts, hsession.frozen, hsession.id,
      hsession.decisions]
    obtain ⟨_, hpointer, plan, hplan, ids, hids, claimed, hclaimed, _, hbound, prior, hprior,
      hrest⟩ := h
    obtain ⟨hstatus, hof, hbase, hlater, hshape⟩ := hbound
    exact ⟨(), hpointer, plan, hplan, ids, hids, claimed, hclaimed, (),
      ⟨hstatus, hof, hbase, Nat.lt_of_lt_of_le hlater hsession.revision, hshape⟩, prior,
      fun role => requirePlanDecision_carry hsame hsession (hprior role), hrest⟩

end Carry

/-! ## From the release on -/

section Release

variable {database : EpochDatabase} {session : EpochSession}
  {activeDecisionIds : PerRole OpaqueId} {registrations : PerRole RoleAgentRegistration}
  {release : Release}

/-- The session of a release, afterwards. -/
def committedSession (session : EpochSession) (timestamp : Timestamp) : EpochSession :=
  { session with
    state := .COMMITTED
    sessionRevision := session.sessionRevision + 1
    stateUpdatedAt := timestamp }

/-- The records of a release, with its permit consumed. -/
def Release.consumed (release : Release) (timestamp : Timestamp) : Release :=
  { release with
    permit := { release.permit with status := .CONSUMED, consumedAt := some timestamp } }

theorem Backed.settled (effectId : OpaqueId) (timestamp : Timestamp)
    (hbound : SessionBound database session.sessionId session)
    (hnone : database.effects.filter (fun e => e.sessionId = session.sessionId) = [])
    (hready : Ready database session release.permit)
    (hcurrent : database.headSeq = release.permit.validatedHead)
    (h : Backed database session identityPort (actionHash session.action.toActionCanonicalFields)
      activeDecisionIds registrations release) :
    Settled (recordEffect database (effectRecordFor session release effectId timestamp))
      (committedSession session timestamp) (effectRecordFor session release effectId timestamp)
      activeDecisionIds registrations (release.consumed timestamp) := by
  have hsame : SameEvidence database
      (recordEffect database (effectRecordFor session release effectId timestamp)) :=
    ⟨rfl, rfl, rfl, rfl, rfl, rfl, rfl⟩
  have hsession : SameSession session (committedSession session timestamp) :=
    ⟨rfl, rfl, rfl, rfl, rfl, Nat.le_succ _⟩
  obtain ⟨hactiveValidation, hvsession, hvaction, houtcome, hvhead, hvcertificate, hvproof,
    hvdecisions, hcsession, hcaction, hchead, hccut, hccovered, hcdecisions, hphead, hpset,
    hvset⟩ := h.bound
  constructor
  case bound =>
    refine ⟨?_, hbound.actionParses, hbound.bound⟩
    show (modifyWhere (fun s => s.sessionId = session.sessionId) _ database.sessions).filter
      (fun s => s.sessionId = session.sessionId) = _
    rw [filter_modifyWhere (by simp), hbound.only]
    rfl
  case only =>
    show (database.effects ++ [_]).filter
      (fun e : EffectRecord => e.sessionId = session.sessionId) = _
    rw [List.filter_append, hnone]
    simp [effectRecordFor]
  case named => exact ⟨rfl, rfl⟩
  case closed => exact ⟨rfl, hready.activePermit, hready.quiescent⟩
  case permit =>
    rw [single?_eq_some]
    show (modifyWhere (fun p => p.permitId = release.permit.permitId) _ database.permits).filter
      (fun p => p.permitId = release.permit.permitId) = _
    rw [filter_modifyWhere (by simp), single?_eq_some.mp hready.unique]
    rfl
  case permitBound =>
    have hid : release.certificate.certificateId = release.permit.jointValidityCertificateId := by
      simpa using (single?_mem h.certificate).2
    exact ⟨rfl, rfl, hready.permitBound.1, hready.permitBound.2.1, hready.permitBound.2.2,
      h.dependencySet.2.2.symm, hid.symm, hcurrent.symm.le⟩
  case certificate =>
    have hid : release.certificate.certificateId = release.permit.jointValidityCertificateId := by
      simpa using (single?_mem h.certificate).2
    show single? database.jointValidityCertificates
      (fun c => c.certificateId = release.certificate.certificateId) = _
    rw [hid]
    exact h.certificate
  case certificateBound =>
    exact ⟨hcsession, hcaction, h.dependencySet.2.1.symm, hphead.symm, hccut.trans hcurrent,
      hccovered⟩
  case validation => exact h.validation
  case active => exact h.active
  case validationBound =>
    exact ⟨hactiveValidation, hvsession, hvaction, h.dependencySet.1.symm, hvhead.trans hcurrent,
      houtcome, hvcertificate, hvproof, hvdecisions, hcdecisions⟩
  case registered => exact requireFrozenRoleRegistrations_carry hsame hsession h.registered
  case evidence =>
    intro role
    -- an interval that was active at the release is one that a retry accepts
    have hrole := h.evidence role
    have hhead := hrole.versionValid.2.2.2.2
    have hcarried := hrole.carry hsame hsession hrole.version ⟨rfl, rfl, rfl⟩
      ⟨hrole.versionValid.2.2.2.1, hhead⟩
      (committedIntervalMatches_of_active hrole.intervalMatches hhead)
    rw [hcurrent] at hcarried
    exact hcarried
  case distinct => exact h.distinct
  case dependencySet => rfl
  case bounds =>
    have hbounds : release.evidence.map (fun e => boundsOf e.interval) =
        release.evidence.map fun e => e.version.interval := by
      refine PerRole.ext_get fun role => ?_
      have hmatches := (h.evidence role).intervalMatches
      simp only [activeIntervalMatches, Bool.and_eq_true, decide_eq_true_eq] at hmatches
      simp only [PerRole.get_map, boundsOf, ResourceVersion.interval, hmatches.1.2, hmatches.2]
    show boundsMatch release.validation (intervalBounds (release.evidence.map _)
      release.permit.validatedHead) release.permit.validatedHead
    rw [hbounds, ← hcurrent]
    exact h.bounds
  case planClosed => exact validateCompletedRefreshPlanClosure_carry hsame hsession h.planClosed

/-- A commit of the World, and the revision that the store gives the result,
leave a released effect settled. -/
theorem Settled.worldStep {effect : EffectRecord} {world' : World} (revision : Nat)
    (h : Settled database session effect activeDecisionIds registrations release)
    (hworld : world' = database.toWorld ∨ ∃ input pending,
      WorldLedger.CommitStep database.toWorld input pending world') :
    ∃ release', Settled
      { database with toWorld := world', snapshotRevision := revision : EpochDatabase } session
      effect activeDecisionIds registrations release' := by
  have hsame : SameEvidence database
      { database with toWorld := world', snapshotRevision := revision } :=
    ⟨rfl, rfl, rfl, rfl, rfl, rfl, rfl⟩
  have hsession : SameSession session session := ⟨rfl, rfl, rfl, rfl, rfl, le_rfl⟩
  have hhead : database.headSeq ≤ world'.headSeq := by
    rcases hworld with rfl | ⟨input, pending, hstep⟩
    · exact le_rfl
    · exact hstep.headSeq ▸ Nat.le_succ _
  have hpermitHead := h.permitBound.2.2.2.2.2.2.2
  -- each version is found again, closed or not
  have hrole : ∀ role, ∃ version, Supports
      { database with toWorld := world', snapshotRevision := revision } session identityPort
      release.certificate (actionHash session.action.toActionCanonicalFields)
      release.permit.validatedHead (committedIntervalMatches release.permit.validatedHead)
      registrations activeDecisionIds role
      { release.evidence.get role with version := version } := by
    intro role
    have hsupports := h.evidence role
    obtain ⟨-, -, -, hobserved, hcovers⟩ := hsupports.versionValid
    rcases hworld with rfl | ⟨input, pending, hstep⟩
    · exact ⟨_, hsupports.carry hsame hsession hsupports.version ⟨rfl, rfl, rfl⟩
        ⟨hobserved, hcovers⟩ hsupports.intervalMatches⟩
    · have hnamed := resolveResourceVersionByIdentity_eq_some.mp hsupports.version
      have hfrom : (release.evidence.get role).version.validFromSeq ≤ database.headSeq :=
        hcovers.1.trans hpermitHead
      have hlater : release.permit.validatedHead < world'.headSeq := by
        rw [hstep.headSeq]
        exact Nat.lt_succ_of_le hpermitHead
      have hobservedLater : (release.evidence.get role).receipt.observedAtSeq < world'.headSeq :=
        Nat.lt_of_le_of_lt hsupports.observed hlater
      refine ⟨_, hsupports.carry hsame hsession
        (resolveResourceVersionByIdentity_eq_some.mpr (hnamed.commit hstep hfrom)) ?_
        ⟨mem_interval_settle hobserved hobservedLater, mem_interval_settle hcovers hlater⟩
        (committedIntervalMatches_settle hsupports.intervalMatches hlater)⟩
      rw [WorldLedger.settle_eq]
      exact ⟨rfl, rfl, rfl⟩
  choose version hversion using hrole
  let evidence := PerRole.ofFn fun role =>
    { release.evidence.get role with version := version role }
  have hreceipts : receiptIds evidence = receiptIds release.evidence :=
    PerRole.ext_get fun role => by simp [receiptIds, evidence]
  have hattempts : attemptIds evidence = attemptIds release.evidence :=
    PerRole.ext_get fun role => by simp [attemptIds, evidence]
  have hruns : runIds evidence = runIds release.evidence :=
    PerRole.ext_get fun role => by simp [runIds, evidence]
  have hintervals : evidence.map (fun e => boundsOf e.interval) =
      release.evidence.map fun e => boundsOf e.interval :=
    PerRole.ext_get fun role => by simp [evidence]
  refine ⟨{ release with evidence }, ?_⟩
  constructor
  case bound => exact ⟨h.bound.only, h.bound.actionParses, h.bound.bound⟩
  case only => exact h.only
  case named => exact h.named
  case closed => exact h.closed
  case permit => exact h.permit
  case permitBound =>
    obtain ⟨hstatus, hat, hof, haction, hkey, hset, hcertificate, -⟩ := h.permitBound
    exact ⟨hstatus, hat, hof, haction, hkey, hset, hcertificate, hpermitHead.trans hhead⟩
  case certificate => exact h.certificate
  case certificateBound => exact h.certificateBound
  case validation => exact h.validation
  case active => exact h.active
  case validationBound => exact h.validationBound
  case registered => exact requireFrozenRoleRegistrations_carry hsame hsession h.registered
  case evidence =>
    intro role
    have hget : evidence.get role =
        { release.evidence.get role with version := version role } := PerRole.get_ofFn _ _
    rw [hget]
    exact hversion role
  case distinct =>
    rw [hreceipts, hattempts, hruns]
    exact h.distinct
  case dependencySet =>
    rw [hreceipts]
    exact h.dependencySet
  case bounds =>
    rw [hintervals]
    exact h.bounds
  case planClosed => exact validateCompletedRefreshPlanClosure_carry hsame hsession h.planClosed

end Release

end EffectGate

/-! ## Requests and World commits, one after another -/

section Interleavings

open EffectGate Service

variable [Sha256]

omit [Sha256] in
/-- The revision that the store gives a result is not part of what it validates. -/
theorem parses_stamp [Sha256] {database : EpochDatabase} (h : database.parses) :
    (EpochStore.stamp database database).parses := h

/-- What a request is answered: the result of its mutation once that is
published, or the rejection that it stopped with, and nothing where it throws. -/
def answer (database : EpochDatabase) (sessionId : OpaqueId) (expectedSessionRevision : Nat)
    (effectId : OpaqueId) (timestamp : Timestamp) : Option CommitProtectedEffectResult :=
  match commitProtectedEffect database identityPort sessionId expectedSessionRevision effectId
    timestamp with
  | .ok (left, result) => if (EpochStore.stamp left database).parses then some result else none
  | .error (.abort rejection) => some (.rejected rejection)
  | .error (.thrown _) => none

/-- A request for one session, or a commit of the World. -/
inductive GateStep where
  | commit (expectedSessionRevision : Nat) (effectId : OpaqueId) (timestamp : Timestamp)
  | world (input : WorldLedger.WorldCommitInput)

def GateStep.call (sessionId : OpaqueId) : GateStep → Call
  | .commit expectedSessionRevision effectId timestamp =>
      .commit sessionId expectedSessionRevision effectId timestamp
  | .world input => .worldCommit input

variable [DecisionParser.OutputPorts] {database : EpochDatabase} {sessionId : OpaqueId}

theorem Service.Reachable.parses (h : Reachable database) : database.parses := by
  refine h.induction (P := EpochDatabase.parses) ?_ fun _ _ _ _ _ hparses => hparses
  simp [EpochDatabase.parses, emptyEpochDatabase, emptyWorld]

/-- The store after a step; one that publishes nothing leaves it as it was. -/
def afterStep (sessionId : OpaqueId) (database : EpochDatabase) (step : GateStep) :
    EpochDatabase :=
  (publish database (step.call sessionId)).getD database

def afterSteps (sessionId : OpaqueId) (database : EpochDatabase) (steps : List GateStep) :
    EpochDatabase :=
  steps.foldl (afterStep sessionId) database

theorem Service.Reachable.afterSteps (h : Reachable database) (steps : List GateStep) :
    Reachable (afterSteps sessionId database steps) := by
  induction steps generalizing database with
  | nil => exact h
  | cons step rest ih =>
    apply ih
    unfold afterStep
    cases hpublish : Service.publish database (step.call sessionId) with
    | none => exact h
    | some next => exact h.publish hpublish

/-- The session is released, with the effect that its requests are told of. -/
def Released (database : EpochDatabase) (sessionId : OpaqueId) (effect : EffectRecord) : Prop :=
  database.parses ∧ ∃ session activeDecisionIds registrations release,
    session.sessionId = sessionId ∧
      EffectGate.Settled database session effect activeDecisionIds registrations release

section Released

variable {effect : EffectRecord} (h : Released database sessionId effect)
include h

omit [DecisionParser.OutputPorts] in
theorem Released.answer (expectedSessionRevision : Nat) (effectId : OpaqueId)
    (timestamp : Timestamp) :
    answer database sessionId expectedSessionRevision effectId timestamp =
      some (.committed false effect) := by
  obtain ⟨hparses, session, _, _, _, rfl, hsettled⟩ := h
  rw [answer, hsettled.commit]
  simp [parses_stamp hparses]

theorem Released.publish_commit (expectedSessionRevision : Nat) (effectId : OpaqueId)
    (timestamp : Timestamp) :
    publish database (.commit sessionId expectedSessionRevision effectId timestamp) =
      some { database with snapshotRevision := database.snapshotRevision + 1 } := by
  obtain ⟨hparses, session, _, _, _, rfl, hsettled⟩ := h
  refine publish_eq_some.mpr ⟨database, ?_, parses_stamp hparses, rfl⟩
  rw [Call.leaves, hsettled.commit]
  rfl

theorem Released.afterStep (step : GateStep) :
    Released (afterStep sessionId database step) sessionId effect := by
  cases step with
  | commit expectedSessionRevision effectId timestamp =>
    have hstep := h.publish_commit expectedSessionRevision effectId timestamp
    obtain ⟨hparses, session, _, _, _, hid, hsettled⟩ := h
    obtain ⟨_, hlater⟩ := hsettled.worldStep (database.snapshotRevision + 1) (.inl rfl)
    rw [EpochGuard.afterStep, GateStep.call, hstep]
    exact ⟨hparses, session, _, _, _, hid, hlater⟩
  | world input =>
    unfold EpochGuard.afterStep
    cases hpublish : publish database ((GateStep.world input).call sessionId) with
    | none => exact h
    | some next =>
      obtain ⟨left, hleft, hparses, rfl⟩ := publish_eq_some.mp hpublish
      obtain ⟨-, session, _, _, _, hid, hsettled⟩ := h
      simp only [GateStep.call, Call.leaves, toOption_eq_some, except_map_eq_ok, Prod.exists]
        at hleft
      obtain ⟨world', record, hcommit, rfl⟩ := hleft
      obtain ⟨pending, hstep⟩ := WorldLedger.commit_cases hcommit
      obtain ⟨_, hlater⟩ := hsettled.worldStep (database.snapshotRevision + 1)
        (.inr ⟨input, pending, hstep⟩)
      exact ⟨hparses, session, _, _, _, hid, hlater⟩

theorem Released.afterSteps (steps : List GateStep) :
    Released (afterSteps sessionId database steps) sessionId effect := by
  induction steps generalizing database with
  | nil => exact h
  | cons step rest ih => exact ih (h.afterStep step)

end Released

/-- The first answer that an effect was created leaves its session released. -/
theorem released_of_answer {expectedSessionRevision : Nat} {effectId : OpaqueId}
    {timestamp : Timestamp} {effect : EffectRecord}
    (h : answer database sessionId expectedSessionRevision effectId timestamp =
      some (.committed true effect)) :
    Released (afterStep sessionId database (.commit expectedSessionRevision effectId timestamp))
      sessionId effect := by
  unfold answer at h
  split at h
  case h_1 left result hcommit =>
    split_ifs at h with hparses
    obtain rfl := Option.some.inj h
    have hpublish :
        publish database (.commit sessionId expectedSessionRevision effectId timestamp) =
          some (EpochStore.stamp left database) := by
      refine publish_eq_some.mpr ⟨left, ?_, hparses, rfl⟩
      rw [Call.leaves, hcommit]
      rfl
    rw [afterStep, GateStep.call, hpublish]
    cases commit_cases hcommit with
    | @created session release activeDecisionIds registrations hbound hnone hrevision hready
        hcurrent hbacked hfresh =>
      have hid : session.sessionId = sessionId := by
        have hmem : session ∈ database.sessions.filter fun s => s.sessionId = sessionId := by
          simp [hbound.only]
        simpa using (List.mem_filter.mp hmem).2
      obtain rfl := hid
      have hsettled := hbacked.settled effectId timestamp hbound hnone hready hcurrent
      obtain ⟨_, hlater⟩ := hsettled.worldStep (database.snapshotRevision + 1)
        (.inl rfl)
      exact ⟨hparses, committedSession session timestamp, _, _, _, rfl, hlater⟩
  case h_2 => cases h
  case h_3 => cases h

/-- A session is released at most once, in every interleaving of requests with
other commits to the World. Each consumed permit is consumed by the one effect
that names it, and every request after the release is answered with that effect
and changes nothing but the revision, whatever the World has become in the
meantime. -/
theorem commit_exactlyOnce (hreachable : Reachable database) (sessionId : OpaqueId)
    (steps : List GateStep) :
    let now := afterSteps sessionId database steps
    ((now.effects.filter fun e => e.sessionId = sessionId).length ≤ 1) ∧
      (∀ permit ∈ now.permits, permit.status = .CONSUMED ↔
        (now.effects.filter fun e => e.permitId = permit.permitId).length = 1) ∧
      ∀ expectedSessionRevision effectId timestamp effect,
        answer now sessionId expectedSessionRevision effectId timestamp =
          some (.committed true effect) →
        ∀ later revision' effectId' timestamp',
          let after := afterSteps sessionId
            (afterStep sessionId now (.commit expectedSessionRevision effectId timestamp)) later
          answer after sessionId revision' effectId' timestamp' =
              some (.committed false effect) ∧
            afterStep sessionId after (.commit revision' effectId' timestamp') =
              { after with snapshotRevision := after.snapshotRevision + 1 } := by
  intro now
  have hafter : Reachable (afterSteps sessionId database steps) := hreachable.afterSteps steps
  have hinv := Evidence.inv_reachable hafter
  refine ⟨?_, ?_, ?_⟩
  · exact length_filter_le_one hinv.releasedOnce
  · intro permit hpermit
    rw [hinv.consumedPermits permit hpermit]
    exact exists_iff_length_filter hinv.effects
  · intro expectedSessionRevision effectId timestamp effect hcreated later revision' effectId'
      timestamp' after
    have hreleased : Released after sessionId effect :=
      (released_of_answer hcreated).afterSteps later
    refine ⟨hreleased.answer _ _ _, ?_⟩
    rw [afterStep, GateStep.call, hreleased.publish_commit]
    rfl

end Interleavings

/-! ### A release, with requests before and after it -/

section Sample

open EffectGate Service.Sample Runs

variable {database next : EpochDatabase}

/-- Calls that are published, one after another. -/
theorem afterSteps_of_run {steps : List GateStep}
    (h : run Service.publish database (steps.map (GateStep.call Service.Sample.sessionId)) =
      some next) : afterSteps Service.Sample.sessionId database steps = next := by
  induction steps generalizing database with
  | nil => exact run_nil.mp h
  | cons step rest ih =>
    obtain ⟨middle, hmiddle, hrest⟩ := run_cons.mp h
    have hstep : afterStep Service.Sample.sessionId database step = middle := by
      rw [afterStep, hmiddle, Option.getD_some]
    rw [afterSteps, List.foldl_cons, hstep]
    exact ih hrest

abbrev staleStep : GateStep := .commit 3 Service.Sample.effectId later

abbrev releaseStep : GateStep := .commit 4 Service.Sample.effectId later

def restockSteps : List GateStep := [.world restock, .world restock]

/-- A request at an old revision of the session changes nothing. -/
theorem staleStep_kept (h : releasable database = true) :
    afterSteps Service.Sample.sessionId database [staleStep] = database := by
  simp only [releasable, Bool.and_eq_true] at h
  have hnone : Service.publish database (staleStep.call Service.Sample.sessionId) = none := by
    cases hpublish : Service.publish database (staleStep.call Service.Sample.sessionId) with
    | none => rfl
    | some next =>
      obtain ⟨left, hleft, -, -⟩ := Service.publish_eq_some.mp hpublish
      simp only [GateStep.call, Service.Call.leaves, toOption_eq_some,
        except_map_eq_ok] at hleft
      obtain ⟨out, hout, -⟩ := hleft
      rw [hout] at h
      exact absurd h.1.1 (by simp [Except.toOption])
  rw [afterSteps, List.foldl_cons, List.foldl_nil, afterStep, hnone, Option.getD_none]

theorem releaseStep_answer (h : releasable database = true) : ∃ effect,
    answer database Service.Sample.sessionId 4 Service.Sample.effectId later =
      some (.committed true effect) := by
  simp only [releasable, Bool.and_eq_true] at h
  obtain ⟨⟨left, result⟩, hout, hcreated⟩ := (Option.any_eq_true _ _).mp h.1.2
  cases result with
  | rejected rejection => exact absurd hcreated (by simp)
  | committed created effect =>
    cases created with
    | false => exact absurd hcreated (by simp)
    | true =>
      refine ⟨effect, ?_⟩
      rw [answer, toOption_eq_some.mp hout]
      exact if_pos (of_decide_eq_true hcreated)

/-- The head after the release and the two commits of the World. -/
theorem restockSteps_head (h : releasable database = true) :
    (afterSteps Service.Sample.sessionId
      (afterStep Service.Sample.sessionId database releaseStep) restockSteps).headSeq =
        database.headSeq + 2 := by
  simp only [releasable, Bool.and_eq_true] at h
  obtain ⟨after, hafter, hhead⟩ := (Option.any_eq_true _ _).mp h.2
  rw [Bool.and_eq_true] at hhead
  have hsteps := @afterSteps_of_run _ _ (releaseStep :: restockSteps) hafter
  rw [afterSteps, List.foldl_cons, ← afterSteps] at hsteps
  rw [hsteps]
  exact of_decide_eq_true hhead.1

theorem commit_exactlyOnce_sample : ∃ effect,
    let now := afterSteps Service.Sample.sessionId Service.Sample.database [staleStep]
    let after := afterSteps Service.Sample.sessionId
      (afterStep Service.Sample.sessionId now releaseStep) restockSteps
    (now.effects.filter fun e => e.sessionId = Service.Sample.sessionId).length ≤ 1 ∧
      answer now Service.Sample.sessionId 4 Service.Sample.effectId later =
        some (.committed true effect) ∧
      after.headSeq = now.headSeq + 2 ∧
      answer after Service.Sample.sessionId 4 Service.Sample.effectId later =
        some (.committed false effect) ∧
      afterStep Service.Sample.sessionId after releaseStep =
        { after with snapshotRevision := after.snapshotRevision + 1 } := by
  -- the store is not looked into, only what is known of it
  obtain ⟨database, hdatabase⟩ : ∃ database, database = Service.Sample.database := ⟨_, rfl⟩
  have hreachable : Service.Reachable database := hdatabase ▸ Service.Sample.reachable
  have hreleasable : releasable database = true := hdatabase ▸ database_releasable
  rw [← hdatabase]
  obtain ⟨effect, hanswer⟩ := releaseStep_answer hreleasable
  obtain ⟨hsingle, -, hrelease⟩ :=
    commit_exactlyOnce hreachable Service.Sample.sessionId [staleStep]
  have hstale := staleStep_kept hreleasable
  rw [← hstale] at hanswer
  obtain ⟨htold, hleft⟩ := hrelease 4 Service.Sample.effectId later effect hanswer restockSteps 4
    Service.Sample.effectId later
  refine ⟨effect, hsingle, hanswer, ?_, htold, hleft⟩
  rw [hstale]
  exact restockSteps_head hreleasable

end Sample

end EpochGuard
