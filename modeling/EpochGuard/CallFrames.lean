import EpochGuard.ServiceRuns

/-!
# What the calls leave alone

Most mutations write two or three tables of the store. Each is said here once to
write no others, so that an invariant about other tables need not look at it.
-/

namespace EpochGuard

open Json Checked

namespace Service

open DecisionParser RunObserver

variable {database left : EpochDatabase}

/-- Only assignments and attempts are written. -/
def WritesRuns (database left : EpochDatabase) : Prop :=
  ∃ runAssignments attempts, left = { database with runAssignments, attempts }

/-- Only audit records are written. -/
def WritesAudit (database left : EpochDatabase) : Prop :=
  ∃ auditEvents diagnostics, left = { database with auditEvents, diagnostics }

/-! ## The run observer -/

theorem writesRuns_store {assignment : RunAssignment} {attempt : AgentAttempt}
    {out : EpochDatabase × AgentAttempt} (h : store database assignment attempt = .ok out) :
    WritesRuns database out.1 := by
  obtain ⟨-, rfl⟩ := store_eq_ok.mp h
  exact ⟨_, _, rfl⟩

section Calls

variable [Sha256] [OutputPorts]

/-- A mutation of the run observer writes one assignment and one attempt. -/
theorem writesRuns_observer {call : Call} {input : DispatchBindPollInput}
    (hinput : Continuation.observedInput call = some input)
    (h : call.leaves database = some left) : WritesRuns database left := by
  cases call with
  | transitionToDispatching input =>
    simp only [Call.leaves, toOption_eq_some, except_map_eq_ok, Prod.exists,
      RunObserver.transitionToDispatching, bind_eq_ok] at h
    obtain ⟨_, _, ⟨_, _, -, -, -, -, -, -, -, hstore⟩, rfl⟩ := h
    exact writesRuns_store hstore
  | bindRunOnce input run boundAt =>
    simp only [Call.leaves, toOption_eq_some, except_map_eq_ok, Prod.exists,
      RunObserver.bindRunOnce, bind_eq_ok] at h
    obtain ⟨_, _, ⟨_, _, -, -, -, -, -, _, -, hstore⟩, rfl⟩ := h
    exact writesRuns_store hstore
  | mirrorRun input agentId run =>
    simp only [Call.leaves, toOption_eq_some, except_map_eq_ok, Prod.exists,
      RunObserver.mirrorRun, bind_eq_ok] at h
    obtain ⟨_, _, ⟨_, -, -, -, _, -, _, _, -, -, -, -, -, -, -, -, -, -, -, -, -, _, -, hstore⟩,
      rfl⟩ := h
    exact writesRuns_store hstore
  | failAttempt input status run =>
    simp only [Call.leaves, Option.ite_none_right_eq_some, toOption_eq_some, except_map_eq_ok,
      Prod.exists, RunObserver.failAttempt, bind_eq_ok] at h
    obtain ⟨-, _, _, ⟨_, _, -, -, -, -, -, hstore⟩, rfl⟩ := h
    exact writesRuns_store hstore
  | rejectCompletedOutput input =>
    simp only [Call.leaves, toOption_eq_some, except_map_eq_ok, Prod.exists,
      RunObserver.rejectCompletedOutput, bind_eq_ok] at h
    obtain ⟨_, _, ⟨_, _, -, -, -, hstore⟩, rfl⟩ := h
    exact writesRuns_store hstore
  | _ => cases hinput

omit [OutputPorts] in
/-- The join writes assignments alone, and rejects them. -/
theorem writesRuns_join {settled : List Settled} {scope : RoleRunJoinScope} :
    WritesRuns database (joinRoleRunObservations database settled scope).1 := by
  unfold joinRoleRunObservations
  split
  · exact ⟨database.runAssignments, database.attempts, rfl⟩
  · exact ⟨_, database.attempts, rfl⟩

/-! ## Observations -/

omit [OutputPorts] in
theorem issueAndPack_writes {action : ActionIntent} {assignment : RunAssignment}
    {querySpec : RoleQuerySpec} {nonce : String} {issuedAt : Timestamp}
    (h : issueAndPack database action assignment querySpec nonce issuedAt = .ok left) :
    ∃ runAssignments receipts, left = { database with runAssignments, receipts } := by
  obtain ⟨_, issued, built, hissue, -, rfl⟩ := issueAndPack_cases h
  obtain rfl := hissue.left
  exact ⟨_, _, rfl⟩

omit [OutputPorts] in
theorem captureRefreshObservation_writes {fixture : Fixtures.EpochGuardFixture}
    {assignmentId : OpaqueId} {nonce : String} {issuedAt : Timestamp}
    (h : Service.captureRefreshObservation database fixture assignmentId nonce issuedAt =
      .ok left) :
    ∃ runAssignments receipts, left = { database with runAssignments, receipts } := by
  simp only [Service.captureRefreshObservation, bind_eq_ok, mapError_eq_ok] at h
  obtain ⟨_, -, -, -, assignment, -, found, -, session, -, -, -, h⟩ := h
  exact issueAndPack_writes h

/-! ## Audit records -/

omit [Sha256] [OutputPorts] in
theorem appendDiagnostic_writes {session : EpochSession} {values : DiagnosticValues}
    {diagnosticId : OpaqueId}
    (h : appendDiagnostic database session values diagnosticId = .ok left) :
    WritesAudit database left := by
  obtain ⟨-, rfl⟩ := appendDiagnostic_cases h
  exact ⟨database.auditEvents, _, rfl⟩

omit [Sha256] [OutputPorts] in
theorem recordCommitRace_writes {sessionId : OpaqueId} {ports : RacePorts}
    (h : Service.recordCommitRace database sessionId ports = .ok left) :
    WritesAudit database left := by
  have hsame : WritesAudit database database := ⟨_, _, rfl⟩
  simp only [Service.recordCommitRace, bind_eq_ok] at h
  obtain ⟨found, -, h⟩ := h
  cases found with
  | none => exact pure_eq_ok.mp h ▸ hsame
  | some session =>
    dsimp only at h
    split at h
    · exact pure_eq_ok.mp h ▸ hsame
    · split at h
      · split_ifs at h
        · exact pure_eq_ok.mp h ▸ hsame
        · exact appendDiagnostic_writes h
        · obtain rfl := pure_eq_ok.mp h
          exact ⟨_, database.diagnostics, rfl⟩
        · obtain ⟨_, _, rfl⟩ := appendDiagnostic_writes h
          exact ⟨_, _, rfl⟩
      · exact pure_eq_ok.mp h ▸ hsame

/-! ## Failure of a claimed refresh -/

/-- The closure of a claimed refresh writes runs, and no plan but as
invalidated; it closes pointers of the session it is given. -/
structure RefreshClosed (database : EpochDatabase) (session : EpochSession)
    (closure : RefreshFailureClosure) : Prop where
  writes : ∃ runAssignments attempts refreshPlans,
    closure.database = { database with runAssignments, attempts, refreshPlans }
  plans : ∀ p ∈ closure.database.refreshPlans, p ∈ database.refreshPlans ∨
    p.status = .INVALIDATED ∧ ∃ q ∈ database.refreshPlans, p = invalidated q
  session : ∃ activeValidationId activeRefreshPlanId activeAttemptIds,
    closure.session =
      { session with activeValidationId, activeRefreshPlanId, activeAttemptIds }

omit [Sha256] [OutputPorts] in
theorem closeBoundRefresh_closed {session : EpochSession} {plan : RefreshPlan}
    {attempt : AgentAttempt} {assignment : RunAssignment} {terminalStatus : AttemptState}
    {preserved : Option Role} {closure : RefreshFailureClosure}
    (hplan : plan ∈ database.refreshPlans)
    (h : closeBoundRefresh database session plan attempt assignment terminalStatus preserved =
      .ok closure) : RefreshClosed database session closure := by
  unfold closeBoundRefresh at h
  dsimp only at h
  split at h
  · simp only [bind_eq_ok, pure_eq_ok] at h
    obtain ⟨-, -, rfl⟩ := h
    exact ⟨⟨_, database.attempts, database.refreshPlans, rfl⟩, fun p hp => .inl hp, ⟨_, _, _, rfl⟩⟩
  · split at h
    · simp only [bind_eq_ok, pure_eq_ok] at h
      obtain ⟨-, -, rfl⟩ := h
      exact ⟨⟨_, _, database.refreshPlans, rfl⟩, fun p hp => .inl hp, ⟨_, _, _, rfl⟩⟩
    · obtain rfl := pure_eq_ok.mp h
      refine ⟨⟨_, database.attempts, _, rfl⟩, fun p hp => ?_, ⟨_, _, _, rfl⟩⟩
      rcases mem_modifyWhere.mp hp with ⟨-, -, -, rfl⟩ | ⟨hp, -⟩
      · exact .inr ⟨rfl, plan, hplan, rfl⟩
      · exact .inl hp

omit [Sha256] [OutputPorts] in
/-- A failing session closes the plan that it had claimed, if there was one,
with the attempt and the assignment of the refresh. -/
theorem closeClaimedRefreshFailure_closed {session : EpochSession}
    {terminalStatus : AttemptState} {preserved : Option Role} {closure : RefreshFailureClosure}
    (h : closeClaimedRefreshFailure database session terminalStatus preserved = .ok closure) :
    RefreshClosed database session closure := by
  unfold closeClaimedRefreshFailure at h
  dsimp only at h
  split at h
  · obtain rfl := pure_eq_ok.mp h
    exact ⟨⟨_, _, _, rfl⟩, fun p hp => .inl hp, ⟨_, _, _, rfl⟩⟩
  · rename_i plan hfound
    obtain ⟨planId, -, hplan⟩ := Option.bind_eq_some_iff.mp hfound
    have hmem := (single?_mem hplan).1
    have hunbound : RefreshClosed database session
        { database := database.setRefreshPlan (invalidated plan)
          session := noAttempts { session with
            activeValidationId := none, activeRefreshPlanId := none }
          handled := true
          attempt := plan.claimedAttemptId.bind fun attemptId =>
            single? database.attempts fun a => a.attemptId = attemptId } := by
      refine ⟨⟨database.runAssignments, database.attempts, _, rfl⟩, fun p hp => ?_, ⟨_, _, _, rfl⟩⟩
      rcases mem_modifyWhere.mp hp with ⟨-, -, -, rfl⟩ | ⟨hp, -⟩
      · exact .inr ⟨rfl, plan, hmem, rfl⟩
      · exact .inl hp
    split at h
    · obtain rfl := pure_eq_ok.mp h
      exact ⟨⟨_, _, _, rfl⟩, fun p hp => .inl hp, ⟨_, _, _, rfl⟩⟩
    · split at h
      · split at h
        · exact closeBoundRefresh_closed hmem h
        · exact pure_eq_ok.mp h ▸ hunbound
      · exact pure_eq_ok.mp h ▸ hunbound

/-! ## Outputs -/

/-- A session keeps its identity and its progress; one with an active attempt
may get its decision. -/
structure Pointed (before after : EpochSession) : Prop where
  progress : after.sessionId = before.sessionId ∧ after.state = before.state ∧
    after.sessionRevision = before.sessionRevision ∧ after.action = before.action ∧
    after.actionHash = before.actionHash ∧
    after.frozenAssignments = before.frozenAssignments ∧
    after.activeValidationId = before.activeValidationId ∧
    after.activeRefreshPlanId = before.activeRefreshPlanId ∧
    after.activePermitId = before.activePermitId
  observing : after = before ∨ before.activeAttemptIds ≠ PerRole.const none

omit [Sha256] [OutputPorts] in
theorem Pointed.refl (session : EpochSession) : Pointed session session :=
  ⟨⟨rfl, rfl, rfl, rfl, rfl, rfl, rfl, rfl, rfl⟩, .inl rfl⟩

omit [Sha256] [OutputPorts] in
theorem Pointed.trans (a b c : EpochSession) (h : Pointed a b) (h' : Pointed b c) :
    Pointed a c := by
  obtain ⟨⟨h1, h2, h3, h4, h5, h6, h7, h8, h9⟩, hobserving⟩ := h
  obtain ⟨⟨h1', h2', h3', h4', h5', h6', h7', h8', h9'⟩, hobserving'⟩ := h'
  refine ⟨⟨h1'.trans h1, h2'.trans h2, h3'.trans h3, h4'.trans h4, h5'.trans h5, h6'.trans h6,
    h7'.trans h7, h8'.trans h8, h9'.trans h9⟩, ?_⟩
  rcases hobserving with rfl | hobserving
  · exact hobserving'
  · exact .inr hobserving

/-- What the normalization of outputs writes. -/
structure OutputsWritten (database left : EpochDatabase) : Prop where
  writes : ∃ runAssignments attempts decisions sessions rejectedOutputArtifacts,
    left = { database with
      runAssignments, attempts, decisions, sessions, rejectedOutputArtifacts }
  sessions : Rewrites Pointed database.sessions left.sessions

omit [OutputPorts] in
/-- Of the session a consumed output changes only which decision is the active
one of its role. -/
theorem consume_written {records : ConsumableRecords} {attemptId : OpaqueId}
    {rawOutput : JsString} {existing : Option DependencyCertificate}
    {certificate : DependencyCertificate}
    (hconsumable : Consumable database attemptId rawOutput records) :
    OutputsWritten database (consume database records existing certificate) := by
  have hsessions : (consume database records existing certificate).sessions =
      (database.setSession { records.session with
        activeDecisionCertificateIds := records.session.activeDecisionCertificateIds.set
          records.assignment.role (some certificate.certificateId)
        activeAttemptIds :=
          records.session.activeAttemptIds.set records.assignment.role none }).sessions := by
    cases existing <;> rfl
  constructor
  · cases existing with
    | none => exact ⟨_, _, _, _, database.rejectedOutputArtifacts, rfl⟩
    | some _ => exact ⟨_, _, _, _, database.rejectedOutputArtifacts, rfl⟩
  · rw [hsessions]
    refine Rewrites.modifyWhere Pointed.refl fun s hs hid => ?_
    have hid' : s.sessionId = records.assignment.sessionId := by
      have hsession := (single?_mem hconsumable.session).2
      simp only [decide_eq_true_eq] at hid hsession
      exact hid.trans hsession
    have hsame : s = records.session := single?_unique hconsumable.session hs (by simpa using hid')
    subst hsame
    refine ⟨⟨rfl, rfl, rfl, rfl, rfl, rfl, rfl, rfl, rfl⟩, .inr ?_⟩
    intro hnone
    have hactive := hconsumable.active
    simp [hnone] at hactive

theorem normalizeAndConsumeDecision_written {attemptId : OpaqueId} {rawOutput : JsString}
    {options : DecisionNormalizationOptions} {result : DecisionNormalizationResult}
    (h : normalizeAndConsumeDecision database attemptId rawOutput options = .ok (left, result)) :
    OutputsWritten database left := by
  obtain ⟨records, hconsumable, ⟨failure, artifact, -, -, rfl, -⟩ |
    ⟨envelope, existing, -, -, -, rfl, -⟩⟩ := normalizeAndConsumeDecision_cases h
  · exact ⟨⟨_, _, database.decisions, database.sessions, _, rfl⟩, Rewrites.of_eq Pointed.refl rfl⟩
  · exact consume_written hconsumable

theorem normalizeAll_written {ports : AcceptPorts} {index : Nat}
    {observations : List TerminalRunObservation} {results : List DecisionNormalizationResult}
    (h : normalizeAll database ports index observations = .ok (left, results)) :
    OutputsWritten database left := by
  induction observations generalizing database index results with
  | nil =>
    obtain ⟨rfl, -⟩ := Prod.mk.inj (pure_eq_ok.mp h)
    exact ⟨⟨_, _, _, _, _, rfl⟩, Rewrites.of_eq Pointed.refl rfl⟩
  | cons observation rest ih =>
    simp only [normalizeAll, bind_eq_ok, mapError_eq_ok, pure_eq_ok, Prod.exists,
      Prod.mk.injEq] at h
    obtain ⟨normalized, result, hfirst, final, results', hrest, rfl, -⟩ := h
    have hfirst := normalizeAndConsumeDecision_written hfirst
    have hlater := ih hrest
    refine ⟨?_, hfirst.sessions.trans Pointed.trans hlater.sessions⟩
    obtain ⟨_, _, _, _, _, rfl⟩ := hfirst.writes
    obtain ⟨_, _, _, _, _, rfl⟩ := hlater.writes
    exact ⟨_, _, _, _, _, rfl⟩

/-! ## Validation -/

def outcomeStates : List SessionState :=
  [.READY_AT_CURRENT_HEAD, .BLOCKED_NO_CUT, .CONSISTENT_DENY, .HISTORICAL_STALE, .FAILED]

/-- What the record of a validation writes, for the session that it leaves. -/
structure ValidationWritten (database : EpochDatabase) (session : EpochSession)
    (left : EpochDatabase) (final : EpochSession) : Prop where
  writes : ∃ validations jointValidityCertificates noCutProofs refreshPlans permits auditEvents
      diagnostics,
    left = { database.setSession final with
      validations, jointValidityCertificates, noCutProofs, refreshPlans, permits, auditEvents,
      diagnostics }
  closes : ∃ activeValidationId activeRefreshPlanId activePermitId state stateUpdatedAt,
    state ∈ outcomeStates ∧
    final = { session with
      activeValidationId, activeRefreshPlanId, activePermitId, state, stateUpdatedAt,
      sessionRevision := session.sessionRevision + 1 }
  plans : ∀ p ∈ left.refreshPlans, p ∈ database.refreshPlans ∨
    (p.status = .COMPLETED ∧ ∃ q ∈ database.refreshPlans,
      q.status = .CLAIMED ∧ p = { q with status := .COMPLETED }) ∨
    p.status = .AVAILABLE ∧ p.sessionId = session.sessionId ∧ final.state = .BLOCKED_NO_CUT ∧
      final.activeRefreshPlanId = some p.refreshPlanId
  permits : ∃ issued, left.permits = database.permits ++ issued ∧
    ∀ p ∈ issued, p.status = .ISSUED ∧ p.sessionId = session.sessionId ∧
      final.state = .READY_AT_CURRENT_HEAD ∧ final.activePermitId = some p.permitId

omit [Sha256] [OutputPorts] in
/-- The plan that a validation completes was claimed. -/
theorem completedPlan_written {refreshPlan completed : Option RefreshPlan}
    (h : completedPlan database refreshPlan = .ok completed) :
    ∃ refreshPlans, completed.elim database (setFirstRefreshPlan database) =
        { database with refreshPlans } ∧
      ∀ p ∈ refreshPlans, p ∈ database.refreshPlans ∨
        (p.status = .COMPLETED ∧ ∃ q ∈ database.refreshPlans,
          q.status = .CLAIMED ∧ p = { q with status := .COMPLETED }) := by
  cases refreshPlan with
  | none =>
    obtain rfl := pure_eq_ok.mp h
    exact ⟨_, rfl, fun p hp => .inl hp⟩
  | some expected =>
    simp only [completedPlan, completeRefreshPlan, bind_eq_ok, orStop_eq_ok, require_eq_ok,
      pure_eq_ok] at h
    obtain ⟨plan, ⟨claimed, hfound, -, ⟨hclaimed, -⟩, rfl⟩, rfl⟩ := h
    refine ⟨_, rfl, fun p hp => ?_⟩
    rcases mem_modifyFirst hp with hold | ⟨q, -, rfl⟩
    · exact .inl hold
    · exact .inr ⟨rfl, claimed, List.mem_of_find?_eq_some hfound, hclaimed, rfl⟩

omit [OutputPorts] in
theorem buildRefreshPlan_available {world : EffectGate.WorldPort}
    {sessionId refreshPlanId : OpaqueId} {plan : RefreshPlan}
    (h : RefreshPlanner.buildRefreshPlan database world sessionId refreshPlanId = .ok plan) :
    plan.status = .AVAILABLE ∧ plan.claimedAttemptId = none ∧ plan.sessionId = sessionId ∧
      plan.refreshPlanId = refreshPlanId := by
  simp only [RefreshPlanner.buildRefreshPlan, RefreshPlanner.requireBlockedValidation, bind_eq_ok,
    require_eq_ok, orStop_eq_ok, RefreshPlanner.requireP0BudgetOwner_eq_ok, pure_eq_ok,
    Prod.exists, Prod.mk.injEq] at h
  obtain ⟨session, validation, ⟨_, hsession, -, -, -, -, _, -, -, -, _, -, -, -, -, -, -, -, -, -,
    rfl, rfl⟩, _, -, -, -, _, -, -, -, -, -, _, -, -, -, _, -, _, -, _, -, -, -, rfl⟩ := h
  exact ⟨rfl, rfl, by simpa using (single?_mem hsession).2, rfl⟩

omit [Sha256] [OutputPorts] in
theorem persistReady_written {session : EpochSession} {result : JointValidity.Result}
    {refreshPlan : Option RefreshPlan} {ports : ValidationPorts}
    (h : persistReady database session result refreshPlan ports = .ok left) :
    ∃ final, ValidationWritten database session left final := by
  simp only [persistReady, bind_eq_ok, orStop_eq_ok, pure_eq_ok] at h
  obtain ⟨certificate, -, completed, hcompleted, rfl⟩ := h
  obtain ⟨refreshPlans, hplanned, hplans⟩ := completedPlan_written hcompleted
  refine ⟨{ validatedSession session result.validationRecord .READY_AT_CURRENT_HEAD
      ((completed.map RefreshPlan.refreshPlanId).or session.activeRefreshPlanId) with
    activePermitId := some ports.permitId }, ?_⟩
  rw [hplanned]
  constructor
  · exact ⟨_, _, _, _, _, _, _, rfl⟩
  · exact ⟨_, _, _, .READY_AT_CURRENT_HEAD, _, by decide, rfl⟩
  · intro p hp
    rcases hplans p hp with hold | hcompleted
    · exact .inl hold
    · exact .inr (.inl hcompleted)
  · refine ⟨[_], rfl, fun p hp => ?_⟩
    obtain rfl := List.mem_singleton.mp hp
    exact ⟨rfl, rfl, rfl, rfl⟩

omit [OutputPorts] in
theorem persistNoCut_written {session : EpochSession} {result : JointValidity.Result}
    {ports : ValidationPorts} (h : persistNoCut database session result ports = .ok left) :
    ∃ final, ValidationWritten database session left final := by
  simp only [persistNoCut, bind_eq_ok, orStop_eq_ok, mapError_eq_ok, pure_eq_ok] at h
  obtain ⟨proof, -, plan, hplan, diagnosed, hdiagnosed, rfl⟩ := h
  obtain ⟨_, _, rfl⟩ := appendDiagnostic_writes hdiagnosed
  obtain ⟨hstatus, -, hof, -⟩ := buildRefreshPlan_available hplan
  refine ⟨{ validatedSession session result.validationRecord .BLOCKED_NO_CUT
    session.activeRefreshPlanId with activeRefreshPlanId := some plan.refreshPlanId }, ?_⟩
  constructor
  · exact ⟨_, _, _, _, database.permits, _, _, rfl⟩
  · exact ⟨_, _, _, .BLOCKED_NO_CUT, _, by decide, rfl⟩
  · intro p hp
    rcases List.mem_append.mp hp with hold | hnew
    · exact .inl hold
    · obtain rfl := List.mem_singleton.mp hnew
      exact .inr (.inr ⟨hstatus, hof, rfl, rfl⟩)
  · exact ⟨[], (List.append_nil _).symm, by simp⟩

omit [Sha256] [OutputPorts] in
theorem persistDeny_written {session : EpochSession} {result : JointValidity.Result}
    {refreshPlan : Option RefreshPlan} {ports : ValidationPorts}
    (h : persistDeny database session result refreshPlan ports = .ok left) :
    ∃ final, ValidationWritten database session left final := by
  simp only [persistDeny, bind_eq_ok, pure_eq_ok] at h
  obtain ⟨completed, hcompleted, refs, -, diagnosed, hdiagnosed, rfl⟩ := h
  obtain ⟨_, _, rfl⟩ := appendDiagnostic_writes hdiagnosed
  obtain ⟨refreshPlans, hplanned, hplans⟩ := completedPlan_written hcompleted
  refine ⟨validatedSession session result.validationRecord .CONSISTENT_DENY
      ((completed.map RefreshPlan.refreshPlanId).or session.activeRefreshPlanId), ?_⟩
  rw [hplanned]
  constructor
  · exact ⟨_, _, _, _, database.permits, _, _, rfl⟩
  · exact ⟨_, _, _, .CONSISTENT_DENY, _, by decide, rfl⟩
  · intro p hp
    rcases hplans p hp with hold | hcompleted
    · exact .inl hold
    · exact .inr (.inl hcompleted)
  · exact ⟨[], (List.append_nil _).symm, by simp⟩

omit [Sha256] [OutputPorts] in
theorem persistStale_written {session : EpochSession} {result : JointValidity.Result}
    {ports : ValidationPorts} (h : persistStale database session result ports = .ok left) :
    ∃ final, ValidationWritten database session left final := by
  obtain ⟨_, _, rfl⟩ := appendDiagnostic_writes h
  refine ⟨validatedSession session result.validationRecord .HISTORICAL_STALE
    session.activeRefreshPlanId, ?_⟩
  constructor
  · exact ⟨_, _, _, database.refreshPlans, database.permits, _, _, rfl⟩
  · exact ⟨_, _, _, .HISTORICAL_STALE, _, by decide, rfl⟩
  · exact fun p hp => .inl hp
  · exact ⟨[], (List.append_nil _).symm, by simp⟩

omit [OutputPorts] in
theorem persistValidation_written {session : EpochSession} {refreshPlan : Option RefreshPlan}
    {ports : ValidationPorts}
    (h : persistValidation database session refreshPlan ports = .ok left) :
    ∃ final, ValidationWritten database session left final := by
  simp only [persistValidation, bind_eq_ok, mapError_eq_ok] at h
  obtain ⟨result, -, h⟩ := h
  split at h
  · exact persistReady_written h
  · exact persistNoCut_written h
  · exact persistDeny_written h
  · exact persistStale_written h
  · obtain rfl := pure_eq_ok.mp h
    refine ⟨validatedSession session result.validationRecord .FAILED
      session.activeRefreshPlanId, ?_⟩
    constructor
    · exact ⟨_, _, _, database.refreshPlans, database.permits, _, _, rfl⟩
    · exact ⟨_, _, _, .FAILED, _, by decide, rfl⟩
    · exact fun p hp => .inl hp
    · exact ⟨[], (List.append_nil _).symm, by simp⟩

/-! ## Closing a session -/

/-- A failure writes the session as failed, after closing its claimed refresh,
and audit records. -/
structure FailureWritten (database : EpochDatabase) (session : EpochSession)
    (timestamp : Timestamp) (left : EpochDatabase) (final : EpochSession) : Prop where
  writes : ∃ runAssignments attempts refreshPlans auditEvents diagnostics,
    left = { database.setSession final with
      runAssignments, attempts, refreshPlans, auditEvents, diagnostics }
  plans : ∀ p ∈ left.refreshPlans, p ∈ database.refreshPlans ∨
    p.status = .INVALIDATED ∧ ∃ q ∈ database.refreshPlans, p = invalidated q
  closes : ∃ activeValidationId activeRefreshPlanId activeAttemptIds,
    final = { failedSession session timestamp with
      activeValidationId, activeRefreshPlanId, activeAttemptIds }

omit [Sha256] [OutputPorts] in
theorem failureWritten_of_closed {session : EpochSession} {timestamp : Timestamp}
    {preserved : Option Role} {closure : RefreshFailureClosure}
    (hclosure : closeClaimedRefreshFailure database (failedSession session timestamp) .FAILED
      preserved = .ok closure)
    (hleft : WritesAudit (closure.database.setSession closure.closedSession) left) :
    FailureWritten database session timestamp left closure.closedSession := by
  obtain ⟨⟨_, _, _, hwrites⟩, hplans, ⟨_, _, _, hsession⟩⟩ :=
    closeClaimedRefreshFailure_closed hclosure
  obtain ⟨_, _, rfl⟩ := hleft
  constructor
  · rw [hwrites]
    exact ⟨_, _, _, _, _, rfl⟩
  · exact hplans
  · unfold RefreshFailureClosure.closedSession
    split_ifs
    · exact ⟨_, _, _, hsession⟩
    · rw [hsession]
      exact ⟨_, _, _, rfl⟩

omit [Sha256] [OutputPorts] in
/-- A session fails once; a session that has ended stays as it is. -/
theorem failSession_cases {sessionId : OpaqueId} {error : ServiceError} {ports : FailPorts}
    (h : Service.failSession database sessionId error ports = .ok left) :
    left = database ∨ ∃ session final, sessionById database sessionId = .ok (some session) ∧
      isTerminalSession session.state = false ∧
      FailureWritten database session ports.timestamp left final := by
  simp only [Service.failSession, bind_eq_ok] at h
  obtain ⟨found, hfound, h⟩ := h
  cases found with
  | none => exact .inl (pure_eq_ok.mp h).symm
  | some session =>
    dsimp only at h
    split at h
    · exact .inl (pure_eq_ok.mp h).symm
    · rename_i hopen
      simp only [bind_eq_ok, pure_eq_ok] at h
      obtain ⟨closure, hclosure, diagnosed, hdiagnosed, rfl⟩ := h
      obtain ⟨_, _, rfl⟩ := appendDiagnostic_writes hdiagnosed
      exact .inr ⟨session, _, hfound, by simpa using hopen,
        failureWritten_of_closed hclosure ⟨_, _, rfl⟩⟩

/-! ## Accepting outputs -/

/-- The session whose outputs were accepted. -/
def validatingSession (session : EpochSession) (coordinationMode : CoordinationMode)
    (timestamp : Timestamp) : EpochSession :=
  { session with
    coordinationMode
    state := .VALIDATING
    sessionRevision := session.sessionRevision + 1
    stateUpdatedAt := timestamp }

/-- The outputs are normalized; then the session fails or is validated. -/
theorem acceptAndValidate_cases {sessionId : OpaqueId}
    {observations : List TerminalRunObservation} {refreshPlan : Option RefreshPlan}
    {ports : AcceptPorts}
    (h : acceptAndValidate database sessionId observations refreshPlan ports = .ok left) :
    ∃ normalized results session final,
      normalizeAll database ports 0 observations = .ok (normalized, results) ∧
      sessionById normalized sessionId = .ok (some session) ∧
      (((∃ artifact, results.findSome? DecisionNormalizationResult.artifact? = some artifact) ∧
          FailureWritten normalized session ports.timestamp left final) ∨
        results.findSome? DecisionNormalizationResult.artifact? = none ∧ ∃ coordinationMode,
          ValidationWritten
            (normalized.setSession (validatingSession session coordinationMode ports.timestamp))
            (validatingSession session coordinationMode ports.timestamp) left final) := by
  simp only [acceptAndValidate, bind_eq_ok, orStop_eq_ok, Prod.exists] at h
  obtain ⟨_, -, _, -, normalized, results, hnormalized, found, hfound, session, rfl, h⟩ := h
  split at h
  · rename_i artifact hartifact
    simp only [closeMalformedOutput, bind_eq_ok, orStop_eq_ok] at h
    obtain ⟨attempt, -, closure, hclosure, h⟩ := h
    exact ⟨normalized, results, session, _, hnormalized, hfound,
      .inl ⟨⟨artifact, hartifact⟩,
        failureWritten_of_closed hclosure (appendDiagnostic_writes h)⟩⟩
  · rename_i hnone
    simp only [bind_eq_ok] at h
    obtain ⟨acceptedAttempts, -, h⟩ := h
    obtain ⟨final, hfinal⟩ := persistValidation_written h
    exact ⟨normalized, results, session, final, hnormalized, hfound, .inr ⟨hnone, _, hfinal⟩⟩

/-! ## Claims -/

/-- What a claim that does not stop does: it invalidates a plan that no longer
holds, or records the claimed attempt. -/
inductive ClaimOutcome (database : EpochDatabase) (world : EffectGate.WorldPort)
    (sessionId : OpaqueId) (request : RefreshPlanner.RefreshSessionRequest)
    (timestamp : Timestamp) (createArtifacts : EpochSession → RefreshPlan → Role → OpaqueId →
      Except String RefreshPlanner.RefreshClaimArtifacts) :
    EpochDatabase × RefreshPlanner.ClaimRefreshPlanResult → Prop
  | stale {session : EpochSession} {plan : RefreshPlan}
      (found : single? database.sessions (fun s => s.sessionId = sessionId) = some session)
      (planned : RefreshPlanner.requirePlan database session request = .ok plan)
      (available : plan.status = .AVAILABLE)
      (revision : request.expectedSessionRevision = session.sessionRevision)
      (moved : session.activeRefreshPlanId ≠ some plan.refreshPlanId ∨
        RefreshPlanner.planStillMatches database session plan world = false) :
      ClaimOutcome database world sessionId request timestamp createArtifacts
        (RefreshPlanner.invalidatePlan database session plan timestamp,
          .INVALIDATED plan.refreshPlanId (session.sessionRevision + 1))
  | claimed {session : EpochSession} {plan : RefreshPlan}
      {artifacts : RefreshPlanner.RefreshClaimArtifacts}
      (found : single? database.sessions (fun s => s.sessionId = sessionId) = some session)
      (planned : RefreshPlanner.requirePlan database session request = .ok plan)
      (available : plan.status = .AVAILABLE)
      (owner : plan.agentIds = [session.frozenAssignments.budget])
      (revision : request.expectedSessionRevision = session.sessionRevision)
      (active : session.activeRefreshPlanId = some plan.refreshPlanId)
      (matching : RefreshPlanner.planStillMatches database session plan world = true)
      (idle : session.activeAttemptIds.budget = none)
      (created : createArtifacts session plan .budget session.frozenAssignments.budget =
        .ok artifacts)
      (fresh : RefreshPlanner.assertClaimArtifacts database session .budget
        session.frozenAssignments.budget artifacts = .ok ()) :
      ClaimOutcome database world sessionId request timestamp createArtifacts
        (RefreshPlanner.recordClaim database session plan .budget artifacts timestamp,
          .CLAIMED .budget session.frozenAssignments.budget
            (RefreshPlanner.claimedPlan plan artifacts.attempt) artifacts.assignment
            artifacts.attempt)

omit [OutputPorts] in
theorem claimRefreshPlan_cases {world : EffectGate.WorldPort} {sessionId : OpaqueId}
    {request : RefreshPlanner.RefreshSessionRequest} {timestamp : Timestamp}
    {createArtifacts : EpochSession → RefreshPlan → Role → OpaqueId →
      Except String RefreshPlanner.RefreshClaimArtifacts}
    {out : EpochDatabase × RefreshPlanner.ClaimRefreshPlanResult}
    (h : RefreshPlanner.claimRefreshPlan database world sessionId request timestamp
      createArtifacts = .ok out) :
    ClaimOutcome database world sessionId request timestamp createArtifacts out := by
  simp only [RefreshPlanner.claimRefreshPlan, bind_eq_ok, require_eq_ok, orStop_eq_ok,
    mapError_eq_ok, RefreshPlanner.requireP0BudgetOwner_eq_ok] at h
  obtain ⟨-, -, session, hsession, plan, hplan, -, ⟨hopen, hvalid⟩, agentId, ⟨howner, rfl⟩, h⟩ := h
  split at h
  · simp at h
  · rename_i hclaimed
    have havailable : plan.status = .AVAILABLE := by
      cases hstatus : plan.status <;> simp_all
    simp only [bind_eq_ok, require_eq_ok] at h
    obtain ⟨-, hrevision, h⟩ := h
    split at h
    · rename_i hmoved
      rw [← pure_eq_ok.mp h]
      exact .stale hsession hplan havailable hrevision hmoved
    · rename_i hmatches
      simp only [bind_eq_ok, require_eq_ok, mapError_eq_ok, pure_eq_ok] at h
      obtain ⟨role, hrole, -, hidle, artifacts, hcreated, ⟨⟩, hfresh, rfl⟩ := h
      have hbudget : role = .budget := by
        simp only [RefreshPlanner.roleForAgent, orStop_eq_ok] at hrole
        have hself : session.frozenAssignments.get .budget = session.frozenAssignments.budget := rfl
        exact (single?_unique hrole (by decide) (by simp [hself])).symm
      subst hbudget
      simp only [not_or, not_not, Bool.not_eq_false] at hmatches
      exact .claimed hsession hplan havailable howner hrevision hmatches.1 hmatches.2 hidle
        hcreated hfresh

/-! ## Recovery -/

/-- What closing one session after a restart writes. -/
structure RecoveryWritten (database : EpochDatabase) (session : EpochSession)
    (timestamp : Timestamp) (left : EpochDatabase) : Prop where
  writes : ∃ runAssignments attempts refreshPlans permits auditEvents diagnostics,
    left = { database.setSession (interruptedSession session timestamp) with
      runAssignments, attempts, refreshPlans, permits, auditEvents, diagnostics }
  plans : ∀ p ∈ left.refreshPlans, p ∈ database.refreshPlans ∨
    p.status = .INVALIDATED ∧ ∃ q ∈ database.refreshPlans, p = invalidated q
  permits : Rewrites (fun p q => q = p ∨
      p.status = .ISSUED ∧ q = { p with status := .REVOKED, consumedAt := none } ∧
        p.sessionId = session.sessionId) database.permits left.permits

omit [Sha256] [OutputPorts] in
theorem recoverActiveAttempt_writes {session : EpochSession} {timestamp : Timestamp}
    {role : Role} (h : recoverActiveAttempt database session timestamp role = .ok left) :
    WritesRuns database left := by
  unfold recoverActiveAttempt at h
  split at h
  · obtain rfl := pure_eq_ok.mp h
    exact ⟨_, _, rfl⟩
  · simp only [bind_eq_ok, pure_eq_ok] at h
    obtain ⟨_, -, -, -, _, -, -, -, _, -, -, -, rfl⟩ := h
    exact ⟨_, _, rfl⟩

omit [Sha256] [OutputPorts] in
theorem recoverRefreshPlan_writes {session : EpochSession} {referencedAttemptIds : List OpaqueId}
    (h : recoverRefreshPlan database session referencedAttemptIds = .ok left) :
    (∃ refreshPlans, left = { database with refreshPlans }) ∧
      ∀ p ∈ left.refreshPlans, p ∈ database.refreshPlans ∨
        p.status = .INVALIDATED ∧ ∃ q ∈ database.refreshPlans, p = invalidated q := by
  unfold recoverRefreshPlan at h
  split at h
  · simp only [bind_eq_ok, pure_eq_ok] at h
    obtain ⟨-, -, rfl⟩ := h
    exact ⟨⟨_, rfl⟩, fun p hp => .inl hp⟩
  · simp only [bind_eq_ok, orStop_eq_ok] at h
    obtain ⟨plan, hplan, -, -, h⟩ := h
    split at h <;> simp only [bind_eq_ok, pure_eq_ok] at h <;> obtain ⟨-, -, rfl⟩ := h
    · refine ⟨⟨_, rfl⟩, fun p hp => ?_⟩
      rcases mem_modifyWhere.mp hp with ⟨-, -, -, rfl⟩ | ⟨hp, -⟩
      · exact .inr ⟨rfl, plan, (single?_mem hplan).1, rfl⟩
      · exact .inl hp
    · exact ⟨⟨_, rfl⟩, fun p hp => .inl hp⟩

omit [Sha256] [OutputPorts] in
theorem recoverPermit_writes {session : EpochSession}
    (h : recoverPermit database session = .ok left) :
    (∃ permits, left = { database with permits }) ∧
      Rewrites (fun p q => q = p ∨
        p.status = .ISSUED ∧ q = { p with status := .REVOKED, consumedAt := none } ∧
          p.sessionId = session.sessionId) database.permits left.permits := by
  unfold recoverPermit at h
  split at h
  · simp only [bind_eq_ok, pure_eq_ok] at h
    obtain ⟨-, -, rfl⟩ := h
    exact ⟨⟨_, rfl⟩, Rewrites.of_eq (fun p => .inl rfl) rfl⟩
  · simp only [bind_eq_ok, orStop_eq_ok, require_eq_ok, pure_eq_ok] at h
    obtain ⟨permit, hpermit, -, hbound, -, hissued, -, -, rfl⟩ := h
    refine ⟨⟨_, rfl⟩, Rewrites.modifyWhere (fun p => .inl rfl) fun p hp hid => ?_⟩
    have hpid := (single?_mem hpermit).2
    simp only [decide_eq_true_eq] at hid hpid
    have hsame : p = permit := single?_unique hpermit hp (by simp [hid, hpid])
    subst hsame
    exact .inr ⟨hissued, rfl, hbound.1⟩

omit [Sha256] [OutputPorts] in
/-- After a restart, a session under way is interrupted, and what it had open is
closed with it. -/
theorem recoverInFlightSession_written {session : EpochSession} {timestamp : Timestamp}
    {ids : RecoveryIds} (h : recoverInFlightSession database session timestamp ids = .ok left) :
    RecoveryWritten database session timestamp left := by
  simp only [recoverInFlightSession, bind_eq_ok, pure_eq_ok] at h
  obtain ⟨-, -, attempted, hattempted, -, -, planned, hplanned, permitted, hpermitted, diagnosed,
    hdiagnosed, rfl⟩ := h
  have hattempted : WritesRuns database attempted := by
    refine foldlM_induction (P := WritesRuns database) ?_ ⟨_, _, rfl⟩ hattempted
    intro before role after hbefore _ hstep
    obtain ⟨_, _, rfl⟩ := hbefore
    obtain ⟨_, _, rfl⟩ := recoverActiveAttempt_writes hstep
    exact ⟨_, _, rfl⟩
  obtain ⟨_, _, rfl⟩ := hattempted
  obtain ⟨⟨_, rfl⟩, hplans⟩ := recoverRefreshPlan_writes hplanned
  obtain ⟨⟨_, rfl⟩, hpermits⟩ := recoverPermit_writes hpermitted
  obtain ⟨_, _, rfl⟩ := appendDiagnostic_writes hdiagnosed
  exact ⟨⟨_, _, _, _, _, _, rfl⟩, hplans, hpermits⟩

end Calls

end Service

end EpochGuard
