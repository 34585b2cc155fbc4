import EpochGuard.EffectRetry
import EpochGuard.CallFrames

/-!
# Rejections of the gate

A rejected request leaves the store as it was, unless the World moved after the
permit was issued; then the session and its permit are closed for good.
-/

namespace EpochGuard

open Json Checked Runs

namespace EffectGate

/-! ## What the gate stops with -/

/-- Only the invalidation of a permit answers with a race. -/
def NoRace (stop : Stop) : Prop := ∀ r, stop = .abort r → r.reasonCode ≠ .COMMIT_RACE

/-- A rejection for another reason is no race. -/
theorem noRace_reject {reasonCode : FailureCode} {message : String} {n : Nat}
    (h : reasonCode ≠ .COMMIT_RACE) : NoRace (reject reasonCode message n) := by
  rintro r ⟨⟩
  exact h

theorem noRace_thrown (message : String) : NoRace (.thrown message) := nofun

theorem stopsWith_requireSingle {α : Type} {values : List α} {predicate : α → Bool}
    {reasonCode : FailureCode} {message : String} {n : Nat} (h : reasonCode ≠ .COMMIT_RACE) :
    StopsWith NoRace (requireSingle values predicate reasonCode message n) :=
  stopsWith_orStop (noRace_reject h)

section Stops

variable {database : EpochDatabase} {session : EpochSession} {world : WorldPort} {n : Nat}

theorem noRace_orderedActiveDecisionIds : StopsWith NoRace (orderedActiveDecisionIds session n) :=
  stopsWith_orStop (noRace_reject (by decide))

theorem noRace_requireFrozenRoleRegistrations :
    StopsWith NoRace (requireFrozenRoleRegistrations database session n) := by
  unfold requireFrozenRoleRegistrations
  refine stopsWith_bind (stopsWith_require (noRace_reject (by decide))) fun _ => ?_
  refine stopsWith_bind (stopsWith_require (noRace_reject (by decide))) fun _ => ?_
  refine PerRole.stopsWith_mapRoles fun role => ?_
  refine stopsWith_bind (stopsWith_orStop (noRace_reject (by decide))) fun _ => ?_
  exact stopsWith_bind (stopsWith_require (noRace_reject (by decide))) fun _ => stopsWith_pure

theorem noRace_requireRegisteredAssignmentProfile
    {registrations : PerRole RoleAgentRegistration} {role : Role} {agentId : OpaqueId}
    {assignment : RunAssignment} :
    StopsWith NoRace
      (requireRegisteredAssignmentProfile registrations role agentId assignment n) :=
  stopsWith_require (noRace_reject (by decide))

variable [Sha256]

theorem noRace_requireSession {sessionId : OpaqueId} :
    StopsWith NoRace (requireSession database sessionId) := by
  unfold requireSession
  -- every check has its own reason
  repeat' first
    | exact stopsWith_pure
    | exact stopsWith_require (noRace_reject (by decide))
    | exact stopsWith_orStop (noRace_reject (by decide))
    | refine stopsWith_bind ?_ fun _ => ?_

theorem noRace_requireRoleEvidence {certificate : JointValidityCertificate}
    {expectedActionHash : Sha256Digest} {head : Nat} {texts : EvidenceTexts}
    {observedInProvenance : Bool}
    {intervalMatches : Interval → ObservationReceipt → ResourceVersion → Bool}
    {registrations : PerRole RoleAgentRegistration} {activeDecisionIds : PerRole OpaqueId}
    {role : Role} :
    StopsWith NoRace (requireRoleEvidence database session world certificate expectedActionHash
      head texts observedInProvenance intervalMatches n registrations activeDecisionIds role) := by
  unfold requireRoleEvidence
  repeat' first
    | exact stopsWith_pure
    | exact stopsWith_require (noRace_reject (by decide))
    | exact stopsWith_orStop (noRace_reject (by decide))
    | exact stopsWith_requireSingle (by decide)
    | exact stopsWith_mapError noRace_thrown
    | exact noRace_requireRegisteredAssignmentProfile
    | refine stopsWith_bind ?_ fun _ => ?_

theorem noRace_validateCommittedEvidenceClosure {certificate : JointValidityCertificate}
    {validation : ValidationRecord} {expectedActionHash dependencySetHash : Sha256Digest}
    {validatedHead : Nat} :
    StopsWith NoRace (validateCommittedEvidenceClosure database session world certificate
      validation expectedActionHash dependencySetHash validatedHead n) := by
  unfold validateCommittedEvidenceClosure
  refine stopsWith_bind noRace_orderedActiveDecisionIds fun _ => ?_
  refine stopsWith_bind noRace_requireFrozenRoleRegistrations fun _ => ?_
  refine stopsWith_bind
    (PerRole.stopsWith_mapRoles fun _ => noRace_requireRoleEvidence) fun _ => ?_
  refine stopsWith_bind (stopsWith_require (noRace_reject (by decide))) fun _ => ?_
  exact stopsWith_require (noRace_reject (by decide))

omit [Sha256] in
theorem noRace_requirePlanDecision {plan : RefreshPlan} {activeDecisionIds : PerRole OpaqueId}
    {expectedActionHash : Sha256Digest} {role : Role} :
    StopsWith NoRace
      (requirePlanDecision database session plan activeDecisionIds expectedActionHash n role) := by
  unfold requirePlanDecision
  refine stopsWith_bind (stopsWith_requireSingle (by decide)) fun _ => ?_
  exact stopsWith_bind (stopsWith_require (noRace_reject (by decide))) fun _ => stopsWith_pure

theorem noRace_validateCompletedRefreshPlanClosure {validation : ValidationRecord}
    {expectedActionHash : Sha256Digest} :
    StopsWith NoRace
      (validateCompletedRefreshPlanClosure database session validation expectedActionHash n) := by
  unfold validateCompletedRefreshPlanClosure
  split
  · exact stopsWith_require (noRace_reject (by decide))
  · repeat' first
      | exact stopsWith_require (noRace_reject (by decide))
      | exact stopsWith_orStop (noRace_reject (by decide))
      | exact stopsWith_requireSingle (by decide)
      | exact noRace_orderedActiveDecisionIds
      | exact PerRole.stopsWith_mapRoles fun _ => noRace_requirePlanDecision
      | refine stopsWith_bind ?_ fun _ => ?_

/-- A retry is never told of a race. -/
theorem noRace_returnExistingEffect {expectedActionHash : Sha256Digest}
    {expectedIdempotencyKey : String} :
    StopsWith NoRace (returnExistingEffect database session world expectedActionHash
      expectedIdempotencyKey) := by
  unfold returnExistingEffect
  split
  · exact stopsWith_pure
  · repeat' first
      | exact stopsWith_pure
      | exact stopsWith_require (noRace_reject (by decide))
      | exact stopsWith_requireSingle (by decide)
      | exact noRace_orderedActiveDecisionIds
      | exact noRace_validateCommittedEvidenceClosure
      | exact noRace_validateCompletedRefreshPlanClosure
      | refine stopsWith_bind ?_ fun _ => ?_
  · exact stopsWith_throw (noRace_reject (by decide))

omit [Sha256] in
/-- A permit that does not fit is no race: a race is a fitting permit whose head
has been left. -/
theorem noRace_requireReadyPermit {expectedSessionRevision : Nat}
    {expectedActionHash : Sha256Digest} {expectedIdempotencyKey : String} :
    StopsWith NoRace (requireReadyPermit database session expectedSessionRevision
      expectedActionHash expectedIdempotencyKey) := by
  have hstale : ∀ message error, NoRace (.abort ⟨.STALE_VIEW, message, 0, error⟩) := by
    rintro message error r ⟨⟩
    show FailureCode.STALE_VIEW ≠ .COMMIT_RACE
    decide
  unfold requireReadyPermit
  repeat' first
    | exact stopsWith_pure
    | exact stopsWith_require (hstale _ _)
    | exact stopsWith_require (noRace_reject (by decide))
    | exact stopsWith_orStop (noRace_reject (by decide))
    | exact stopsWith_requireSingle (by decide)
    | refine stopsWith_bind ?_ fun _ => ?_

/-- Evidence that does not hold is no race either. -/
theorem noRace_requireRelease {expectedActionHash : Sha256Digest} {permit : EffectPermit} :
    StopsWith NoRace (requireRelease database session world expectedActionHash permit) := by
  unfold requireRelease
  repeat' first
    | exact stopsWith_pure
    | exact stopsWith_require (noRace_reject (by decide))
    | exact stopsWith_requireSingle (by decide)
    | exact noRace_orderedActiveDecisionIds
    | exact noRace_requireFrozenRoleRegistrations
    | exact PerRole.stopsWith_mapRoles fun _ => noRace_requireRoleEvidence
    | exact noRace_validateCompletedRefreshPlanClosure
    | refine stopsWith_bind ?_ fun _ => ?_

/-- A request that stops does not stop with a race. -/
theorem noRace_commitProtectedEffect {sessionId effectId : OpaqueId}
    {expectedSessionRevision : Nat} {timestamp : Timestamp} :
    StopsWith NoRace (commitProtectedEffect database world sessionId expectedSessionRevision
      effectId timestamp) := by
  unfold commitProtectedEffect
  refine stopsWith_bind noRace_requireSession fun _ => ?_
  refine stopsWith_bind noRace_returnExistingEffect fun existing => ?_
  cases existing with
  | some effect => exact stopsWith_pure
  | none =>
    refine stopsWith_bind noRace_requireReadyPermit fun permit => ?_
    split
    · exact stopsWith_pure
    · refine stopsWith_bind noRace_requireRelease fun release => ?_
      dsimp only
      split
      · exact stopsWith_pure
      · exact stopsWith_bind (stopsWith_require (noRace_reject (by decide))) fun _ =>
          stopsWith_pure

end Stops

/-! ## A session and a permit that nothing reopens -/

open Service

/-- The session has raced: it observes nothing, plans nothing, and its permit
is revoked. -/
structure Raced (sessionId permitId : OpaqueId) (database : EpochDatabase) : Prop where
  session : ∃ session, database.sessions.filter (fun s => s.sessionId = sessionId) = [session] ∧
    session.state = .COMMIT_RACE ∧ session.activeAttemptIds = PerRole.const none
  plans : ∀ p ∈ database.refreshPlans, p.sessionId = sessionId →
    p.status ≠ .AVAILABLE ∧ p.status ≠ .CLAIMED
  permit : ∃ p ∈ database.permits, p.permitId = permitId ∧ p.status = .REVOKED

/-- The effects that name a session or a permit. -/
def effectsOf (sessionId permitId : OpaqueId) (database : EpochDatabase) : List EffectRecord :=
  database.effects.filter fun e => e.sessionId = sessionId || e.permitId = permitId

/-- What a mutation that is not about the session and the permit keeps. -/
structure Spares (sessionId permitId : OpaqueId) (database left : EpochDatabase) : Prop where
  sessions : left.sessions.filter (fun s => s.sessionId = sessionId) =
    database.sessions.filter fun s => s.sessionId = sessionId
  plans : ∀ p ∈ left.refreshPlans, p.sessionId = sessionId →
    p.status = .AVAILABLE ∨ p.status = .CLAIMED → p ∈ database.refreshPlans
  permit : (∃ p ∈ database.permits, p.permitId = permitId ∧ p.status = .REVOKED) →
    ∃ p ∈ left.permits, p.permitId = permitId ∧ p.status = .REVOKED
  effects : effectsOf sessionId permitId left = effectsOf sessionId permitId database

section Spares

variable {sessionId permitId : OpaqueId} {database left final : EpochDatabase}

theorem Spares.refl : Spares sessionId permitId database database :=
  ⟨rfl, fun _ hp _ _ => hp, id, rfl⟩

theorem Spares.trans (h : Spares sessionId permitId database left)
    (h' : Spares sessionId permitId left final) : Spares sessionId permitId database final where
  sessions := h'.sessions.trans h.sessions
  plans := fun p hp hof hopen => h.plans p (h'.plans p hp hof hopen) hof hopen
  permit := fun hpermit => h'.permit (h.permit hpermit)
  effects := h'.effects.trans h.effects

/-- A session that was closed by a race stays so where nothing of it is touched.
-/
theorem Raced.spared (h : Raced sessionId permitId database)
    (hspares : Spares sessionId permitId database left) : Raced sessionId permitId left where
  session := by
    rw [hspares.sessions]
    exact h.session
  plans := by
    intro p hp hof
    by_contra hopen
    have hopen' : p.status = .AVAILABLE ∨ p.status = .CLAIMED := by
      rcases Decidable.em (p.status = .AVAILABLE) with havailable | hother
      · exact .inl havailable
      · exact .inr (by_contra fun hclaimed => hopen ⟨hother, hclaimed⟩)
    have hsettled := h.plans p (hspares.plans p hp hof hopen') hof
    rcases hopen' with havailable | hclaimed
    · exact hsettled.1 havailable
    · exact hsettled.2 hclaimed
  permit := hspares.permit h.permit

/-- A mutation that writes none of the four tables. -/
theorem Spares.of_others (hsessions : left.sessions = database.sessions)
    (hplans : left.refreshPlans = database.refreshPlans)
    (hpermits : left.permits = database.permits) (heffects : left.effects = database.effects) :
    Spares sessionId permitId database left where
  sessions := by rw [hsessions]
  plans := fun p hp _ _ => hplans ▸ hp
  permit := fun h => hpermits ▸ h
  effects := by rw [effectsOf, heffects, effectsOf]

theorem filter_setSession {session : EpochSession} (h : session.sessionId ≠ sessionId) :
    (database.setSession session).sessions.filter (fun s => s.sessionId = sessionId) =
      database.sessions.filter fun s => s.sessionId = sessionId := by
  refine filter_modifyWhere_of_ne fun s _ hid => ?_
  simp only [decide_eq_true_eq] at hid
  simp [hid, h]

theorem Spares.writesRuns (h : WritesRuns database left) :
    Spares sessionId permitId database left := by
  obtain ⟨_, _, rfl⟩ := h
  exact .of_others rfl rfl rfl rfl

theorem Spares.writesAudit (h : WritesAudit database left) :
    Spares sessionId permitId database left := by
  obtain ⟨_, _, rfl⟩ := h
  exact .of_others rfl rfl rfl rfl

theorem Spares.failureWritten {session final : EpochSession} {timestamp : Timestamp}
    (hother : session.sessionId ≠ sessionId)
    (h : FailureWritten database session timestamp left final) :
    Spares sessionId permitId database left := by
  obtain ⟨⟨_, _, refreshPlans, _, _, rfl⟩, hplans, ⟨_, _, _, rfl⟩⟩ := h
  refine ⟨filter_setSession hother, fun p hp _ hopen => ?_, id, rfl⟩
  rcases hplans p hp with hold | ⟨hinvalidated, -⟩
  · exact hold
  · simp [hinvalidated] at hopen

theorem Spares.outputsWritten (hraced : Raced sessionId permitId database)
    (h : OutputsWritten database left) : Spares sessionId permitId database left := by
  obtain ⟨⟨_, _, _, sessions, _, rfl⟩, hsessions⟩ := h
  refine ⟨?_, fun p hp _ _ => hp, id, rfl⟩
  obtain ⟨session, honly, -, hidle⟩ := hraced.session
  obtain ⟨f, hf, hpointed⟩ := hsessions.filter (p := fun s => s.sessionId = sessionId)
    fun a b hab => by rw [hab.progress.1]
  rw [hf, honly]
  have hkept : f session = session := by
    rcases (hpointed session (honly ▸ List.mem_singleton_self _)).observing with hsame | hobserving
    · exact hsame
    · exact absurd hidle hobserving
  simp [hkept]

theorem Spares.validationWritten {session final : EpochSession}
    (hother : session.sessionId ≠ sessionId)
    (h : ValidationWritten database session left final) :
    Spares sessionId permitId database left := by
  obtain ⟨⟨_, _, _, refreshPlans, permits, _, _, rfl⟩, ⟨_, _, _, _, _, -, rfl⟩, hplans,
    ⟨issued, hissued, -⟩⟩ := h
  refine ⟨filter_setSession hother, fun p hp hof hopen => ?_, ?_, rfl⟩
  · rcases hplans p hp with hold | ⟨hcompleted, -⟩ | ⟨-, hof', -⟩
    · exact hold
    · simp [hcompleted] at hopen
    · exact absurd (hof'.symm.trans hof) hother
  · rintro ⟨p, hp, hrevoked⟩
    have hp' : p ∈ database.permits ++ issued := List.mem_append_left _ hp
    exact ⟨p, hissued.symm ▸ hp', hrevoked⟩

theorem mem_of_requirePlan {session : EpochSession}
    {request : RefreshPlanner.RefreshSessionRequest} {plan : RefreshPlan}
    (h : RefreshPlanner.requirePlan database session request = .ok plan) :
    plan ∈ database.refreshPlans ∧ plan.sessionId = session.sessionId := by
  simp only [RefreshPlanner.requirePlan, bind_eq_ok, require_eq_ok, orStop_eq_ok, only?_eq_some,
    pure_eq_ok] at h
  obtain ⟨-, -, found, honly, -, -, rfl⟩ := h
  have hmem : found ∈ (database.refreshPlans.filter fun p => p.sessionId = session.sessionId).filter
      fun p => p.refreshPlanId = request.refreshPlanId := honly ▸ List.mem_singleton_self _
  simpa using List.mem_of_mem_filter hmem

/-- A plan of another session is rewritten. -/
theorem Spares.setRefreshPlan (plan : RefreshPlan)
    (h : plan.sessionId ≠ sessionId ∨ plan.status = .INVALIDATED) :
    Spares sessionId permitId database (database.setRefreshPlan plan) := by
  refine ⟨rfl, fun p hp hof hopen => ?_, id, rfl⟩
  rcases mem_modifyWhere.mp hp with ⟨-, -, -, rfl⟩ | ⟨hp, -⟩
  · rcases h with hother | hinvalidated
    · exact absurd hof hother
    · simp [hinvalidated] at hopen
  · exact hp

theorem Spares.setSession {session : EpochSession} (h : session.sessionId ≠ sessionId) :
    Spares sessionId permitId database (database.setSession session) :=
  ⟨filter_setSession h, fun _ hp _ _ => hp, id, rfl⟩

/-- The only session of the identifier has raced, so others are in flight, or
ready. -/
theorem Raced.ne_of_state (hraced : Raced sessionId permitId database) {session : EpochSession}
    (hmem : session ∈ database.sessions) (hstate : session.state ≠ .COMMIT_RACE) :
    session.sessionId ≠ sessionId := by
  intro hid
  obtain ⟨only, honly, hrace, -⟩ := hraced.session
  have hsession : session ∈ database.sessions.filter fun s => s.sessionId = sessionId := by
    simp [hmem, hid]
  rw [honly, List.mem_singleton] at hsession
  exact hstate (hsession ▸ hrace)

section Sha256

variable [Sha256]

/-- No plan of the closed session is claimed. -/
theorem Raced.claim (hraced : Raced sessionId permitId database) {world : WorldPort}
    {otherId : OpaqueId} {request : RefreshPlanner.RefreshSessionRequest} {timestamp : Timestamp}
    {createArtifacts : EpochSession → RefreshPlan → Role → OpaqueId →
      Except String RefreshPlanner.RefreshClaimArtifacts}
    {out : EpochDatabase × RefreshPlanner.ClaimRefreshPlanResult}
    (h : ClaimOutcome database world otherId request timestamp createArtifacts out) :
    otherId ≠ sessionId ∧ Spares sessionId permitId database out.1 := by
  have hother : ∀ session plan, single? database.sessions (fun s => s.sessionId = otherId) =
      some session → RefreshPlanner.requirePlan database session request = .ok plan →
      plan.status = .AVAILABLE → otherId ≠ sessionId ∧ session.sessionId = otherId ∧
        plan.sessionId = otherId := by
    intro session plan hfound hplan havailable
    have hid : session.sessionId = otherId := by simpa using (single?_mem hfound).2
    obtain ⟨hmem, hof⟩ := mem_of_requirePlan hplan
    refine ⟨fun hsame => ?_, hid, hof.trans hid⟩
    exact (hraced.plans plan hmem (hof.trans (hid.trans hsame))).1 havailable
  cases h with
  | @stale session plan found planned available revision moved =>
    obtain ⟨hne, hid, hof⟩ := hother session plan found planned available
    refine ⟨hne, Spares.trans (.setRefreshPlan _ (.inr rfl)) (.setSession ?_)⟩
    exact hid ▸ hne
  | @claimed session plan artifacts found planned available owner revision active matching idle
      created fresh =>
    obtain ⟨hne, hid, hof⟩ := hother session plan found planned available
    refine ⟨hne, Spares.trans (.writesRuns ⟨_, _, rfl⟩)
      (Spares.trans (.setRefreshPlan (RefreshPlanner.claimedPlan plan artifacts.attempt)
        (.inl ?_)) (.setSession ?_))⟩
    · exact hof ▸ hne
    · exact hid ▸ hne

/-- A later request for the session is refused. -/
theorem Raced.commit (hraced : Raced sessionId permitId database) {otherId effectId : OpaqueId}
    {expectedSessionRevision : Nat} {timestamp : Timestamp}
    {out : EpochDatabase × CommitProtectedEffectResult}
    (h : CommitOutcome database identityPort otherId expectedSessionRevision effectId timestamp
      out) : Spares sessionId permitId database out.1 := by
  have hne : ∀ session, SessionBound database otherId session →
      session.state = .READY_AT_CURRENT_HEAD → session.sessionId ≠ sessionId := by
    intro session hbound hready
    have hmem : session ∈ database.sessions.filter fun s => s.sessionId = otherId := by
      simp [hbound.only]
    exact hraced.ne_of_state (List.mem_of_mem_filter hmem) (by simp [hready])
  cases h with
  | existing => exact .refl
  | @race session permit bound none revision ready moved =>
    refine ⟨?_, fun p hp _ _ => hp, ?_, rfl⟩
    · refine filter_modifyWhere_of_ne fun s _ hid => ?_
      simp only [decide_eq_true_eq] at hid
      simp [hid, hne session bound ready.state]
    · rintro ⟨p, hp, hid, hrevoked⟩
      refine ⟨p, mem_modifyFirst_of_fixed hp ?_, hid, hrevoked⟩
      simp [revoke, hrevoked]
  | @created session release activeDecisionIds registrations bound none revision ready current
      backed fresh =>
    have hother := hne session bound ready.state
    have hpermit : release.permit.permitId ≠ permitId := by
      intro hid
      obtain ⟨p, hp, hpid, hrevoked⟩ := hraced.permit
      have hsame : p = release.permit := single?_unique ready.unique hp (by simp [hpid, hid])
      have hissued := ready.issued.1
      rw [← hsame, hrevoked] at hissued
      cases hissued
    refine ⟨?_, fun p hp _ _ => hp, ?_, ?_⟩
    · refine filter_modifyWhere_of_ne fun s _ hid => ?_
      simp only [decide_eq_true_eq] at hid
      have hid' : s.sessionId = session.sessionId := hid
      simp [hid', hother]
    · rintro ⟨p, hp, hpid, hrevoked⟩
      refine ⟨p, mem_modifyWhere.mpr (.inr ⟨hp, ?_⟩), hpid, hrevoked⟩
      have hother' : p.permitId ≠ release.permit.permitId := hpid ▸ hpermit.symm
      exact decide_eq_false hother'
    · show (database.effects ++ [_]).filter _ = _
      rw [List.filter_append, effectsOf]
      simp [effectRecordFor, hother, hpermit]

omit [Sha256] in
theorem Spares.recoveryWritten {session : EpochSession} {timestamp : Timestamp}
    (hother : session.sessionId ≠ sessionId)
    (h : RecoveryWritten database session timestamp left) :
    Spares sessionId permitId database left := by
  obtain ⟨⟨_, _, refreshPlans, permits, _, _, rfl⟩, hplans, hpermits⟩ := h
  refine ⟨filter_setSession hother, fun p hp _ hopen => ?_, ?_, rfl⟩
  · rcases hplans p hp with hold | ⟨hinvalidated, -⟩
    · exact hold
    · simp [hinvalidated] at hopen
  · rintro ⟨p, hp, hid, hrevoked⟩
    obtain ⟨q, hq, rfl | ⟨hissued, -⟩⟩ := hpermits.mem hp
    · exact ⟨_, hq, hid, hrevoked⟩
    · simp [hrevoked] at hissued

omit [Sha256] in
/-- A restart leaves a closed session alone. -/
theorem Raced.recoverSessions (hraced : Raced sessionId permitId database) {timestamp : Timestamp}
    {ids : OpaqueId → RecoveryIds}
    (h : Service.recoverSessions database timestamp ids = .ok left) :
    Spares sessionId permitId database left := by
  refine foldlM_induction (P := Spares sessionId permitId database) ?_ .refl h
  intro before session after hbefore hmem hstep
  obtain ⟨hsession, hinFlight⟩ := List.mem_filter.mp hmem
  have hother : session.sessionId ≠ sessionId :=
    hraced.ne_of_state hsession (fun hrace => by simp [hrace, isInFlightSession] at hinFlight)
  exact hbefore.trans (.recoveryWritten hother (recoverInFlightSession_written hstep))

theorem Spares.acceptAndValidate [DecisionParser.OutputPorts]
    (hraced : Raced sessionId permitId database)
    {otherId : OpaqueId} (hother : otherId ≠ sessionId)
    {observations : List RunObserver.TerminalRunObservation} {refreshPlan : Option RefreshPlan}
    {ports : AcceptPorts}
    (h : acceptAndValidate database otherId observations refreshPlan ports = .ok left) :
    Spares sessionId permitId database left := by
  obtain ⟨normalized, results, session, final, hnormalized, hfound,
    hfailed | ⟨-, mode, hvalidated⟩⟩ := acceptAndValidate_cases h
  all_goals
    have hspares := Spares.outputsWritten hraced (normalizeAll_written hnormalized)
    have hid : session.sessionId ≠ sessionId := (sessionById_some hfound).2.1 ▸ hother
  · exact hspares.trans (.failureWritten hid hfailed.2)
  · refine hspares.trans (Spares.trans ⟨filter_setSession ?_, fun p hp _ _ => hp, id, rfl⟩
      (.validationWritten ?_ hvalidated))
    · exact hid
    · exact hid

/-! ## Every continuation of a run -/

variable [DecisionParser.OutputPorts]

/-- The requests for commits and refreshes, the World's commits, the records of
races, restarts, and what the claimed refreshes go on with. -/
def afterRace : Event → Prop
  | .request (.createSession ..) | .request (.resetDemo _) => False
  | _ => True

theorem Spares.published {call : Call} (hpublish : publish database call = some left)
    (h : ∀ written, call.leaves database = some written →
      Spares sessionId permitId database written) :
    Spares sessionId permitId database left := by
  obtain ⟨written, hwritten, -, rfl⟩ := publish_eq_some.mp hpublish
  exact (h written hwritten).trans (.of_others rfl rfl rfl rfl)

theorem Raced.request (hraced : Raced sessionId permitId database) {call : Call}
    {server : Server} (hrequest : isRequest server call)
    (hafter : afterRace (.request call)) (hleft : call.leaves database = some left) :
    Spares sessionId permitId database left := by
  cases call with
  | registerRole registration =>
    simp only [Call.leaves, toOption_eq_some, Service.registerRole, bind_eq_ok, pure_eq_ok] at hleft
    obtain ⟨-, -, -, -, rfl⟩ := hleft
    exact .of_others rfl rfl rfl rfl
  | claimRefreshPlan otherId request registration runtimeLabel timestamp assignmentId receiptId
      attemptId =>
    simp only [Call.leaves, Option.ite_none_right_eq_some, toOption_eq_some,
      except_map_eq_ok] at hleft
    obtain ⟨-, out, hclaim, rfl⟩ := hleft
    exact (hraced.claim (claimRefreshPlan_cases hclaim)).2
  | commit otherId expectedSessionRevision effectId timestamp =>
    simp only [Call.leaves, toOption_eq_some, except_map_eq_ok] at hleft
    obtain ⟨out, hcommit, rfl⟩ := hleft
    exact hraced.commit (commit_cases hcommit)
  | recordCommitRace otherId ports =>
    exact .writesAudit (recordCommitRace_writes (toOption_eq_some.mp hleft))
  | worldCommit input =>
    simp only [Call.leaves, toOption_eq_some, except_map_eq_ok] at hleft
    obtain ⟨-, -, rfl⟩ := hleft
    exact .of_others rfl rfl rfl rfl
  | createSession => exact hafter.elim
  | resetDemo => exact hafter.elim
  | _ => exact hrequest.elim

omit [DecisionParser.OutputPorts] in
/-- No continuation is started for the closed session. -/
theorem Raced.started (hraced : Raced sessionId permitId database) {call : Call}
    (hafter : afterRace (.request call)) {c : Continuation} (hc : c ∈ started database call) :
    c.sessionId ≠ sessionId := by
  cases call with
  | createSession => exact hafter.elim
  | claimRefreshPlan otherId request registration runtimeLabel timestamp assignmentId receiptId
      attemptId =>
    unfold Service.started at hc
    dsimp only at hc
    split at hc
    · rename_i hclaim
      obtain rfl := List.mem_singleton.mp hc
      exact (hraced.claim (claimRefreshPlan_cases hclaim)).1
    · cases hc
  | _ => cases hc

theorem Raced.work (hraced : Raced sessionId permitId database) {c : Continuation} {call : Call}
    {continuations : List Continuation} (hother : c.sessionId ≠ sessionId)
    (h : c.Advances database call continuations) (hleft : call.leaves database = some left) :
    Spares sessionId permitId database left := by
  cases h with
  | collect =>
    simp only [Call.leaves, toOption_eq_some, Service.transitionToCollecting, bind_eq_ok,
      orStop_eq_ok, pure_eq_ok] at hleft
    obtain ⟨_, hfound, session, rfl, -, -, rfl⟩ := hleft
    refine Spares.trans (.setSession ?_) (.writesAudit ⟨_, _, rfl⟩)
    exact (sessionById_some hfound).2.1 ▸ hother
  | capture =>
    obtain ⟨_, _, rfl⟩ := captureRefreshObservation_writes (toOption_eq_some.mp hleft)
    exact .of_others rfl rfl rfl rfl
  | observe stage own observed => exact .writesRuns (writesRuns_observer observed hleft)
  | joined | unjoined =>
    obtain rfl := Option.some.inj hleft
    exact .writesRuns writesRuns_join
  | close =>
    rcases failSession_cases (toOption_eq_some.mp hleft) with
      rfl | ⟨session, final, hfound, -, hfailed⟩
    · exact .refl
    · exact .failureWritten ((sessionById_some hfound).2.1 ▸ hother) hfailed
  | acceptInitial => exact .acceptAndValidate hraced hother (toOption_eq_some.mp hleft)
  | acceptRefresh =>
    simp only [Call.leaves, Option.ite_none_right_eq_some, toOption_eq_some] at hleft
    exact .acceptAndValidate hraced hother hleft.2

/-- The continuations of an event belong to sessions that had one, or that a
claim reopened. -/
theorem Raced.serve {server next : Server} {event : Event}
    (hraced : Raced sessionId permitId server.database)
    (hothers : ∀ c ∈ server.continuations, c.sessionId ≠ sessionId)
    (hafter : afterRace event) (h : serve server event = some next) :
    Spares sessionId permitId server.database next.database ∧
      ∀ c ∈ next.continuations, c.sessionId ≠ sessionId := by
  have hreplaced : ∀ index left, (∀ c ∈ left, c.sessionId ≠ sessionId) →
      ∀ c ∈ server.replace index left, c.sessionId ≠ sessionId := by
    intro index left hleft c hc
    rcases Server.mem_replace hc with hold | hnew
    · exact hothers c hold
    · exact hleft c hnew
  cases serve_cases h with
  | @request call _ asked published =>
    refine ⟨.published published fun _ hleft => hraced.request asked hafter hleft, ?_⟩
    intro c hc
    rcases List.mem_append.mp hc with hold | hnew
    · exact hothers c hold
    · exact hraced.started hafter hnew
  | work found advances published =>
    refine ⟨.published published fun _ hleft =>
      hraced.work (hothers _ found) advances hleft, hreplaced _ _ ?_⟩
    intro c hc
    rw [advances.sessionId c hc]
    exact hothers _ found
  | @resolve _ _ c₀ found stage refresh resolved =>
    refine ⟨.refl, hreplaced _ _ fun c hc => ?_⟩
    rw [List.mem_singleton.mp hc]
    exact hothers c₀ found
  | @fail _ c₀ found =>
    refine ⟨.refl, hreplaced _ _ fun c hc => ?_⟩
    rw [List.mem_singleton.mp hc]
    exact hothers c₀ found
  | finish => exact ⟨.refl, hreplaced _ _ nofun⟩
  | restart published =>
    exact ⟨.published published fun _ hleft => hraced.recoverSessions (toOption_eq_some.mp hleft),
      nofun⟩
  | restartIdle => exact ⟨.refl, nofun⟩

/-- No continuation of the run creates an effect for the session or the permit. -/
theorem Raced.run {server next : Server} {events : List Event}
    (hraced : Raced sessionId permitId server.database)
    (hothers : ∀ c ∈ server.continuations, c.sessionId ≠ sessionId)
    (hafter : ∀ e ∈ events, afterRace e) (h : Runs.run Service.serve server events = some next) :
    effectsOf sessionId permitId next.database = effectsOf sessionId permitId server.database := by
  induction events generalizing server with
  | nil =>
    rw [run_nil] at h
    rw [h]
  | cons event rest ih =>
    obtain ⟨middle, hstep, hrest⟩ := run_cons.mp h
    obtain ⟨hspares, hothers'⟩ :=
      hraced.serve hothers (hafter event List.mem_cons_self) hstep
    exact (ih (hraced.spared hspares) hothers'
      (fun e he => hafter e (List.mem_cons_of_mem _ he)) hrest).trans hspares.effects

end Sha256

end Spares

/-! ## Rejections -/

section Rejections

variable [Sha256] {database : EpochDatabase} {sessionId effectId : OpaqueId}
  {expectedSessionRevision : Nat} {timestamp : Timestamp}

/-- The store after a race: the session is closed and its permit revoked. -/
def racedDatabase (database : EpochDatabase) (sessionId permitId : OpaqueId)
    (timestamp : Timestamp) : EpochDatabase :=
  { database with
    snapshotRevision := database.snapshotRevision + 1
    sessions := modifyWhere (fun s => s.sessionId = sessionId)
      (fun s => { s with
        state := .COMMIT_RACE
        sessionRevision := s.sessionRevision + 1
        stateUpdatedAt := timestamp
        activePermitId := none }) database.sessions
    permits := modifyWhere (fun p => p.permitId = permitId)
      (fun p => { p with status := .REVOKED }) database.permits }

/-- A rejection that is no race comes from a request that stopped, and so wrote
nothing. -/
theorem rejected_cases {rejection : Rejection}
    (h : answer database sessionId expectedSessionRevision effectId timestamp =
      some (.rejected rejection)) :
    rejection.reasonCode ≠ .COMMIT_RACE ∧
        (∃ stop, commitProtectedEffect database identityPort sessionId expectedSessionRevision
          effectId timestamp = .error stop) ∨
      ∃ session permit, SessionBound database sessionId session ∧ Ready database session permit ∧
        database.effects.filter (fun e => e.sessionId = session.sessionId) = [] ∧
        commitProtectedEffect database identityPort sessionId expectedSessionRevision effectId
          timestamp = .ok (invalidateCommitRace database session permit.permitId timestamp) ∧
        (EpochStore.stamp
          (invalidateCommitRace database session permit.permitId timestamp).1 database).parses := by
  unfold answer at h
  split at h
  · rename_i left result hcommit
    split_ifs at h with hparses
    obtain rfl := Option.some.inj h
    have houtcome := commit_cases hcommit
    generalize hout : (left, CommitProtectedEffectResult.rejected rejection) = out at houtcome
    cases houtcome with
    | existing => cases hout
    | @race session permit bound none revision ready moved =>
      refine .inr ⟨session, permit, bound, ready, none, hcommit.trans (congrArg _ hout), ?_⟩
      rw [← hout]
      exact hparses
    | created => cases hout
  · rename_i r hstop
    obtain rfl := CommitProtectedEffectResult.rejected.inj (Option.some.inj h)
    exact .inl ⟨noRace_commitProtectedEffect _ hstop r rfl, _, hstop⟩
  · cases h

variable [DecisionParser.OutputPorts]

theorem publish_of_stop {stop : Stop}
    (h : commitProtectedEffect database identityPort sessionId expectedSessionRevision effectId
      timestamp = .error stop) :
    publish database (.commit sessionId expectedSessionRevision effectId timestamp) = none := by
  cases hpublish :
      publish database (.commit sessionId expectedSessionRevision effectId timestamp) with
  | none => rfl
  | some next =>
    obtain ⟨left, hleft, -⟩ := publish_eq_some.mp hpublish
    rw [Call.leaves, h] at hleft
    cases hleft

omit [DecisionParser.OutputPorts] in
/-- A race leaves the session closed, as nothing afterwards changes. -/
theorem raced_of_ready {session : EpochSession} {permit : EffectPermit} (timestamp : Timestamp)
    (hbound : SessionBound database sessionId session) (hready : Ready database session permit) :
    EpochStore.stamp (invalidateCommitRace database session permit.permitId timestamp).1 database =
        racedDatabase database sessionId permit.permitId timestamp ∧
      Raced sessionId permit.permitId
        (racedDatabase database sessionId permit.permitId timestamp) := by
  have hid : session.sessionId = sessionId := by
    have hmem : session ∈ database.sessions.filter fun s => s.sessionId = sessionId := by
      simp [hbound.only]
    simpa using (List.mem_filter.mp hmem).2
  have hpermits : modifyFirst (fun p => p.permitId = permit.permitId) revoke database.permits =
      modifyWhere (fun p => p.permitId = permit.permitId)
        (fun p => { p with status := .REVOKED }) database.permits := by
    refine modifyFirst_eq_modifyWhere hready.unique ?_
    simp [revoke, hready.issued.1, ← hready.issued.2]
  constructor
  · simp only [EpochStore.stamp, invalidateCommitRace, updateSession, racedDatabase, hpermits, hid]
  · refine ⟨?_, ?_, ?_⟩
    · refine ⟨{ session with
        state := .COMMIT_RACE
        sessionRevision := session.sessionRevision + 1
        stateUpdatedAt := timestamp
        activePermitId := none }, ?_, rfl, hready.quiescent.1⟩
      rw [racedDatabase, filter_modifyWhere (by simp), hbound.only]
      rfl
    · exact fun p hp hof => hready.quiescent.2 p hp (hof.trans hid.symm)
    · exact ⟨{ permit with status := .REVOKED }, mem_modifyWhere.mpr
        (.inl ⟨permit, (single?_mem hready.unique).1, by simp, rfl⟩), rfl, rfl⟩

/-- A rejection other than a race, or an error, leaves the store as it was. A
race closes the session and revokes its permit, and from then on no continuation
of the run creates an effect for the session or the permit. -/
theorem commitProtectedEffect_traceless_or_final (database : EpochDatabase)
    (sessionId : OpaqueId) (expectedSessionRevision : Nat) (effectId : OpaqueId)
    (timestamp : Timestamp) :
    ((answer database sessionId expectedSessionRevision effectId timestamp = none ∨
        ∃ rejection, answer database sessionId expectedSessionRevision effectId timestamp =
          some (.rejected rejection) ∧ rejection.reasonCode ≠ .COMMIT_RACE) →
      publish database (.commit sessionId expectedSessionRevision effectId timestamp) = none) ∧
    ∀ rejection, answer database sessionId expectedSessionRevision effectId timestamp =
        some (.rejected rejection) → rejection.reasonCode = .COMMIT_RACE →
      ∃ session permit,
        database.sessions.filter (fun s => s.sessionId = sessionId) = [session] ∧
        session.activePermitId = some permit.permitId ∧
        database.permits.filter (fun p => p.permitId = permit.permitId) = [permit] ∧
        permit.sessionId = sessionId ∧ permit.status = .ISSUED ∧
        publish database (.commit sessionId expectedSessionRevision effectId timestamp) =
          some (racedDatabase database sessionId permit.permitId timestamp) ∧
        ∀ continuations events server, (∀ c ∈ continuations, c.sessionId ≠ sessionId) →
          (∀ e ∈ events, afterRace e) →
          run serve ⟨racedDatabase database sessionId permit.permitId timestamp, continuations⟩
            events = some server →
          effectsOf sessionId permit.permitId server.database =
            effectsOf sessionId permit.permitId database := by
  constructor
  · rintro (hthrown | ⟨rejection, hrejected, hreason⟩)
    · unfold answer at hthrown
      split at hthrown
      · rename_i left result hcommit
        split_ifs at hthrown with hparses
        cases hpublish :
            publish database (.commit sessionId expectedSessionRevision effectId timestamp) with
        | none => rfl
        | some next =>
          obtain ⟨left', hleft, hparses', -⟩ := publish_eq_some.mp hpublish
          rw [Call.leaves, hcommit] at hleft
          obtain rfl := Option.some.inj hleft
          exact absurd hparses' hparses
      · cases hthrown
      · rename_i hstop
        exact publish_of_stop hstop
    · rcases rejected_cases hrejected with ⟨-, stop, hstop⟩ | ⟨session, permit, -, -, -, hcommit,
        hparses⟩
      · exact publish_of_stop hstop
      · have hrace : answer database sessionId expectedSessionRevision effectId timestamp =
            some (invalidateCommitRace database session permit.permitId timestamp).2 := by
          rw [answer, hcommit]
          exact if_pos hparses
        rw [hrejected] at hrace
        obtain rfl := CommitProtectedEffectResult.rejected.inj (Option.some.inj hrace)
        exact absurd rfl hreason
  · intro rejection hrejected hreason
    rcases rejected_cases hrejected with ⟨hother, -⟩ | ⟨session, permit, hbound, hready, -, hcommit,
      hparses⟩
    · exact absurd hreason hother
    · obtain ⟨hstamp, hraced⟩ := raced_of_ready timestamp hbound hready
      have hid : session.sessionId = sessionId := by
        have hmem : session ∈ database.sessions.filter fun s => s.sessionId = sessionId := by
          simp [hbound.only]
        simpa using (List.mem_filter.mp hmem).2
      refine ⟨session, permit, hbound.only, hready.activePermit, single?_eq_some.mp hready.unique,
        hready.permitBound.1.trans hid, hready.issued.1, ?_, ?_⟩
      · rw [← hstamp]
        refine publish_eq_some.mpr ⟨_, ?_, hparses, rfl⟩
        rw [Call.leaves, hcommit]
        rfl
      · intro continuations events server hothers hafter hrun
        exact hraced.run hothers hafter hrun

end Rejections

namespace Sample

/-- The same observations again: no value changes, but the head does. -/
def movedDatabase : EpochDatabase :=
  { database with toWorld := WorldLedger.afterCalls world [commit] }

scoped instance : DecisionParser.OutputPorts where
  jsonParse := fun _ => none
  redactRejectedDecisionOutput := id

theorem raced :
    (answer movedDatabase sessionId 5 effectId time).bind
      (fun | .rejected rejection => some rejection.reasonCode | .committed _ _ => none) =
      some .COMMIT_RACE := by decide +kernel

end Sample

open scoped Sample in
theorem commitProtectedEffect_traceless_or_final_sample :
    publish Sample.movedDatabase (.commit Sample.sessionId 5 Sample.effectId Sample.time) =
      some (racedDatabase Sample.movedDatabase Sample.sessionId Sample.permitId Sample.time) := by
  obtain ⟨result, hanswer, hcode⟩ := Option.bind_eq_some_iff.mp Sample.raced
  cases result with
  | committed created effect => cases hcode
  | rejected rejection =>
    obtain ⟨session, permit, hsession, hactive, -, -, -, hpublish, -⟩ :=
      (commitProtectedEffect_traceless_or_final Sample.movedDatabase Sample.sessionId 5
        Sample.effectId Sample.time).2 rejection hanswer (Option.some.inj hcode)
    rw [hpublish]
    have hpermit : permit.permitId = Sample.permitId := by
      have hsession' : [Sample.session] = [session] := hsession
      rw [← List.singleton_inj.mp hsession'] at hactive
      exact (Option.some.inj hactive).symm
    rw [hpermit]

end EffectGate

end EpochGuard
