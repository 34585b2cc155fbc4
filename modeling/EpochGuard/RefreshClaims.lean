import EpochGuard.EffectRetry
import EpochGuard.SessionHistory

/-!
# The claim of a refresh

A session's refresh is claimed at most once, and the claim is bound to the head,
the decisions and the receipts that the plan was built from. Whether a second
request for the plan is recognised depends on how far the run observer has moved
the claimed attempt.
-/

namespace EpochGuard

open Json Checked Runs

namespace RefreshPlanner

open EffectGate (WorldPort)

section Plans

variable [Sha256] {database : EpochDatabase} {world : WorldPort}
  {sessionId refreshPlanId : OpaqueId} {plan : RefreshPlan}

/-! ## What a plan is built from -/

/-- The plan for the Budget owner of a blocked session. -/
def builtPlan (refreshPlanId : OpaqueId) (session : EpochSession)
    (validation : ValidationRecord) : RefreshPlan where
  refreshPlanId := refreshPlanId
  sessionId := session.sessionId
  baseSessionRevision := session.sessionRevision
  validatedHead := validation.validatedHead
  dependencySetHash := validation.dependencySetHash
  activeDecisionCertificateIds := validation.decisionCertificateIds
  agentIds := [session.frozenAssignments.budget]
  status := .AVAILABLE
  claimedAttemptId := none

/-- The records that a plan is built from, which are all that `buildRefreshPlan`
looks at: the blocked session with its validation, the evidence of its
decisions, and a proof that closes over them. -/
structure Buildable (database : EpochDatabase) (world : WorldPort)
    (sessionId refreshPlanId : OpaqueId) (session : EpochSession)
    (validation : ValidationRecord) (evidence : PerRole RefreshEvidenceInterval) : Prop where
  blocked : requireBlockedValidation database sessionId refreshPlanId = .ok (session, validation)
  decided : orderedActiveDecisionIds session = .ok validation.decisionCertificateIds
  observed : PerRole.mapRoles (requireEvidence database world session validation
    validation.decisionCertificateIds) = .ok evidence
  distinct : (evidence.map RefreshEvidenceInterval.receiptId).Distinct
  dependencySet : EffectGate.snapshotReceiptDependencySetHash
    (evidence.map RefreshEvidenceInterval.receiptId).toList = validation.dependencySetHash
  proved : ∃ proof, single? database.noCutProofs
      (fun p => some p.proofId = validation.noCutProofId) = some proof ∧
    proofCloses session validation validation.decisionCertificateIds
      validation.dependencySetHash evidence proof ∧
    proof.refreshAgentIds = [session.frozenAssignments.budget]
  owners : refreshSet validation.validatedHead evidence =
    .ok [session.frozenAssignments.budget]

theorem buildRefreshPlan_eq_ok :
    buildRefreshPlan database world sessionId refreshPlanId = .ok plan ↔
      ∃ session validation evidence,
        Buildable database world sessionId refreshPlanId session validation evidence ∧
          plan = builtPlan refreshPlanId session validation := by
  simp only [buildRefreshPlan, bind_eq_ok, require_eq_ok, orStop_eq_ok, pure_eq_ok,
    requireP0BudgetOwner_eq_ok, Prod.exists]
  constructor
  · rintro ⟨session, validation, hblocked, ids, hids, -, hdecided, evidence, hevidence, -,
      hdistinct, -, hhash, proof, hproof, -, hcloses, -, ⟨howner, -⟩, agentIds, hagents, -,
      ⟨rfl, -⟩, -, hsame, rfl⟩
    subst hdecided
    rw [hhash] at hcloses
    exact ⟨session, validation, evidence, ⟨hblocked, hids, hevidence, hdistinct, hhash,
      ⟨proof, hproof, hcloses, howner⟩, hagents⟩, by rw [hhash]; rfl⟩
  · rintro ⟨session, validation, evidence, hbuild, rfl⟩
    obtain ⟨proof, hproof, hcloses, howner⟩ := hbuild.proved
    refine ⟨session, validation, hbuild.blocked, _, hbuild.decided, (), rfl, evidence,
      hbuild.observed, (), hbuild.distinct, (), hbuild.dependencySet, proof, hproof, (), ?_, _,
      ⟨howner, rfl⟩, _, hbuild.owners, _, ⟨rfl, rfl⟩, (), howner, ?_⟩
    · rw [hbuild.dependencySet]
      exact hcloses
    · rw [hbuild.dependencySet]
      rfl

/-- A blocked session with its current No-Cut validation: no permit, no attempt,
and no other plan. -/
structure Blocked (database : EpochDatabase) (refreshPlanId : OpaqueId) (session : EpochSession)
    (validation : ValidationRecord) : Prop where
  state : session.state = .BLOCKED_NO_CUT
  idle : session.activePermitId = none ∧ session.activeAttemptIds = PerRole.const none
  active : ∃ validationId ∈ session.activeValidationId,
    single? database.validations (fun v => v.validationId = validationId) = some validation
  outcome : validation.outcome = .NO_VALID_OBSERVED_WORLD_CUT ∧ validation.noCutProofId ≠ none ∧
    validation.jointValidityCertificateId = none ∧ validation.validatedHead = database.headSeq
  bound : validation.sessionId = session.sessionId ∧ validation.actionHash = session.actionHash
  plans : (∀ p ∈ validation.refreshPlanId, p = refreshPlanId) ∧
    ∀ p ∈ session.activeRefreshPlanId, p = refreshPlanId

omit [Sha256] in
theorem requireBlockedValidation_eq_ok {session : EpochSession} {validation : ValidationRecord} :
    requireBlockedValidation database sessionId refreshPlanId = .ok (session, validation) ↔
      single? database.sessions (fun s => s.sessionId = sessionId) = some session ∧
        Blocked database refreshPlanId session validation := by
  simp only [requireBlockedValidation, bind_eq_ok, require_eq_ok, orStop_eq_ok, pure_eq_ok,
    Prod.mk.injEq]
  constructor
  · rintro ⟨session', hsession, -, -, -, hstate, validationId, hactive, -, hidle, validation',
      hvalidation, -, houtcome, -, hbound, -, hplan, -, hplan', rfl, rfl⟩
    exact ⟨hsession, hstate, hidle, ⟨validationId, hactive, hvalidation⟩, houtcome, hbound, hplan,
      hplan'⟩
  · rintro ⟨hsession, hstate, hidle, ⟨validationId, hactive, hvalidation⟩, houtcome, hbound,
      hplan, hplan'⟩
    exact ⟨session, hsession, (), by simp [hstate], (), hstate, validationId, hactive, (), hidle,
      validation, hvalidation, (), houtcome, (), hbound, (), hplan, (), hplan', rfl, rfl⟩

/-- A session as far as the planner reads it, when it is rewound to a plan. -/
structure Rewound (session before : EpochSession) (plan : RefreshPlan) : Prop where
  id : session.sessionId = before.sessionId
  actionHash : session.actionHash = before.actionHash
  assignments : session.frozenAssignments = before.frozenAssignments
  decisions : session.activeDecisionCertificateIds = before.activeDecisionCertificateIds
  validation : session.activeValidationId = before.activeValidationId
  permit : session.activePermitId = before.activePermitId
  planned : session.activeRefreshPlanId = before.activeRefreshPlanId
  revision : plan.baseSessionRevision = before.sessionRevision

/-- A store in which a plan is built again reads as the one before it did. -/
structure Reads (before after : EpochDatabase) : Prop where
  world : after.toWorld = before.toWorld
  validations : after.validations = before.validations
  decisions : after.decisions = before.decisions
  proofs : after.noCutProofs = before.noCutProofs
  receipts : ∀ receiptId r, single? before.receipts (fun r => r.receiptId = receiptId) = some r →
    single? after.receipts (fun r => r.receiptId = receiptId) = some r

theorem requireEvidence_reads {after : EpochDatabase} (hreads : Reads database after)
    {session session' : EpochSession} (hrewound : Rewound session' session plan)
    {validation : ValidationRecord} {ids : PerRole OpaqueId} {role : Role}
    {evidence : RefreshEvidenceInterval}
    (h : requireEvidence database world session validation ids role = .ok evidence) :
    requireEvidence after world (planningSession session' plan) validation ids role =
      .ok evidence := by
  simp only [requireEvidence, roleForAgent, bind_eq_ok, require_eq_ok, orStop_eq_ok,
    pure_eq_ok] at h ⊢
  obtain ⟨decision, hdecision, -, hbound, owner, howner, -, rfl, receipt, hreceipt, hrest⟩ := h
  refine ⟨decision, hreads.decisions ▸ hdecision, (), ?_, owner, ?_, (), rfl, receipt,
    hreads.receipts _ _ hreceipt, ?_⟩
  · simpa only [planningSession, hrewound.id, hrewound.actionHash] using hbound
  · simpa only [planningSession, hrewound.assignments] using howner
  · simpa only [planningSession, hrewound.id, hrewound.actionHash, hreads.world] using hrest

theorem Buildable.rewind {before after : EpochDatabase} {session session' : EpochSession}
    {validation : ValidationRecord} {evidence : PerRole RefreshEvidenceInterval}
    (h : Buildable before world sessionId refreshPlanId session validation evidence)
    (hreads : Reads before after) (hrewound : Rewound session' session plan)
    (hsessions : single? after.sessions (fun s => s.sessionId = sessionId) =
      some (planningSession session' plan)) :
    Buildable after world sessionId refreshPlanId (planningSession session' plan) validation
      evidence := by
  obtain ⟨-, hblocked⟩ := requireBlockedValidation_eq_ok.mp h.blocked
  obtain ⟨proof, hproof, hcloses, howner⟩ := h.proved
  have hids := h.decided
  refine { blocked := requireBlockedValidation_eq_ok.mpr ⟨hsessions, ?_⟩
           decided := ?_, observed := ?_, distinct := h.distinct
           dependencySet := h.dependencySet, proved := ⟨proof, hreads.proofs ▸ hproof, ?_, ?_⟩
           owners := ?_ }
  · obtain ⟨hstate, ⟨hpermit, -⟩, ⟨validationId, hactive, hvalidation⟩,
      ⟨hout, hproofId, hcert, hhead⟩, ⟨hid, haction⟩, hplan, hplan'⟩ := hblocked
    refine ⟨rfl, ⟨hrewound.permit.trans hpermit, rfl⟩, ⟨validationId, ?_, ?_⟩,
      ⟨hout, hproofId, hcert, ?_⟩,
      ⟨hid.trans hrewound.id.symm, haction.trans hrewound.actionHash.symm⟩, hplan, ?_⟩
    · simpa only [planningSession, hrewound.validation] using hactive
    · rw [hreads.validations]
      exact hvalidation
    · rw [hreads.world]
      exact hhead
    · simpa only [planningSession, hrewound.planned] using hplan'
  · simpa only [orderedActiveDecisionIds, planningSession, hrewound.decisions] using hids
  · refine PerRole.mapRoles_eq_ok.mpr fun role => ?_
    exact requireEvidence_reads hreads hrewound (PerRole.mapRoles_eq_ok.mp h.observed role)
  · simpa only [proofCloses, planningSession, hrewound.id, hrewound.actionHash] using hcloses
  · simpa only [planningSession, hrewound.assignments] using howner
  · simpa only [planningSession, hrewound.assignments] using h.owners

end Plans

end RefreshPlanner

/-! ## One refresh for a session -/

/-- A refresh was claimed from these plans, or is given up: no plan of a session
with only one plan can be claimed any more. -/
def Exhausted (plans : List RefreshPlan) : Prop :=
  plans ≠ [] ∧ ∀ p, plans = [p] → p.status ≠ .AVAILABLE

theorem Exhausted.append {plans : List RefreshPlan} (h : Exhausted plans) (plan : RefreshPlan) :
    Exhausted (plans ++ [plan]) := by
  refine ⟨by simp, fun p hp => ?_⟩
  have hnone : plans = [] := List.eq_nil_of_length_eq_zero (by simpa using congrArg List.length hp)
  exact absurd hnone h.1

/-- Plans that are not reopened stay spent. -/
theorem Exhausted.rewritten {plans plans' : List RefreshPlan} (h : Exhausted plans)
    (hlength : plans'.length = plans.length)
    (hkept : ∀ q ∈ plans', q ∈ plans ∨ q.status ≠ .AVAILABLE) : Exhausted plans' := by
  refine ⟨fun hnone => h.1 (List.eq_nil_of_length_eq_zero (by simp [← hlength, hnone])), ?_⟩
  rintro q rfl
  obtain ⟨p, hp⟩ := List.length_eq_one_iff.mp hlength.symm
  rcases hkept q (List.mem_singleton_self q) with hold | hclosed
  · rw [hp, List.mem_singleton] at hold
    exact hold ▸ h.2 p hp
  · exact hclosed

namespace Evidence

/-- There is an assignment for each role at most, and one of a refresh, which
has used up the plan. -/
structure RefreshedOnce (e : Evidence) : Prop where
  attempts : e.attempts.length = e.assignments.length
  assignments : ∃ initial refresh, e.assignments.map RunAssignment.role = initial ++ refresh ∧
    initial.Nodup ∧ (refresh = [] ∨ refresh = [.budget] ∧ Exhausted e.plans)

theorem RefreshedOnce.congr {e e' : Evidence} (h : e.RefreshedOnce)
    (hattempts : e'.attempts.length = e.attempts.length)
    (hassignments : e'.assignments.map RunAssignment.role =
      e.assignments.map RunAssignment.role)
    (hplans : Exhausted e.plans → Exhausted e'.plans) : e'.RefreshedOnce := by
  have hlength : e'.assignments.length = e.assignments.length := by
    simpa using congrArg List.length hassignments
  obtain ⟨initial, refresh, hroles, hnodup, hrefresh⟩ := h.assignments
  refine ⟨by rw [hattempts, h.attempts, hlength],
    initial, refresh, hassignments.trans hroles, hnodup, ?_⟩
  exact hrefresh.imp id fun hspent => ⟨hspent.1, hplans hspent.2⟩

theorem refreshedOnce_step {e e' : Evidence} (h : e.RefreshedOnce) (hstep : e.Step e') :
    e'.RefreshedOnce := by
  cases hstep with
  | @assign a t fresh opened first role =>
    obtain ⟨initial, refresh, hroles, hnodup, hrefresh⟩ := h.assignments
    have hnone : refresh = [] := hrefresh.resolve_right fun hspent => hspent.2.1 first.1
    subst hnone
    rw [List.append_nil] at hroles
    refine ⟨by simp [h.attempts], initial ++ [a.role], [], by simp [hroles], ?_, .inl rfl⟩
    rw [← hroles, List.nodup_append]
    exact ⟨hroles ▸ hnodup, by simp, by simpa using role⟩
  | @claim a t plan claimed fresh role available claims =>
    obtain ⟨initial, refresh, hroles, hnodup, hrefresh⟩ := h.assignments
    have hnone : refresh = [] :=
      hrefresh.resolve_right fun hspent => hspent.2.2 plan available.1 available.2
    subst hnone
    rw [List.append_nil] at hroles
    refine ⟨by simp [h.attempts], initial, [.budget], by simp [hroles, role], hnodup,
      .inr ⟨rfl, by simp, ?_⟩⟩
    intro p hp
    rw [← List.singleton_inj.mp hp, claims.2]
    simp
  | update assignment attempt =>
    refine h.congr (by simp) ?_ id
    rw [List.map_map]
    exact List.map_congr_left fun a ha => (assignment a ha).1.role
  | @accept a t r existing certificate pointer consumed ready replaces assignment receipt kept role
      status =>
    refine h.congr (by simp [accept]) ?_ id
    refine map_modifyWhere fun b hb hid => ?_
    have hsame : b = a := single?_unique ready.assignment hb hid
    rw [hsame, kept.role]
  | settle same kept =>
    refine h.congr rfl rfl fun hspent => hspent.rewritten same fun q hq => ?_
    obtain ⟨p, hp, -, hsame | hclaimed | hstatus | hstatus⟩ := kept q hq
    · exact .inl (hsame ▸ hp)
    · exact .inr (by simp [hclaimed.1])
    · exact .inr (by simp [hstatus])
    · exact .inr (by simp [hstatus])
  | plan idle unpermitted session => exact h.congr rfl rfl fun hspent => hspent.append _
  | reset => exact ⟨rfl, [], [], rfl, List.nodup_nil, .inl rfl⟩
  | observe | openSession | permit | revoke | release | advance => exact h.congr rfl rfl id

theorem refreshedOnce_steps {e e' : Evidence} (h : e.RefreshedOnce) (hsteps : e.Steps e') :
    e'.RefreshedOnce := by
  induction hsteps with
  | refl => exact h
  | tail _ hstep ih => exact refreshedOnce_step ih hstep

/-- A session has at most one refresh assignment and attempt. -/
theorem refreshedOnce_reachable [Sha256] [DecisionParser.OutputPorts] {database : EpochDatabase}
    (h : Service.Reachable database) : database.evidence.RefreshedOnce := by
  have hboth : database.evidence.Inv ∧ database.evidence.RefreshedOnce := by
    refine h.induction (P := fun db => db.evidence.Inv ∧ db.evidence.RefreshedOnce)
      ⟨inv_empty, rfl, [], [], rfl, List.nodup_nil, .inl rfl⟩ ?_
    rintro before left call ⟨hinv, honce⟩ hleft -
    have hsteps := steps_leaves hinv hleft
    have hinv' : left.evidence.Inv := inv_steps hinv hsteps
    have honce' : left.evidence.RefreshedOnce := refreshedOnce_steps honce hsteps
    exact ⟨hinv', honce'⟩
  exact hboth.2

end Evidence

namespace Service

open DecisionParser RunObserver RefreshPlanner

/-! ## The claimed attempt under observation -/

/-- An unconsumed assignment has the Run of its attempt, once it is bound. -/
structure RunBound (assignment : RunAssignment) (attempt : AgentAttempt) : Prop where
  run : assignment.boundRunId = attempt.runId
  time : assignment.boundAt = none ↔ assignment.boundRunId = none
  status : assignment.status = .CREATED ∧ assignment.boundRunId = none ∨
    assignment.status = .BOUND ∧ assignment.boundRunId ≠ none ∨ assignment.status = .REJECTED

/-- What the run observer makes of an assignment and its attempt. -/
structure Moves (assignment : RunAssignment) (attempt : AgentAttempt)
    (assignment' : RunAssignment) (attempt' : AgentAttempt) : Prop where
  writes : ∃ boundRunId boundAt status,
    assignment' = { assignment with boundRunId, boundAt, status }
  identity : attempt'.attemptId = attempt.attemptId ∧ attempt'.sessionId = attempt.sessionId ∧
    attempt'.actionHash = attempt.actionHash ∧ attempt'.role = attempt.role ∧
    attempt'.agentId = attempt.agentId ∧ attempt'.assignmentId = attempt.assignmentId
  bound : RunBound assignment attempt → RunBound assignment' attempt'

theorem RunBound.rejected {assignment : RunAssignment} {attempt attempt' : AgentAttempt}
    (h : RunBound assignment attempt) (hrun : attempt'.runId = attempt.runId) :
    RunBound { assignment with status := .REJECTED } attempt' :=
  ⟨h.run.trans hrun.symm, h.time, .inr (.inr rfl)⟩

theorem failedAttempt_moves (attempt : AgentAttempt) (status : AttemptState)
    (run : Option AgentRun) :
    ∃ status' runStartedAt runCompletedAt usage, failedAttempt attempt status run =
      { attempt with status := status', runStartedAt, runCompletedAt, usage } := by
  unfold failedAttempt observeFailure
  split
  · exact ⟨_, _, _, _, rfl⟩
  · dsimp only
    split_ifs <;> exact ⟨_, _, _, _, rfl⟩
  · exact ⟨_, _, _, _, rfl⟩

section Claims

variable [Sha256] [OutputPorts] {database left : EpochDatabase}

theorem observer_moves {call : Call} {input : DispatchBindPollInput}
    (hinput : Continuation.observedInput call = some input)
    (h : call.leaves database = some left) :
    ∃ assignment attempt assignment' attempt',
      single? database.runAssignments (fun a => a.assignmentId = input.assignmentId) =
          some assignment ∧
        single? database.attempts (fun a => a.attemptId = input.attemptId) = some attempt ∧
        Moves assignment attempt assignment' attempt' ∧
        left = (database.setAssignment assignment').setAttempt attempt' := by
  cases call with
  | transitionToDispatching input' =>
    obtain rfl := Option.some.inj hinput
    simp only [Call.leaves, toOption_eq_some, except_map_eq_ok, Prod.exists,
      RunObserver.transitionToDispatching, bind_eq_ok, require_eq_ok, requireRecords_eq_ok,
      store_eq_ok, Prod.mk.injEq] at h
    obtain ⟨_, _, ⟨a, t, ⟨ha, ht⟩, -, -, -, -, -, -, -, rfl, -⟩, rfl⟩ := h
    refine ⟨a, t, _, _, ha, ht, ?_, rfl⟩
    exact ⟨⟨_, _, _, rfl⟩, ⟨rfl, rfl, rfl, rfl, rfl, rfl⟩,
      fun hbound => ⟨hbound.run, hbound.time, hbound.status⟩⟩
  | bindRunOnce input' run boundAt =>
    obtain rfl := Option.some.inj hinput
    simp only [Call.leaves, toOption_eq_some, except_map_eq_ok, Prod.exists,
      RunObserver.bindRunOnce, bind_eq_ok, require_eq_ok, requireRecords_eq_ok,
      store_eq_ok, Prod.mk.injEq] at h
    obtain ⟨_, _, ⟨a, t, ⟨ha, ht⟩, -, -, -, -, runId, -, -, rfl, -⟩, rfl⟩ := h
    refine ⟨a, t, _, _, ha, ht, ?_, rfl⟩
    exact ⟨⟨_, _, _, rfl⟩, ⟨rfl, rfl, rfl, rfl, rfl, rfl⟩,
      fun _ => ⟨rfl, by simp, .inr (.inl ⟨rfl, by simp⟩)⟩⟩
  | mirrorRun input' agentId run =>
    obtain rfl := Option.some.inj hinput
    simp only [Call.leaves, toOption_eq_some, except_map_eq_ok, Prod.exists,
      RunObserver.mirrorRun, bind_eq_ok, require_eq_ok, requireRecords_eq_ok,
      store_eq_ok, Prod.mk.injEq] at h
    obtain ⟨_, _, ⟨runId, -, -, -, target, -, a, t, ⟨ha, ht⟩, -, ⟨hrun, hrun', hstatus⟩, -, -, -, -,
      -, -, -, -, -, -, _, -, -, rfl, -⟩, rfl⟩ := h
    refine ⟨a, t, _, _, ha, ht, ?_, rfl⟩
    refine ⟨⟨_, _, _, rfl⟩, ⟨rfl, rfl, rfl, rfl, rfl, rfl⟩, fun hbound => ?_⟩
    refine ⟨hbound.run, hbound.time, ?_⟩
    -- a failed or interrupted mirror rejects the assignment, any other one leaves it
    -- bound
    by_cases hfailed : target.status = .FAILED ∨ target.status = .INTERRUPTED
    · exact .inr (.inr (by simp [hfailed]))
    · simpa [hfailed] using hbound.status
  | failAttempt input' status run =>
    obtain rfl := Option.some.inj hinput
    simp only [Call.leaves, Option.ite_none_right_eq_some, toOption_eq_some, except_map_eq_ok,
      Prod.exists, RunObserver.failAttempt, bind_eq_ok, require_eq_ok, requireRecords_eq_ok,
      store_eq_ok, Prod.mk.injEq] at h
    obtain ⟨-, _, _, ⟨a, t, ⟨ha, ht⟩, -, -, -, -, -, rfl, -⟩, rfl⟩ := h
    obtain ⟨_, _, _, _, hfailed⟩ := failedAttempt_moves t status run
    rw [hfailed]
    refine ⟨a, t, _, _, ha, ht, ?_, rfl⟩
    exact ⟨⟨_, _, _, rfl⟩, ⟨rfl, rfl, rfl, rfl, rfl, rfl⟩, fun hbound => hbound.rejected rfl⟩
  | rejectCompletedOutput input' =>
    obtain rfl := Option.some.inj hinput
    simp only [Call.leaves, toOption_eq_some, except_map_eq_ok, Prod.exists,
      RunObserver.rejectCompletedOutput, bind_eq_ok, require_eq_ok, requireRecords_eq_ok,
      store_eq_ok, Prod.mk.injEq] at h
    obtain ⟨_, _, ⟨a, t, ⟨ha, ht⟩, -, -, -, rfl, -⟩, rfl⟩ := h
    refine ⟨a, t, _, _, ha, ht, ?_, rfl⟩
    exact ⟨⟨_, _, _, rfl⟩, ⟨rfl, rfl, rfl, rfl, rfl, rfl⟩, fun hbound => hbound.rejected rfl⟩
  | _ => cases hinput

/-- The records of a claimed refresh belong together: both are of the session's
Budget owner, and nothing has consumed them. -/
structure Claimed (session : EpochSession) (assignment : RunAssignment) (attempt : AgentAttempt) :
    Prop where
  owner : attempt.assignmentId = assignment.assignmentId
  attempted : attempt.sessionId = session.sessionId ∧ attempt.actionHash = session.actionHash ∧
    attempt.role = .budget ∧ attempt.agentId = session.frozenAssignments.budget
  assigned : assignment.sessionId = session.sessionId ∧
    assignment.actionHash = session.actionHash ∧ assignment.role = .budget ∧
    assignment.agentId = session.frozenAssignments.budget
  query : assignment.queryHash =
    (buildRoleQuerySpec session.action.toActionCanonicalFields .budget).queryHash
  unconsumed : assignment.consumedAt = none ∧
    assignment.consumedByDecisionCertificateId = none
  bound : RunBound assignment attempt

/-- A session that reobserves, with its claimed plan and the records of the
claim. At the head of the plan, the plan could be built again. -/
structure Reobserving (database : EpochDatabase) (session : EpochSession) (plan : RefreshPlan)
    (assignment : RunAssignment) (attempt : AgentAttempt) : Prop where
  sessions : database.sessions = [session]
  state : session.state = .REOBSERVING
  plans : database.refreshPlans = [plan]
  planned : plan.status = .CLAIMED ∧ plan.claimedAttemptId = some attempt.attemptId ∧
    plan.sessionId = session.sessionId ∧ plan.agentIds = [session.frozenAssignments.budget]
  revision : plan.baseSessionRevision < session.sessionRevision
  pointers : session.activeRefreshPlanId = some plan.refreshPlanId ∧
    session.activePermitId = none ∧
    session.activeAttemptIds = ⟨none, some attempt.attemptId, none⟩
  binds : activeValidationBindsPlan database session plan = true
  head : plan.validatedHead ≤ database.headSeq
  rebuilt : database.headSeq = plan.validatedHead → ∃ validation evidence,
    Buildable (database.setSession (planningSession session plan)) EffectGate.identityPort
        session.sessionId plan.refreshPlanId (planningSession session plan) validation evidence ∧
      samePlan plan (builtPlan plan.refreshPlanId (planningSession session plan) validation)
  assigned : single? database.runAssignments
    (fun a => a.assignmentId = assignment.assignmentId) = some assignment
  attempted : single? database.attempts (fun a => a.attemptId = attempt.attemptId) = some attempt
  claimed : Claimed session assignment attempt

/-- The claim that a duplicate request recognises: its attempt has not ended and
its assignment has not been rejected. -/
def Live (assignment : RunAssignment) (attempt : AgentAttempt) : Prop :=
  (attempt.status = .ASSIGNMENT_CREATED ∨ attempt.status = .DISPATCHING ∨
    attempt.status = .QUEUED ∨ attempt.status = .RUNNING) ∧ assignment.status ≠ .REJECTED

instance (assignment : RunAssignment) (attempt : AgentAttempt) :
    Decidable (Live assignment attempt) :=
  inferInstanceAs (Decidable (_ ∧ _))

omit [Sha256] [OutputPorts] in
theorem claimedLifecycleMatches_iff {assignment : RunAssignment} {attempt : AgentAttempt}
    (h : RunBound assignment attempt) :
    claimedLifecycleMatches true attempt assignment ↔ Live assignment attempt := by
  have hrun := h.run
  simp only [claimedLifecycleMatches, Live, if_true, Bool.true_eq_false, false_and, or_false]
  refine and_congr_right fun _ => ?_
  rcases h.status with ⟨hstatus, hnone⟩ | ⟨hstatus, hsome⟩ | hstatus
  · simp [hstatus, hnone, h.time, ← hrun]
  · rw [hrun] at hsome
    simp [hstatus, hsome, h.time, hrun]
  · simp [hstatus]

/-- The closure of a claimed plan holds exactly while the claim is live. -/
theorem Reobserving.closure (hreachable : Reachable database) {session : EpochSession}
    {plan : RefreshPlan} {assignment : RunAssignment} {attempt : AgentAttempt}
    (h : Reobserving database session plan assignment attempt)
    (hhead : database.headSeq = plan.validatedHead) {attemptId : OpaqueId} :
    assertClaimedPlanClosure database session plan session.frozenAssignments.budget
        EffectGate.identityPort = .ok attemptId ↔
      attempt.attemptId = attemptId ∧ Live assignment attempt := by
  have hinv := Evidence.inv_reachable hreachable
  obtain ⟨hstatus, hattempt, hplan, -⟩ := h.planned
  obtain ⟨hactive, hpermit, hattempts⟩ := h.pointers
  obtain ⟨validation, evidence, hbuild, hsame⟩ := h.rebuilt hhead
  have hbuilt := buildRefreshPlan_eq_ok.mpr ⟨_, _, _, hbuild, rfl⟩
  have hparses : attempt.parses := hreachable.parses.2.1 _ (single?_mem h.attempted).1
  have howner := h.claimed.owner
  have hassigned : single? database.runAssignments
      (fun a => a.assignmentId = attempt.assignmentId) = some assignment := by
    rw [howner]
    exact h.assigned
  have halone : (database.attempts.filter
      fun a => a.assignmentId = assignment.assignmentId).length = 1 := by
    have honly := single?_eq_some.mp
      (single?_of_nodup_key hinv.attempts (single?_mem h.attempted).1)
    rw [howner] at honly
    exact congrArg List.length honly
  simp only [assertClaimedPlanClosure, bind_eq_ok, require_eq_ok, orStop_eq_ok, pure_eq_ok]
  constructor
  · rintro ⟨claimedAttemptId, hclaimed, -, -, -, -, authoritative, -, -, -, attempt', hattempt', -,
      -, assignment', hassignment', -, hrest, rfl⟩
    obtain rfl := Option.some.inj (hattempt.symm.trans hclaimed)
    obtain rfl := Option.some.inj (h.attempted.symm.trans hattempt')
    obtain rfl := Option.some.inj (hassigned.symm.trans hassignment')
    obtain ⟨-, -, -, -, -, -, -, -, -, -, -, -, hlifecycle⟩ := hrest
    rw [h.state] at hlifecycle
    exact ⟨rfl, (claimedLifecycleMatches_iff h.claimed.bound).mp hlifecycle⟩
  · rintro ⟨rfl, hlive⟩
    obtain ⟨hsession, haction, hrole, hagent⟩ := h.claimed.attempted
    obtain ⟨hsession', haction', hrole', hagent'⟩ := h.claimed.assigned
    refine ⟨_, hattempt, (), ⟨hstatus, hplan.symm ▸ rfl, ?_, h.revision, hactive, hpermit,
      hattempts, hhead, h.binds⟩, (), ?_, _, hbuilt, (), hsame, attempt, h.attempted, (), hparses,
      assignment, hassigned, (), ⟨halone, hsession, haction, hrole, hagent, hsession', haction',
      hrole', hagent', h.claimed.query, h.claimed.unconsumed.1, h.claimed.unconsumed.2, ?_⟩, rfl⟩
    · simp [h.state]
    · simp [h.sessions]
    · rw [h.state]
      exact (claimedLifecycleMatches_iff h.claimed.bound).mpr hlive

omit [OutputPorts] in
/-- A further request for the plan of a session that reobserves never writes. -/
theorem Reobserving.claim_eq {session : EpochSession} {plan : RefreshPlan}
    {assignment : RunAssignment} {attempt : AgentAttempt}
    (h : Reobserving database session plan assignment attempt) {request : RefreshSessionRequest}
    (hrequest : request.refreshPlanId = plan.refreshPlanId) {timestamp : Timestamp}
    {createArtifacts : EpochSession → RefreshPlan → Role → OpaqueId →
      Except String RefreshClaimArtifacts} :
    claimRefreshPlan database EffectGate.identityPort session.sessionId request timestamp
        createArtifacts =
      .error (match assertClaimedPlanClosure database session plan
          session.frozenAssignments.budget EffectGate.identityPort with
        | .ok attemptId =>
            .abort (.ALREADY_REOBSERVING ⟨session.sessionId, plan.refreshPlanId, attemptId⟩)
        | .error message => .thrown message) := by
  obtain ⟨hstatus, -, hplan, howner⟩ := h.planned
  have hexists : ∃ s ∈ database.sessions, s.sessionId = session.sessionId :=
    ⟨session, by simp [h.sessions], rfl⟩
  have hsession : single? database.sessions (fun s => s.sessionId = session.sessionId) =
      some session := by simp [single?, only?, h.sessions]
  have hrequired : requirePlan database session request = .ok plan := by
    simp [requirePlan, h.plans, hplan, hrequest, only?, require, orStop]
  have hbudget : requireP0BudgetOwner session plan.agentIds =
      .ok session.frozenAssignments.budget := requireP0BudgetOwner_eq_ok.mpr ⟨howner, rfl⟩
  have hopen : plan.status ≠ .COMPLETED ∧ plan.status ≠ .INVALIDATED := by simp [hstatus]
  unfold claimRefreshPlan
  rw [require_pos hexists, hsession]
  show (requirePlan database session request >>= fun _ => _) = _
  rw [hrequired]
  show (require _ _ >>= fun _ => _) = _
  rw [require_pos hopen, hbudget]
  show (if plan.status = .CLAIMED then _ else _) = _
  rw [if_pos hstatus]
  cases assertClaimedPlanClosure database session plan session.frozenAssignments.budget
    EffectGate.identityPort <;> rfl

/-- It is told of the claimed attempt exactly while the claim is live. -/
theorem Reobserving.answer (hreachable : Reachable database) {session : EpochSession}
    {plan : RefreshPlan} {assignment : RunAssignment} {attempt : AgentAttempt}
    (h : Reobserving database session plan assignment attempt)
    (hhead : database.headSeq = plan.validatedHead) {request : RefreshSessionRequest}
    (hrequest : request.refreshPlanId = plan.refreshPlanId) {timestamp : Timestamp}
    {createArtifacts : EpochSession → RefreshPlan → Role → OpaqueId →
      Except String RefreshClaimArtifacts} :
    claimRefreshPlan database EffectGate.identityPort session.sessionId request timestamp
        createArtifacts =
      .error (.abort (.ALREADY_REOBSERVING
        ⟨session.sessionId, plan.refreshPlanId, attempt.attemptId⟩)) ↔
      Live assignment attempt := by
  have hclosure := @Reobserving.closure _ _ _ hreachable _ _ _ _ h hhead attempt.attemptId
  rw [h.claim_eq hrequest]
  cases hclosed : assertClaimedPlanClosure database session plan
      session.frozenAssignments.budget EffectGate.identityPort with
  | error message =>
    rw [hclosed] at hclosure
    simpa using hclosure
  | ok attemptId =>
    obtain ⟨rfl, hlive⟩ := (h.closure hreachable hhead).mp hclosed
    simp [hlive]

/-! ## What keeps a claim -/

omit [OutputPorts] in
/-- A step that leaves the session, its plan and its validation alone keeps the
claim; one that moves the head past the plan may change the World. -/
theorem Reobserving.keep {session : EpochSession} {plan : RefreshPlan}
    {assignment assignment' : RunAssignment} {attempt attempt' : AgentAttempt}
    (h : Reobserving database session plan assignment attempt)
    (hsessions : left.sessions = database.sessions)
    (hplans : left.refreshPlans = database.refreshPlans)
    (hvalidations : left.validations = database.validations)
    (hhead : database.headSeq ≤ left.headSeq)
    (hreads : left.headSeq = database.headSeq → Reads database left)
    (hid : attempt'.attemptId = attempt.attemptId)
    (hassigned : single? left.runAssignments
      (fun a => a.assignmentId = assignment'.assignmentId) = some assignment')
    (hattempted : single? left.attempts
      (fun a => a.attemptId = attempt'.attemptId) = some attempt')
    (hclaimed : Claimed session assignment' attempt') :
    Reobserving left session plan assignment' attempt' where
  sessions := hsessions.trans h.sessions
  state := h.state
  plans := hplans.trans h.plans
  planned := hid ▸ h.planned
  revision := h.revision
  pointers := hid ▸ h.pointers
  binds := by
    rw [activeValidationBindsPlan, hvalidations]
    exact h.binds
  head := h.head.trans hhead
  rebuilt := by
    intro hcurrent
    have hsame : left.headSeq = database.headSeq :=
      Nat.le_antisymm (hcurrent ▸ h.head) hhead
    obtain ⟨validation, evidence, hbuild, hplan⟩ := h.rebuilt (hsame.symm.trans hcurrent)
    have hreads := hreads hsame
    refine ⟨validation, evidence, hbuild.rewind
      ⟨hreads.world, hreads.validations, hreads.decisions, hreads.proofs, hreads.receipts⟩
      ⟨rfl, rfl, rfl, rfl, rfl, rfl, rfl, rfl⟩ ?_, hplan⟩
    rw [EpochDatabase.setSession, hsessions, h.sessions]
    simp [single?, only?, modifyWhere, planningSession]
  assigned := hassigned
  attempted := hattempted
  claimed := hclaimed

omit [Sha256] [OutputPorts] in
theorem Reads.of_eq (hworld : left.toWorld = database.toWorld)
    (hvalidations : left.validations = database.validations)
    (hdecisions : left.decisions = database.decisions)
    (hproofs : left.noCutProofs = database.noCutProofs)
    (hreceipts : left.receipts = database.receipts) : Reads database left :=
  ⟨hworld, hvalidations, hdecisions, hproofs, fun _ _ h => hreceipts ▸ h⟩

/-- The session once its refresh is claimed. -/
def reobservingSession (session : EpochSession) (attemptId : OpaqueId) (timestamp : Timestamp) :
    EpochSession :=
  { session with
    activeAttemptIds := session.activeAttemptIds.set .budget (some attemptId)
    state := .REOBSERVING
    sessionRevision := session.sessionRevision + 1
    stateUpdatedAt := timestamp }

omit [Sha256] [OutputPorts] in
theorem recordClaim_sessions {session : EpochSession} {plan : RefreshPlan}
    {artifacts : RefreshClaimArtifacts} {timestamp : Timestamp}
    (hsessions : database.sessions = [session]) :
    (recordClaim database session plan .budget artifacts timestamp).sessions =
      [reobservingSession session artifacts.attempt.attemptId timestamp] := by
  simp [recordClaim, EpochDatabase.setSession, EpochDatabase.setRefreshPlan, hsessions,
    modifyWhere, reobservingSession]

omit [Sha256] [OutputPorts] in
theorem recordClaim_plans (session : EpochSession) {plan : RefreshPlan}
    (artifacts : RefreshClaimArtifacts) (timestamp : Timestamp)
    (hplans : database.refreshPlans = [plan]) :
    (recordClaim database session plan .budget artifacts timestamp).refreshPlans =
      [claimedPlan plan artifacts.attempt] := by
  simp [recordClaim, EpochDatabase.setSession, EpochDatabase.setRefreshPlan, hplans,
    modifyWhere, claimedPlan]

omit [Sha256] [OutputPorts] in
/-- A record appended under a fresh key is the only one with it. -/
theorem single?_appended {α κ : Type} [DecidableEq κ] {l : List α} {key : α → κ} {a : α}
    (hfresh : ∀ b ∈ l, key b ≠ key a) :
    single? (l ++ [a]) (fun b => key b = key a) = some a := by
  have hnone : l.filter (fun b => decide (key b = key a)) = [] := by
    simpa [List.filter_eq_nil_iff] using hfresh
  simp [single?, hnone, only?]

/-- The claim of a plan that still matches leaves its session reobserving. -/
theorem reobserving_of_claim (hreachable : Reachable database) {sessionId : OpaqueId}
    {request : RefreshSessionRequest} (timestamp : Timestamp) {session : EpochSession}
    {plan : RefreshPlan} {artifacts : RefreshClaimArtifacts}
    (hfound : single? database.sessions (fun s => s.sessionId = sessionId) = some session)
    (hplanned : requirePlan database session request = .ok plan)
    (howner : plan.agentIds = [session.frozenAssignments.budget])
    (hmatching : planStillMatches database session plan EffectGate.identityPort = true)
    (hactive : session.activeRefreshPlanId = some plan.refreshPlanId)
    (hfresh : assertClaimArtifacts database session .budget session.frozenAssignments.budget
      artifacts = .ok ()) :
    ∃ session', Reobserving (EpochStore.stamp
        (recordClaim database session plan .budget artifacts timestamp) database) session'
      (claimedPlan plan artifacts.attempt) artifacts.assignment artifacts.attempt := by
  have hinv := Evidence.inv_reachable hreachable
  obtain ⟨hmem, hid⟩ := single?_mem hfound
  simp only [decide_eq_true_eq] at hid
  have halone : database.sessions.length ≤ 1 := by
    simpa [EpochDatabase.evidence] using hinv.alone
  have hsessions := eq_singleton_of_mem halone hmem
  have hplans := Evidence.plans_eq hinv hmem (Evidence.requirePlan_cases hplanned).1
  simp only [planStillMatches, Bool.and_eq_true, decide_eq_true_eq] at hmatching
  obtain ⟨⟨⟨havailable, hunclaimed⟩, hbinds⟩, hmatching⟩ := hmatching
  split at hmatching
  case h_2 => cases hmatching
  rename_i authoritative hbuilt
  simp only [Bool.and_eq_true, decide_eq_true_eq] at hmatching
  obtain ⟨hof, hsame⟩ := hmatching
  -- the plan that is claimed is the one that would be built at this moment
  obtain ⟨session₀, validation, evidence, hbuild, rfl⟩ := buildRefreshPlan_eq_ok.mp hbuilt
  obtain ⟨hfound₀, hblocked⟩ := requireBlockedValidation_eq_ok.mp hbuild.blocked
  have hsession₀ : session₀ = session := by
    have hmem₀ := (single?_mem hfound₀).1
    rw [hsessions] at hmem₀
    exact List.mem_singleton.mp hmem₀
  subst hsession₀
  simp only [assertClaimArtifacts, bind_eq_ok, require_eq_ok] at hfresh
  obtain ⟨-, -, -, ⟨hsession, haction, hagent, hrole, hcreated, hquery, hrun, hboundAt, hconsumedAt,
    hconsumedBy⟩, -, ⟨hsession', haction', hagent', hrole', howner', -, hrun', -⟩, hassignments, -,
    hattempts⟩ := hfresh
  refine ⟨_, {
    sessions := recordClaim_sessions hsessions
    state := rfl
    plans := ?_
    planned := ⟨rfl, rfl, hof, howner⟩
    revision := ?_
    pointers := ⟨hactive, hblocked.idle.1, ?_⟩
    binds := hbinds
    head := ?_
    rebuilt := fun _ => ⟨validation, evidence, hbuild.rewind (Reads.of_eq rfl rfl rfl rfl rfl)
      ⟨rfl, rfl, rfl, rfl, rfl, rfl, rfl, hsame.1⟩ ?_, ?_⟩
    assigned := ?_
    attempted := ?_
    claimed := ?_ }⟩
  · exact recordClaim_plans session₀ artifacts timestamp hplans
  · show plan.baseSessionRevision < session₀.sessionRevision + 1
    have hbase : plan.baseSessionRevision = session₀.sessionRevision := hsame.1
    omega
  · show session₀.activeAttemptIds.set .budget _ = _
    rw [hblocked.idle.2]
    rfl
  · show plan.validatedHead ≤ database.headSeq
    have hhead : plan.validatedHead = validation.validatedHead := hsame.2.1
    rw [hhead, hblocked.outcome.2.2.2]
  · -- the session is found again after it has been put back to where its plan was
    -- built
    have hrewound : ((EpochStore.stamp
        (recordClaim database session₀ plan .budget artifacts timestamp) database).setSession
          (planningSession
            (reobservingSession session₀ artifacts.attempt.attemptId timestamp)
            (claimedPlan plan artifacts.attempt))).sessions = [_] :=
      setSession_of_singleton _ (recordClaim_sessions hsessions) rfl
    rw [hrewound]
    simp [single?, only?, planningSession, reobservingSession]
  · exact ⟨rfl, hsame.2⟩
  · exact single?_appended fun a ha => (hassignments a ha).1
  · exact single?_appended hattempts
  · exact ⟨howner', ⟨hsession', haction', hrole', hagent'⟩, ⟨hsession, haction, hrole, hagent⟩,
      hquery, ⟨hconsumedAt, hconsumedBy⟩,
      ⟨hrun.trans hrun'.symm, by simp [hboundAt, hrun], .inl ⟨hcreated, hrun⟩⟩⟩

/-! ## What keeps a spent plan -/

omit [Sha256] [OutputPorts] in
theorem exhausted_setRefreshPlan (h : Exhausted database.refreshPlans) {plan : RefreshPlan}
    (hstatus : plan.status ≠ .AVAILABLE) :
    Exhausted (database.setRefreshPlan plan).refreshPlans := by
  refine h.rewritten length_modifyWhere fun q hq => ?_
  rcases mem_modifyWhere.mp hq with ⟨-, -, -, rfl⟩ | ⟨hold, -⟩
  · exact .inr hstatus
  · exact .inl hold

omit [Sha256] [OutputPorts] in
theorem exhausted_completed (h : Exhausted database.refreshPlans)
    {refreshPlan completed : Option RefreshPlan}
    (hcompleted : completedPlan database refreshPlan = .ok completed) :
    Exhausted (completed.elim database (setFirstRefreshPlan database)).refreshPlans := by
  have hlength : (completed.elim database (setFirstRefreshPlan database)).refreshPlans.length =
      database.refreshPlans.length := by
    cases completed with
    | none => rfl
    | some plan =>
      have hunits := map_modifyFirst (l := database.refreshPlans) (g := fun _ => ())
        (p := fun p => p.refreshPlanId = plan.refreshPlanId) (f := fun _ => plan) (fun _ _ _ => rfl)
      simpa [setFirstRefreshPlan] using congrArg List.length hunits
  obtain ⟨_, hplanned, hplans⟩ := completedPlan_written hcompleted
  refine h.rewritten hlength fun q hq => ?_
  rw [hplanned] at hq
  rcases hplans q hq with hold | ⟨hstatus, -⟩
  · exact .inl hold
  · exact .inr (by simp [hstatus])

omit [OutputPorts] in
theorem exhausted_persistValidation (h : Exhausted database.refreshPlans) {session : EpochSession}
    {refreshPlan : Option RefreshPlan} {ports : ValidationPorts}
    (hpersist : Service.persistValidation database session refreshPlan ports = .ok left) :
    Exhausted left.refreshPlans := by
  simp only [Service.persistValidation, bind_eq_ok, mapError_eq_ok] at hpersist
  obtain ⟨result, -, hpersist⟩ := hpersist
  split at hpersist
  · simp only [persistReady, bind_eq_ok, orStop_eq_ok, pure_eq_ok] at hpersist
    obtain ⟨certificate, -, completed, hcompleted, rfl⟩ := hpersist
    exact exhausted_completed h hcompleted
  · simp only [persistNoCut, bind_eq_ok, orStop_eq_ok, mapError_eq_ok, pure_eq_ok] at hpersist
    obtain ⟨proof, -, plan, -, diagnosed, hdiagnosed, rfl⟩ := hpersist
    obtain ⟨_, _, rfl⟩ := appendDiagnostic_writes hdiagnosed
    exact h.append plan
  · simp only [persistDeny, bind_eq_ok, pure_eq_ok] at hpersist
    obtain ⟨completed, hcompleted, refs, -, diagnosed, hdiagnosed, rfl⟩ := hpersist
    obtain ⟨_, _, rfl⟩ := appendDiagnostic_writes hdiagnosed
    exact exhausted_completed h hcompleted
  · obtain ⟨_, _, rfl⟩ := appendDiagnostic_writes hpersist
    exact h
  · obtain rfl := pure_eq_ok.mp hpersist
    exact h

omit [Sha256] [OutputPorts] in
theorem exhausted_closed (h : Exhausted database.refreshPlans) {session : EpochSession}
    {terminalStatus : AttemptState} {preserved : Option Role} {closure : RefreshFailureClosure}
    (hclosure : closeClaimedRefreshFailure database session terminalStatus preserved =
      .ok closure) : Exhausted closure.database.refreshPlans := by
  have hinvalidated (plan : RefreshPlan) :
      Exhausted (database.setRefreshPlan (invalidated plan)).refreshPlans :=
    exhausted_setRefreshPlan h (by simp [invalidated])
  unfold closeClaimedRefreshFailure at hclosure
  dsimp only at hclosure
  split at hclosure
  · obtain rfl := pure_eq_ok.mp hclosure
    exact h
  · split at hclosure
    · obtain rfl := pure_eq_ok.mp hclosure
      exact h
    · split at hclosure
      · split at hclosure
        · unfold closeBoundRefresh at hclosure
          dsimp only at hclosure
          split at hclosure
          · simp only [bind_eq_ok, pure_eq_ok] at hclosure
            obtain ⟨-, -, rfl⟩ := hclosure
            exact h
          · split at hclosure
            · simp only [bind_eq_ok, pure_eq_ok] at hclosure
              obtain ⟨-, -, rfl⟩ := hclosure
              exact h
            · obtain rfl := pure_eq_ok.mp hclosure
              exact hinvalidated _
        · obtain rfl := pure_eq_ok.mp hclosure
          exact hinvalidated _
      · obtain rfl := pure_eq_ok.mp hclosure
        exact hinvalidated _

omit [Sha256] [OutputPorts] in
theorem exhausted_failSession (h : Exhausted database.refreshPlans) {sessionId : OpaqueId}
    {error : ServiceError} {ports : FailPorts}
    (hfail : Service.failSession database sessionId error ports = .ok left) :
    Exhausted left.refreshPlans := by
  simp only [Service.failSession, bind_eq_ok] at hfail
  obtain ⟨found, -, hfail⟩ := hfail
  cases found with
  | none => exact pure_eq_ok.mp hfail ▸ h
  | some session =>
    dsimp only at hfail
    split at hfail
    · exact pure_eq_ok.mp hfail ▸ h
    · simp only [bind_eq_ok, pure_eq_ok] at hfail
      obtain ⟨closure, hclosure, diagnosed, hdiagnosed, rfl⟩ := hfail
      obtain ⟨_, _, rfl⟩ := appendDiagnostic_writes hdiagnosed
      exact exhausted_closed h hclosure

theorem exhausted_acceptAndValidate (h : Exhausted database.refreshPlans) {sessionId : OpaqueId}
    {observations : List TerminalRunObservation} {refreshPlan : Option RefreshPlan}
    {ports : AcceptPorts}
    (haccept : Service.acceptAndValidate database sessionId observations refreshPlan ports =
      .ok left) : Exhausted left.refreshPlans := by
  simp only [Service.acceptAndValidate, bind_eq_ok, orStop_eq_ok, Prod.exists] at haccept
  obtain ⟨_, -, _, -, normalized, results, hnormalized, found, -, session, rfl, haccept⟩ := haccept
  obtain ⟨_, _, _, _, _, rfl⟩ := (normalizeAll_written hnormalized).writes
  split at haccept
  · simp only [closeMalformedOutput, bind_eq_ok, orStop_eq_ok] at haccept
    obtain ⟨attempt, -, closure, hclosure, hdiagnosed⟩ := haccept
    obtain ⟨_, _, rfl⟩ := appendDiagnostic_writes hdiagnosed
    refine exhausted_closed ?_ hclosure
    exact h
  · simp only [bind_eq_ok] at haccept
    obtain ⟨acceptedAttempts, -, hpersist⟩ := haccept
    refine exhausted_persistValidation ?_ hpersist
    exact h

omit [Sha256] [OutputPorts] in
theorem exhausted_recoverSessions (h : Exhausted database.refreshPlans) {timestamp : Timestamp}
    {ids : OpaqueId → RecoveryIds}
    (hrecover : Service.recoverSessions database timestamp ids = .ok left) :
    Exhausted left.refreshPlans := by
  refine foldlM_induction (P := fun db => Exhausted db.refreshPlans) ?_ h hrecover
  intro before session after hbefore _ hstep
  simp only [recoverInFlightSession, bind_eq_ok, pure_eq_ok] at hstep
  obtain ⟨-, -, attempted, hattempted, -, -, planned, hplanned, permitted, hpermitted, diagnosed,
    hdiagnosed, rfl⟩ := hstep
  obtain ⟨_, _, rfl⟩ := appendDiagnostic_writes hdiagnosed
  obtain ⟨⟨_, rfl⟩, -⟩ := recoverPermit_writes hpermitted
  have hattempted : Exhausted attempted.refreshPlans := by
    refine foldlM_induction (P := fun db => Exhausted db.refreshPlans) ?_ hbefore hattempted
    intro db role db' hdb _ hrole
    obtain ⟨_, _, rfl⟩ := recoverActiveAttempt_writes hrole
    exact hdb
  show Exhausted planned.refreshPlans
  unfold recoverRefreshPlan at hplanned
  split at hplanned
  · simp only [bind_eq_ok, pure_eq_ok] at hplanned
    obtain ⟨-, -, rfl⟩ := hplanned
    exact hattempted
  · simp only [bind_eq_ok, orStop_eq_ok] at hplanned
    obtain ⟨plan, -, -, -, hplanned⟩ := hplanned
    split at hplanned <;> simp only [bind_eq_ok, pure_eq_ok] at hplanned <;>
      obtain ⟨-, -, rfl⟩ := hplanned
    · exact exhausted_setRefreshPlan hattempted (by simp [invalidated])
    · exact hattempted

theorem exhausted_leaves (hinv : database.evidence.Inv) (h : Exhausted database.refreshPlans)
    {call : Call} (hkept : ∀ ids, call ≠ .resetDemo ids)
    (hleaves : call.leaves database = some left) :
    Exhausted left.refreshPlans := by
  have hobserved {input : DispatchBindPollInput}
      (hinput : Continuation.observedInput call = some input) : Exhausted left.refreshPlans := by
    obtain ⟨_, _, rfl⟩ := writesRuns_observer hinput hleaves
    exact h
  cases call with
  | transitionToDispatching | bindRunOnce | mirrorRun | failAttempt | rejectCompletedOutput =>
    exact hobserved rfl
  | registerRole registration =>
    simp only [Call.leaves, toOption_eq_some, registerRole, bind_eq_ok, pure_eq_ok] at hleaves
    obtain ⟨-, -, -, -, rfl⟩ := hleaves
    exact h
  | createSession request ports =>
    simp only [Call.leaves, Option.bind_eq_bind, Option.bind_eq_some_iff,
      toOption_eq_some] at hleaves
    obtain ⟨verified, -, hcreated⟩ := hleaves
    -- there is no plan where no session has been opened
    have hnone := (createSession_opens hinv hcreated).1
    exact absurd (hinv.unopened (by simp [EpochDatabase.evidence, hnone])).2.1 h.1
  | transitionToCollecting sessionId timestamp event =>
    simp only [Call.leaves, toOption_eq_some, Service.transitionToCollecting, bind_eq_ok,
      orStop_eq_ok, pure_eq_ok] at hleaves
    obtain ⟨_, -, session, -, -, -, rfl⟩ := hleaves
    exact h
  | join settled scope =>
    obtain rfl := Option.some.inj hleaves
    have hjoined : WritesRuns database (joinRoleRunObservations database settled scope).1 :=
      writesRuns_join
    obtain ⟨_, _, hjoined⟩ := hjoined
    rw [hjoined]
    exact h
  | acceptInitial sessionId observations ports =>
    exact exhausted_acceptAndValidate h (toOption_eq_some.mp hleaves)
  | acceptRefresh sessionId observation plan ports =>
    simp only [Call.leaves, Option.ite_none_right_eq_some, toOption_eq_some] at hleaves
    exact exhausted_acceptAndValidate h hleaves.2
  | claimRefreshPlan sessionId request registration runtimeLabel timestamp assignmentId receiptId
      attemptId =>
    simp only [Call.leaves, Option.ite_none_right_eq_some, toOption_eq_some,
      except_map_eq_ok] at hleaves
    obtain ⟨-, out, hclaim, rfl⟩ := hleaves
    cases claimRefreshPlan_cases hclaim with
    | stale => exact exhausted_setRefreshPlan h (by simp)
    | claimed => exact exhausted_setRefreshPlan h (by simp [claimedPlan])
  | captureRefreshObservation scenarioId assignmentId nonce issuedAt =>
    obtain ⟨_, _, rfl⟩ := captureRefreshObservation_writes (toOption_eq_some.mp hleaves)
    exact h
  | failSession sessionId error ports => exact exhausted_failSession h (toOption_eq_some.mp hleaves)
  | commit sessionId expectedSessionRevision effectId timestamp =>
    simp only [Call.leaves, toOption_eq_some, except_map_eq_ok] at hleaves
    obtain ⟨out, hcommit, rfl⟩ := hleaves
    cases EffectGate.commit_cases hcommit <;> exact h
  | recordCommitRace sessionId ports =>
    obtain ⟨_, _, rfl⟩ := recordCommitRace_writes (toOption_eq_some.mp hleaves)
    exact h
  | recoverSessions timestamp ids => exact exhausted_recoverSessions h (toOption_eq_some.mp hleaves)
  | resetDemo backgroundSessionIds => exact absurd rfl (hkept backgroundSessionIds)
  | worldCommit input =>
    simp only [Call.leaves, toOption_eq_some, except_map_eq_ok] at hleaves
    obtain ⟨_, -, rfl⟩ := hleaves
    exact h

theorem exhausted_serve {server next : Server} {event : Event}
    (hreachable : Reachable server.database) (h : Exhausted server.database.refreshPlans)
    (hkept : ¬event.isReset) (hserve : serve server event = some next) :
    Exhausted next.database.refreshPlans := by
  have hpublish {call : Call} {published : EpochDatabase} (hcall : ∀ ids, call ≠ .resetDemo ids)
      (hpublished : publish server.database call = some published) :
      Exhausted published.refreshPlans := by
    obtain ⟨written, hwritten, -, rfl⟩ := publish_eq_some.mp hpublished
    have hspent := exhausted_leaves (Evidence.inv_reachable hreachable) h hcall hwritten
    exact hspent
  cases serve_cases hserve with
  | request asked published =>
    refine hpublish (fun ids hreset => hkept ?_) published
    rw [hreset]
    exact trivial
  | work found advances published =>
    refine hpublish (fun ids hreset => ?_) published
    subst hreset
    cases advances with
    | observe stage own observed => cases observed
  | restart published => exact hpublish (by simp) published
  | resolve | fail | finish | restartIdle => exact h

theorem exhausted_run {server after : Server} {events : List Event}
    (hreachable : Reachable server.database) (h : Exhausted server.database.refreshPlans)
    (hkept : ∀ e ∈ events, ¬e.isReset) (hrun : run serve server events = some after) :
    Exhausted after.database.refreshPlans := by
  induction events generalizing server with
  | nil =>
    rw [run_nil] at hrun
    exact hrun ▸ h
  | cons event rest ih =>
    obtain ⟨middle, hstep, hrest⟩ := run_cons.mp hrun
    exact ih (reachable_of_serve hreachable hstep)
      (exhausted_serve hreachable h (hkept event List.mem_cons_self) hstep)
      (fun e he => hkept e (List.mem_cons_of_mem _ he)) hrest

/-! ## Claims while the service runs -/

/-- Nothing is written that a claimed refresh rests on. -/
structure Untouched (database left : EpochDatabase) : Prop where
  sessions : left.sessions = database.sessions
  plans : left.refreshPlans = database.refreshPlans
  validations : left.validations = database.validations
  world : left.toWorld = database.toWorld
  decisions : left.decisions = database.decisions
  proofs : left.noCutProofs = database.noCutProofs
  receipts : left.receipts = database.receipts
  assignments : left.runAssignments = database.runAssignments
  attempts : left.attempts = database.attempts

omit [OutputPorts] in
theorem Untouched.keep (h : Untouched database left) {session : EpochSession} {plan : RefreshPlan}
    {assignment : RunAssignment} {attempt : AgentAttempt}
    (hheld : Reobserving database session plan assignment attempt) :
    Reobserving left session plan assignment attempt := by
  refine hheld.keep h.sessions h.plans h.validations ?_ (fun _ => ?_) rfl ?_ ?_ hheld.claimed
  · rw [h.world]
  · exact Reads.of_eq h.world h.validations h.decisions h.proofs h.receipts
  · rw [h.assignments]
    exact hheld.assigned
  · rw [h.attempts]
    exact hheld.attempted

/-- A session that reobserves has its claim, and the only task is the claim's. -/
def HeldBy (database : EpochDatabase) (continuations : List Continuation) : Prop :=
  ∀ session ∈ database.sessions, session.state = .REOBSERVING →
    ∃ plan assignment attempt, Reobserving database session plan assignment attempt ∧
      ∀ c ∈ continuations, ¬c.initial ∧
        c.inputs = [⟨assignment.assignmentId, attempt.attemptId⟩]

/-- A claimed plan is held by the continuation that works on it. -/
structure Held (server : Server) : Prop where
  tasks : Tasks server
  held : HeldBy server.database server.continuations

omit [OutputPorts] in
/-- The claim goes on where nothing that it rests on is written. -/
theorem HeldBy.same {continuations continuations' : List Continuation}
    (h : HeldBy database continuations) (huntouched : Untouched database left)
    (hcontinued : ∀ c ∈ continuations', ∃ c₀ ∈ continuations,
      c.refreshPlan = c₀.refreshPlan ∧ c.inputs = c₀.inputs) : HeldBy left continuations' := by
  intro session hsession hstate
  obtain ⟨plan, assignment, attempt, hheld, howned⟩ :=
    h session (huntouched.sessions ▸ hsession) hstate
  refine ⟨plan, assignment, attempt, huntouched.keep hheld, fun c hc => ?_⟩
  obtain ⟨c₀, hc₀, hplan, hinputs⟩ := hcontinued c hc
  obtain ⟨hrefresh, hinput⟩ := howned c₀ hc₀
  exact ⟨by rwa [Continuation.initial, hplan], hinputs.trans hinput⟩

omit [OutputPorts] in
theorem heldBy_of_state {continuations : List Continuation} {s' : EpochSession}
    (hsessions : left.sessions = [s']) (hstate : s'.state ≠ .REOBSERVING) :
    HeldBy left continuations := by
  intro t ht hreobserving
  rw [hsessions, List.mem_singleton] at ht
  exact absurd (ht ▸ hreobserving) hstate

omit [OutputPorts] in
/-- The observation of a refresh adds its receipt and the pack of its
assignment. -/
theorem Reobserving.captured {session : EpochSession} {plan : RefreshPlan}
    {assignment : RunAssignment} {attempt : AgentAttempt}
    (h : Reobserving database session plan assignment attempt)
    {fixture : Fixtures.EpochGuardFixture} {nonce : String} {issuedAt : Timestamp}
    (hcapture : Service.captureRefreshObservation database fixture assignment.assignmentId nonce
      issuedAt = .ok left) :
    ∃ assignment', assignment'.assignmentId = assignment.assignmentId ∧
      Reobserving left session plan assignment' attempt := by
  simp only [Service.captureRefreshObservation, bind_eq_ok, require_eq_ok, orStop_eq_ok,
    mapError_eq_ok] at hcapture
  obtain ⟨capture, -, -, -, found, hfound, -, -, owner, -, -, -, hissue⟩ := hcapture
  have hid := List.find?_some hfound
  have hsame := single?_unique h.assigned (List.mem_of_find?_eq_some hfound) hid
  subst hsame
  obtain ⟨_, issued, built, hissued, -, rfl⟩ := issueAndPack_cases hissue
  obtain rfl := hissued.left
  refine ⟨{ found with evidencePackHash := built.evidencePackHash }, rfl, ?_⟩
  refine h.keep rfl rfl rfl le_rfl (fun _ => ⟨rfl, rfl, rfl, rfl, fun receiptId r hr => ?_⟩) rfl
    ?_ h.attempted ?_
  · refine (single?_append_right fun b hb => ?_).trans hr
    obtain rfl := List.mem_singleton.mp hb
    -- the receipts that the plan rests on were issued before this one
    obtain ⟨hmem, hid⟩ := single?_mem hr
    have hother := (hissued.fresh r hmem).1
    rw [hissued.receipt.1]
    simp only [decide_eq_true_eq] at hid
    simpa [← hid] using Ne.symm hother
  · exact single?_written h.assigned rfl
  · exact ⟨h.claimed.owner, h.claimed.attempted, h.claimed.assigned, h.claimed.query,
      h.claimed.unconsumed, ⟨h.claimed.bound.run, h.claimed.bound.time, h.claimed.bound.status⟩⟩

/-- The run observer moves the claimed attempt and its assignment together. -/
theorem Reobserving.observed {session : EpochSession} {plan : RefreshPlan}
    {assignment : RunAssignment} {attempt : AgentAttempt}
    (h : Reobserving database session plan assignment attempt) {call : Call}
    (hinput : Continuation.observedInput call =
      some ⟨assignment.assignmentId, attempt.attemptId⟩)
    (hleaves : call.leaves database = some left) :
    ∃ assignment' attempt', assignment'.assignmentId = assignment.assignmentId ∧
      attempt'.attemptId = attempt.attemptId ∧
      Reobserving left session plan assignment' attempt' := by
  obtain ⟨found, found', assignment', attempt', hfound, hfound', hmoves, rfl⟩ :=
    observer_moves hinput hleaves
  obtain rfl := Option.some.inj (h.assigned.symm.trans hfound)
  obtain rfl := Option.some.inj (h.attempted.symm.trans hfound')
  obtain ⟨_, _, _, hwrites⟩ := hmoves.writes
  obtain ⟨hid, hsession, haction, hrole, hagent, howner⟩ := hmoves.identity
  obtain ⟨hsession', haction', hrole', hagent'⟩ := h.claimed.attempted
  have hid' : assignment'.assignmentId = assignment.assignmentId := by rw [hwrites]
  refine ⟨assignment', attempt', hid', hid, ?_⟩
  refine h.keep rfl rfl rfl le_rfl (fun _ => Reads.of_eq rfl rfl rfl rfl rfl) hid ?_ ?_ ?_
  · rw [hid']
    exact single?_written h.assigned hid'
  · rw [hid]
    exact single?_written h.attempted hid
  · refine ⟨howner.trans (h.claimed.owner.trans hid'.symm), ⟨hsession.trans hsession',
      haction.trans haction', hrole.trans hrole', hagent.trans hagent'⟩, ?_, ?_, ?_,
      hmoves.bound h.claimed.bound⟩
    · rw [hwrites]
      exact h.claimed.assigned
    · rw [hwrites]
      exact h.claimed.query
    · rw [hwrites]
      exact h.claimed.unconsumed

theorem Held.request {server : Server} (h : Held server) {call : Call}
    (hasked : isRequest server call) (hkept : ¬(Event.request call).isReset)
    (hleaves : call.leaves server.database = some left) :
    HeldBy (EpochStore.stamp left server.database)
      (server.continuations ++ started server.database call) := by
  have hsame : ∀ c ∈ server.continuations ++ [], ∃ c₀ ∈ server.continuations,
      c.refreshPlan = c₀.refreshPlan ∧ c.inputs = c₀.inputs :=
    fun c hc => ⟨c, by simpa using hc, rfl, rfl⟩
  cases call with
  | registerRole registration =>
    simp only [Call.leaves, toOption_eq_some, Service.registerRole, bind_eq_ok,
      pure_eq_ok] at hleaves
    obtain ⟨-, -, -, -, rfl⟩ := hleaves
    exact h.held.same ⟨rfl, rfl, rfl, rfl, rfl, rfl, rfl, rfl, rfl⟩ hsame
  | recordCommitRace sessionId ports =>
    obtain ⟨_, _, rfl⟩ := recordCommitRace_writes (toOption_eq_some.mp hleaves)
    exact h.held.same ⟨rfl, rfl, rfl, rfl, rfl, rfl, rfl, rfl, rfl⟩ hsame
  | worldCommit input =>
    simp only [Call.leaves, toOption_eq_some, except_map_eq_ok, Prod.exists] at hleaves
    obtain ⟨world, record, hcommit, rfl⟩ := hleaves
    obtain ⟨pending, hstep⟩ := WorldLedger.commit_cases hcommit
    intro session hsession hstate
    obtain ⟨plan, assignment, attempt, hheld, howned⟩ := h.held session hsession hstate
    refine ⟨plan, assignment, attempt, ?_, fun c hc => howned c (by simpa [started] using hc)⟩
    refine hheld.keep rfl rfl rfl ?_ (fun hhead => ?_) rfl hheld.assigned hheld.attempted
      hheld.claimed
    · show server.database.headSeq ≤ world.headSeq
      rw [hstep.headSeq]
      exact Nat.le_succ _
    · -- the head has moved past the plan
      have hmoved : world.headSeq = server.database.headSeq := hhead
      rw [hstep.headSeq] at hmoved
      exact absurd hmoved (Nat.succ_ne_self _)
  | createSession request ports =>
    simp only [Call.leaves, Option.bind_eq_bind, Option.bind_eq_some_iff,
      toOption_eq_some] at hleaves
    obtain ⟨verified, -, hcreated⟩ := hleaves
    -- a new session has no plan to hold
    obtain ⟨-, -, s, hsessions, -, hstate⟩ :=
      createSession_opens (Evidence.inv_reachable h.tasks.reachable) hcreated
    exact heldBy_of_state hsessions (by simp [hstate])
  | claimRefreshPlan sessionId request registration runtimeLabel timestamp assignmentId receiptId
      attemptId =>
    simp only [Call.leaves, Option.ite_none_right_eq_some, toOption_eq_some,
      except_map_eq_ok] at hleaves
    obtain ⟨-, out, hclaim, rfl⟩ := hleaves
    cases claimRefreshPlan_cases hclaim with
    | @stale session plan found planned available revision moved =>
      have hsessions := eq_singleton_of_mem h.tasks.single (single?_mem found).1
      refine heldBy_of_state (setSession_of_singleton _ hsessions rfl) ?_
      simp
    | @claimed session plan artifacts found planned available owner revision active matching idle
        created fresh =>
      have hsessions := eq_singleton_of_mem h.tasks.single (single?_mem found).1
      obtain ⟨-, -, hblocked, -⟩ := requirePlan_blocked h.tasks.single h.tasks.offered
        (claimedPlan plan artifacts.attempt) found planned available
        ⟨rfl, by simp [claimedPlan]⟩
      have hidle := h.tasks.idle hsessions (by simp [hblocked, isWorkingSession])
        (by simp [hblocked, isTerminalSession])
      -- the continuation that the claim starts is the only one
      obtain ⟨session', hheld⟩ := reobserving_of_claim h.tasks.reachable timestamp found planned
        owner matching active fresh
      intro t ht _
      rw [hheld.sessions, List.mem_singleton] at ht
      subst ht
      refine ⟨_, _, _, hheld, fun c hc => ?_⟩
      rw [hidle, List.nil_append, started, hclaim] at hc
      obtain rfl := List.mem_singleton.mp hc
      exact ⟨by simp [Continuation.initial], rfl⟩
  | commit sessionId expectedSessionRevision effectId timestamp =>
    simp only [Call.leaves, toOption_eq_some, except_map_eq_ok] at hleaves
    obtain ⟨out, hcommit, rfl⟩ := hleaves
    rcases commit_change h.tasks.single h.tasks.offered (EffectGate.commit_cases hcommit) with
      hunchanged | ⟨s, s', hchange, -, hdone⟩
    · rw [hunchanged]
      exact h.held.same ⟨rfl, rfl, rfl, rfl, rfl, rfl, rfl, rfl, rfl⟩ hsame
    · refine heldBy_of_state hchange.became fun hstate => ?_
      simp [hstate, isWorkingSession] at hdone
  | resetDemo => exact absurd trivial hkept
  | _ => exact hasked.elim

theorem Held.work {server : Server} (h : Held server) {c : Continuation} {call : Call}
    {continuations : List Continuation} (hc : c ∈ server.continuations)
    (hadvances : c.Advances server.database call continuations)
    (hleaves : call.leaves server.database = some left) :
    HeldBy (EpochStore.stamp left server.database) continuations := by
  have hstamp {session : EpochSession} {plan : RefreshPlan} {assignment : RunAssignment}
      {attempt : AgentAttempt} (hheld : Reobserving left session plan assignment attempt) :
      Reobserving (EpochStore.stamp left server.database) session plan assignment attempt := by
    have huntouched : Untouched left (EpochStore.stamp left server.database) :=
      ⟨rfl, rfl, rfl, rfl, rfl, rfl, rfl, rfl, rfl⟩
    exact huntouched.keep hheld
  have hsame {stage : Stage} : ∀ c' ∈ [{ c with stage }], ∃ c₀ ∈ server.continuations,
      c'.refreshPlan = c₀.refreshPlan ∧ c'.inputs = c₀.inputs := by
    intro c' hc'
    obtain rfl := List.mem_singleton.mp hc'
    exact ⟨c, hc, rfl, rfl⟩
  -- the task of an initial observation has no claim beside it
  have hjoin {settled : List Settled} {scope : RoleRunJoinScope} (hinitial : c.initial)
      (hleft : left = (joinRoleRunObservations server.database settled scope).1) :
      HeldBy (EpochStore.stamp left server.database) continuations := by
    have hjoined : WritesRuns server.database
        (joinRoleRunObservations server.database settled scope).1 := writesRuns_join
    obtain ⟨_, _, hjoined⟩ := hjoined
    rw [hleft, hjoined]
    intro session hsession hstate
    obtain ⟨_, _, _, -, howned⟩ := h.held session hsession hstate
    exact absurd hinitial (howned c hc).1
  obtain ⟨owner, howner, hid, hstate⟩ := h.tasks.owned c hc
  have hsessions := eq_singleton_of_mem h.tasks.single howner
  -- a task that has not failed is at work on its session
  have hworking (hstage : c.stage ≠ .failing) : ∀ s ∈ server.database.sessions,
      s.sessionId = c.sessionId → isWorkingSession s.state = true := by
    intro s hs _
    rw [hsessions, List.mem_singleton] at hs
    subst hs
    rcases hstate with hworking | ⟨hfailing, -⟩
    · exact hworking
    · exact absurd hfailing hstage
  cases hadvances with
  | collect stage initial =>
    obtain ⟨s, s', hchange, hcollecting⟩ :=
      collecting_change h.tasks.single h.tasks.offered (toOption_eq_some.mp hleaves)
    exact heldBy_of_state hchange.became (by simp [hcollecting])
  | @capture scenarioId assignmentId nonce issuedAt stage refresh own =>
    have hcapture := toOption_eq_some.mp hleaves
    intro session hsession hstate
    have hwas : session ∈ server.database.sessions := by
      obtain ⟨_, _, rfl⟩ := captureRefreshObservation_writes hcapture
      exact hsession
    obtain ⟨plan, assignment, attempt, hheld, howned⟩ := h.held session hwas hstate
    obtain ⟨hrefresh, hinputs⟩ := howned c hc
    simp only [Continuation.assignmentIds, hinputs, List.map_cons, List.map_nil, List.cons.injEq,
      and_true] at own
    subst own
    obtain ⟨assignment', hid', hheld'⟩ := hheld.captured hcapture
    refine ⟨plan, assignment', attempt, hstamp hheld', fun c' hc' => ?_⟩
    obtain rfl := List.mem_singleton.mp hc'
    exact ⟨hrefresh, by rw [hid']; exact hinputs⟩
  | observe stage own observed =>
    intro session hsession hstate
    have hwas : session ∈ server.database.sessions := by
      obtain ⟨_, _, rfl⟩ := writesRuns_observer observed hleaves
      exact hsession
    obtain ⟨plan, assignment, attempt, hheld, howned⟩ := h.held session hwas hstate
    obtain ⟨hrefresh, hinputs⟩ := howned c hc
    rw [hinputs, List.mem_singleton] at own
    subst own
    obtain ⟨assignment', attempt', hid', hid'', hheld'⟩ := hheld.observed observed hleaves
    refine ⟨plan, assignment', attempt', hstamp hheld', fun c' hc' => ?_⟩
    obtain rfl := List.mem_singleton.mp hc'
    exact ⟨hrefresh, by rw [hid', hid'']; exact hinputs⟩
  | joined stage initial own outcome => exact hjoin initial (Option.some.inj hleaves).symm
  | unjoined stage initial own => exact hjoin initial (Option.some.inj hleaves).symm
  | close stage =>
    have hclosing : ∀ s ∈ server.database.sessions, s.sessionId = c.sessionId →
        isWorkingSession s.state = true ∨ isTerminalSession s.state = true := by
      intro s hs _
      rw [hsessions, List.mem_singleton] at hs
      subst hs
      exact hstate.imp id And.right
    rcases fail_change h.tasks.single h.tasks.offered hclosing (toOption_eq_some.mp hleaves) with
      rfl | ⟨s, s', hchange, hfailed⟩
    · exact h.held.same ⟨rfl, rfl, rfl, rfl, rfl, rfl, rfl, rfl, rfl⟩ hsame
    · exact heldBy_of_state hchange.became (by simp [hfailed])
  | acceptInitial stage initial =>
    obtain ⟨s, s', hchange, hdone⟩ := accept_change h.tasks.single h.tasks.offered
      (hworking (by simp [stage])) (toOption_eq_some.mp hleaves)
    refine heldBy_of_state hchange.became fun hstate' => ?_
    simp [hstate', isWorkingSession] at hdone
  | acceptRefresh stage claimed =>
    simp only [Call.leaves, Option.ite_none_right_eq_some, toOption_eq_some] at hleaves
    obtain ⟨s, s', hchange, hdone⟩ := accept_change h.tasks.single h.tasks.offered
      (hworking (by simp [stage])) hleaves.2
    refine heldBy_of_state hchange.became fun hstate' => ?_
    simp [hstate', isWorkingSession] at hdone

theorem Held.serve {server next : Server} {event : Event} (h : Held server)
    (hkept : ¬event.isReset) (hserve : serve server event = some next) : Held next := by
  refine ⟨(h.tasks.serve hkept hserve).1, ?_⟩
  have hreplace {index : Nat} (hindex : event.index = some index)
      (continuations : List Continuation) : server.replace index continuations = continuations :=
    Server.replace_alone h.tasks.alone (serve_index hserve hindex) continuations
  have hsame {c : Continuation} {stage : Stage} (hc : c ∈ server.continuations) :
      ∀ c' ∈ [{ c with stage }], ∃ c₀ ∈ server.continuations,
        c'.refreshPlan = c₀.refreshPlan ∧ c'.inputs = c₀.inputs := by
    intro c' hc'
    obtain rfl := List.mem_singleton.mp hc'
    exact ⟨c, hc, rfl, rfl⟩
  cases serve_cases hserve with
  | request asked published =>
    obtain ⟨written, hwritten, -, rfl⟩ := publish_eq_some.mp published
    exact h.request asked hkept hwritten
  | work found advances published =>
    rw [hreplace rfl]
    obtain ⟨written, hwritten, -, rfl⟩ := publish_eq_some.mp published
    exact h.work found advances hwritten
  | resolve found stage refresh resolved =>
    rw [hreplace rfl]
    exact h.held.same ⟨rfl, rfl, rfl, rfl, rfl, rfl, rfl, rfl, rfl⟩ (hsame found)
  | fail found =>
    rw [hreplace rfl]
    exact h.held.same ⟨rfl, rfl, rfl, rfl, rfl, rfl, rfl, rfl, rfl⟩ (hsame found)
  | finish =>
    rw [hreplace rfl]
    exact h.held.same ⟨rfl, rfl, rfl, rfl, rfl, rfl, rfl, rfl, rfl⟩ nofun
  | restart published =>
    obtain ⟨written, hwritten, -, rfl⟩ := publish_eq_some.mp published
    rcases recover_change h.tasks.single h.tasks.offered (toOption_eq_some.mp hwritten) with
      ⟨rfl, -⟩ | ⟨s, s', hchange, hstate⟩
    · exact h.held.same ⟨rfl, rfl, rfl, rfl, rfl, rfl, rfl, rfl, rfl⟩ nofun
    · exact heldBy_of_state hchange.became (by simp [hstate])
  | restartIdle => exact h.held.same ⟨rfl, rfl, rfl, rfl, rfl, rfl, rfl, rfl, rfl⟩ nofun

theorem Held.run {server next : Server} {events : List Event} (h : Held server)
    (hkept : ∀ e ∈ events, ¬e.isReset) (hrun : run Service.serve server events = some next) :
    Held next := by
  induction events generalizing server with
  | nil =>
    rw [run_nil] at hrun
    exact hrun ▸ h
  | cons event rest ih =>
    obtain ⟨middle, hstep, hrest⟩ := run_cons.mp hrun
    exact ih (h.serve (hkept event List.mem_cons_self) hstep)
      (fun e he => hkept e (List.mem_cons_of_mem _ he)) hrest

/-- A request that claims a plan. -/
def ClaimsRefresh (database : EpochDatabase) (sessionId : OpaqueId)
    (request : RefreshSessionRequest) (timestamp : Timestamp)
    (createArtifacts : EpochSession → RefreshPlan → Role → OpaqueId →
      Except String RefreshClaimArtifacts) (plan : RefreshPlan) : Prop :=
  ∃ left role agentId assignment attempt,
    claimRefreshPlan database EffectGate.identityPort sessionId request timestamp
      createArtifacts = .ok (left, .CLAIMED role agentId plan assignment attempt)

/-- The head, the decisions and the receipts of a session are those of a plan. -/
structure PlanCurrent (database : EpochDatabase) (session : EpochSession) (plan : RefreshPlan) :
    Prop where
  head : database.headSeq = plan.validatedHead
  decisions : session.activeDecisionCertificateIds.all? = some plan.activeDecisionCertificateIds
  dependencySet : ∃ receiptIds : PerRole OpaqueId,
    (∀ role, ∃ d ∈ database.decisions,
      d.certificateId = plan.activeDecisionCertificateIds.get role ∧
        d.receiptId = receiptIds.get role) ∧
    plan.dependencySetHash = EffectGate.snapshotReceiptDependencySetHash receiptIds.toList

omit [OutputPorts] in
theorem planCurrent_of_matches {session : EpochSession} {plan : RefreshPlan}
    (hsession : session ∈ database.sessions) (halone : database.sessions.length ≤ 1)
    (hmatching : planStillMatches database session plan EffectGate.identityPort = true) :
    PlanCurrent database session plan := by
  simp only [planStillMatches, Bool.and_eq_true] at hmatching
  obtain ⟨-, hmatching⟩ := hmatching
  split at hmatching
  case h_2 => cases hmatching
  rename_i authoritative hbuilt
  simp only [Bool.and_eq_true, decide_eq_true_eq] at hmatching
  obtain ⟨-, -, hhead, hhash, hdecisions, -⟩ := hmatching
  obtain ⟨session₀, validation, evidence, hbuild, rfl⟩ := buildRefreshPlan_eq_ok.mp hbuilt
  obtain ⟨hfound, hblocked⟩ := requireBlockedValidation_eq_ok.mp hbuild.blocked
  have hsame : session₀ = session := by
    have hmem := (single?_mem hfound).1
    rw [eq_singleton_of_mem halone hsession] at hmem
    exact List.mem_singleton.mp hmem
  subst hsame
  have hids : plan.activeDecisionCertificateIds = validation.decisionCertificateIds := hdecisions
  refine ⟨hblocked.outcome.2.2.2.symm.trans hhead.symm, ?_,
    evidence.map RefreshEvidenceInterval.receiptId, fun role => ?_, ?_⟩
  · rw [hids]
    simpa [orderedActiveDecisionIds] using hbuild.decided
  · have hobserved := PerRole.mapRoles_eq_ok.mp hbuild.observed role
    simp only [requireEvidence, bind_eq_ok, orStop_eq_ok, require_eq_ok, pure_eq_ok] at hobserved
    obtain ⟨decision, hdecision, -, -, _, -, -, -, receipt, -, -, -, _, -, _, -, -, -, -, -,
      hevidence⟩ := hobserved
    obtain ⟨hmem, hid⟩ := single?_mem hdecision
    simp only [decide_eq_true_eq] at hid
    refine ⟨decision, hmem, by rw [hids]; exact hid, ?_⟩
    rw [PerRole.get_map, ← hevidence]
  · rw [hbuild.dependencySet]
    exact hhash

omit [OutputPorts] in
/-- A claim that succeeds found its plan available and current. -/
theorem claimsRefresh_cases (hinv : database.evidence.Inv) {sessionId : OpaqueId}
    {request : RefreshSessionRequest} {timestamp : Timestamp}
    {createArtifacts : EpochSession → RefreshPlan → Role → OpaqueId →
      Except String RefreshClaimArtifacts} {plan : RefreshPlan}
    (h : ClaimsRefresh database sessionId request timestamp createArtifacts plan) :
    (∃ available, database.refreshPlans = [available] ∧ available.status = .AVAILABLE) ∧
      ∃ session ∈ database.sessions, session.sessionId = sessionId ∧
        request.expectedSessionRevision = session.sessionRevision ∧
        request.refreshPlanId = plan.refreshPlanId ∧ PlanCurrent database session plan := by
  obtain ⟨left, role, agentId, assignment, attempt, hclaim⟩ := h
  have hcases := claimRefreshPlan_cases hclaim
  cases hcases with
  | @claimed session plan artifacts found planned available owner revision active matching idle
      created fresh =>
    obtain ⟨hmem, hid⟩ := single?_mem found
    obtain ⟨honly, hrequest⟩ := Evidence.requirePlan_cases planned
    have halone : database.sessions.length ≤ 1 := by
      simpa [EpochDatabase.evidence] using hinv.alone
    obtain ⟨hhead, hdecisions, hdependencies⟩ := planCurrent_of_matches hmem halone matching
    exact ⟨⟨plan, Evidence.plans_eq hinv hmem honly, available⟩, session, hmem, by simpa using hid,
      revision, hrequest.symm, hhead, hdecisions, hdependencies⟩

/-- In every run without resets there is one assignment for each role and at
most one of a refresh. A claim that succeeds names the revision of its session
and a plan that is current, and no claim succeeds after it. While the session
reobserves, further requests for its plan write nothing, and at the head of the
plan they are told of the claimed attempt exactly while the claim is live. -/
theorem refresh_claimed_once {events : List Event} {server : Server}
    (hkept : ∀ e ∈ events, ¬e.isReset) (hrun : run serve emptyServer events = some server) :
    (∃ initial refresh, server.database.runAssignments = initial ++ refresh ∧
      (initial.map RunAssignment.role).Nodup ∧ refresh.length ≤ 1 ∧
      server.database.attempts.length = server.database.runAssignments.length) ∧
    (∀ sessionId request timestamp createArtifacts plan,
      ClaimsRefresh server.database sessionId request timestamp createArtifacts plan →
      ∃ session ∈ server.database.sessions, session.sessionId = sessionId ∧
        request.expectedSessionRevision = session.sessionRevision ∧
        request.refreshPlanId = plan.refreshPlanId ∧
        PlanCurrent server.database session plan) ∧
    (∀ sessionId request registration runtimeLabel timestamp assignmentId receiptId attemptId plan
        next later after,
      ClaimsRefresh server.database sessionId request timestamp (createClaimArtifacts registration
        runtimeLabel timestamp assignmentId receiptId attemptId) plan →
      serve server (.request (.claimRefreshPlan sessionId request registration runtimeLabel
        timestamp assignmentId receiptId attemptId)) = some next →
      (∀ e ∈ later, ¬e.isReset) → run serve next later = some after →
      ∀ sessionId' request' timestamp' createArtifacts' plan',
        ¬ClaimsRefresh after.database sessionId' request' timestamp' createArtifacts' plan') ∧
    ∀ session ∈ server.database.sessions, session.state = .REOBSERVING →
      ∃ plan assignment attempt, server.database.refreshPlans = [plan] ∧
        plan.claimedAttemptId = some attempt.attemptId ∧
        single? server.database.attempts (fun a => a.attemptId = attempt.attemptId) =
          some attempt ∧
        single? server.database.runAssignments
          (fun a => a.assignmentId = attempt.assignmentId) = some assignment ∧
        ∀ request, request.refreshPlanId = plan.refreshPlanId → ∀ timestamp createArtifacts,
          (∃ stop, claimRefreshPlan server.database EffectGate.identityPort session.sessionId
            request timestamp createArtifacts = .error stop) ∧
          (server.database.headSeq = plan.validatedHead →
            (claimRefreshPlan server.database EffectGate.identityPort session.sessionId request
                timestamp createArtifacts =
              .error (.abort (.ALREADY_REOBSERVING
                ⟨session.sessionId, plan.refreshPlanId, attempt.attemptId⟩)) ↔
              Live assignment attempt)) := by
  have hreachable := reachable_of_run hrun
  have hinv := Evidence.inv_reachable hreachable
  refine ⟨?_, fun sessionId request timestamp createArtifacts plan hclaims =>
    (claimsRefresh_cases hinv hclaims).2, ?_, ?_⟩
  · obtain ⟨hattempts, initial, refresh, hroles, hnodup, hrefresh⟩ :=
      Evidence.refreshedOnce_reachable hreachable
    obtain ⟨first, last, hassignments, rfl, rfl⟩ := List.map_eq_append_iff.mp hroles
    refine ⟨first, last, hassignments, hnodup, ?_, hattempts⟩
    rcases hrefresh with hnone | ⟨hone, -⟩
    · simp [List.map_eq_nil_iff.mp hnone]
    · simpa using (congrArg List.length hone).le
  · intro sessionId request registration runtimeLabel timestamp assignmentId receiptId attemptId
      plan next later after hclaims hserve hlater hafter sessionId' request' timestamp'
      createArtifacts' plan' hagain
    -- the only plan is claimed by the request, and a claimed plan is never available
    -- again
    have hspent : Exhausted next.database.refreshPlans := by
      obtain ⟨⟨available, hplans, -⟩, -⟩ := claimsRefresh_cases hinv hclaims
      obtain ⟨left, role, agentId, assignment, attempt, hclaim⟩ := hclaims
      cases serve_cases hserve with
      | request asked published =>
        obtain ⟨written, hwritten, -, rfl⟩ := publish_eq_some.mp published
        simp only [Call.leaves, Option.ite_none_right_eq_some, toOption_eq_some,
          except_map_eq_ok] at hwritten
        obtain ⟨-, out, hout, rfl⟩ := hwritten
        obtain rfl := Except.ok.inj (hclaim.symm.trans hout)
        cases claimRefreshPlan_cases hclaim with
        | @claimed session plan artifacts found planned hstatus owner revision active matching =>
          have honly := Evidence.plans_eq hinv (single?_mem found).1
            (Evidence.requirePlan_cases planned).1
          have hwritten := recordClaim_plans session artifacts timestamp honly
          refine ⟨?_, fun p hp => ?_⟩
          · exact fun hnone => by simp [EpochStore.stamp, hwritten] at hnone
          · rw [EpochStore.stamp, hwritten] at hp
            simp [← List.singleton_inj.mp hp, claimedPlan]
    have hnext := reachable_of_serve hreachable hserve
    have hafterSpent := exhausted_run hnext hspent hlater hafter
    have hafterInv := Evidence.inv_reachable
      (run_induction (I := fun s => Reachable s.database) (fun _ _ _ hs => reachable_of_serve hs)
        hnext hafter)
    obtain ⟨⟨available, hplans, hstatus⟩, -⟩ := claimsRefresh_cases hafterInv hagain
    exact hafterSpent.2 available hplans hstatus
  · intro session hsession hstate
    -- while a session reobserves, its plan can be rebuilt from the store, which is
    -- what the answer depends on
    have hstart : Held emptyServer := ⟨tasks_emptyServer, fun s hs => by cases hs⟩
    have hheld := hstart.run hkept hrun
    obtain ⟨plan, assignment, attempt, hreobserving, -⟩ := hheld.held session hsession hstate
    refine ⟨plan, assignment, attempt, hreobserving.plans, hreobserving.planned.2.1,
      hreobserving.attempted, ?_, fun request hrequest timestamp createArtifacts => ⟨?_, ?_⟩⟩
    · rw [hreobserving.claimed.owner]
      exact hreobserving.assigned
    · exact ⟨_, hreobserving.claim_eq hrequest⟩
    · exact fun hhead => hreobserving.answer hreachable hhead hrequest

end Claims

/-! ## A claim whose attempt has failed -/

namespace RefreshSample

open Sample

/-- What the Budget owner observes again. -/
def refreshInput : DispatchBindPollInput :=
  ⟨⟨"assignment_refresh", by decide⟩, ⟨"attempt_refresh", by decide⟩⟩

def scope : RoleRunJoinScope where
  sessionId := sessionId
  actionHash := actionHash Fixtures.FIXTURE_ACTION
  assignmentIds := ROLES.map assignmentId

def request : RefreshSessionRequest := ⟨4, acceptPorts.validation.refreshPlanId⟩

/-- A No-Cut is found for the initial observations, and its refresh is claimed. -/
def claimEvents : List Event :=
  ROLES.map (fun role => .request (.registerRole (registration role))) ++
    [.request (.createSession ⟨.impossibleCollageV1, PerRole.ofFn agentId⟩ createPorts),
      .work 0 (.transitionToCollecting sessionId time (stamp time))] ++
    (ROLES.flatMap fun role =>
      [.work 0 (.transitionToDispatching (input role)),
        .work 0 (.bindRunOnce (input role) (completedRun role) time),
        .work 0 (.mirrorRun (input role) (agentId role) (completedRun role))]) ++
    [.work 0 (.join ((PerRole.ofFn observation).toList.map .fulfilled) scope),
      .work 0 (.acceptInitial sessionId (PerRole.ofFn observation) acceptPorts),
      .request (.claimRefreshPlan sessionId request (registration .budget) "Codex Runtime" later
        refreshInput.assignmentId ⟨"receipt_refresh", by decide⟩ refreshInput.attemptId)]

/-- The dispatch of the claimed attempt fails. -/
def failEvents : List Event :=
  [.work 0 (.captureRefreshObservation .impossibleCollageV1 refreshInput.assignmentId
      "nonce-of-a-receipt-in-refresh-session" later),
    .work 0 (.transitionToDispatching refreshInput),
    .work 0 (.failAttempt refreshInput .FAILED none)]

def events : List Event := claimEvents ++ failEvents

theorem events_kept : ∀ e ∈ events, ¬e.isReset := by
  intro e he
  simp only [events, claimEvents, failEvents, List.mem_append, List.mem_map, List.mem_flatMap,
    List.mem_cons, List.not_mem_nil, or_false] at he
  rcases he with (((⟨_, -, rfl⟩ | rfl | rfl) | ⟨_, -, rfl | rfl | rfl⟩) | rfl | rfl | rfl) |
    rfl | rfl | rfl <;> exact id

/-- The session reobserves at the head of its plan, and the claimed attempt has
failed. -/
def Failed (database : EpochDatabase) : Prop :=
  database.sessions.map EpochSession.state = [.REOBSERVING] ∧
    ∀ p ∈ database.refreshPlans, database.headSeq = p.validatedHead ∧
      ∀ t ∈ database.attempts, p.claimedAttemptId = some t.attemptId → t.status = .FAILED

instance (database : EpochDatabase) : Decidable (Failed database) :=
  inferInstanceAs (Decidable (_ ∧ _))

theorem events_fail :
    (run serve emptyServer events).any (fun server => Failed server.database) = true := by
  unfold events claimEvents
  rw [List.append_assoc, List.append_assoc, List.append_assoc, List.cons_append,
    run_openingServer]
  decide +kernel

theorem events_run : (run serve emptyServer events).isSome = true :=
  Option.isSome_of_any events_fail

def server : Server := (run serve emptyServer events).get events_run

theorem run_events : run serve emptyServer events = some server :=
  (Option.some_get events_run).symm

theorem server_failed : Failed server.database := get_of_any events_fail

theorem server_reobserving :
    ∃ session ∈ server.database.sessions, session.state = .REOBSERVING := by
  have hstate : SessionState.REOBSERVING ∈ server.database.sessions.map EpochSession.state := by
    simp [server_failed.1]
  exact List.mem_map.mp hstate

end RefreshSample

open RefreshSample in
open scoped Sample in
/-- A request for the plan of a session that reobserves may throw. -/
theorem refresh_duplicate_throws :
    ¬∀ (events : List Event) (server : Server), (∀ e ∈ events, ¬e.isReset) →
      run serve emptyServer events = some server →
      ∀ session ∈ server.database.sessions, session.state = .REOBSERVING →
      ∀ plan ∈ server.database.refreshPlans, server.database.headSeq = plan.validatedHead →
      ∀ request, request.refreshPlanId = plan.refreshPlanId → ∀ timestamp createArtifacts,
      ∃ attemptId, plan.claimedAttemptId = some attemptId ∧
        claimRefreshPlan server.database EffectGate.identityPort session.sessionId request
            timestamp createArtifacts =
          .error (.abort (.ALREADY_REOBSERVING
            ⟨session.sessionId, plan.refreshPlanId, attemptId⟩)) := by
  intro h
  obtain ⟨session, hsession, hstate⟩ := server_reobserving
  have hstart : Held emptyServer := ⟨tasks_emptyServer, fun s hs => by cases hs⟩
  obtain ⟨plan, assignment, attempt, hreobserving, -⟩ :=
    (hstart.run events_kept run_events).held session hsession hstate
  have hmem : plan ∈ server.database.refreshPlans := by simp [hreobserving.plans]
  obtain ⟨hhead, hfailed⟩ := server_failed.2 plan hmem
  obtain ⟨attemptId, hclaimed, hanswer⟩ := h events server events_kept run_events session hsession
    hstate plan hmem hhead ⟨0, plan.refreshPlanId⟩ rfl Sample.time fun _ _ _ _ => .error ""
  obtain rfl := Option.some.inj (hreobserving.planned.2.1.symm.trans hclaimed)
  have hlive := (hreobserving.answer (reachable_of_run run_events) hhead rfl).mp hanswer
  have hstatus := hfailed attempt (single?_mem hreobserving.attempted).1 hclaimed
  simp [Live, hstatus] at hlive

open RefreshSample in
open scoped Sample in
theorem refresh_claimed_once_sample :
    ∃ session ∈ server.database.sessions, session.state = .REOBSERVING ∧
      ∃ plan assignment attempt, server.database.refreshPlans = [plan] ∧
        plan.claimedAttemptId = some attempt.attemptId ∧
        ∀ request, request.refreshPlanId = plan.refreshPlanId → ∀ timestamp createArtifacts,
          claimRefreshPlan server.database EffectGate.identityPort session.sessionId request
              timestamp createArtifacts =
            .error (.abort (.ALREADY_REOBSERVING
              ⟨session.sessionId, plan.refreshPlanId, attempt.attemptId⟩)) ↔
            Live assignment attempt := by
  obtain ⟨session, hsession, hstate⟩ := server_reobserving
  obtain ⟨plan, assignment, attempt, hplans, hclaimed, -, -, hanswers⟩ :=
    (refresh_claimed_once events_kept run_events).2.2.2 session hsession hstate
  have hhead := (server_failed.2 plan (by simp [hplans])).1
  exact ⟨session, hsession, hstate, plan, assignment, attempt, hplans, hclaimed,
    fun request hrequest timestamp createArtifacts =>
      (hanswers request hrequest timestamp createArtifacts).2 hhead⟩

end Service

end EpochGuard
