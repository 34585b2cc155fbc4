import EpochGuard.EffectGateSafety
import EpochGuard.EvidenceLedger
import EpochGuard.LedgerHistory
import EpochGuard.Publications

/-!
# The evidence chain

Every mutation of the service is a sequence of steps of the evidence ledger, so
the evidence of every reachable database satisfies the ledger's invariant.
-/

namespace EpochGuard

open Json Checked Relation

namespace Evidence

variable {database : EpochDatabase}

theorem Steps.refl {e : Evidence} : e.Steps e := ReflTransGen.refl

theorem Steps.trans {e e' e'' : Evidence} (h : e.Steps e') (h' : e'.Steps e'') : e.Steps e'' :=
  ReflTransGen.trans h h'

theorem Steps.of_eq {e e' : Evidence} (h : e' = e) : e.Steps e' := h ▸ Steps.refl

theorem Step.steps {e e' : Evidence} (h : e.Step e') : e.Steps e' := ReflTransGen.single h

/-! ## Records in place -/

/-- An assignment that no decision has consumed, and still has none. -/
theorem AssignmentKept.of_open {a b : RunAssignment} (id : b.assignmentId = a.assignmentId)
    (receipt : b.receiptId = a.receiptId) (role : b.role = a.role) (unused : Unused b → Unused a)
    (consumedBy : b.consumedByDecisionCertificateId = a.consumedByDecisionCertificateId)
    (before : a.status ≠ .CONSUMED) (after : b.status ≠ .CONSUMED) : AssignmentKept a b where
  id := id
  receipt := receipt
  role := role
  unused := unused
  consumedBy := consumedBy
  status := ⟨fun h => absurd h after, fun h => absurd h before⟩
  same := fun h => absurd h before

theorem AssignmentKept.rejected {a : RunAssignment} (h : a.status ≠ .CONSUMED) :
    AssignmentKept a { a with status := .REJECTED } :=
  AssignmentKept.of_open rfl rfl rfl (by simp [Unused]) rfl h (by simp)

theorem AttemptKept.of_open {t u : AgentAttempt} (assignment : u.assignmentId = t.assignmentId)
    (before : t.status ≠ .ACCEPTED) (after : u.status ≠ .ACCEPTED) : AttemptKept t u where
  assignment := assignment
  status := ⟨fun h => absurd h after, fun h => absurd h before⟩
  same := fun h => absurd h before

theorem steps_setAssignment {a b : RunAssignment}
    (only : ∀ c ∈ database.runAssignments, c.assignmentId = a.assignmentId → c = a)
    (kept : AssignmentKept a b)
    (run : b.boundRunId = a.boundRunId ∨
      ∀ c ∈ database.runAssignments, c.assignmentId ≠ a.assignmentId →
        c.boundRunId ≠ b.boundRunId) :
    database.evidence.Steps (database.setAssignment b).evidence := by
  refine Step.steps ?_
  have hstep := Step.update (e := database.evidence)
    (f := fun c => if decide (c.assignmentId = b.assignmentId) then b else c) (g := id)
    (fun c hc => ⟨?_, ?_⟩) (fun t _ => AttemptKept.refl t)
  · simpa [EpochDatabase.evidence, EpochDatabase.setAssignment, modifyWhere] using hstep
  · by_cases hid : c.assignmentId = b.assignmentId
    · obtain rfl := only c hc (hid.trans kept.id)
      simpa [hid] using kept
    · simpa [hid] using AssignmentKept.refl c
  · by_cases hid : c.assignmentId = b.assignmentId
    · obtain rfl := only c hc (hid.trans kept.id)
      rcases run with hsame | hother
      · exact .inl (by simp [hid, hsame])
      · refine .inr fun d hd hne => ?_
        have hd' : d.assignmentId ≠ b.assignmentId := fun h => hne (h.trans hid.symm)
        simpa [hid, hd'] using hother d hd hne
    · exact .inl (by simp [hid])

theorem steps_setAttempt {t u : AgentAttempt}
    (only : ∀ v ∈ database.attempts, v.attemptId = t.attemptId → v = t)
    (id : u.attemptId = t.attemptId) (kept : AttemptKept t u) :
    database.evidence.Steps (database.setAttempt u).evidence := by
  refine Step.steps ?_
  have hstep := Step.update (e := database.evidence) (f := fun a => a)
    (g := fun v => if decide (v.attemptId = u.attemptId) then u else v)
    (fun a _ => ⟨AssignmentKept.refl a, .inl rfl⟩) (fun v hv => ?_)
  · simpa [EpochDatabase.evidence, EpochDatabase.setAttempt, modifyWhere] using hstep
  · by_cases hid : v.attemptId = u.attemptId
    · obtain rfl := only v hv (hid.trans id)
      simpa [hid] using kept
    · simpa [hid] using AttemptKept.refl v

/-- Whatever is stored under the identifier of a session has its pointers. -/
def SamePointer (database : EpochDatabase) (session : EpochSession) : Prop :=
  ∀ s ∈ database.sessions, s.sessionId = session.sessionId → s.pointer = session.pointer

/-- A session whose pointers stay is no change of the ledger. -/
theorem evidence_setSession {session : EpochSession} (h : SamePointer database session) :
    (database.setSession session).evidence = database.evidence := by
  have hpointers : (database.setSession session).sessions.map EpochSession.pointer =
      database.sessions.map EpochSession.pointer :=
    map_modifyWhere fun s hs hid => (h s hs (by simpa using hid)).symm
  simp only [EpochDatabase.evidence, hpointers]
  rfl

theorem SamePointer.congr {session session' : EpochSession} (h : SamePointer database session)
    (hpointer : session'.pointer = session.pointer) : SamePointer database session' := by
  intro s hs hid
  have hids : session'.sessionId = session.sessionId := congrArg Prod.fst hpointer
  exact (h s hs (hid.trans hids)).trans hpointer.symm

theorem samePointer_setSession {session : EpochSession} :
    SamePointer (database.setSession session) session := by
  intro s hs hid
  rcases mem_modifyWhere.mp hs with ⟨-, -, -, rfl⟩ | ⟨-, hne⟩
  · rfl
  · simp [hid] at hne

theorem samePointer_of_sessionById {sessionId : OpaqueId} {session : EpochSession}
    (h : Service.sessionById database sessionId = .ok (some session)) :
    SamePointer database session := by
  obtain ⟨-, -, honly⟩ := Service.sessionById_some h
  intro s hs hid
  rw [honly s hs hid]

theorem samePointer_of_single {sessionId : OpaqueId} {session : EpochSession}
    (h : single? database.sessions (fun s => s.sessionId = sessionId) = some session) :
    SamePointer database session := by
  obtain ⟨-, hid⟩ := single?_mem h
  simp only [decide_eq_true_eq] at hid
  intro s hs heq
  rw [single?_unique h hs (by simp [heq, hid])]

/-- An assignment found by its identifier is the only one with it. -/
theorem only_assignment {id : OpaqueId} {a : RunAssignment}
    (h : single? database.runAssignments (fun c => c.assignmentId = id) = some a) :
    a ∈ database.runAssignments ∧ a.assignmentId = id ∧
      ∀ c ∈ database.runAssignments, c.assignmentId = a.assignmentId → c = a := by
  obtain ⟨ha, hid⟩ := single?_mem h
  simp only [decide_eq_true_eq] at hid
  exact ⟨ha, hid, fun c hc heq => single?_unique h hc (by simp [heq, hid])⟩

theorem only_attempt {id : OpaqueId} {t : AgentAttempt}
    (h : single? database.attempts (fun u => u.attemptId = id) = some t) :
    t ∈ database.attempts ∧ t.attemptId = id ∧
      ∀ u ∈ database.attempts, u.attemptId = t.attemptId → u = t := by
  obtain ⟨ht, hid⟩ := single?_mem h
  simp only [decide_eq_true_eq] at hid
  exact ⟨ht, hid, fun u hu heq => single?_unique h hu (by simp [heq, hid])⟩

/-- A plan that closes in place. -/
theorem steps_setRefreshPlan {plan : RefreshPlan}
    (kept : ∀ p ∈ database.refreshPlans, p.refreshPlanId = plan.refreshPlanId → PlanKept p plan) :
    database.evidence.Steps (database.setRefreshPlan plan).evidence := by
  refine Step.steps (@Step.settle _ (database.setRefreshPlan plan).refreshPlans
    (by simp [EpochDatabase.evidence, EpochDatabase.setRefreshPlan]) ?_)
  intro q hq
  rcases mem_modifyWhere.mp hq with ⟨p, hp, hid, rfl⟩ | ⟨hq, -⟩
  · exact ⟨p, hp, kept p hp (by simpa using hid)⟩
  · exact ⟨q, hq, rfl, .inl rfl⟩

theorem PlanKept.invalidated {p plan : RefreshPlan} (h : p = plan) :
    PlanKept p (Service.invalidated plan) := by
  obtain rfl := h
  exact ⟨rfl, .inr (.inr (.inr rfl))⟩

/-- A plan found by its identifier is the only one with it. -/
theorem only_plan {id : OpaqueId} {plan : RefreshPlan}
    (h : single? database.refreshPlans (fun p => p.refreshPlanId = id) = some plan) :
    plan ∈ database.refreshPlans ∧
      ∀ p ∈ database.refreshPlans, p.refreshPlanId = plan.refreshPlanId → p = plan := by
  obtain ⟨hplan, hid⟩ := single?_mem h
  simp only [decide_eq_true_eq] at hid
  exact ⟨hplan, fun p hp heq => single?_unique h hp (by simp [heq, hid])⟩

theorem steps_invalidated {id : OpaqueId} {plan : RefreshPlan}
    (h : single? database.refreshPlans (fun p => p.refreshPlanId = id) = some plan) :
    database.evidence.Steps (database.setRefreshPlan (Service.invalidated plan)).evidence :=
  steps_setRefreshPlan fun p hp heq => PlanKept.invalidated ((only_plan h).2 p hp heq)

/-! ## The run observer -/

namespace RunObserver

open EpochGuard.RunObserver

variable {input : DispatchBindPollInput} {left : EpochDatabase} {out : AgentAttempt}

/-- A mutation of the run observer changes one assignment and one attempt. -/
theorem steps_store {assignment assignment' : RunAssignment} {attempt attempt' : AgentAttempt}
    (hrecords : requireRecords database input = .ok (assignment, attempt))
    (hstore : store database assignment' attempt' = .ok (left, out))
    (hassignment : AssignmentKept assignment assignment')
    (hattempt : AttemptKept attempt attempt') (hid : attempt'.attemptId = attempt.attemptId)
    (hrun : assignment'.boundRunId = assignment.boundRunId ∨
      ∀ c ∈ database.runAssignments, c.assignmentId ≠ assignment.assignmentId →
        c.boundRunId ≠ assignment'.boundRunId) :
    database.evidence.Steps left.evidence := by
  obtain ⟨ha, ht⟩ := requireRecords_eq_ok.mp hrecords
  obtain ⟨-, hleft⟩ := store_eq_ok.mp hstore
  obtain ⟨rfl, -⟩ := Prod.mk.inj hleft
  obtain ⟨-, -, honly⟩ := only_assignment ha
  obtain ⟨-, -, honly'⟩ := only_attempt ht
  exact (steps_setAssignment honly hassignment hrun).trans (steps_setAttempt honly' hid hattempt)

theorem steps_transitionToDispatching
    (h : transitionToDispatching database input = .ok (left, out)) :
    database.evidence.Steps left.evidence := by
  simp only [transitionToDispatching, bind_eq_ok, require_eq_ok, Prod.exists] at h
  obtain ⟨assignment, attempt, hrecords, -, -, -, ⟨hunused, hstatus, -⟩, -, -, hstore⟩ := h
  exact steps_store hrecords hstore (AssignmentKept.refl _)
    (AttemptKept.of_open rfl (by simp [hstatus]) (by simp)) rfl (.inl rfl)

theorem steps_bindRunOnce {run : AgentRun} {boundAt : Timestamp}
    (h : bindRunOnce database input run boundAt = .ok (left, out)) :
    database.evidence.Steps left.evidence := by
  simp only [bindRunOnce, bind_eq_ok, require_eq_ok, orStop_eq_ok, Prod.exists] at h
  obtain ⟨assignment, attempt, hrecords, -, ⟨hunused, hstatus, -⟩, -, ⟨hother, -⟩, runId,
    hrunId, hstore⟩ := h
  have hopen : assignment.status ≠ .CONSUMED := by simp [hunused.1]
  refine steps_store hrecords hstore
    (AssignmentKept.of_open rfl rfl rfl (fun _ => .inl hunused.1) rfl hopen (by simp))
    (AttemptKept.of_open rfl (by simp [hstatus]) (by simp)) rfl (.inr ?_)
  intro c hc hne heq
  apply hother c hc hne
  rw [heq, Option.map_some, OpaqueId.parse?_eq_some.mp hrunId]

theorem observeFailure_kept {attempt : AgentAttempt} {status : AttemptState} {run : AgentRun}
    (hterminal : status = .FAILED ∨ status = .INTERRUPTED) (hopen : attempt.status ≠ .ACCEPTED) :
    AttemptKept attempt (observeFailure attempt status run) ∧
      (observeFailure attempt status run).attemptId = attempt.attemptId := by
  have hstatus : status ≠ .ACCEPTED := by
    rcases hterminal with rfl | rfl <;> simp
  simp only [observeFailure]
  split_ifs <;>
    exact ⟨AttemptKept.of_open rfl hopen (by simp [hstatus, hopen]), rfl⟩

theorem failedAttempt_kept {attempt : AgentAttempt} {status : AttemptState}
    (run : Option AgentRun) (hterminal : status = .FAILED ∨ status = .INTERRUPTED)
    (hopen : attempt.status ≠ .ACCEPTED) :
    AttemptKept attempt (failedAttempt attempt status run) ∧
      (failedAttempt attempt status run).attemptId = attempt.attemptId := by
  unfold failedAttempt
  split
  · refine ⟨AttemptKept.of_open rfl hopen ?_, rfl⟩
    rcases hterminal with rfl | rfl <;> simp
  · split
    · exact observeFailure_kept hterminal hopen
    · exact ⟨AttemptKept.refl _, rfl⟩
  · exact ⟨AttemptKept.refl _, rfl⟩

theorem steps_failAttempt {status : AttemptState} {run : Option AgentRun}
    (hterminal : status = .FAILED ∨ status = .INTERRUPTED)
    (h : failAttempt database input status run = .ok (left, out)) :
    database.evidence.Steps left.evidence := by
  simp only [failAttempt, bind_eq_ok, require_eq_ok, Prod.exists] at h
  obtain ⟨assignment, attempt, hrecords, -, ⟨hopen, hunconsumed⟩, -, -, hstore⟩ := h
  obtain ⟨hkept, hid⟩ := failedAttempt_kept run hterminal hopen
  exact steps_store hrecords hstore (AssignmentKept.rejected hunconsumed) hkept hid (.inl rfl)

theorem steps_rejectCompletedOutput
    (h : rejectCompletedOutput database input = .ok (left, out)) :
    database.evidence.Steps left.evidence := by
  simp only [rejectCompletedOutput, bind_eq_ok, require_eq_ok, Prod.exists] at h
  obtain ⟨assignment, attempt, hrecords, -, ⟨hbound, hcompleted⟩, hstore⟩ := h
  exact steps_store hrecords hstore (AssignmentKept.rejected (by simp [hbound]))
    (AttemptKept.of_open rfl (by simp [hcompleted]) (by simp)) rfl (.inl rfl)

variable [Sha256]

/-- A report never asks for acceptance. -/
theorem targetAttemptFromRun_status {run : AgentRun} {target : RunTarget}
    (h : targetAttemptFromRun run = .ok target) : target.status ≠ .ACCEPTED := by
  simp only [targetAttemptFromRun, bind_eq_ok] at h
  obtain ⟨-, -, h⟩ := h
  split at h <;> simp only [bind_eq_ok, pure_eq_ok] at h
  · obtain ⟨-, -, rfl⟩ := h
    simp
  · obtain ⟨-, -, rfl⟩ := h
    simp
  · obtain ⟨-, -, -, -, rfl⟩ := h
    simp
  · obtain ⟨-, -, rfl⟩ := h
    simp
  · obtain ⟨-, -, rfl⟩ := h
    simp

theorem steps_mirrorRun {agentId : OpaqueId} {run : AgentRun}
    (h : mirrorRun database input agentId run = .ok (left, out)) :
    database.evidence.Steps left.evidence := by
  simp only [mirrorRun, bind_eq_ok, require_eq_ok, orStop_eq_ok, Prod.exists] at h
  obtain ⟨-, -, -, -, target, htarget, assignment, attempt, hrecords, -, ⟨-, -, hstatus⟩, -, -,
    -, hterminal, -, -, -, -, -, -, usage, -, hstore⟩ := h
  have hnot := targetAttemptFromRun_status htarget
  have hopen : attempt.status ≠ .ACCEPTED := by
    intro haccepted
    -- an accepted attempt is terminal, and no report repeats its status
    exact hnot ((hterminal (by simp [haccepted, attemptStatusRank])).symm.trans haccepted)
  have hunconsumed : assignment.status ≠ .CONSUMED := by
    rcases hstatus with hbound | hrejected
    · simp [hbound]
    · simp [hrejected]
  refine steps_store hrecords hstore (AssignmentKept.of_open rfl rfl rfl ?_ rfl hunconsumed ?_)
    (AttemptKept.of_open rfl hopen hnot) rfl (.inl rfl)
  · show (_ = AssignmentState.CREATED ∨ _ = AssignmentState.BOUND) → _
    dsimp only
    split_ifs
    · simp
    · exact id
  · show (if _ then AssignmentState.REJECTED else assignment.status) ≠ .CONSUMED
    split_ifs
    · simp
    · exact hunconsumed

theorem steps_joinRoleRunObservations {settled : List Settled} {scope : RoleRunJoinScope} :
    database.evidence.Steps (joinRoleRunObservations database settled scope).1.evidence := by
  have hreject : database.evidence.Steps (rejectSiblings database scope).evidence := by
    refine Step.steps ?_
    have hstep := Step.update (e := database.evidence)
      (f := fun a => if scope.assignmentIds.contains a.assignmentId &&
          a.sessionId = scope.sessionId && a.actionHash = scope.actionHash &&
          a.status != .CONSUMED then { a with status := .REJECTED } else a) (g := id)
      (fun a _ => ⟨?_, .inl ?_⟩) (fun t _ => AttemptKept.refl t)
    · simpa [EpochDatabase.evidence, rejectSiblings, modifyWhere] using hstep
    · split_ifs with hsibling
      · simp only [Bool.and_eq_true, bne_iff_ne] at hsibling
        exact AssignmentKept.rejected hsibling.2
      · exact AssignmentKept.refl a
    · dsimp only
      split_ifs <;> rfl
  unfold joinRoleRunObservations
  split
  · exact Steps.refl
  · exact hreject

end RunObserver

/-! ## Decisions -/

section Decisions

open DecisionParser

variable {left : EpochDatabase} {attemptId : OpaqueId} {rawOutput : JsString}
  {records : ConsumableRecords} {existing : Option DependencyCertificate}
  {certificate : DependencyCertificate}

/-- The consumption of an assignment is the acceptance of its decision. -/
theorem evidence_consume (hsession : certificate.sessionId = records.session.sessionId)
    (hrole : certificate.role = records.assignment.role) :
    (consume database records existing certificate).evidence =
      database.evidence.accept records.assignment records.attempt existing certificate
        records.session.pointer
        { records.assignment with
          status := .CONSUMED
          consumedByDecisionCertificateId := some certificate.certificateId
          consumedAt := some certificate.createdAt } := by
  have hpointers : (modifyWhere (fun s => s.sessionId = records.session.sessionId)
      (fun _ => { records.session with
        activeDecisionCertificateIds :=
          records.session.activeDecisionCertificateIds.set records.assignment.role
            (some certificate.certificateId)
        activeAttemptIds :=
          records.session.activeAttemptIds.set records.assignment.role none })
      database.sessions).map EpochSession.pointer =
      modifyWhere (fun p => p.1 = certificate.sessionId)
        (fun _ => (records.session.pointer.1,
          records.session.pointer.2.set certificate.role (some certificate.certificateId)))
        (database.sessions.map EpochSession.pointer) := by
    refine map_modifyWhere_comm (fun s _ => ?_) (fun s _ _ => ?_)
    · rw [hsession]
      rfl
    · rw [hrole]
      rfl
  cases existing <;>
    simp only [consume, accept, supersede, EpochDatabase.evidence, EpochDatabase.setAssignment,
      EpochDatabase.setAttempt, EpochDatabase.setDecision, EpochDatabase.setSession,
      Option.elim_none, Option.elim_some, hpointers]

variable [Sha256]

theorem steps_consume {envelope : AgentDecisionEnvelope} {options : DecisionNormalizationOptions}
    (hconsumable : Consumable database attemptId rawOutput records)
    (hfresh : ∀ d ∈ database.decisions, d.certificateId ≠ options.certificateId)
    (hexisting : requireSupersedable database records.session records.assignment.role =
      .ok existing) :
    database.evidence.Steps
      (consume database records existing (certificateFor records envelope options)).evidence := by
  obtain ⟨ha, -, honly⟩ := only_assignment hconsumable.assignment
  obtain ⟨ht, -, honly'⟩ := only_attempt hconsumable.attempt
  obtain ⟨hpointed, hactive⟩ := requireSupersedable_cases hexisting
  have hsession : records.assignment.sessionId = records.session.sessionId :=
    hconsumable.attemptBinding.assignmentSession
  have hready : database.evidence.Ready records.assignment records.attempt records.receipt
      records.runId :=
    { assignment := hconsumable.attemptBinding.assignmentId ▸ hconsumable.assignment
      attempt := by
        have hid := (only_attempt hconsumable.attempt).2.1
        exact hid ▸ hconsumable.attempt
      owner := hconsumable.attemptBinding.assignmentId
      receipt := (single?_mem hconsumable.receipt).1
      receiptId := hconsumable.receiptBinding.receiptId
      receiptOwner := hconsumable.receiptBinding.assignmentId
      unconsumed := by simp [hconsumable.bound]
      bound := hconsumable.run
      sameRun := hconsumable.attemptBinding.run ▸ hconsumable.run
      output := by simp [hconsumable.output] }
  have hreplaces : database.evidence.Replaces (certificateFor records envelope options)
      records.session.pointer existing :=
    { session := by
        show single? (database.sessions.map EpochSession.pointer) _ = _
        rw [single?_map]
        have hfound := hconsumable.session
        simp only [Option.map_eq_some_iff]
        exact ⟨records.session, hfound, rfl⟩
      pointed := hpointed
      found := fun d hd => (hactive d hd).1
      active := by
        intro d hd
        obtain ⟨-, hstatus, hrole, hof, -⟩ := hactive d hd
        exact ⟨hstatus, hof.trans hsession.symm, hrole⟩
      fresh := hfresh
      status := ⟨rfl, rfl⟩ }
  rw [evidence_consume hsession rfl]
  exact Step.steps (.accept hready hreplaces rfl rfl ⟨rfl, rfl, rfl, rfl⟩ rfl ⟨rfl, rfl⟩)

theorem steps_rejectOutput {artifact : RejectedOutputArtifact}
    (hconsumable : Consumable database attemptId rawOutput records) :
    database.evidence.Steps (rejectOutput database records artifact).evidence := by
  obtain ⟨-, -, honly⟩ := only_assignment hconsumable.assignment
  obtain ⟨-, -, honly'⟩ := only_attempt hconsumable.attempt
  have hassignment := AssignmentKept.rejected (a := records.assignment)
    (by simp [hconsumable.bound])
  have hattempt : AttemptKept records.attempt { records.attempt with status := .OUTPUT_REJECTED } :=
    AttemptKept.of_open rfl (by simp [hconsumable.completed]) (by simp)
  exact (steps_setAssignment honly hassignment (.inl rfl)).trans
    (steps_setAttempt honly' rfl hattempt)

theorem steps_normalizeAndConsumeDecision [OutputPorts] {options : DecisionNormalizationOptions}
    {result : DecisionNormalizationResult}
    (h : normalizeAndConsumeDecision database attemptId rawOutput options = .ok (left, result)) :
    database.evidence.Steps left.evidence := by
  obtain ⟨records, hconsumable, ⟨failure, artifact, -, -, rfl, -⟩ |
    ⟨envelope, existing, -, hfresh, hexisting, rfl, -⟩⟩ := normalizeAndConsumeDecision_cases h
  · exact steps_rejectOutput hconsumable
  · exact steps_consume hconsumable hfresh hexisting

end Decisions

/-! ## Observations -/

section Observations

open Service

variable {left : EpochDatabase}

variable [Sha256]

/-- A receipt is fresh, and its pack changes nothing else of the ledger. -/
theorem steps_issueAndPack {action : ActionIntent} {assignment : RunAssignment}
    {querySpec : RoleQuerySpec} {nonce : String} {issuedAt : Timestamp}
    (hmem : assignment ∈ database.runAssignments)
    (h : issueAndPack database action assignment querySpec nonce issuedAt = .ok left) :
    database.evidence.Steps left.evidence ∧ left.sessions = database.sessions ∧
      left.refreshPlans = database.refreshPlans ∧ left.permits = database.permits ∧
      left.runAssignments.map RunAssignment.role =
        database.runAssignments.map RunAssignment.role := by
  obtain ⟨_, issued, built, hissue, -, rfl⟩ := issueAndPack_cases h
  obtain rfl := hissue.left
  obtain ⟨a, ha⟩ := hissue.stored
  have hsame : assignment = a := single?_unique ha hmem (by simp)
  obtain ⟨-, -, honly⟩ := only_assignment ha
  rw [← hsame] at honly
  have hcreated : assignment.status = .CREATED := hissue.unused.1
  have hopen : assignment.status ≠ .CONSUMED := by simp [hcreated]
  have hobserve : database.evidence.Step
      { database with
          receipts := database.receipts ++ [issued.receipt] : EpochDatabase }.evidence := by
    refine .observe fun r hr => ?_
    rw [hissue.receipt.1, hissue.receipt.2.1, hissue.receipt.2.2.1]
    exact hissue.fresh r hr
  have hpack : AssignmentKept assignment
      { assignment with evidencePackHash := built.evidencePackHash } :=
    AssignmentKept.of_open rfl rfl rfl id rfl hopen hopen
  refine ⟨hobserve.steps.trans (steps_setAssignment honly hpack (.inl rfl)), rfl, rfl, rfl, ?_⟩
  refine map_modifyWhere fun c hc hid => ?_
  simp only [decide_eq_true_eq] at hid
  rw [honly c hc hid]

theorem newAssignment_cases {session : EpochSession} {role : Role}
    {registration : RoleAgentRegistration} {runtimeLabel : String} {createdAt : Timestamp}
    {assignmentId receiptId : OpaqueId} {assignment : RunAssignment}
    (h : newAssignment session role registration runtimeLabel createdAt assignmentId receiptId =
      .ok assignment) :
    assignment.status = .CREATED ∧ assignment.role = role ∧
      assignment.consumedByDecisionCertificateId = none ∧ assignment.boundRunId = none := by
  simp only [newAssignment, bind_eq_ok, pure_eq_ok] at h
  obtain ⟨-, -, rfl⟩ := h
  exact ⟨rfl, rfl, rfl, rfl⟩

/-- A store in which a session is being prepared: no plan and no permit yet,
and the roles that have been observed. -/
structure Preparing (prepared : Prepared) (roles : List Role) : Prop where
  same : SamePointer prepared.database prepared.session
  opened : prepared.database.sessions ≠ []
  first : prepared.database.refreshPlans = [] ∧ prepared.database.permits = []
  observed : prepared.database.runAssignments.map RunAssignment.role = roles

theorem steps_captureInitial {prepared next : Prepared} {ports : CreateSessionPorts}
    {fixture : Fixtures.EpochGuardFixture} {verified : PerRole RoleAgentRegistration}
    {step : Fixtures.FixtureCaptureStep} {roles : List Role} (hprepared : Preparing prepared roles)
    (hrole : step.role ∉ roles)
    (h : captureInitial prepared ports fixture verified step = .ok next) :
    prepared.database.evidence.Steps next.database.evidence ∧
      Preparing next (roles ++ [step.role]) := by
  simp only [captureInitial, bind_eq_ok, require_eq_ok, pure_eq_ok] at h
  obtain ⟨-, -, assignment, hassignment, issued, hissued, rfl⟩ := h
  obtain ⟨hstatus, hof, hunbound⟩ := newAssignment_cases hassignment
  -- the issuance finds the new assignment alone, so its identifier is fresh
  have hfresh : ∀ b ∈ prepared.database.runAssignments,
      b.assignmentId ≠ assignment.assignmentId := by
    obtain ⟨_, _, _, hissue, -⟩ := issueAndPack_cases hissued
    obtain ⟨a, ha⟩ := hissue.stored
    have hfilter := single?_eq_some.mp ha
    have hsplit : prepared.database.runAssignments.filter
        (fun b => decide (b.assignmentId = assignment.assignmentId)) ++ [assignment] = [a] := by
      simpa [EpochDatabase.setSession] using hfilter
    have hnil := congrArg List.length hsplit
    simp only [List.length_append, List.length_singleton] at hnil
    have hempty := List.eq_nil_of_length_eq_zero (Nat.succ.inj hnil)
    simpa [List.filter_eq_nil_iff] using hempty
  obtain ⟨hissue, hsessions, hplans, hpermits, hroles⟩ :=
    steps_issueAndPack (by simp [EpochDatabase.setSession]) hissued
  constructor
  · refine Steps.trans ?_ hissue
    rw [evidence_setSession]
    · refine Step.steps (.assign ⟨hfresh, rfl, hstatus, hunbound, rfl⟩ ?_ hprepared.first ?_)
      · simpa [EpochDatabase.evidence] using hprepared.opened
      · intro b hb hsame
        rw [hof] at hsame
        have hmem : b.role ∈ roles := hprepared.observed ▸ List.mem_map_of_mem hb
        exact hrole (hsame ▸ hmem)
    · exact hprepared.same.congr rfl
  · constructor
    case same =>
      intro s hs
      rw [hsessions] at hs
      exact samePointer_setSession s hs
    case opened =>
      rw [hsessions]
      simpa [EpochDatabase.setSession, modifyWhere] using hprepared.opened
    case first =>
      rw [hplans, hpermits]
      exact hprepared.first
    case observed =>
      rw [hroles]
      simp [EpochDatabase.setSession, hprepared.observed, hof]

theorem steps_world {world : World} {input : WorldLedger.WorldCommitInput} {record : WorldCommit}
    (h : WorldLedger.commit database.toWorld input = .ok (world, record)) :
    database.evidence.Steps { database with toWorld := world : EpochDatabase }.evidence := by
  obtain ⟨pending, hstep⟩ := WorldLedger.commit_cases h
  refine Step.steps (.advance ?_)
  rw [hstep.headSeq]
  exact Nat.le_succ _

/-- The role that a step of a fixture observes. -/
def observedRole : Fixtures.FixtureInitialStep → Option Role
  | .commit _ => none
  | .capture step => some step.role

/-- The steps of a fixture that observes no role twice. -/
theorem steps_initialSteps {steps : List Fixtures.FixtureInitialStep} {prepared next : Prepared}
    {ports : CreateSessionPorts} {fixture : Fixtures.EpochGuardFixture}
    {verified : PerRole RoleAgentRegistration} (roles : List Role)
    (hprepared : Preparing prepared roles)
    (hroles : (roles ++ steps.filterMap observedRole).Nodup)
    (h : steps.foldlM (initialStep ports fixture verified) prepared = .ok next) :
    prepared.database.evidence.Steps next.database.evidence := by
  induction steps generalizing prepared roles with
  | nil =>
    rw [List.foldlM_nil, pure_eq_ok] at h
    exact h ▸ Steps.refl
  | cons step rest ih =>
    rw [List.foldlM_cons, bind_eq_ok] at h
    obtain ⟨middle, hstep, hrest⟩ := h
    cases step with
    | commit step =>
      simp only [initialStep, Fixtures.applyFixtureCommit, bind_eq_ok, pure_eq_ok] at hstep
      obtain ⟨world, ⟨input, -, ⟨world', record⟩, hcommit, rfl⟩, rfl⟩ := hstep
      refine (steps_world hcommit).trans (ih _ ?_ hroles hrest)
      exact ⟨hprepared.same, hprepared.opened, hprepared.first, hprepared.observed⟩
    | capture step =>
      simp only [observedRole, List.filterMap_cons] at hroles
      have hrole : step.role ∉ roles := by
        intro hmem
        exact (List.nodup_append.mp hroles).2.2 _ hmem _ List.mem_cons_self rfl
      obtain ⟨hsteps, hnext⟩ := steps_captureInitial hprepared hrole hstep
      exact hsteps.trans (ih _ hnext (by simpa using hroles) hrest)

omit [Sha256] in
theorem storeQuerySpec_cases {query : RoleQuerySpec}
    (h : storeQuerySpec database query = .ok left) :
    ∃ specs, left = { database with roleQuerySpecs := specs } := by
  unfold storeQuerySpec at h
  split at h
  · rw [pure_eq_ok] at h
    exact ⟨_, h.symm⟩
  · simp only [bind_eq_ok, pure_eq_ok] at h
    obtain ⟨-, -, rfl⟩ := h
    exact ⟨database.roleQuerySpecs, rfl⟩

omit [Sha256] in
theorem bootstrapHeadSeq_ne_zero (scenarioId : ScenarioId) :
    (Fixtures.getEpochGuardFixture scenarioId).bootstrapHeadSeq ≠ 0 := by
  cases scenarioId <;> decide

omit [Sha256] in
theorem nodup_observedRoles (scenarioId : ScenarioId) :
    ((Fixtures.getEpochGuardFixture scenarioId).initialSteps.filterMap observedRole).Nodup := by
  cases scenarioId <;> decide

/-- A session is opened in a store that has none, before its observations. -/
theorem steps_createSession (hinv : database.evidence.Inv) {request : CreateSessionRequest}
    {verified : PerRole RoleAgentRegistration} {ports : CreateSessionPorts}
    (h : createSession database request verified ports = .ok left) :
    database.evidence.Steps left.evidence := by
  unfold createSession at h
  split at h
  · simp at h
  · simp only [bind_eq_ok, require_eq_ok, mapError_eq_ok, pure_eq_ok,
      Fixtures.initializeFixtureWorld] at h
    obtain ⟨-, ⟨hhead, -⟩, prepared, ⟨world, ⟨-, -, rfl⟩, action, haction, queried, hqueried,
      hfold⟩, -, -, rfl⟩ := h
    -- a session is created on an untouched ledger only, and there is none on such a
    -- one
    have hnone : database.sessions = [] := by
      by_contra hne
      exact hinv.opened (by simpa [EpochDatabase.evidence] using hne) hhead
    obtain ⟨specs, rfl⟩ : ∃ specs, queried = { database with
        headSeq := (Fixtures.getEpochGuardFixture request.scenarioId).bootstrapHeadSeq
        roleQuerySpecs := specs } := by
      refine foldlM_induction (P := fun db => ∃ specs, db = { database with
        headSeq := (Fixtures.getEpochGuardFixture request.scenarioId).bootstrapHeadSeq
        roleQuerySpecs := specs }) ?_ ⟨database.roleQuerySpecs, rfl⟩ hqueried
      intro before role after hbefore _ hstore
      obtain ⟨specs, rfl⟩ := hbefore
      obtain ⟨specs', rfl⟩ := storeQuerySpec_cases hstore
      exact ⟨specs', rfl⟩
    -- the session is opened before its first observations are made
    have hopen : database.evidence.Step
        { database with
          headSeq := (Fixtures.getEpochGuardFixture request.scenarioId).bootstrapHeadSeq
          roleQuerySpecs := specs
          sessions := database.sessions ++
            [newSession request action ports.sessionId ports.timestamp] :
          EpochDatabase }.evidence := by
      have hstep : database.evidence.Step
          { database.evidence with
            headSeq := (Fixtures.getEpochGuardFixture request.scenarioId).bootstrapHeadSeq
            pointers := [(ports.sessionId, PerRole.const none)] } :=
        .openSession (by simp [EpochDatabase.evidence, hnone])
          (bootstrapHeadSeq_ne_zero request.scenarioId)
      simpa [EpochDatabase.evidence, hnone, EpochSession.pointer, newSession] using hstep
    obtain ⟨hassignments, hplans, hpermits⟩ :=
      hinv.unopened (by simp [EpochDatabase.evidence, hnone])
    refine hopen.steps.trans (steps_initialSteps [] ⟨?_, by simp, ⟨hplans, hpermits⟩, ?_⟩
      (nodup_observedRoles request.scenarioId) hfold)
    · intro s hs _
      rw [hnone] at hs
      obtain rfl := List.mem_singleton.mp hs
      rfl
    · have hnil : database.runAssignments = [] := hassignments
      simp [hnil]

theorem steps_captureRefreshObservation {fixture : Fixtures.EpochGuardFixture}
    {assignmentId : OpaqueId} {nonce : String} {issuedAt : Timestamp}
    (h : captureRefreshObservation database fixture assignmentId nonce issuedAt = .ok left) :
    database.evidence.Steps left.evidence := by
  simp only [captureRefreshObservation, bind_eq_ok, require_eq_ok, orStop_eq_ok,
    mapError_eq_ok] at h
  obtain ⟨capture, -, -, -, assignment, hassignment, -, -, session, -, -, -, hissue⟩ := h
  exact (steps_issueAndPack (List.mem_of_find?_eq_some hassignment) hissue).1

end Observations

/-! ## Validation and closure -/

section Closure

open Service

variable {left : EpochDatabase} {session : EpochSession}

@[simp] theorem evidence_appendEvent {type status : String} {refs : List ArtifactRef}
    {stamp : EventStamp} :
    (appendEvent database session type status refs stamp).evidence = database.evidence := rfl

theorem evidence_appendDiagnostic {values : DiagnosticValues} {diagnosticId : OpaqueId}
    (h : appendDiagnostic database session values diagnosticId = .ok left) :
    left.evidence = database.evidence := by
  obtain ⟨-, rfl⟩ := appendDiagnostic_cases h
  rfl

/-- The assignment and the attempt of a claimed refresh that fails are open. -/
theorem closeBoundRefresh_steps (hinv : database.evidence.Inv) {plan : RefreshPlan}
    {attempt : AgentAttempt} {assignment : RunAssignment} {terminalStatus : AttemptState}
    {preserved : Option Role} {closure : RefreshFailureClosure} {attemptId : OpaqueId}
    (hterminal : terminalStatus ≠ .ACCEPTED)
    (hattempt : single? database.attempts (fun a => a.attemptId = attemptId) = some attempt)
    (hassignment : single? database.runAssignments
      (fun r => r.assignmentId = attempt.assignmentId) = some assignment)
    (hbinding : claimedBindingIsValid session attempt assignment) {planId : OpaqueId}
    (hplan : single? database.refreshPlans (fun p => p.refreshPlanId = planId) = some plan)
    (h : closeBoundRefresh database session plan attempt assignment terminalStatus preserved =
      .ok closure) :
    database.evidence.Steps closure.database.evidence ∧
      closure.database.sessions = database.sessions ∧
      closure.session.pointer = session.pointer := by
  obtain ⟨ha, hid, honly⟩ := only_assignment hassignment
  obtain ⟨ht, -, honly'⟩ := only_attempt hattempt
  have hconsumed : assignment.status ≠ .CONSUMED := by
    intro hstatus
    exact (hinv.consumed assignment ha).mp hstatus hbinding.2.2.2.2.2.2.2.2.2.2.1
  have hopen : attempt.status ≠ .ACCEPTED := by
    intro haccepted
    exact hconsumed (hinv.consumed_of_accepted ha ht hid.symm haccepted)
  have hrejected := steps_setAssignment honly (AssignmentKept.rejected hconsumed) (.inl rfl)
  unfold closeBoundRefresh at h
  dsimp only at h
  split at h
  · simp only [bind_eq_ok, pure_eq_ok] at h
    obtain ⟨-, -, rfl⟩ := h
    exact ⟨hrejected, rfl, rfl⟩
  · split at h
    · simp only [bind_eq_ok, pure_eq_ok] at h
      obtain ⟨-, -, rfl⟩ := h
      refine ⟨hrejected.trans (steps_setAttempt honly' rfl (AttemptKept.of_open rfl hopen ?_)),
        rfl, rfl⟩
      dsimp only
      split_ifs
      · exact hopen
      · exact hterminal
    · rw [pure_eq_ok] at h
      obtain rfl := h
      exact ⟨hrejected.trans (steps_invalidated hplan), rfl, rfl⟩

theorem closeClaimedRefreshFailure_steps (hinv : database.evidence.Inv)
    {terminalStatus : AttemptState} {preserved : Option Role} {closure : RefreshFailureClosure}
    (hterminal : terminalStatus ≠ .ACCEPTED)
    (h : closeClaimedRefreshFailure database session terminalStatus preserved = .ok closure) :
    database.evidence.Steps closure.database.evidence ∧
      closure.database.sessions = database.sessions ∧
      closure.session.pointer = session.pointer := by
  unfold closeClaimedRefreshFailure at h
  dsimp only at h
  split at h
  · rw [pure_eq_ok] at h
    obtain rfl := h
    exact ⟨Steps.refl, rfl, rfl⟩
  · rename_i plan hfound
    obtain ⟨planId, -, hplan⟩ := Option.bind_eq_some_iff.mp hfound
    split_ifs at h
    · rw [pure_eq_ok] at h
      obtain rfl := h
      exact ⟨Steps.refl, rfl, rfl⟩
    · split at h
      · rename_i attempt assignment hattempt hassignment
        split_ifs at h with hbinding
        · obtain ⟨attemptId, -, hfound⟩ := Option.bind_eq_some_iff.mp hattempt
          rw [hattempt, Option.bind_some] at hassignment
          exact closeBoundRefresh_steps hinv hterminal hfound hassignment hbinding hplan h
        · rw [pure_eq_ok] at h
          obtain rfl := h
          exact ⟨steps_invalidated hplan, rfl, rfl⟩
      · rw [pure_eq_ok] at h
        obtain rfl := h
        exact ⟨steps_invalidated hplan, rfl, rfl⟩

theorem pointer_closedSession (closure : RefreshFailureClosure) :
    closure.closedSession.pointer = closure.session.pointer := by
  unfold RefreshFailureClosure.closedSession
  split_ifs <;> rfl

theorem pointer_failedSession {timestamp : Timestamp} :
    (failedSession session timestamp).pointer = session.pointer := rfl

/-- A failure closes its session after the claimed refresh. -/
theorem steps_closed (hinv : database.evidence.Inv) (hsame : SamePointer database session)
    {timestamp : Timestamp} {preserved : Option Role} {closure : RefreshFailureClosure}
    {values : DiagnosticValues} {diagnosticId : OpaqueId}
    (hclosure : closeClaimedRefreshFailure database (failedSession session timestamp) .FAILED
      preserved = .ok closure)
    (h : appendDiagnostic (closure.database.setSession closure.closedSession)
      closure.closedSession values diagnosticId = .ok left) :
    database.evidence.Steps left.evidence := by
  obtain ⟨hsteps, hsessions, hpointer⟩ := closeClaimedRefreshFailure_steps hinv (by simp) hclosure
  have hsame' : SamePointer closure.database closure.closedSession := by
    have hpointers : closure.closedSession.pointer = session.pointer :=
      (pointer_closedSession closure).trans (hpointer.trans pointer_failedSession)
    intro s hs
    rw [hsessions] at hs
    exact hsame.congr hpointers s hs
  refine hsteps.trans (Steps.of_eq ?_)
  rw [evidence_appendDiagnostic h, evidence_setSession hsame']

theorem steps_failSession (hinv : database.evidence.Inv) {sessionId : OpaqueId}
    {error : ServiceError} {ports : FailPorts}
    (h : failSession database sessionId error ports = .ok left) :
    database.evidence.Steps left.evidence := by
  simp only [failSession, bind_eq_ok] at h
  obtain ⟨found, hfound, h⟩ := h
  cases found with
  | none =>
    obtain rfl := pure_eq_ok.mp h
    exact Steps.refl
  | some session =>
    dsimp only at h
    split at h
    · obtain rfl := pure_eq_ok.mp h
      exact Steps.refl
    · simp only [bind_eq_ok, pure_eq_ok] at h
      obtain ⟨closure, hclosure, diagnosed, hdiagnosed, rfl⟩ := h
      rw [evidence_appendEvent]
      exact steps_closed hinv (samePointer_of_sessionById hfound) hclosure hdiagnosed

variable [Sha256]

omit [Sha256] in
/-- The plan of a refreshed session is claimed until its validation. -/
theorem completedPlan_cases {refreshPlan completed : Option RefreshPlan}
    (h : completedPlan database refreshPlan = .ok completed) :
    completed = none ∨ ∃ plan ∈ database.refreshPlans, plan.status = .CLAIMED ∧
      completed = some { plan with status := .COMPLETED } := by
  unfold completedPlan at h
  split at h
  · exact .inl (pure_eq_ok.mp h).symm
  · simp only [completeRefreshPlan, bind_eq_ok, orStop_eq_ok, require_eq_ok, pure_eq_ok] at h
    obtain ⟨_, ⟨plan, hplan, -, ⟨hclaimed, -⟩, rfl⟩, rfl⟩ := h
    exact .inr ⟨plan, List.mem_of_find?_eq_some hplan, hclaimed, rfl⟩

omit [Sha256] in
/-- A plan afterwards is one that was there, or the completed one. -/
theorem mem_setFirstRefreshPlan {plan q : RefreshPlan}
    (h : q ∈ (setFirstRefreshPlan database plan).refreshPlans) :
    q ∈ database.refreshPlans ∨ q = plan := by
  rcases mem_modifyFirst h with hold | ⟨_, -, rfl⟩
  · exact .inl hold
  · exact .inr rfl

omit [Sha256] in
theorem steps_completed {refreshPlan completed : Option RefreshPlan}
    (h : completedPlan database refreshPlan = .ok completed) :
    database.evidence.Steps (completed.elim database (setFirstRefreshPlan database)).evidence := by
  rcases completedPlan_cases h with rfl | ⟨plan, hplan, hclaimed, rfl⟩
  · exact Steps.refl
  · refine Step.steps (@Step.settle _ (setFirstRefreshPlan database _).refreshPlans ?_ ?_)
    · have hids : (setFirstRefreshPlan database { plan with status := .COMPLETED }).refreshPlans.map
          RefreshPlan.refreshPlanId = database.refreshPlans.map RefreshPlan.refreshPlanId := by
        refine map_modifyFirst fun p _ hid => ?_
        exact (by simpa using hid : p.refreshPlanId = plan.refreshPlanId).symm
      show (setFirstRefreshPlan database _).refreshPlans.length = database.refreshPlans.length
      simpa only [List.length_map] using congrArg List.length hids
    · intro q hq
      rcases mem_setFirstRefreshPlan hq with hold | rfl
      · exact ⟨q, hold, rfl, .inl rfl⟩
      · exact ⟨plan, hplan, rfl, .inr (.inr (.inl rfl))⟩

/-- A ledger whose session is validated: no permit yet, no plan to claim, and
after a refresh no observation under way. -/
structure Validating (e : Evidence) : Prop where
  inv : e.Inv
  unpermitted : e.permits = []
  settled : ∀ p ∈ e.plans, p.status ≠ .AVAILABLE
  refreshed : e.plans ≠ [] → e.Idle

/-- A validated session has a decision for each role, so all is consumed. -/
theorem idle_of_validated (hvalidating : Validating database.evidence)
    {sessionId : OpaqueId} {resolver : JointValidity.ResourceVersionResolver}
    {options : JointValidity.Options} {result : JointValidity.Result}
    (h : JointValidity.validateJointValidity database sessionId resolver options = .ok result) :
    database.evidence.Idle := by
  by_cases hplans : database.evidence.plans = []
  · have hinv := hvalidating.inv
    simp only [JointValidity.validateJointValidity, bind_eq_ok, require_eq_ok] at h
    obtain ⟨-, -, ⟨session, ids, decisions⟩, htuple, -⟩ := h
    obtain ⟨hsession, hids, -, -⟩ := JointValidity.activeDecisionTuple_eq_ok.mp htuple
    intro a ha hunused
    have hpointer : session.pointer ∈ database.evidence.pointers :=
      List.mem_map_of_mem (single?_mem hsession).1
    obtain ⟨d, hd, -, -, hrole, -⟩ := hinv.pointed _ hpointer a.role _ (hids a.role)
    obtain ⟨b, t, r, hbacked⟩ := hinv.backed d hd
    have hid := hinv.initial hplans a ha b hbacked.assignment (hrole.symm.trans hbacked.role.symm)
    rw [hinv.assignment_unique ha hbacked.assignment hid] at hunused
    exact hunused.not_consumed hbacked.consumed
  · exact hvalidating.refreshed hplans

theorem buildRefreshPlan_sessionId {world : EffectGate.WorldPort}
    {sessionId refreshPlanId : OpaqueId} {plan : RefreshPlan}
    (h : RefreshPlanner.buildRefreshPlan database world sessionId refreshPlanId = .ok plan) :
    plan.sessionId = sessionId := by
  simp only [RefreshPlanner.buildRefreshPlan, RefreshPlanner.requireBlockedValidation, bind_eq_ok,
    orStop_eq_ok, require_eq_ok, pure_eq_ok] at h
  obtain ⟨_, ⟨session, hsession, -, -, -, -, -, -, -, -, _, -, -, -, -, -, -, -, -, -, rfl⟩, -, -,
    -, -, -, -, -, -, -, -, -, -, -, -, -, -, -, -, -, -, -, -, rfl⟩ := h
  simpa using (single?_mem hsession).2

/-- A validation leaves a permit, a plan or a completed plan. -/
theorem steps_persistValidation {refreshPlan : Option RefreshPlan} {ports : ValidationPorts}
    (hvalidating : Validating database.evidence) (hsame : SamePointer database session)
    (hpointer : session.pointer ∈ database.evidence.pointers)
    (h : persistValidation database session refreshPlan ports = .ok left) :
    database.evidence.Steps left.evidence := by
  simp only [persistValidation, bind_eq_ok, mapError_eq_ok] at h
  obtain ⟨result, hresult, h⟩ := h
  have hidle := idle_of_validated hvalidating hresult
  split at h
  · simp only [persistReady, bind_eq_ok, pure_eq_ok] at h
    obtain ⟨certificate, -, completed, hcompleted, rfl⟩ := h
    rw [evidence_appendEvent, evidence_setSession]
    · refine (steps_completed hcompleted).trans (Step.steps
        (@Step.permit _ (permitFor session result.validationRecord certificate ports.permitId)
          ?_ ?_ ?_ rfl (List.ne_nil_of_mem (a := session.pointer) ?_)))
      · cases completed <;> exact hidle
      · cases completed <;> exact hvalidating.unpermitted
      · rcases completedPlan_cases hcompleted with rfl | ⟨plan, -, -, rfl⟩
        · exact hvalidating.settled
        · intro q hq
          rcases mem_setFirstRefreshPlan hq with hold | rfl
          · exact hvalidating.settled q hold
          · simp
      · cases completed <;> exact hpointer
    · cases completed <;> exact hsame.congr rfl
  · simp only [persistNoCut, bind_eq_ok, mapError_eq_ok, pure_eq_ok] at h
    obtain ⟨proof, -, plan, hplan, diagnosed, hdiagnosed, rfl⟩ := h
    rw [evidence_appendEvent, evidence_appendDiagnostic hdiagnosed, evidence_setSession]
    · refine Step.steps (.plan hidle hvalidating.unpermitted ⟨session.pointer, hpointer, ?_⟩)
      exact (buildRefreshPlan_sessionId hplan).symm
    · exact hsame.congr rfl
  · simp only [persistDeny, bind_eq_ok, pure_eq_ok] at h
    obtain ⟨completed, hcompleted, refs, -, diagnosed, hdiagnosed, rfl⟩ := h
    rw [evidence_appendEvent, evidence_appendDiagnostic hdiagnosed, evidence_setSession]
    · exact steps_completed hcompleted
    · cases completed <;> exact hsame.congr rfl
  · refine Steps.of_eq ?_
    rw [evidence_appendDiagnostic h, evidence_setSession]
    · rfl
    · exact hsame.congr rfl
  · obtain rfl := pure_eq_ok.mp h
    refine Steps.of_eq ?_
    rw [evidence_setSession]
    · rfl
    · exact hsame.congr rfl

/-! ### Outputs -/

section Outputs

open DecisionParser

variable [OutputPorts] {attemptId : OpaqueId} {rawOutput : JsString}
  {options : DecisionNormalizationOptions} {result : DecisionNormalizationResult}

/-- A normalized output is the answer of an assignment that is unused so far. -/
theorem unused_of_normalize
    (h : normalizeAndConsumeDecision database attemptId rawOutput options = .ok (left, result)) :
    ¬database.evidence.Idle := by
  obtain ⟨records, hconsumable, -⟩ := normalizeAndConsumeDecision_cases h
  intro hidle
  exact hidle records.assignment (single?_mem hconsumable.assignment).1 (.inr hconsumable.bound)

theorem gating_of_normalize
    (h : normalizeAndConsumeDecision database attemptId rawOutput options = .ok (left, result)) :
    left.refreshPlans = database.refreshPlans ∧ left.permits = database.permits := by
  obtain ⟨records, -, ⟨failure, artifact, -, -, rfl, -⟩ |
    ⟨envelope, existing, -, -, -, rfl, -⟩⟩ := normalizeAndConsumeDecision_cases h
  · exact ⟨rfl, rfl⟩
  · cases existing <;> exact ⟨rfl, rfl⟩

/-- After a refresh only one assignment is unused, until its decision. -/
theorem idle_of_accepted (hinv : database.evidence.Inv) (hplans : database.refreshPlans ≠ [])
    {certificate : DependencyCertificate}
    (h : normalizeAndConsumeDecision database attemptId rawOutput options =
      .ok (left, .accepted certificate)) : left.evidence.Idle := by
  obtain ⟨records, hconsumable, ⟨failure, artifact, -, -, -, heq⟩ |
    ⟨envelope, existing, -, -, -, rfl, -⟩⟩ := normalizeAndConsumeDecision_cases h
  · cases heq
  obtain ⟨hmem, hid, -⟩ := only_assignment hconsumable.assignment
  have hunused : Unused records.assignment := .inr hconsumable.bound
  intro b hb hunused'
  have hassignments : b ∈ modifyWhere
      (fun a => a.assignmentId = records.assignment.assignmentId)
      (fun _ => { records.assignment with
        status := .CONSUMED
        consumedByDecisionCertificateId := some options.certificateId
        consumedAt := some options.createdAt }) database.runAssignments := by
    cases existing <;> exact hb
  rcases mem_modifyWhere.mp hassignments with ⟨-, -, -, rfl⟩ | ⟨hold, hother⟩
  · exact hunused'.not_consumed rfl
  · simp only [decide_eq_false_iff_not] at hother
    refine hother (hinv.unusedOnce b hold records.assignment hmem hunused' hunused ?_)
    rw [(hinv.refreshed hplans b hold hunused').1,
      (hinv.refreshed hplans records.assignment hmem hunused).1]

theorem steps_normalizeAll {ports : AcceptPorts} {index : Nat}
    {observations : List RunObserver.TerminalRunObservation}
    {results : List DecisionNormalizationResult}
    (h : normalizeAll database ports index observations = .ok (left, results)) :
    database.evidence.Steps left.evidence ∧ left.refreshPlans = database.refreshPlans ∧
      left.permits = database.permits := by
  induction observations generalizing database index results with
  | nil =>
    simp only [normalizeAll, pure_eq_ok, Prod.mk.injEq] at h
    obtain ⟨rfl, -⟩ := h
    exact ⟨Steps.refl, rfl, rfl⟩
  | cons observation rest ih =>
    simp only [normalizeAll, bind_eq_ok, mapError_eq_ok, pure_eq_ok, Prod.exists,
      Prod.mk.injEq] at h
    obtain ⟨normalized, result, hfirst, final, results', hrest, rfl, -⟩ := h
    obtain ⟨hsteps, hplans, hpermits⟩ := ih hrest
    obtain ⟨hplans', hpermits'⟩ := gating_of_normalize hfirst
    exact ⟨(steps_normalizeAndConsumeDecision hfirst).trans hsteps, hplans.trans hplans',
      hpermits.trans hpermits'⟩

/-- Where all outputs are accepted, the session can be validated. -/
theorem validating_of_normalizeAll (hinv : database.evidence.Inv) {ports : AcceptPorts}
    {index : Nat} {observation : RunObserver.TerminalRunObservation}
    {rest : List RunObserver.TerminalRunObservation} {results : List DecisionNormalizationResult}
    (h : normalizeAll database ports index (observation :: rest) = .ok (left, results))
    (haccepted : results.findSome? DecisionNormalizationResult.artifact? = none) :
    Validating left.evidence := by
  obtain ⟨hsteps, hplans, hpermits⟩ := steps_normalizeAll h
  simp only [normalizeAll, bind_eq_ok, mapError_eq_ok, pure_eq_ok, Prod.exists,
    Prod.mk.injEq] at h
  obtain ⟨normalized, result, hfirst, final, results', hrest, rfl, rfl⟩ := h
  obtain ⟨a, ha, hunused⟩ : ∃ a ∈ database.evidence.assignments, Unused a := by
    by_contra hnone
    exact unused_of_normalize hfirst fun a ha hunused => hnone ⟨a, ha, hunused⟩
  constructor
  case inv => exact inv_steps hinv hsteps
  case unpermitted =>
    show final.permits = []
    rw [hpermits]
    by_contra hne
    exact (hinv.permitted hne).1 a ha hunused
  case settled =>
    show ∀ p ∈ final.refreshPlans, _
    rw [hplans]
    intro p hp
    exact (hinv.refreshed (List.ne_nil_of_mem hp) a ha hunused).2 p hp
  case refreshed =>
    intro hne
    have hne' : database.refreshPlans ≠ [] := hplans ▸ hne
    cases result with
    | outputRejected artifact => simp [DecisionNormalizationResult.artifact?] at haccepted
    | accepted certificate =>
      have hidle := idle_of_accepted hinv hne' hfirst
      cases rest with
      | nil =>
        simp only [normalizeAll, pure_eq_ok, Prod.mk.injEq] at hrest
        exact hrest.1 ▸ hidle
      | cons observation' rest' =>
        -- there is nothing left to answer
        simp only [normalizeAll, bind_eq_ok, mapError_eq_ok, Prod.exists] at hrest
        obtain ⟨_, _, hnext, -⟩ := hrest
        exact absurd hidle (unused_of_normalize hnext)

end Outputs

theorem steps_acceptAndValidate [DecisionParser.OutputPorts] (hinv : database.evidence.Inv)
    {sessionId : OpaqueId} {observations : List RunObserver.TerminalRunObservation}
    {refreshPlan : Option RefreshPlan} {ports : AcceptPorts} (hsome : observations ≠ [])
    (h : acceptAndValidate database sessionId observations refreshPlan ports = .ok left) :
    database.evidence.Steps left.evidence := by
  simp only [acceptAndValidate, bind_eq_ok, orStop_eq_ok, Prod.exists] at h
  obtain ⟨-, -, -, -, normalized, results, hnormalized, found, hfound, session, rfl, h⟩ := h
  obtain ⟨hsteps, -⟩ := steps_normalizeAll hnormalized
  have hsame := samePointer_of_sessionById hfound
  refine hsteps.trans ?_
  split at h
  · simp only [closeMalformedOutput, bind_eq_ok, orStop_eq_ok] at h
    obtain ⟨attempt, -, closure, hclosure, hdiagnosed⟩ := h
    exact steps_closed (inv_steps hinv hsteps) hsame hclosure hdiagnosed
  · rename_i haccepted
    simp only [bind_eq_ok] at h
    obtain ⟨attempts, -, hpersist⟩ := h
    obtain ⟨observation, rest, rfl⟩ := List.exists_cons_of_ne_nil hsome
    have hvalidating := validating_of_normalizeAll hinv hnormalized haccepted
    refine Steps.trans (Steps.of_eq (evidence_setSession ?_))
      (steps_persistValidation ?_ samePointer_setSession ?_ hpersist)
    · exact hsame.congr rfl
    · rw [evidence_setSession]
      · exact hvalidating
      · exact hsame.congr rfl
    · rw [evidence_setSession]
      · exact List.mem_map.mpr ⟨session, (Service.sessionById_some hfound).1, rfl⟩
      · exact hsame.congr rfl

/-! ### Claims and releases -/

omit [Sha256] in
/-- All plans are plans of the one session. -/
theorem plans_eq (hinv : database.evidence.Inv) {plan : RefreshPlan}
    (hsession : session ∈ database.sessions)
    (hplans : database.refreshPlans.filter (fun p => p.sessionId = session.sessionId) = [plan]) :
    database.refreshPlans = [plan] := by
  rw [← hplans, eq_comm, List.filter_eq_self]
  intro p hp
  obtain ⟨q, hq, hof⟩ := hinv.planned p hp
  have hpointer : session.pointer ∈ database.evidence.pointers := List.mem_map_of_mem hsession
  have hsame : q = session.pointer := by
    obtain ⟨r, hr⟩ := List.length_eq_one_iff.mp
      (Nat.le_antisymm hinv.alone (List.length_pos_of_mem hq))
    rw [hr, List.mem_singleton] at hq hpointer
    rw [hq, hpointer]
  rw [hsame] at hof
  exact decide_eq_true hof.symm

omit [Sha256] in
theorem requirePlan_cases {request : RefreshPlanner.RefreshSessionRequest} {plan : RefreshPlan}
    (h : RefreshPlanner.requirePlan database session request = .ok plan) :
    database.refreshPlans.filter (fun p => p.sessionId = session.sessionId) = [plan] ∧
      plan.refreshPlanId = request.refreshPlanId := by
  simp only [RefreshPlanner.requirePlan, bind_eq_ok, require_eq_ok, orStop_eq_ok, only?_eq_some,
    pure_eq_ok] at h
  obtain ⟨-, -, _, honly, -, hlength, rfl⟩ := h
  obtain ⟨q, hq⟩ := List.length_eq_one_iff.mp hlength
  rw [hq] at honly
  have hmem : _ ∈ [q].filter _ := honly ▸ List.mem_singleton.mpr rfl
  obtain ⟨hmem, hid⟩ := List.mem_filter.mp hmem
  rw [hq, List.mem_singleton.mp hmem]
  exact ⟨rfl, by simpa [List.mem_singleton.mp hmem] using hid⟩

omit [Sha256] in
/-- The budget agent owns the budget role alone. -/
theorem budget_of_roleForAgent {role : Role}
    (h : RefreshPlanner.roleForAgent session session.frozenAssignments.budget = .ok role) :
    role = .budget := by
  simp only [RefreshPlanner.roleForAgent, orStop_eq_ok] at h
  have hbudget : session.frozenAssignments.get .budget = session.frozenAssignments.budget := rfl
  exact (single?_unique h (by decide) (by simp [hbudget])).symm

theorem steps_claimRefreshPlan (hinv : database.evidence.Inv) {sessionId : OpaqueId}
    {request : RefreshPlanner.RefreshSessionRequest} {timestamp : Timestamp}
    {createArtifacts : EpochSession → RefreshPlan → Role → OpaqueId →
      Except String RefreshPlanner.RefreshClaimArtifacts} {world : EffectGate.WorldPort}
    {result : RefreshPlanner.ClaimRefreshPlanResult}
    (h : RefreshPlanner.claimRefreshPlan database world sessionId request timestamp
      createArtifacts = .ok (left, result)) : database.evidence.Steps left.evidence := by
  simp only [RefreshPlanner.claimRefreshPlan, bind_eq_ok, require_eq_ok, orStop_eq_ok,
    mapError_eq_ok, RefreshPlanner.requireP0BudgetOwner_eq_ok] at h
  obtain ⟨-, -, session, hsession, plan, hplan, -, -, agentId, ⟨-, rfl⟩, h⟩ := h
  have hsame := samePointer_of_single hsession
  have hplans := plans_eq hinv (single?_mem hsession).1 (requirePlan_cases hplan).1
  split at h
  · simp at h
  · simp only [bind_eq_ok, require_eq_ok] at h
    obtain ⟨-, -, h⟩ := h
    split at h
    · obtain ⟨rfl, -⟩ := Prod.mk.inj (pure_eq_ok.mp h)
      rw [RefreshPlanner.invalidatePlan, evidence_setSession]
      · refine steps_setRefreshPlan fun p hp _ => PlanKept.invalidated ?_
        simpa [hplans] using hp
      · exact hsame.congr rfl
    · rename_i hmatches
      simp only [bind_eq_ok, require_eq_ok, mapError_eq_ok, pure_eq_ok, Prod.mk.injEq,
        RefreshPlanner.assertClaimArtifacts] at h
      obtain ⟨role, hrole, -, -, artifacts, -, -, ⟨-, -, -, hassignment, -, hattempt, hfresh, -⟩,
        rfl, -⟩ := h
      obtain rfl := budget_of_roleForAgent hrole
      obtain ⟨-, -, -, hof, hstatus, -, hrun, -, -, hby⟩ := hassignment
      obtain ⟨-, -, -, -, howner, hcreated, -⟩ := hattempt
      have havailable : plan.status = .AVAILABLE := by
        simp only [not_or, not_not, Bool.not_eq_false] at hmatches
        have hstill := hmatches.2
        simp only [RefreshPlanner.planStillMatches, Bool.and_eq_true, decide_eq_true_eq] at hstill
        exact hstill.1.1.1
      have hclaim := @Step.claim database.evidence _ _ plan
        (RefreshPlanner.claimedPlan plan artifacts.attempt)
        ⟨fun b hb => (hfresh b hb).1, howner, hstatus, ⟨hby, hrun⟩, hcreated⟩ hof
        ⟨hplans, havailable⟩ ⟨rfl, rfl⟩
      rw [RefreshPlanner.recordClaim, evidence_setSession]
      · simpa [EpochDatabase.evidence, EpochDatabase.setRefreshPlan, hplans, modifyWhere,
          RefreshPlanner.claimedPlan] using hclaim.steps
      · exact hsame.congr rfl

omit [Sha256] in
/-- The gate changes a session without its pointers. -/
theorem pointers_updateSession {f : EpochSession → EpochSession} {id : OpaqueId}
    (h : ∀ s, (f s).pointer = s.pointer) :
    (EffectGate.updateSession database id f).evidence = database.evidence := by
  have hpointers : (EffectGate.updateSession database id f).sessions.map EpochSession.pointer =
      database.sessions.map EpochSession.pointer := map_modifyWhere fun s _ _ => h s
  simp only [EpochDatabase.evidence, hpointers]
  rfl

omit [Sha256] in
theorem steps_revoke (permitId : OpaqueId) :
    database.evidence.Steps { database with
      permits := modifyFirst (fun p => p.permitId = permitId) EffectGate.revoke database.permits
      : EpochDatabase }.evidence := by
  refine Step.steps (@Step.revoke _ (modifyFirst (fun p => p.permitId = permitId)
    EffectGate.revoke database.permits) ?_ ?_)
  · refine map_modifyFirst fun p _ _ => ?_
    unfold EffectGate.revoke
    split_ifs <;> rfl
  · intro q hq
    rcases mem_modifyFirst hq with hold | ⟨p, hp, rfl⟩
    · exact ⟨q, hold, rfl, Iff.rfl⟩
    · refine ⟨p, List.mem_of_find?_eq_some hp, ?_⟩
      unfold EffectGate.revoke
      split_ifs with hissued
      · exact ⟨rfl, by simp [hissued]⟩
      · exact ⟨rfl, Iff.rfl⟩

theorem steps_commitProtectedEffect {world : EffectGate.WorldPort}
    {sessionId effectId : OpaqueId} {expectedSessionRevision : Nat} {timestamp : Timestamp}
    {result : EffectGate.CommitProtectedEffectResult}
    (h : EffectGate.commitProtectedEffect database world sessionId expectedSessionRevision effectId
      timestamp = .ok (left, result)) : database.evidence.Steps left.evidence := by
  have houtcome := EffectGate.commit_cases h
  generalize hout : (left, result) = out at houtcome
  cases houtcome with
  | existing =>
    obtain ⟨rfl, -⟩ := Prod.mk.inj hout
    exact Steps.refl
  | @race session permit bound none revision ready moved =>
    obtain ⟨rfl, -⟩ := Prod.mk.inj hout
    rw [pointers_updateSession]
    · exact steps_revoke permit.permitId
    · intro s
      rfl
  | @created session release activeDecisionIds registrations bound none revision ready current
      backed fresh =>
    obtain ⟨rfl, -⟩ := Prod.mk.inj hout
    rw [EffectGate.recordEffect, pointers_updateSession]
    · refine Step.steps (@Step.release database.evidence _
        (EffectGate.effectRecordFor session release effectId timestamp) ready.unique
        ready.issued.1 ?_)
      intro x hx
      have hnone := List.filter_eq_nil_iff.mp none x hx
      simp only [decide_eq_true_eq] at hnone
      exact hnone
    · intro s
      rfl

omit [Sha256] in
theorem evidence_recordCommitRace {sessionId : OpaqueId} {ports : RacePorts}
    (h : recordCommitRace database sessionId ports = .ok left) :
    left.evidence = database.evidence := by
  simp only [recordCommitRace, bind_eq_ok] at h
  obtain ⟨found, -, h⟩ := h
  cases found with
  | none =>
    obtain rfl := pure_eq_ok.mp h
    rfl
  | some session =>
    dsimp only at h
    split at h
    · obtain rfl := pure_eq_ok.mp h
      rfl
    · split at h
      · -- the event and the diagnostic of the race, each recorded already or not
        split_ifs at h
        · obtain rfl := pure_eq_ok.mp h
          rfl
        · exact evidence_appendDiagnostic h
        · obtain rfl := pure_eq_ok.mp h
          rfl
        · rw [evidence_appendDiagnostic h, evidence_appendEvent]
      · obtain rfl := pure_eq_ok.mp h
        rfl

end Closure

/-! ## Recovery -/

section Recovery

open Service

variable {left : EpochDatabase} {session : EpochSession} {timestamp : Timestamp}

theorem recoverAssignment_kept {assignment recovered : RunAssignment} {attempt : AgentAttempt}
    (h : recoverAssignment assignment attempt = .ok recovered) :
    AssignmentKept assignment recovered ∧ recovered.boundRunId = assignment.boundRunId := by
  unfold recoverAssignment at h
  dsimp only at h
  split at h <;> rename_i hstatus <;> simp only [bind_eq_ok, pure_eq_ok] at h <;>
    obtain ⟨-, -, rfl⟩ := h
  · exact ⟨AssignmentKept.rejected (by simp [hstatus]), rfl⟩
  · exact ⟨AssignmentKept.rejected (by simp [hstatus]), rfl⟩
  · exact ⟨AssignmentKept.refl _, rfl⟩
  · exact ⟨AssignmentKept.refl _, rfl⟩

theorem interruptedAttempt_kept (attempt : AgentAttempt) (timestamp : Timestamp) :
    AttemptKept attempt (interruptedAttempt attempt timestamp) ∧
      (interruptedAttempt attempt timestamp).attemptId = attempt.attemptId := by
  unfold interruptedAttempt
  split
  · exact ⟨AttemptKept.refl _, rfl⟩
  · rename_i hterminal
    refine ⟨AttemptKept.of_open rfl ?_ (by simp), rfl⟩
    intro haccepted
    simp [isTerminalAttemptState, haccepted] at hterminal

theorem steps_recoverActiveAttempt {role : Role}
    (h : recoverActiveAttempt database session timestamp role = .ok left) :
    database.evidence.Steps left.evidence ∧ left.sessions = database.sessions := by
  unfold recoverActiveAttempt at h
  split at h
  · obtain rfl := pure_eq_ok.mp h
    exact ⟨Steps.refl, rfl⟩
  · simp only [bind_eq_ok, orStop_eq_ok, require_eq_ok, pure_eq_ok] at h
    obtain ⟨attempt, hattempt, -, -, assignment, hassignment, -, -, recovered, hrecovered, -, -,
      rfl⟩ := h
    obtain ⟨-, -, honly⟩ := only_assignment hassignment
    obtain ⟨-, -, honly'⟩ := only_attempt hattempt
    obtain ⟨hkept, hrun⟩ := recoverAssignment_kept hrecovered
    obtain ⟨hkept', hid⟩ := interruptedAttempt_kept attempt timestamp
    exact ⟨(steps_setAssignment honly hkept (.inl hrun)).trans
      (steps_setAttempt honly' hid hkept'), rfl⟩

theorem steps_recoverRefreshPlan {referencedAttemptIds : List OpaqueId}
    (h : recoverRefreshPlan database session referencedAttemptIds = .ok left) :
    database.evidence.Steps left.evidence ∧ left.sessions = database.sessions := by
  unfold recoverRefreshPlan at h
  split at h
  · simp only [bind_eq_ok, pure_eq_ok] at h
    obtain ⟨-, -, rfl⟩ := h
    exact ⟨Steps.refl, rfl⟩
  · simp only [bind_eq_ok, orStop_eq_ok] at h
    obtain ⟨plan, hplan, -, -, h⟩ := h
    split at h <;> simp only [bind_eq_ok, pure_eq_ok] at h <;> obtain ⟨-, -, rfl⟩ := h
    · exact ⟨steps_invalidated hplan, rfl⟩
    · exact ⟨Steps.refl, rfl⟩

theorem steps_recoverPermit (h : recoverPermit database session = .ok left) :
    database.evidence.Steps left.evidence ∧ left.sessions = database.sessions := by
  unfold recoverPermit at h
  split at h
  · simp only [bind_eq_ok, pure_eq_ok] at h
    obtain ⟨-, -, rfl⟩ := h
    exact ⟨Steps.refl, rfl⟩
  · simp only [bind_eq_ok, orStop_eq_ok, require_eq_ok, pure_eq_ok] at h
    obtain ⟨permit, hpermit, -, -, -, hissued, -, -, rfl⟩ := h
    refine ⟨Step.steps (@Step.revoke _ (modifyWhere (fun p => p.permitId = permit.permitId)
      (fun _ => { permit with status := .REVOKED, consumedAt := none }) database.permits) ?_ ?_),
      rfl⟩
    · refine map_modifyWhere fun p _ hid => ?_
      exact (by simpa using hid : p.permitId = permit.permitId).symm
    · intro q hq
      rcases mem_modifyWhere.mp hq with ⟨-, -, -, rfl⟩ | ⟨hq, -⟩
      · exact ⟨permit, (single?_mem hpermit).1, rfl, by simp [hissued]⟩
      · exact ⟨q, hq, rfl, Iff.rfl⟩

theorem steps_recoverInFlightSession {ids : RecoveryIds} (hsame : SamePointer database session)
    (h : recoverInFlightSession database session timestamp ids = .ok left) :
    database.evidence.Steps left.evidence ∧
      left.sessions.map EpochSession.pointer = database.sessions.map EpochSession.pointer := by
  simp only [recoverInFlightSession, bind_eq_ok, pure_eq_ok] at h
  obtain ⟨-, -, attempted, hattempted, -, -, planned, hplanned, permitted, hpermitted, diagnosed,
    hdiagnosed, rfl⟩ := h
  have hattempts : database.evidence.Steps attempted.evidence ∧
      attempted.sessions = database.sessions := by
    refine foldlM_induction (P := fun db => database.evidence.Steps db.evidence ∧
      db.sessions = database.sessions) ?_ ⟨Steps.refl, rfl⟩ hattempted
    rintro before role after ⟨hsteps, hsessions⟩ - hstep
    obtain ⟨hmore, hsessions'⟩ := steps_recoverActiveAttempt hstep
    exact ⟨hsteps.trans hmore, hsessions'.trans hsessions⟩
  obtain ⟨hplan, hplanSessions⟩ := steps_recoverRefreshPlan hplanned
  obtain ⟨hpermit, hpermitSessions⟩ := steps_recoverPermit hpermitted
  have hsame' : SamePointer permitted (interruptedSession session timestamp) := by
    intro s hs
    rw [hpermitSessions, hplanSessions, hattempts.2] at hs
    exact hsame.congr rfl s hs
  have hevidence : diagnosed.evidence = permitted.evidence := by
    rw [evidence_appendDiagnostic hdiagnosed, evidence_setSession hsame']
  constructor
  · rw [evidence_appendEvent, hevidence]
    exact hattempts.1.trans (hplan.trans hpermit)
  · show diagnosed.evidence.pointers = database.sessions.map EpochSession.pointer
    rw [hevidence]
    show permitted.sessions.map EpochSession.pointer = _
    rw [hpermitSessions, hplanSessions, hattempts.2]

/-- Every session keeps its pointers while the others are recovered. -/
theorem steps_recoverSessions (hinv : database.evidence.Inv) {ids : OpaqueId → RecoveryIds}
    (h : recoverSessions database timestamp ids = .ok left) :
    database.evidence.Steps left.evidence := by
  refine (foldlM_induction (P := fun db => database.evidence.Steps db.evidence ∧
    db.sessions.map EpochSession.pointer = database.sessions.map EpochSession.pointer)
    ?_ ⟨Steps.refl, rfl⟩ h).1
  intro before session after ⟨hsteps, hpointers⟩ hmem hstep
  have hsame : SamePointer before session := by
    intro s hs hid
    have hs' : s.pointer ∈ database.sessions.map EpochSession.pointer := by
      rw [← hpointers]
      exact List.mem_map_of_mem hs
    have hsession : session.pointer ∈ database.evidence.pointers :=
      List.mem_map_of_mem (List.mem_of_mem_filter hmem)
    exact List.inj_on_of_nodup_map hinv.sessions hs' hsession hid
  obtain ⟨hmore, hpointers'⟩ := steps_recoverInFlightSession hsame hstep
  exact ⟨hsteps.trans hmore, hpointers'.trans hpointers⟩

end Recovery

/-! ## Reachable databases -/

section Reachable

open Service

variable [Sha256] [DecisionParser.OutputPorts] {left : EpochDatabase}

/-- Every call is a sequence of steps of the ledger. -/
theorem steps_leaves (hinv : database.evidence.Inv) {call : Call}
    (h : call.leaves database = some left) : database.evidence.Steps left.evidence := by
  cases call with
  | registerRole registration =>
    simp only [Call.leaves, toOption_eq_some, registerRole, bind_eq_ok, pure_eq_ok] at h
    obtain ⟨-, -, -, -, rfl⟩ := h
    exact Steps.refl
  | createSession request ports =>
    simp only [Call.leaves, Option.bind_eq_bind, Option.bind_eq_some_iff, toOption_eq_some] at h
    obtain ⟨verified, -, h⟩ := h
    exact steps_createSession hinv h
  | transitionToCollecting sessionId timestamp event =>
    simp only [Call.leaves, toOption_eq_some, transitionToCollecting, bind_eq_ok, orStop_eq_ok,
      pure_eq_ok] at h
    obtain ⟨found, hfound, session, rfl, -, -, rfl⟩ := h
    rw [evidence_appendEvent, evidence_setSession]
    · exact Steps.refl
    · exact (samePointer_of_sessionById hfound).congr rfl
  | transitionToDispatching input =>
    simp only [Call.leaves, toOption_eq_some, except_map_eq_ok, Prod.exists] at h
    obtain ⟨_, out, h, rfl⟩ := h
    exact RunObserver.steps_transitionToDispatching h
  | bindRunOnce input run boundAt =>
    simp only [Call.leaves, toOption_eq_some, except_map_eq_ok, Prod.exists] at h
    obtain ⟨_, out, h, rfl⟩ := h
    exact RunObserver.steps_bindRunOnce h
  | mirrorRun input agentId run =>
    simp only [Call.leaves, toOption_eq_some, except_map_eq_ok, Prod.exists] at h
    obtain ⟨_, out, h, rfl⟩ := h
    exact RunObserver.steps_mirrorRun h
  | failAttempt input status run =>
    simp only [Call.leaves, Option.ite_none_right_eq_some, toOption_eq_some, except_map_eq_ok,
      Prod.exists] at h
    obtain ⟨hterminal, _, out, h, rfl⟩ := h
    exact RunObserver.steps_failAttempt hterminal h
  | rejectCompletedOutput input =>
    simp only [Call.leaves, toOption_eq_some, except_map_eq_ok, Prod.exists] at h
    obtain ⟨_, out, h, rfl⟩ := h
    exact RunObserver.steps_rejectCompletedOutput h
  | join settled scope =>
    obtain rfl := Option.some.inj h
    exact RunObserver.steps_joinRoleRunObservations
  | acceptInitial sessionId observations ports =>
    exact steps_acceptAndValidate hinv (by simp [PerRole.toList]) (toOption_eq_some.mp h)
  | acceptRefresh sessionId observation plan ports =>
    simp only [Call.leaves, Option.ite_none_right_eq_some, toOption_eq_some] at h
    exact steps_acceptAndValidate hinv (by simp) h.2
  | claimRefreshPlan sessionId request registration runtimeLabel timestamp assignmentId receiptId
      attemptId =>
    simp only [Call.leaves, Option.ite_none_right_eq_some, toOption_eq_some, except_map_eq_ok,
      Prod.exists] at h
    obtain ⟨-, _, result, h, rfl⟩ := h
    exact steps_claimRefreshPlan hinv h
  | captureRefreshObservation scenarioId assignmentId nonce issuedAt =>
    exact steps_captureRefreshObservation (toOption_eq_some.mp h)
  | failSession sessionId error ports => exact steps_failSession hinv (toOption_eq_some.mp h)
  | commit sessionId expectedSessionRevision effectId timestamp =>
    simp only [Call.leaves, toOption_eq_some, except_map_eq_ok, Prod.exists] at h
    obtain ⟨_, result, h, rfl⟩ := h
    exact steps_commitProtectedEffect h
  | recordCommitRace sessionId ports =>
    exact Steps.of_eq (evidence_recordCommitRace (toOption_eq_some.mp h))
  | recoverSessions timestamp ids => exact steps_recoverSessions hinv (toOption_eq_some.mp h)
  | resetDemo backgroundSessionIds =>
    simp only [Call.leaves, toOption_eq_some, resetDemo] at h
    split at h
    · simp at h
    · obtain rfl := pure_eq_ok.mp h
      exact Step.steps .reset
  | worldCommit input =>
    simp only [Call.leaves, toOption_eq_some, except_map_eq_ok, Prod.exists] at h
    obtain ⟨world, record, h, rfl⟩ := h
    exact steps_world h

theorem inv_reachable (h : Reachable database) : database.evidence.Inv := by
  refine h.induction (P := fun db => db.evidence.Inv) inv_empty
    fun before left call hinv hleft _ => ?_
  have hafter : left.evidence.Inv := inv_steps hinv (steps_leaves hinv hleft)
  exact hafter

end Reachable

end Evidence

/-! ## The chain of records behind a decision -/

/-- The active decisions of a role in a session. -/
def activeDecisions (database : EpochDatabase) (sessionId : OpaqueId) (role : Role) :
    List DependencyCertificate :=
  database.decisions.filter fun d =>
    d.sessionId = sessionId && d.role = role && d.status = .ACTIVE

/-- The decision that a decision names as the one that superseded it. -/
def SupersededBy (database : EpochDatabase) (earlier later : DependencyCertificate) : Prop :=
  earlier ∈ database.decisions ∧ later ∈ database.decisions ∧
    earlier.supersededByCertificateId = some later.certificateId

/-- The active decisions are those that the sessions point to, superseded ones
lead to them, and every decision has its own assignment, attempt, Run and
receipt. -/
structure EvidenceChain (database : EpochDatabase) : Prop where
  active : ∀ session ∈ database.sessions, ∀ role,
    (activeDecisions database session.sessionId role).map DependencyCertificate.certificateId =
      (session.activeDecisionCertificateIds.get role).toList
  superseded : ∀ d ∈ database.decisions, d.status = .SUPERSEDED →
    ∃ session ∈ database.sessions, session.sessionId = d.sessionId ∧
      ∃ last ∈ activeDecisions database session.sessionId d.role,
        ReflTransGen (SupersededBy database) d last ∧ last.supersededByCertificateId = none
  backed : ∀ d ∈ database.decisions, ∃ assignment attempt receipt,
    single? database.runAssignments (fun a => a.assignmentId = d.runAssignmentId) =
        some assignment ∧
      assignment.status = .CONSUMED ∧
      assignment.consumedByDecisionCertificateId = some d.certificateId ∧
      single? database.attempts (fun t => t.assignmentId = d.runAssignmentId) = some attempt ∧
      attempt.status = .ACCEPTED ∧ attempt.runId = some d.runId ∧ attempt.outputDigest ≠ none ∧
      single? database.receipts (fun r => r.runAssignmentId = d.runAssignmentId) =
        some receipt ∧
      receipt.receiptId = d.receiptId
  distinct : (database.decisions.map DependencyCertificate.certificateId).Nodup
  unshared : ∀ d ∈ database.decisions, ∀ d' ∈ database.decisions,
    d.certificateId ≠ d'.certificateId →
      d.runAssignmentId ≠ d'.runAssignmentId ∧ d.runId ≠ d'.runId ∧
        d.receiptId ≠ d'.receiptId ∧
        ∀ r ∈ database.receipts, ∀ r' ∈ database.receipts, r.receiptId = d.receiptId →
          r'.receiptId = d'.receiptId → r.nonce ≠ r'.nonce

namespace Evidence

variable {database : EpochDatabase}

theorem mem_activeDecisions {sessionId : OpaqueId} {role : Role} {d : DependencyCertificate} :
    d ∈ activeDecisions database sessionId role ↔
      d ∈ database.decisions ∧ d.sessionId = sessionId ∧ d.role = role ∧ d.status = .ACTIVE := by
  simp [activeDecisions, and_assoc]

theorem activeDecisions_eq (hinv : database.evidence.Inv) {session : EpochSession}
    (hsession : session ∈ database.sessions) (role : Role) :
    (activeDecisions database session.sessionId role).map DependencyCertificate.certificateId =
      (session.activeDecisionCertificateIds.get role).toList := by
  have hpointer : session.pointer ∈ database.evidence.pointers := List.mem_map_of_mem hsession
  -- an active decision of the role is pointed to
  have hactive : ∀ d ∈ activeDecisions database session.sessionId role,
      session.activeDecisionCertificateIds.get role = some d.certificateId := by
    intro d hd
    obtain ⟨hmem, hof, rfl, hstatus⟩ := mem_activeDecisions.mp hd
    exact hinv.active d hmem hstatus _ hpointer hof.symm
  cases hget : session.activeDecisionCertificateIds.get role with
  | none =>
    have hnil : activeDecisions database session.sessionId role = [] := by
      rw [List.eq_nil_iff_forall_not_mem]
      intro d hd
      simpa [hget] using hactive d hd
    simp [hnil]
  | some id =>
    obtain ⟨d, hd, rfl, hof, hrole, hstatus⟩ := hinv.pointed _ hpointer role id hget
    have hsame : activeDecisions database session.sessionId role =
        database.decisions.filter fun c => c.certificateId = d.certificateId := by
      refine List.filter_congr fun c hc => ?_
      rw [Bool.eq_iff_iff]
      constructor
      · intro hc'
        have hcid := hactive c (List.mem_filter.mpr ⟨hc, hc'⟩)
        simpa [hget, eq_comm] using hcid
      · intro hcid
        rw [hinv.decision_unique hc hd (by simpa using hcid)]
        simp [hof, hrole, hstatus, EpochSession.pointer]
    have honly : database.decisions.filter (fun c => c.certificateId = d.certificateId) = [d] :=
      single?_eq_some.mp (single?_of_nodup_key hinv.decisions hd)
    rw [hsame, honly]
    rfl

/-- A chain of identifiers is one of decisions. -/
theorem superseded_leads {last : DependencyCertificate} (hlast : last ∈ database.decisions)
    {id : OpaqueId} (h : database.evidence.Leads id last.certificateId) :
    ∃ d ∈ database.decisions, d.certificateId = id ∧
      ReflTransGen (SupersededBy database) d last := by
  induction h using ReflTransGen.head_induction_on with
  | refl => exact ⟨last, hlast, rfl, .refl⟩
  | head hfollows _ ih =>
    obtain ⟨d, hd, hid, -, hnext⟩ := hfollows
    obtain ⟨d', hd', rfl, hrest⟩ := ih
    exact ⟨d, hd, hid, .head ⟨hd, hd', hnext⟩ hrest⟩

theorem superseded_chain (hinv : database.evidence.Inv) {d : DependencyCertificate}
    (hd : d ∈ database.decisions) :
    ∃ session ∈ database.sessions, session.sessionId = d.sessionId ∧
      ∃ last ∈ activeDecisions database session.sessionId d.role,
        ReflTransGen (SupersededBy database) d last ∧ last.supersededByCertificateId = none := by
  obtain ⟨p, hp, hof, id, hpointed, hleads⟩ := hinv.chains d hd
  obtain ⟨session, hsession, rfl⟩ := List.mem_map.mp hp
  obtain ⟨last, hlast, rfl, hlof, hrole, hstatus⟩ := hinv.pointed _ hp d.role id hpointed
  obtain ⟨c, hc, hcid, hchain⟩ := superseded_leads hlast hleads
  rw [hinv.decision_unique hc hd hcid] at hchain
  exact ⟨session, hsession, hof, last, mem_activeDecisions.mpr ⟨hlast, hlof, hrole, hstatus⟩,
    hchain, hinv.lasts last hlast hstatus⟩

theorem backed_records (hinv : database.evidence.Inv) {d : DependencyCertificate}
    {a : RunAssignment} {t : AgentAttempt} {r : ObservationReceipt}
    (h : database.evidence.Backed d a t r) :
    single? database.runAssignments (fun a => a.assignmentId = d.runAssignmentId) = some a ∧
      single? database.attempts (fun t => t.assignmentId = d.runAssignmentId) = some t ∧
      single? database.receipts (fun r => r.runAssignmentId = d.runAssignmentId) = some r := by
  refine ⟨?_, ?_, ?_⟩
  · rw [← h.assignmentId]
    exact single?_of_nodup_key hinv.assignments h.assignment
  · rw [← h.assignmentId, ← h.attemptOf]
    exact single?_of_nodup_key hinv.attempts h.attempt
  · rw [← h.assignmentId, ← h.receiptOwner]
    exact single?_of_nodup_key hinv.receiptOwners h.receipt

/-- Two decisions share nothing: what they share would name both of them as its
consumer. -/
theorem unshared (hinv : database.evidence.Inv) {d d' : DependencyCertificate}
    (hd : d ∈ database.decisions) (hd' : d' ∈ database.decisions)
    (hne : d.certificateId ≠ d'.certificateId) :
    d.runAssignmentId ≠ d'.runAssignmentId ∧ d.runId ≠ d'.runId ∧ d.receiptId ≠ d'.receiptId ∧
      ∀ r ∈ database.receipts, ∀ r' ∈ database.receipts, r.receiptId = d.receiptId →
        r'.receiptId = d'.receiptId → r.nonce ≠ r'.nonce := by
  obtain ⟨a, t, o, h⟩ := hinv.backed d hd
  obtain ⟨a', t', o', h'⟩ := hinv.backed d' hd'
  have hassignments : a.assignmentId ≠ a'.assignmentId := by
    intro hid
    have hsame := hinv.assignment_unique h.assignment h'.assignment hid
    have hby := h.consumedBy
    rw [hsame, h'.consumedBy, Option.some.injEq] at hby
    exact hne hby.symm
  have hreceipts : d.receiptId ≠ d'.receiptId := by
    intro hid
    have hsame : o = o' := List.inj_on_of_nodup_map hinv.receipts h.receipt h'.receipt
      (h.receiptId.trans (hid.trans h'.receiptId.symm))
    exact hassignments (h.receiptOwner.symm.trans (hsame ▸ h'.receiptOwner))
  refine ⟨?_, ?_, hreceipts, ?_⟩
  · intro hid
    exact hassignments (h.assignmentId.trans (hid.trans h'.assignmentId.symm))
  · intro hrun
    exact hassignments (hinv.boundOnce a h.assignment a' h'.assignment (by simp [h.bound])
      (by rw [h.bound, h'.bound, hrun]))
  · intro r hr r' hr' hid hid' hnonce
    have hsame : r = r' := List.inj_on_of_nodup_map hinv.nonces hr hr' hnonce
    exact hreceipts (hid.symm.trans (hsame ▸ hid'))

theorem evidenceChain_of_inv (hinv : database.evidence.Inv) : EvidenceChain database where
  active := fun _ hsession role => activeDecisions_eq hinv hsession role
  superseded := fun _ hd _ => superseded_chain hinv hd
  backed := by
    intro d hd
    obtain ⟨a, t, r, h⟩ := hinv.backed d hd
    obtain ⟨hassignment, hattempt, hreceipt⟩ := backed_records hinv h
    exact ⟨a, t, r, hassignment, h.consumed, h.consumedBy, hattempt, h.accepted, h.sameRun,
      h.output, hreceipt, h.receiptId⟩
  distinct := hinv.decisions
  unshared := fun _ hd _ hd' hne => unshared hinv hd hd' hne

end Evidence

namespace Service

/-- In every database that the service can publish, each active decision is the
one that its session points to, a superseded decision leads by its successors to
the active one of its role, and every decision has its own consumed assignment,
accepted attempt, Run, receipt and nonce. Every publication keeps the chain, so
that the result is by induction over the run. -/
theorem reachable_evidenceChain [Sha256] [DecisionParser.OutputPorts] {database : EpochDatabase}
    (h : Reachable database) : EvidenceChain database :=
  Evidence.evidenceChain_of_inv (Evidence.inv_reachable h)

open Sample in
theorem reachable_evidenceChain_sample : EvidenceChain database :=
  reachable_evidenceChain reachable

end Service

end EpochGuard
