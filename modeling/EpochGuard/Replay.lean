import EpochGuard.CallFrames
import EpochGuard.EvidenceChain

/-!
# No replay of outputs

An accepted output leaves a decision, the consumed assignment behind it, its
receipt and its attempt in the store. No call but a reset takes any of them
away, so a later output can neither be of the same attempt nor name the same
assignment, receipt or nonce.
-/

namespace EpochGuard

open Json Checked Runs

namespace Service

open DecisionParser RunObserver

/-! ## Attempts and their Runs -/

/-- No two attempts have the same Run. -/
def RunsUnique (attempts : List AgentAttempt) : Prop :=
  ∀ t ∈ attempts, ∀ u ∈ attempts, t.runId ≠ none → t.runId = u.runId → t.attemptId = u.attemptId

/-- Attempts keep their assignment, and their Run once they have one. -/
structure AttemptsKept (before after : List AgentAttempt) : Prop where
  kept : ∀ t ∈ before, ∃ t' ∈ after, t'.attemptId = t.attemptId ∧
    t'.assignmentId = t.assignmentId ∧ (t.runId ≠ none → t'.runId = t.runId)
  unique : RunsUnique before → RunsUnique after

namespace AttemptsKept

variable {before middle after : List AgentAttempt}

theorem refl (attempts : List AgentAttempt) : AttemptsKept attempts attempts :=
  ⟨fun t ht => ⟨t, ht, rfl, rfl, fun _ => rfl⟩, id⟩

theorem trans (h : AttemptsKept before middle) (h' : AttemptsKept middle after) :
    AttemptsKept before after := by
  refine ⟨fun t ht => ?_, h'.unique ∘ h.unique⟩
  obtain ⟨u, hu, hid, hassignment, hrun⟩ := h.kept t ht
  obtain ⟨v, hv, hid', hassignment', hrun'⟩ := h'.kept u hu
  refine ⟨v, hv, hid'.trans hid, hassignment'.trans hassignment, fun hne => ?_⟩
  rw [hrun' (by rwa [hrun hne]), hrun hne]

/-- New attempts have no Run. -/
theorem append {t : AgentAttempt} (ht : t.runId = none) : AttemptsKept before (before ++ [t]) := by
  refine ⟨fun u hu => ⟨u, List.mem_append_left _ hu, rfl, rfl, fun _ => rfl⟩, ?_⟩
  intro hunique u hu v hv hne hsame
  rcases List.mem_append.mp hu with hu | hu <;> rcases List.mem_append.mp hv with hv | hv
  · exact hunique u hu v hv hne hsame
  · rw [List.mem_singleton.mp hv, ht] at hsame
    exact absurd hsame hne
  · rw [List.mem_singleton.mp hu] at hne
    exact absurd ht hne
  · rw [List.mem_singleton.mp hu, List.mem_singleton.mp hv]

/-- An attempt is written over the only one with its identifier. -/
theorem set {t new : AgentAttempt}
    (hfound : single? before (fun u => u.attemptId = new.attemptId) = some t)
    (hassignment : new.assignmentId = t.assignmentId)
    (hrun : t.runId ≠ none → new.runId = t.runId)
    (hfresh : new.runId = t.runId ∨ ∀ u ∈ before, u.attemptId ≠ new.attemptId →
      u.runId ≠ new.runId) :
    AttemptsKept before
      (modifyWhere (fun u => u.attemptId = new.attemptId) (fun _ => new) before) := by
  obtain ⟨hmem, hid⟩ := single?_mem hfound
  simp only [decide_eq_true_eq] at hid
  constructor
  · intro u hu
    by_cases hsame : u.attemptId = new.attemptId
    · have hut : u = t := single?_unique hfound hu (by simpa using hsame)
      subst hut
      exact ⟨new, mem_modifyWhere.mpr (.inl ⟨u, hu, by simpa using hsame, rfl⟩), hid.symm,
        hassignment, hrun⟩
    · exact ⟨u, mem_modifyWhere.mpr (.inr ⟨hu, by simpa using hsame⟩), rfl, rfl, fun _ => rfl⟩
  · intro hunique
    -- the written attempt against one that is left as it was
    have hcross : ∀ u ∈ before, u.attemptId ≠ new.attemptId → u.runId ≠ none →
        u.runId ≠ new.runId := by
      intro u hu hother hne
      rcases hfresh with hkept | hfresh
      · intro hsame
        exact hother ((hunique u hu t hmem hne (hsame.trans hkept)).trans hid)
      · exact hfresh u hu hother
    intro u hu v hv hne hsame
    rcases mem_modifyWhere.mp hu with ⟨_, -, -, rfl⟩ | ⟨hu, hu'⟩ <;>
      rcases mem_modifyWhere.mp hv with ⟨_, -, -, rfl⟩ | ⟨hv, hv'⟩
    · rfl
    · exact absurd hsame.symm (hcross v hv (by simpa using hv') (hsame ▸ hne))
    · exact absurd hsame (hcross u hu (by simpa using hu') hne)
    · exact hunique u hu v hv hne hsame

end AttemptsKept

/-! ## What every call keeps -/

/-- Attempts, receipts and decisions stay, whatever becomes of their status. -/
structure Kept (before after : EpochDatabase) : Prop where
  attempts : AttemptsKept before.attempts after.attempts
  receipts : before.receipts ⊆ after.receipts
  decisions : ∀ d ∈ before.decisions, ∃ d' ∈ after.decisions,
    d'.runAssignmentId = d.runAssignmentId ∧ d'.receiptId = d.receiptId ∧ d'.runId = d.runId

section Calls

variable {database middle left : EpochDatabase}

theorem Kept.of_same (hattempts : left.attempts = database.attempts)
    (hreceipts : left.receipts = database.receipts)
    (hdecisions : left.decisions = database.decisions) : Kept database left where
  attempts := hattempts ▸ .refl _
  receipts := hreceipts ▸ List.Subset.refl _
  decisions d hd := ⟨d, hdecisions ▸ hd, rfl, rfl, rfl⟩

theorem Kept.refl (database : EpochDatabase) : Kept database database := .of_same rfl rfl rfl

theorem Kept.trans (h : Kept database middle) (h' : Kept middle left) : Kept database left where
  attempts := h.attempts.trans h'.attempts
  receipts := List.Subset.trans h.receipts h'.receipts
  decisions d hd := by
    obtain ⟨d', hd', hassignment, hreceipt, hrun⟩ := h.decisions d hd
    obtain ⟨d'', hd'', hassignment', hreceipt', hrun'⟩ := h'.decisions d' hd'
    exact ⟨d'', hd'', hassignment'.trans hassignment, hreceipt'.trans hreceipt, hrun'.trans hrun⟩

/-- Only attempts are written that matter here. -/
theorem Kept.of_attempts (h : AttemptsKept database.attempts left.attempts)
    (hreceipts : left.receipts = database.receipts)
    (hdecisions : left.decisions = database.decisions) : Kept database left where
  attempts := h
  receipts := hreceipts ▸ List.Subset.refl _
  decisions d hd := ⟨d, hdecisions ▸ hd, rfl, rfl, rfl⟩

theorem WritesAudit.kept (h : WritesAudit database left) : Kept database left := by
  obtain ⟨_, _, rfl⟩ := h
  exact .of_same rfl rfl rfl

/-- An attempt that is stored again with another status keeps its Run. -/
theorem AttemptsKept.update {attempts : List AgentAttempt} {attemptId : OpaqueId}
    {t new : AgentAttempt} (hfound : single? attempts (fun u => u.attemptId = attemptId) = some t)
    (hid : new.attemptId = t.attemptId) (hassignment : new.assignmentId = t.assignmentId)
    (hrun : new.runId = t.runId) :
    AttemptsKept attempts
      (modifyWhere (fun u => u.attemptId = new.attemptId) (fun _ => new) attempts) := by
  have hfound' : single? attempts (fun u => u.attemptId = new.attemptId) = some t := by
    have htid : t.attemptId = attemptId := by simpa using (single?_mem hfound).2
    rw [hid, htid]
    exact hfound
  exact .set hfound' hassignment (fun _ => hrun) (.inl hrun)

theorem observeFailure_same (attempt : AgentAttempt) (status : AttemptState) (run : AgentRun) :
    (observeFailure attempt status run).attemptId = attempt.attemptId ∧
      (observeFailure attempt status run).assignmentId = attempt.assignmentId ∧
      (observeFailure attempt status run).runId = attempt.runId := by
  unfold observeFailure
  dsimp only
  split_ifs <;> exact ⟨rfl, rfl, rfl⟩

theorem failedAttempt_same (attempt : AgentAttempt) (status : AttemptState)
    (run : Option AgentRun) :
    (failedAttempt attempt status run).attemptId = attempt.attemptId ∧
      (failedAttempt attempt status run).assignmentId = attempt.assignmentId ∧
      (failedAttempt attempt status run).runId = attempt.runId := by
  unfold failedAttempt
  split
  · simp
  · split_ifs
    · exact observeFailure_same _ _ _
    · simp
  · simp

theorem kept_store {assignment : RunAssignment} {attemptId : OpaqueId} {t new : AgentAttempt}
    {out : EpochDatabase × AgentAttempt}
    (hfound : single? database.attempts (fun u => u.attemptId = attemptId) = some t)
    (h : store database assignment new = .ok out)
    (hsame : new.attemptId = t.attemptId ∧ new.assignmentId = t.assignmentId ∧
      new.runId = t.runId) : Kept database out.1 := by
  obtain ⟨-, rfl⟩ := store_eq_ok.mp h
  exact .of_attempts (.update hfound hsame.1 hsame.2.1 hsame.2.2) rfl rfl

variable [Sha256] [OutputPorts]

theorem kept_observer {call : Call} {input : DispatchBindPollInput}
    (hinput : Continuation.observedInput call = some input)
    (h : call.leaves database = some left) : Kept database left := by
  cases call with
  | transitionToDispatching input =>
    simp only [Call.leaves, toOption_eq_some, except_map_eq_ok, Prod.exists,
      RunObserver.transitionToDispatching, bind_eq_ok, requireRecords_eq_ok] at h
    obtain ⟨_, _, ⟨_, attempt, ⟨-, hfound⟩, -, -, -, -, -, -, hstore⟩, rfl⟩ := h
    exact kept_store hfound hstore ⟨rfl, rfl, rfl⟩
  | bindRunOnce input run boundAt =>
    simp only [Call.leaves, toOption_eq_some, except_map_eq_ok, Prod.exists,
      RunObserver.bindRunOnce, bind_eq_ok, requireRecords_eq_ok, require_eq_ok, orStop_eq_ok] at h
    obtain ⟨_, _, ⟨_, attempt, ⟨-, hfound⟩, -, ⟨-, -, hunbound⟩, -, ⟨-, hfresh⟩, runId, hrun,
      hstore⟩, rfl⟩ := h
    obtain ⟨-, hout⟩ := store_eq_ok.mp hstore
    obtain ⟨rfl, -⟩ := Prod.mk.inj hout
    have hid : attempt.attemptId = input.attemptId := by simpa using (single?_mem hfound).2
    refine .of_attempts (.set (t := attempt) ?_ rfl (fun hne => absurd hunbound hne) (.inr ?_))
      rfl rfl
    · rw [hid]
      exact hfound
    · -- no other attempt has the Run that is bound
      intro u hu hother hsame
      refine hfresh u hu hother ?_
      rw [hsame]
      exact congrArg some (OpaqueId.parse?_eq_some.mp hrun)
  | mirrorRun input agentId run =>
    simp only [Call.leaves, toOption_eq_some, except_map_eq_ok, Prod.exists,
      RunObserver.mirrorRun, bind_eq_ok, requireRecords_eq_ok] at h
    obtain ⟨_, _, ⟨_, -, -, -, _, -, _, attempt, ⟨-, hfound⟩, -, -, -, -, -, -, -, -, -, -, -, -,
      _, -, hstore⟩, rfl⟩ := h
    exact kept_store hfound hstore ⟨rfl, rfl, rfl⟩
  | failAttempt input status run =>
    simp only [Call.leaves, Option.ite_none_right_eq_some, toOption_eq_some, except_map_eq_ok,
      Prod.exists, RunObserver.failAttempt, bind_eq_ok, requireRecords_eq_ok] at h
    obtain ⟨-, _, _, ⟨_, attempt, ⟨-, hfound⟩, -, -, -, -, hstore⟩, rfl⟩ := h
    exact kept_store hfound hstore (failedAttempt_same _ _ _)
  | rejectCompletedOutput input =>
    simp only [Call.leaves, toOption_eq_some, except_map_eq_ok, Prod.exists,
      RunObserver.rejectCompletedOutput, bind_eq_ok, requireRecords_eq_ok] at h
    obtain ⟨_, _, ⟨_, attempt, ⟨-, hfound⟩, -, -, hstore⟩, rfl⟩ := h
    exact kept_store hfound hstore ⟨rfl, rfl, rfl⟩
  | _ => cases hinput

omit [OutputPorts] in
theorem kept_join {settled : List Settled} {scope : RoleRunJoinScope} :
    Kept database (joinRoleRunObservations database settled scope).1 := by
  unfold joinRoleRunObservations
  split
  · exact .refl _
  · exact .of_same rfl rfl rfl

omit [OutputPorts] in
theorem kept_issueAndPack {action : ActionIntent} {assignment : RunAssignment}
    {querySpec : RoleQuerySpec} {nonce : String} {issuedAt : Timestamp}
    (h : issueAndPack database action assignment querySpec nonce issuedAt = .ok left) :
    Kept database left := by
  obtain ⟨_, issued, built, hissue, -, rfl⟩ := issueAndPack_cases h
  obtain rfl := hissue.left
  exact ⟨.refl _, List.subset_append_left _ _, fun d hd => ⟨d, hd, rfl, rfl, rfl⟩⟩

omit [OutputPorts] in
theorem kept_initialStep {ports : CreateSessionPorts} {fixture : Fixtures.EpochGuardFixture}
    {verified : PerRole RoleAgentRegistration} {before after : Prepared}
    {step : Fixtures.FixtureInitialStep}
    (h : initialStep ports fixture verified before step = .ok after) :
    Kept before.database after.database := by
  cases step with
  | commit step =>
    simp only [initialStep, bind_eq_ok, pure_eq_ok] at h
    obtain ⟨world, -, rfl⟩ := h
    exact .of_same rfl rfl rfl
  | capture step =>
    simp only [initialStep, captureInitial, bind_eq_ok, pure_eq_ok] at h
    obtain ⟨-, -, assignment, -, issued, hissued, rfl⟩ := h
    refine Kept.trans ?_ (kept_issueAndPack hissued)
    constructor
    · exact .append rfl
    · exact List.Subset.refl _
    · exact fun d hd => ⟨d, hd, rfl, rfl, rfl⟩

omit [OutputPorts] in
theorem kept_createSession {request : CreateSessionRequest}
    {verified : PerRole RoleAgentRegistration} {ports : CreateSessionPorts}
    (h : Service.createSession database request verified ports = .ok left) :
    Kept database left := by
  unfold Service.createSession at h
  dsimp only at h
  split at h
  · simp at h
  · simp only [bind_eq_ok, mapError_eq_ok, pure_eq_ok] at h
    obtain ⟨-, -, prepared, ⟨world, -, action, -, queried, hqueried, hprepared⟩, -, -, rfl⟩ := h
    have hworld : Kept database { database with toWorld := world } := .of_same rfl rfl rfl
    have hqueried : Kept database queried := by
      refine foldlM_induction (P := Kept database) ?_ hworld hqueried
      intro before role after hbefore _ hstore
      obtain ⟨_, rfl⟩ := Evidence.storeQuerySpec_cases hstore
      exact hbefore.trans (.of_same rfl rfl rfl)
    have hprepared : Kept database prepared.database := by
      refine foldlM_induction (P := fun p : Prepared => Kept database p.database) ?_ ?_ hprepared
      · exact fun before step after hbefore _ hstep => hbefore.trans (kept_initialStep hstep)
      · refine hqueried.trans ?_
        constructor
        · exact .refl _
        · exact List.Subset.refl _
        · exact fun d hd => ⟨d, hd, rfl, rfl, rfl⟩
    exact hprepared.trans (.of_same rfl rfl rfl)

omit [OutputPorts] in
theorem kept_consume {records : ConsumableRecords} {attemptId : OpaqueId} {rawOutput : JsString}
    {existing : Option DependencyCertificate} {certificate : DependencyCertificate}
    (hconsumable : Consumable database attemptId rawOutput records)
    (hexisting : ∀ d ∈ existing,
      single? database.decisions (fun c => c.certificateId = d.certificateId) = some d) :
    Kept database (consume database records existing certificate) := by
  have hattempts : (consume database records existing certificate).attempts =
      (database.setAttempt { records.attempt with status := .ACCEPTED }).attempts := by
    cases existing <;> rfl
  constructor
  · rw [hattempts]
    exact .update hconsumable.attempt rfl rfl rfl
  · cases existing <;> exact List.Subset.refl _
  · intro d hd
    cases existing with
    | none => exact ⟨d, List.mem_append_left _ hd, rfl, rfl, rfl⟩
    | some active =>
      by_cases hid : d.certificateId = active.certificateId
      · have hsame : d = active :=
          single?_unique (hexisting active rfl) hd (by simpa using hid)
        subst hsame
        refine ⟨{ d with
          status := .SUPERSEDED, supersededByCertificateId := some certificate.certificateId },
          List.mem_append_left _ (mem_modifyWhere.mpr (.inl ⟨d, hd, ?_, rfl⟩)), rfl, rfl, rfl⟩
        simp
      · exact ⟨d, List.mem_append_left _ (mem_modifyWhere.mpr (.inr ⟨hd, by simpa using hid⟩)),
          rfl, rfl, rfl⟩

theorem kept_normalize {attemptId : OpaqueId} {rawOutput : JsString}
    {options : DecisionNormalizationOptions} {result : DecisionNormalizationResult}
    (h : normalizeAndConsumeDecision database attemptId rawOutput options = .ok (left, result)) :
    Kept database left := by
  obtain ⟨records, hconsumable, ⟨failure, artifact, -, -, rfl, -⟩ |
    ⟨envelope, existing, -, -, hexisting, rfl, -⟩⟩ := normalizeAndConsumeDecision_cases h
  · exact .of_attempts (.update hconsumable.attempt rfl rfl rfl) rfl rfl
  · exact kept_consume hconsumable fun d hd => ((requireSupersedable_cases hexisting).2 d hd).1

theorem kept_normalizeAll {ports : AcceptPorts} {index : Nat}
    {observations : List TerminalRunObservation} {results : List DecisionNormalizationResult}
    (h : normalizeAll database ports index observations = .ok (left, results)) :
    Kept database left := by
  induction observations generalizing database index results with
  | nil =>
    obtain ⟨rfl, -⟩ := Prod.mk.inj (pure_eq_ok.mp h)
    exact .refl _
  | cons observation rest ih =>
    simp only [normalizeAll, bind_eq_ok, mapError_eq_ok, pure_eq_ok, Prod.exists,
      Prod.mk.injEq] at h
    obtain ⟨normalized, result, hfirst, final, results', hrest, rfl, -⟩ := h
    exact (kept_normalize hfirst).trans (ih hrest)

omit [Sha256] [OutputPorts] in
theorem kept_closeClaimedRefreshFailure {session : EpochSession} {terminalStatus : AttemptState}
    {preserved : Option Role} {closure : RefreshFailureClosure}
    (h : closeClaimedRefreshFailure database session terminalStatus preserved = .ok closure) :
    Kept database closure.database := by
  unfold closeClaimedRefreshFailure at h
  dsimp only at h
  split at h
  · obtain rfl := pure_eq_ok.mp h
    exact .refl _
  · split at h
    · obtain rfl := pure_eq_ok.mp h
      exact .refl _
    · split at h
      · rename_i attempt assignment hattempt hassignment
        obtain ⟨attemptId, -, hfound⟩ := Option.bind_eq_some_iff.mp hattempt
        split at h
        · unfold closeBoundRefresh at h
          dsimp only at h
          split at h
          · simp only [bind_eq_ok, pure_eq_ok] at h
            obtain ⟨-, -, rfl⟩ := h
            exact .of_same rfl rfl rfl
          · split at h
            · simp only [bind_eq_ok, pure_eq_ok] at h
              obtain ⟨-, -, rfl⟩ := h
              exact .of_attempts (.update hfound rfl rfl rfl) rfl rfl
            · obtain rfl := pure_eq_ok.mp h
              exact .of_same rfl rfl rfl
        · obtain rfl := pure_eq_ok.mp h
          exact .of_same rfl rfl rfl
      · obtain rfl := pure_eq_ok.mp h
        exact .of_same rfl rfl rfl

theorem kept_acceptAndValidate {sessionId : OpaqueId}
    {observations : List TerminalRunObservation} {refreshPlan : Option RefreshPlan}
    {ports : AcceptPorts} {normalized : EpochDatabase}
    {results : List DecisionNormalizationResult}
    (hnormalized : normalizeAll database ports 0 observations = .ok (normalized, results))
    (h : acceptAndValidate database sessionId observations refreshPlan ports = .ok left) :
    Kept normalized left := by
  simp only [acceptAndValidate, bind_eq_ok, orStop_eq_ok, Prod.exists] at h
  obtain ⟨_, -, _, -, normalized', results', hnormalized', -, -, session, -, h⟩ := h
  rw [hnormalized] at hnormalized'
  obtain ⟨rfl, rfl⟩ := Prod.mk.inj (Except.ok.inj hnormalized')
  split at h
  · simp only [closeMalformedOutput, bind_eq_ok] at h
    obtain ⟨_, -, closure, hclosure, h⟩ := h
    have hclosed : Kept closure.database (closure.database.setSession closure.closedSession) :=
      .of_same rfl rfl rfl
    exact (kept_closeClaimedRefreshFailure hclosure).trans
      (hclosed.trans (appendDiagnostic_writes h).kept)
  · simp only [bind_eq_ok] at h
    obtain ⟨_, -, h⟩ := h
    obtain ⟨_, ⟨_, _, _, _, _, _, _, rfl⟩, -⟩ := persistValidation_written h
    exact .of_same rfl rfl rfl

omit [Sha256] [OutputPorts] in
theorem kept_failSession {sessionId : OpaqueId} {error : ServiceError} {ports : FailPorts}
    (h : Service.failSession database sessionId error ports = .ok left) : Kept database left := by
  simp only [Service.failSession, bind_eq_ok] at h
  obtain ⟨found, -, h⟩ := h
  cases found with
  | none => exact pure_eq_ok.mp h ▸ .refl _
  | some session =>
    dsimp only at h
    split at h
    · exact pure_eq_ok.mp h ▸ .refl _
    · simp only [bind_eq_ok, pure_eq_ok] at h
      obtain ⟨closure, hclosure, diagnosed, hdiagnosed, rfl⟩ := h
      have hclosed : Kept closure.database (closure.database.setSession closure.closedSession) :=
        .of_same rfl rfl rfl
      exact ((kept_closeClaimedRefreshFailure hclosure).trans
        (hclosed.trans (appendDiagnostic_writes hdiagnosed).kept)).trans (.of_same rfl rfl rfl)

omit [Sha256] [OutputPorts] in
theorem kept_recoverActiveAttempt {session : EpochSession} {timestamp : Timestamp} {role : Role}
    (h : recoverActiveAttempt database session timestamp role = .ok left) :
    Kept database left := by
  unfold recoverActiveAttempt at h
  split at h
  · obtain rfl := pure_eq_ok.mp h
    exact .refl _
  · simp only [bind_eq_ok, orStop_eq_ok, pure_eq_ok] at h
    obtain ⟨attempt, hattempt, -, -, _, -, -, -, _, -, -, -, rfl⟩ := h
    have hsame : (interruptedAttempt attempt timestamp).attemptId = attempt.attemptId ∧
        (interruptedAttempt attempt timestamp).assignmentId = attempt.assignmentId ∧
        (interruptedAttempt attempt timestamp).runId = attempt.runId := by
      unfold interruptedAttempt
      split_ifs <;> exact ⟨rfl, rfl, rfl⟩
    exact .of_attempts (.update hattempt hsame.1 hsame.2.1 hsame.2.2) rfl rfl

omit [Sha256] [OutputPorts] in
theorem kept_recoverInFlightSession {session : EpochSession} {timestamp : Timestamp}
    {ids : RecoveryIds} (h : recoverInFlightSession database session timestamp ids = .ok left) :
    Kept database left := by
  simp only [recoverInFlightSession, bind_eq_ok, pure_eq_ok] at h
  obtain ⟨-, -, attempted, hattempted, -, -, planned, hplanned, permitted, hpermitted, diagnosed,
    hdiagnosed, rfl⟩ := h
  have hattempted : Kept database attempted := by
    refine foldlM_induction (P := Kept database) ?_ (.refl _) hattempted
    exact fun before role after hbefore _ hstep => hbefore.trans (kept_recoverActiveAttempt hstep)
  obtain ⟨⟨_, rfl⟩, -⟩ := recoverRefreshPlan_writes hplanned
  obtain ⟨⟨_, rfl⟩, -⟩ := recoverPermit_writes hpermitted
  obtain ⟨_, _, rfl⟩ := appendDiagnostic_writes hdiagnosed
  exact hattempted.trans (.of_same rfl rfl rfl)

theorem kept_leaves {call : Call} (hreset : ∀ ids, call ≠ .resetDemo ids)
    (h : call.leaves database = some left) : Kept database left := by
  cases call with
  | registerRole registration =>
    simp only [Call.leaves, toOption_eq_some, Service.registerRole, bind_eq_ok, pure_eq_ok] at h
    obtain ⟨-, -, -, -, rfl⟩ := h
    exact .of_same rfl rfl rfl
  | createSession request ports =>
    simp only [Call.leaves, Option.bind_eq_bind, Option.bind_eq_some_iff, toOption_eq_some] at h
    obtain ⟨verified, -, h⟩ := h
    exact kept_createSession h
  | transitionToCollecting sessionId timestamp event =>
    simp only [Call.leaves, toOption_eq_some, Service.transitionToCollecting, bind_eq_ok,
      pure_eq_ok] at h
    obtain ⟨_, -, session, -, -, -, rfl⟩ := h
    exact .of_same rfl rfl rfl
  | transitionToDispatching | bindRunOnce | mirrorRun | failAttempt | rejectCompletedOutput =>
    exact kept_observer rfl h
  | join settled scope =>
    obtain rfl := Option.some.inj h
    exact kept_join
  | acceptInitial sessionId observations ports =>
    have h := toOption_eq_some.mp h
    obtain ⟨_, _, _, _, hnormalized, -⟩ := acceptAndValidate_cases h
    exact (kept_normalizeAll hnormalized).trans (kept_acceptAndValidate hnormalized h)
  | acceptRefresh sessionId observation plan ports =>
    simp only [Call.leaves, Option.ite_none_right_eq_some, toOption_eq_some] at h
    obtain ⟨_, _, _, _, hnormalized, -⟩ := acceptAndValidate_cases h.2
    exact (kept_normalizeAll hnormalized).trans (kept_acceptAndValidate hnormalized h.2)
  | claimRefreshPlan sessionId request registration runtimeLabel timestamp assignmentId receiptId
      attemptId =>
    simp only [Call.leaves, Option.ite_none_right_eq_some, toOption_eq_some,
      except_map_eq_ok] at h
    obtain ⟨-, out, hclaim, rfl⟩ := h
    cases claimRefreshPlan_cases hclaim with
    | stale => exact .of_same rfl rfl rfl
    | claimed found planned available owner revision active matching idle created fresh =>
      simp only [createClaimArtifacts, bind_eq_ok, pure_eq_ok] at created
      obtain ⟨-, -, assignment, -, rfl⟩ := created
      constructor
      · exact .append rfl
      · exact List.Subset.refl _
      · exact fun d hd => ⟨d, hd, rfl, rfl, rfl⟩
  | captureRefreshObservation scenarioId assignmentId nonce issuedAt =>
    simp only [Call.leaves, toOption_eq_some, Service.captureRefreshObservation, bind_eq_ok,
      mapError_eq_ok] at h
    obtain ⟨_, -, -, -, assignment, -, found, -, session, -, -, -, h⟩ := h
    exact kept_issueAndPack h
  | failSession sessionId error ports => exact kept_failSession (toOption_eq_some.mp h)
  | commit sessionId expectedSessionRevision effectId timestamp =>
    simp only [Call.leaves, toOption_eq_some, except_map_eq_ok] at h
    obtain ⟨out, hcommit, rfl⟩ := h
    cases EffectGate.commit_cases hcommit <;> exact .of_same rfl rfl rfl
  | recordCommitRace sessionId ports => exact (recordCommitRace_writes (toOption_eq_some.mp h)).kept
  | recoverSessions timestamp ids =>
    refine foldlM_induction (P := Kept database) ?_ (.refl _) (toOption_eq_some.mp h)
    exact fun before session after hbefore _ hstep =>
      hbefore.trans (kept_recoverInFlightSession hstep)
  | resetDemo ids => exact absurd rfl (hreset ids)
  | worldCommit input =>
    simp only [Call.leaves, toOption_eq_some, except_map_eq_ok] at h
    obtain ⟨_, -, rfl⟩ := h
    exact .of_same rfl rfl rfl

/-- No two attempts of a reachable store have the same Run. -/
theorem runsUnique_reachable (h : Reachable database) : RunsUnique database.attempts := by
  refine h.induction (P := fun db => RunsUnique db.attempts)
    (by simp [RunsUnique, emptyEpochDatabase])
    fun before left call hbefore hleft _ => ?_
  show RunsUnique left.attempts
  by_cases hreset : ∀ ids, call ≠ .resetDemo ids
  · exact (kept_leaves hreset hleft).attempts.unique hbefore
  · simp only [not_forall, not_not] at hreset
    obtain ⟨ids, rfl⟩ := hreset
    have hnone : left.attempts = [] := by
      simp only [Call.leaves, toOption_eq_some, Service.resetDemo] at hleft
      split at hleft
      · cases hleft
      · obtain rfl := pure_eq_ok.mp hleft
        rfl
    simp [RunsUnique, hnone]

/-! ## Accepted outputs -/

/-- An output that became the decision of an attempt. -/
structure Acceptance where
  attemptId : OpaqueId
  output : JsString
  certificate : DependencyCertificate

/-- What an accepted output leaves in the store, for its envelope. -/
structure Spent (database : EpochDatabase) (acceptance : Acceptance)
    (envelope : AgentDecisionEnvelope) : Prop where
  parsed : parseDecisionEnvelope acceptance.output = .ok envelope
  decision : ∃ d ∈ database.decisions, d.runAssignmentId = envelope.runAssignmentId
  attempt : ∃ t ∈ database.attempts, t.attemptId = acceptance.attemptId ∧
    t.assignmentId = envelope.runAssignmentId ∧ t.runId = some acceptance.certificate.runId
  receipt : ∃ r ∈ database.receipts, r.receiptId = envelope.receiptId ∧
    r.runAssignmentId = envelope.runAssignmentId ∧ js r.nonce = envelope.nonce

/-- Two outputs have nothing in common that is good for one use. -/
structure Apart (first second : Acceptance) : Prop where
  attempt : second.attemptId ≠ first.attemptId
  output : second.output ≠ first.output
  envelope : ∀ e e', parseDecisionEnvelope first.output = .ok e →
    parseDecisionEnvelope second.output = .ok e' →
    e'.runAssignmentId ≠ e.runAssignmentId ∧ e'.receiptId ≠ e.receiptId ∧ e'.nonce ≠ e.nonce

omit [Sha256] in
theorem Spent.kept {acceptance : Acceptance} {envelope : AgentDecisionEnvelope}
    (hspent : Spent database acceptance envelope) (h : Kept database left) :
    Spent left acceptance envelope := by
  obtain ⟨hparsed, ⟨d, hd, hassignment⟩, ⟨t, ht, hid, howner, hrun⟩, ⟨r, hr, hreceipt⟩⟩ := hspent
  refine ⟨hparsed, ?_, ?_, ⟨r, h.receipts hr, hreceipt⟩⟩
  · obtain ⟨d', hd', hsame, -⟩ := h.decisions d hd
    exact ⟨d', hd', hsame.trans hassignment⟩
  · obtain ⟨t', ht', hid', howner', hrun'⟩ := h.attempts.kept t ht
    exact ⟨t', ht', hid'.trans hid, howner'.trans howner, (hrun' (by simp [hrun])).trans hrun⟩

omit [Sha256] [OutputPorts] in
theorem assertEnvelopeBinding_eq_ok {envelope : AgentDecisionEnvelope} {assignment : RunAssignment}
    {receipt : ObservationReceipt} {u : Unit} :
    assertEnvelopeBinding envelope assignment receipt = .ok u ↔
      envelope.sessionId = assignment.sessionId ∧ envelope.actionHash = assignment.actionHash ∧
        envelope.runAssignmentId = assignment.assignmentId ∧ envelope.role = assignment.role ∧
        envelope.receiptId = receipt.receiptId ∧ envelope.nonce = js receipt.nonce := by
  simp [assertEnvelopeBinding, assertEqual_eq_ok]

/-- The records of an accepted output, and what its envelope says of them. -/
theorem accepted_cases {attemptId : OpaqueId} {output : JsString}
    {options : DecisionNormalizationOptions} {certificate : DependencyCertificate}
    (h : normalizeAndConsumeDecision database attemptId output options =
      .ok (left, .accepted certificate)) :
    ∃ records envelope, Consumable database attemptId output records ∧
      parseDecisionEnvelope output = .ok envelope ∧
      envelope.runAssignmentId = records.assignment.assignmentId ∧
      envelope.receiptId = records.receipt.receiptId ∧
      envelope.nonce = js records.receipt.nonce ∧
      certificate.runAssignmentId = records.assignment.assignmentId ∧
      certificate.runId = records.runId ∧ certificate ∈ left.decisions := by
  simp only [normalizeAndConsumeDecision, bind_eq_ok] at h
  obtain ⟨records, hrecords, h⟩ := h
  cases hparse : parseDecisionEnvelope output with
  | error failure =>
    simp only [hparse, bind_eq_ok, pure_eq_ok, Prod.mk.injEq] at h
    obtain ⟨_, -, _, -, -, hresult⟩ := h
    cases hresult
  | ok envelope =>
    simp only [hparse, bind_eq_ok, pure_eq_ok, Prod.mk.injEq, assertEnvelopeBinding_eq_ok] at h
    obtain ⟨-, ⟨-, -, hassignment, -, hreceipt, hnonce⟩, -, -, existing, -, rfl, hresult⟩ := h
    obtain rfl := DecisionNormalizationResult.accepted.inj hresult
    refine ⟨records, envelope, requireConsumable_cases hrecords, rfl, hassignment, hreceipt,
      hnonce, rfl, rfl, ?_⟩
    cases existing <;> exact List.mem_append_right _ (List.mem_singleton_self _)

/-- An accepted output is spent. -/
theorem spent_of_accepted {attemptId : OpaqueId} {output : JsString}
    {options : DecisionNormalizationOptions} {certificate : DependencyCertificate}
    (h : normalizeAndConsumeDecision database attemptId output options =
      .ok (left, .accepted certificate)) :
    ∃ envelope, Spent left ⟨attemptId, output, certificate⟩ envelope := by
  obtain ⟨records, envelope, hconsumable, hparsed, hassignment, hreceipt, hnonce, hdecided, hrun,
    hdecision⟩ := accepted_cases h
  have hkept := kept_normalize h
  have hbinding := hconsumable.attemptBinding
  obtain ⟨hattempt, hid⟩ := single?_mem hconsumable.attempt
  obtain ⟨t, ht, htid, howner, htrun⟩ := hkept.attempts.kept _ hattempt
  refine ⟨envelope, hparsed, ⟨certificate, hdecision, hdecided.trans hassignment.symm⟩,
    ⟨t, ht, htid.trans (by simpa using hid), ?_, ?_⟩, ⟨records.receipt, ?_, hreceipt.symm, ?_,
    hnonce.symm⟩⟩
  · rw [howner, hbinding.assignmentId, hassignment]
  · rw [htrun hbinding.hasRun, ← hbinding.run, hconsumable.run, hrun]
  · exact hkept.receipts (single?_mem hconsumable.receipt).1
  · rw [hconsumable.receiptBinding.assignmentId, hassignment]

/-- An output that is accepted has nothing in common with one that is spent. -/
theorem Spent.apart (hinv : database.evidence.Inv) {first : Acceptance}
    {envelope : AgentDecisionEnvelope} (hspent : Spent database first envelope)
    {attemptId : OpaqueId} {output : JsString} {options : DecisionNormalizationOptions}
    {certificate : DependencyCertificate}
    (h : normalizeAndConsumeDecision database attemptId output options =
      .ok (left, .accepted certificate)) : Apart first ⟨attemptId, output, certificate⟩ := by
  obtain ⟨records, envelope', hconsumable, hparsed, hassignment, hreceipt, hnonce, -⟩ :=
    accepted_cases h
  obtain ⟨hbefore, ⟨d, hd, hdecided⟩, ⟨t, ht, htid, howner, -⟩, ⟨r, hr, hrid, hrowner, hrnonce⟩⟩ :=
    hspent
  have hbinding := hconsumable.attemptBinding
  -- the assignment of the spent output is consumed, and this one is not
  have hother : envelope'.runAssignmentId ≠ envelope.runAssignmentId := by
    intro hsame
    obtain ⟨a, u, o, hbacked⟩ := hinv.backed d hd
    have hid : a.assignmentId = records.assignment.assignmentId := by
      rw [hbacked.assignmentId, hdecided, ← hsame, hassignment]
    have hrecord := hinv.assignment_unique hbacked.assignment
      (single?_mem hconsumable.assignment).1 hid
    have hconsumed := hbacked.consumed
    rw [hrecord, hconsumable.bound] at hconsumed
    cases hconsumed
  have hreceipts : records.receipt ≠ r := by
    intro hsame
    apply hother
    rw [hassignment, ← hconsumable.receiptBinding.assignmentId, hsame, hrowner]
  have hmem := (single?_mem hconsumable.receipt).1
  have henvelope : envelope'.receiptId ≠ envelope.receiptId ∧ envelope'.nonce ≠ envelope.nonce := by
    constructor
    · intro hsame
      rw [hreceipt, ← hrid] at hsame
      exact hreceipts (List.inj_on_of_nodup_map hinv.receipts hmem hr hsame)
    · intro hsame
      rw [hnonce, ← hrnonce] at hsame
      exact hreceipts (List.inj_on_of_nodup_map hinv.nonces hmem hr (js_injective hsame))
  constructor
  · intro hsame
    have hrecord : t = records.attempt :=
      single?_unique hconsumable.attempt ht (by simpa [htid] using hsame.symm)
    apply hother
    rw [hassignment, ← hbinding.assignmentId, ← hrecord, howner]
  · intro hsame
    have hsame' : output = first.output := hsame
    rw [hsame', hbefore] at hparsed
    exact hother (by rw [Except.ok.inj hparsed])
  · intro e e' he he'
    rw [hbefore] at he
    rw [hparsed] at he'
    obtain rfl := Except.ok.inj he
    obtain rfl := Except.ok.inj he'
    exact ⟨hother, henvelope⟩

/-! ## The acceptances of a run -/

/-- The observations whose outputs were accepted, with their decisions. -/
def acceptedOutputs : List TerminalRunObservation → List DecisionNormalizationResult →
    List Acceptance
  | observation :: observations, .accepted certificate :: results =>
      ⟨observation.attempt.attemptId, observation.output, certificate⟩ ::
        acceptedOutputs observations results
  | _ :: observations, .outputRejected _ :: results => acceptedOutputs observations results
  | _, _ => []

def acceptancesIn (database : EpochDatabase) (ports : AcceptPorts)
    (observations : List TerminalRunObservation) : List Acceptance :=
  match normalizeAll database ports 0 observations with
  | .ok (_, results) => acceptedOutputs observations results
  | .error _ => []

/-- The outputs that a published call accepted. -/
def acceptances (database : EpochDatabase) : Call → List Acceptance
  | .acceptInitial _ observations ports => acceptancesIn database ports observations.toList
  | .acceptRefresh _ observation _ ports => acceptancesIn database ports [observation]
  | _ => []

/-- The store after calls in any order; one that throws leaves it as it was. -/
def afterCalls (database : EpochDatabase) (calls : List Call) : EpochDatabase :=
  calls.foldl (fun db call => (publish db call).getD db) database

/-- The outputs that the published ones of the calls accepted, in their order. -/
def acceptancesOf (database : EpochDatabase) : List Call → List Acceptance
  | [] => []
  | call :: calls =>
      match publish database call with
      | some next => acceptances database call ++ acceptancesOf next calls
      | none => acceptancesOf database calls

/-- What a stretch of a run accepts: outputs apart from each other and from all
that were spent before, which are spent after it. -/
structure Accepts (database left : EpochDatabase) (accepted : List Acceptance) : Prop where
  apart : accepted.Pairwise Apart
  spent : ∀ x ∈ accepted, ∃ envelope, Spent left x envelope
  later : ∀ first envelope, Spent database first envelope →
    Spent left first envelope ∧ ∀ x ∈ accepted, Apart first x

omit [Sha256] in
theorem Accepts.nothing (h : Kept database left) : Accepts database left [] :=
  ⟨.nil, nofun, fun _ _ hspent => ⟨hspent.kept h, nofun⟩⟩

omit [Sha256] in
theorem Accepts.trans {first second : List Acceptance} (h : Accepts database middle first)
    (h' : Accepts middle left second) : Accepts database left (first ++ second) := by
  refine ⟨?_, ?_, ?_⟩
  · rw [List.pairwise_append]
    refine ⟨h.apart, h'.apart, fun x hx y hy => ?_⟩
    obtain ⟨envelope, hspent⟩ := h.spent x hx
    exact (h'.later x envelope hspent).2 y hy
  · intro x hx
    rcases List.mem_append.mp hx with hx | hx
    · obtain ⟨envelope, hspent⟩ := h.spent x hx
      exact ⟨envelope, (h'.later x envelope hspent).1⟩
    · exact h'.spent x hx
  · intro x envelope hspent
    obtain ⟨hmiddle, hfirst⟩ := h.later x envelope hspent
    obtain ⟨hleft, hsecond⟩ := h'.later x envelope hmiddle
    refine ⟨hleft, fun y hy => ?_⟩
    rcases List.mem_append.mp hy with hy | hy
    · exact hfirst y hy
    · exact hsecond y hy

theorem accepts_one (hinv : database.evidence.Inv) {attemptId : OpaqueId} {output : JsString}
    {options : DecisionNormalizationOptions} {certificate : DependencyCertificate}
    (h : normalizeAndConsumeDecision database attemptId output options =
      .ok (left, .accepted certificate)) :
    Accepts database left [⟨attemptId, output, certificate⟩] := by
  refine ⟨List.pairwise_singleton .., ?_, fun first envelope hspent => ?_⟩
  · intro x hx
    obtain rfl := List.mem_singleton.mp hx
    exact spent_of_accepted h
  · refine ⟨hspent.kept (kept_normalize h), fun x hx => ?_⟩
    obtain rfl := List.mem_singleton.mp hx
    exact hspent.apart hinv h

theorem accepts_normalizeAll (hinv : database.evidence.Inv) {ports : AcceptPorts} {index : Nat}
    {observations : List TerminalRunObservation} {results : List DecisionNormalizationResult}
    (h : normalizeAll database ports index observations = .ok (left, results)) :
    Accepts database left (acceptedOutputs observations results) := by
  induction observations generalizing database index results with
  | nil =>
    obtain ⟨rfl, rfl⟩ := Prod.mk.inj (pure_eq_ok.mp h)
    exact .nothing (.refl _)
  | cons observation rest ih =>
    simp only [normalizeAll, bind_eq_ok, mapError_eq_ok, pure_eq_ok, Prod.exists,
      Prod.mk.injEq] at h
    obtain ⟨normalized, result, hfirst, final, results', hrest, rfl, rfl⟩ := h
    have hnormalized : normalized.evidence.Inv :=
      Evidence.inv_steps hinv (Evidence.steps_normalizeAndConsumeDecision hfirst)
    have hlater := ih hnormalized hrest
    cases result with
    | accepted certificate => exact (accepts_one hinv hfirst).trans hlater
    | outputRejected artifact => exact (Accepts.nothing (kept_normalize hfirst)).trans hlater

theorem accepts_accept (hinv : database.evidence.Inv) {sessionId : OpaqueId}
    {observations : List TerminalRunObservation} {refreshPlan : Option RefreshPlan}
    {ports : AcceptPorts}
    (h : acceptAndValidate database sessionId observations refreshPlan ports = .ok left) :
    Accepts database left (acceptancesIn database ports observations) := by
  obtain ⟨normalized, results, _, _, hnormalized, -⟩ := acceptAndValidate_cases h
  have haccepts := (accepts_normalizeAll hinv hnormalized).trans
    (Accepts.nothing (kept_acceptAndValidate hnormalized h))
  rw [List.append_nil] at haccepts
  simpa [acceptancesIn, hnormalized] using haccepts

theorem accepts_publish (hreachable : Reachable database) {call : Call}
    (hreset : ∀ ids, call ≠ .resetDemo ids) (h : publish database call = some left) :
    Accepts database left (acceptances database call) := by
  obtain ⟨written, hwritten, -, rfl⟩ := publish_eq_some.mp h
  have hinv := Evidence.inv_reachable hreachable
  have hstamp : Kept written (EpochStore.stamp written database) := .of_same rfl rfl rfl
  have hwhole : Accepts database written (acceptances database call) := by
    cases call with
    | acceptInitial sessionId observations ports =>
      exact accepts_accept hinv (toOption_eq_some.mp hwritten)
    | acceptRefresh sessionId observation plan ports =>
      simp only [Call.leaves, Option.ite_none_right_eq_some, toOption_eq_some] at hwritten
      exact accepts_accept hinv hwritten.2
    | _ => exact .nothing (kept_leaves hreset hwritten)
  simpa using hwhole.trans (.nothing hstamp)

theorem reachable_afterCalls (hreachable : Reachable database) (calls : List Call) :
    Reachable (afterCalls database calls) := by
  induction calls generalizing database with
  | nil => exact hreachable
  | cons call calls ih =>
    show Reachable (afterCalls ((publish database call).getD database) calls)
    cases hpublish : publish database call with
    | none => exact ih hreachable
    | some next => exact ih (hreachable.publish hpublish)

theorem accepts_calls (hreachable : Reachable database) {calls : List Call}
    (hreset : ∀ call ∈ calls, ∀ ids, call ≠ .resetDemo ids) :
    Accepts database (afterCalls database calls) (acceptancesOf database calls) := by
  induction calls generalizing database with
  | nil => exact .nothing (.refl _)
  | cons call calls ih =>
    have hrest : ∀ c ∈ calls, ∀ ids, c ≠ .resetDemo ids :=
      fun c hc => hreset c (List.mem_cons_of_mem _ hc)
    show Accepts database (afterCalls ((publish database call).getD database) calls) _
    unfold acceptancesOf
    cases hpublish : publish database call with
    | none => exact ih hreachable hrest
    | some next =>
      exact (accepts_publish hreachable (hreset call List.mem_cons_self) hpublish).trans
        (ih (hreachable.publish hpublish) hrest)

/-- No output is accepted twice, and none that shares its attempt, assignment,
receipt or nonce with one that was; and the Run of an accepted attempt is no
other attempt's. -/
theorem acceptances_not_replayed (hreachable : Reachable database) (calls : List Call)
    (hreset : ∀ call ∈ calls, ∀ ids, call ≠ .resetDemo ids) :
    let now := afterCalls database calls
    (acceptancesOf database calls).Pairwise Apart ∧
      ∀ first ∈ acceptancesOf database calls,
        (∀ attemptId output options left certificate,
          normalizeAndConsumeDecision now attemptId output options =
            .ok (left, .accepted certificate) →
          Apart first ⟨attemptId, output, certificate⟩) ∧
        (∃ t ∈ now.attempts, t.attemptId = first.attemptId ∧
          t.runId = some first.certificate.runId) ∧
        ∀ u ∈ now.attempts, u.runId = some first.certificate.runId →
          u.attemptId = first.attemptId := by
  intro now
  have haccepts := accepts_calls hreachable hreset
  refine ⟨haccepts.apart, fun first hfirst => ?_⟩
  obtain ⟨envelope, hspent⟩ := haccepts.spent first hfirst
  have hnow : Reachable now := reachable_afterCalls hreachable calls
  obtain ⟨t, ht, htid, -, htrun⟩ := hspent.attempt
  refine ⟨?_, ⟨t, ht, htid, htrun⟩, fun u hu hrun => ?_⟩
  · intro attemptId output options left certificate haccepted
    exact hspent.apart (Evidence.inv_reachable hnow) haccepted
  · rw [← htid]
    exact runsUnique_reachable hnow u hu t ht (by simp [hrun]) (hrun.trans htrun.symm)

end Calls

theorem Sample.calls_kept : ∀ call ∈ Sample.calls, ∀ ids, call ≠ .resetDemo ids := by
  intro call hcall ids
  rintro rfl
  simp [Sample.calls, Sample.openingCalls, Sample.observingCalls, Sample.acceptCall] at hcall

open scoped Sample in
theorem acceptances_not_replayed_sample :
    let now := afterCalls emptyEpochDatabase Sample.calls
    (acceptancesOf emptyEpochDatabase Sample.calls).Pairwise Apart ∧
      ∀ first ∈ acceptancesOf emptyEpochDatabase Sample.calls,
        (∀ attemptId output options left certificate,
          normalizeAndConsumeDecision now attemptId output options =
            .ok (left, .accepted certificate) →
          Apart first ⟨attemptId, output, certificate⟩) ∧
        (∃ t ∈ now.attempts, t.attemptId = first.attemptId ∧
          t.runId = some first.certificate.runId) ∧
        ∀ u ∈ now.attempts, u.runId = some first.certificate.runId →
          u.attemptId = first.attemptId :=
  acceptances_not_replayed ⟨[], rfl⟩ Sample.calls Sample.calls_kept

end Service

end EpochGuard
