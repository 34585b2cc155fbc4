import EpochGuard.Lib.Growth
import EpochGuard.CallFrames
import EpochGuard.EffectGateSafety

/-!
# The audit trail

The audit events and the diagnostics of a session are kept in two tables, and
each new record is numbered from both. Every mutation but the reset of the demo
only appends to the tables, with numbers above all earlier ones of the session.
-/

namespace EpochGuard

open Json Checked Growth

namespace Service

open DecisionParser RunObserver

/-- The sequence numbers of a session, of its events and its diagnostics. -/
def auditSeqs (database : EpochDatabase) (sessionId : OpaqueId) : List Nat :=
  (database.auditEvents.filter fun e => e.sessionId = sessionId).map AuditEvent.auditSeq ++
    (database.diagnostics.filter fun d => d.sessionId = sessionId).map SafetyDiagnostic.auditSeq

/-- The next number is above all that a session has given out. -/
theorem lt_nextAuditSeq {database : EpochDatabase} {sessionId : OpaqueId} {n : Nat}
    (h : n ∈ auditSeqs database sessionId) : n < nextAuditSeq database sessionId :=
  lt_foldl_max_succ 0 h

/-- Records are only appended, and numbered above the earlier ones. -/
structure AuditGrows (before after : EpochDatabase) : Prop where
  events : before.auditEvents <+: after.auditEvents
  diagnostics : before.diagnostics <+: after.diagnostics
  seqs : ∀ sessionId, Grows (auditSeqs before sessionId) (auditSeqs after sessionId)

variable {database middle left : EpochDatabase}

/-- A change of other collections is no entry of the audit trail. -/
theorem AuditGrows.of_same (hevents : left.auditEvents = database.auditEvents)
    (hdiagnostics : left.diagnostics = database.diagnostics) : AuditGrows database left where
  events := hevents ▸ List.prefix_rfl
  diagnostics := hdiagnostics ▸ List.prefix_rfl
  seqs sessionId := Grows.of_eq (by rw [auditSeqs, auditSeqs, hevents, hdiagnostics])

theorem AuditGrows.refl (database : EpochDatabase) : AuditGrows database database :=
  .of_same rfl rfl

theorem AuditGrows.trans (h : AuditGrows database middle) (h' : AuditGrows middle left) :
    AuditGrows database left where
  events := h.events.trans h'.events
  diagnostics := h.diagnostics.trans h'.diagnostics
  seqs sessionId := (h.seqs sessionId).trans (h'.seqs sessionId)

/-- The trail of a database with other tables changed before the growth. -/
theorem AuditGrows.after (h : AuditGrows middle left)
    (hevents : middle.auditEvents = database.auditEvents)
    (hdiagnostics : middle.diagnostics = database.diagnostics) : AuditGrows database left :=
  .trans (.of_same hevents hdiagnostics) h

theorem WritesRuns.audit (h : WritesRuns database left) : AuditGrows database left := by
  obtain ⟨_, _, rfl⟩ := h
  exact .of_same rfl rfl

/-- An event is appended under the next number of its session. -/
theorem appendEvent_audit {session : EpochSession} {type status : String}
    {artifactRefs : List ArtifactRef} {stamp : EventStamp} :
    AuditGrows database (appendEvent database session type status artifactRefs stamp) := by
  refine ⟨List.prefix_append _ _, List.prefix_rfl, fun sessionId => ?_⟩
  by_cases hid : session.sessionId = sessionId
  · refine Grows.add (a := nextAuditSeq database sessionId) (fun n => lt_nextAuditSeq) ?_
    subst hid
    simp only [auditSeqs, appendEvent, List.filter_append, List.map_append, List.append_assoc]
    refine List.Perm.append_left _ ?_
    simpa [List.filter_cons] using @List.perm_append_comm _ [_] _
  · exact Grows.of_eq (by simp [auditSeqs, appendEvent, hid])

/-- A diagnostic takes its number from the same sequence as the events. -/
theorem appendDiagnostic_audit {session : EpochSession} {values : DiagnosticValues}
    {diagnosticId : OpaqueId}
    (h : appendDiagnostic database session values diagnosticId = .ok left) :
    AuditGrows database left := by
  obtain ⟨-, rfl⟩ := appendDiagnostic_cases h
  refine ⟨List.prefix_rfl, List.prefix_append _ _, fun sessionId => ?_⟩
  by_cases hid : session.sessionId = sessionId
  · refine Grows.add (a := nextAuditSeq database sessionId) (fun n => lt_nextAuditSeq) ?_
    subst hid
    simp [auditSeqs, diagnosticFor]
  · exact Grows.of_eq (by simp [auditSeqs, diagnosticFor, hid])

section Calls

variable [Sha256] [OutputPorts]

/-! ## The mutations -/

omit [OutputPorts] in
theorem issueAndPack_audit {action : ActionIntent} {assignment : RunAssignment}
    {querySpec : RoleQuerySpec} {nonce : String} {issuedAt : Timestamp}
    (h : issueAndPack database action assignment querySpec nonce issuedAt = .ok left) :
    AuditGrows database left := by
  obtain ⟨_, _, rfl⟩ := issueAndPack_writes h
  exact .of_same rfl rfl

omit [OutputPorts] in
theorem initialStep_audit {ports : CreateSessionPorts} {fixture : Fixtures.EpochGuardFixture}
    {verified : PerRole RoleAgentRegistration} {before after : Prepared}
    {step : Fixtures.FixtureInitialStep}
    (h : initialStep ports fixture verified before step = .ok after) :
    AuditGrows before.database after.database := by
  cases step with
  | commit step =>
    simp only [initialStep, bind_eq_ok, pure_eq_ok] at h
    obtain ⟨world, -, rfl⟩ := h
    exact .of_same rfl rfl
  | capture step =>
    simp only [initialStep, captureInitial, bind_eq_ok, pure_eq_ok] at h
    obtain ⟨-, -, assignment, -, issued, hissued, rfl⟩ := h
    exact (issueAndPack_audit hissued).after rfl rfl

omit [Sha256] [OutputPorts] in
theorem storeQuerySpec_audit {query : RoleQuerySpec}
    (h : storeQuerySpec database query = .ok left) : AuditGrows database left := by
  unfold storeQuerySpec at h
  split at h
  · obtain rfl := pure_eq_ok.mp h
    exact .of_same rfl rfl
  · simp only [bind_eq_ok, pure_eq_ok] at h
    obtain ⟨-, -, rfl⟩ := h
    exact .refl _

omit [OutputPorts] in
/-- A session is opened with its own events behind those that are there. -/
theorem createSession_audit {request : CreateSessionRequest}
    {verified : PerRole RoleAgentRegistration} {ports : CreateSessionPorts}
    (h : Service.createSession database request verified ports = .ok left) :
    AuditGrows database left := by
  unfold Service.createSession at h
  dsimp only at h
  split at h
  · simp at h
  · simp only [bind_eq_ok, mapError_eq_ok, pure_eq_ok] at h
    obtain ⟨-, -, prepared, ⟨world, -, action, -, queried, hqueried, hprepared⟩, -, -, rfl⟩ := h
    have hworld : AuditGrows database { database with toWorld := world } := .of_same rfl rfl
    have hqueried : AuditGrows database queried := by
      refine foldlM_induction (P := AuditGrows database) ?_ hworld hqueried
      exact fun before role after hbefore _ hstep => hbefore.trans (storeQuerySpec_audit hstep)
    have hprepared : AuditGrows database prepared.database := by
      refine foldlM_induction (P := fun p : Prepared => AuditGrows database p.database) ?_ ?_
        hprepared
      rotate_left
      · exact hqueried.trans (.of_same rfl rfl)
      exact fun before step after hbefore _ hstep => hbefore.trans (initialStep_audit hstep)
    exact hprepared.trans appendEvent_audit

omit [Sha256] [OutputPorts] in
theorem completedPlan_audit {refreshPlan completed : Option RefreshPlan}
    (h : completedPlan database refreshPlan = .ok completed) :
    AuditGrows database (completed.elim database (setFirstRefreshPlan database)) := by
  obtain ⟨_, hwritten, -⟩ := completedPlan_written h
  rw [hwritten]
  exact .of_same rfl rfl

omit [OutputPorts] in
theorem persistValidation_audit {session : EpochSession} {refreshPlan : Option RefreshPlan}
    {ports : ValidationPorts}
    (h : persistValidation database session refreshPlan ports = .ok left) :
    AuditGrows database left := by
  simp only [persistValidation, bind_eq_ok, mapError_eq_ok] at h
  obtain ⟨result, -, h⟩ := h
  split at h
  · simp only [persistReady, bind_eq_ok, pure_eq_ok] at h
    obtain ⟨_, -, completed, hcompleted, rfl⟩ := h
    exact (completedPlan_audit hcompleted).trans (appendEvent_audit.after rfl rfl)
  · simp only [persistNoCut, bind_eq_ok, mapError_eq_ok, pure_eq_ok] at h
    obtain ⟨_, -, plan, -, diagnosed, hdiagnosed, rfl⟩ := h
    have hdiagnosed : AuditGrows database diagnosed :=
      (appendDiagnostic_audit hdiagnosed).after rfl rfl
    exact hdiagnosed.trans appendEvent_audit
  · simp only [persistDeny, bind_eq_ok, pure_eq_ok] at h
    obtain ⟨completed, hcompleted, refs, -, diagnosed, hdiagnosed, rfl⟩ := h
    exact ((completedPlan_audit hcompleted).trans
      ((appendDiagnostic_audit hdiagnosed).after rfl rfl)).trans appendEvent_audit
  · exact (appendDiagnostic_audit h).after rfl rfl
  · obtain rfl := pure_eq_ok.mp h
    exact .of_same rfl rfl

theorem acceptAndValidate_audit {sessionId : OpaqueId} {observations : List TerminalRunObservation}
    {refreshPlan : Option RefreshPlan} {ports : AcceptPorts}
    (h : acceptAndValidate database sessionId observations refreshPlan ports = .ok left) :
    AuditGrows database left := by
  simp only [acceptAndValidate, bind_eq_ok, orStop_eq_ok, Prod.exists] at h
  obtain ⟨_, -, _, -, normalized, results, hnormalized, -, -, session, -, h⟩ := h
  have hnormalized : AuditGrows database normalized := by
    obtain ⟨_, _, _, _, _, rfl⟩ := (normalizeAll_written hnormalized).writes
    exact .of_same rfl rfl
  refine hnormalized.trans ?_
  split at h
  · simp only [closeMalformedOutput, bind_eq_ok] at h
    obtain ⟨_, -, closure, hclosure, h⟩ := h
    obtain ⟨_, _, _, hwrites⟩ := (closeClaimedRefreshFailure_closed hclosure).writes
    exact (appendDiagnostic_audit h).after (by rw [hwrites]; rfl) (by rw [hwrites]; rfl)
  · simp only [bind_eq_ok] at h
    obtain ⟨_, -, h⟩ := h
    exact (persistValidation_audit h).after rfl rfl

omit [Sha256] [OutputPorts] in
theorem failSession_audit {sessionId : OpaqueId} {error : ServiceError} {ports : FailPorts}
    (h : Service.failSession database sessionId error ports = .ok left) :
    AuditGrows database left := by
  simp only [Service.failSession, bind_eq_ok] at h
  obtain ⟨found, -, h⟩ := h
  cases found with
  | none => exact pure_eq_ok.mp h ▸ .refl _
  | some session =>
    dsimp only at h
    split at h
    · exact pure_eq_ok.mp h ▸ .refl _
    · simp only [bind_eq_ok, pure_eq_ok] at h
      obtain ⟨closure, hclosure, diagnosed, hdiagnosed, rfl⟩ := h
      obtain ⟨_, _, _, hwrites⟩ := (closeClaimedRefreshFailure_closed hclosure).writes
      exact ((appendDiagnostic_audit hdiagnosed).after (by rw [hwrites]; rfl)
        (by rw [hwrites]; rfl)).trans appendEvent_audit

omit [Sha256] [OutputPorts] in
theorem recoverInFlightSession_audit {session : EpochSession} {timestamp : Timestamp}
    {ids : RecoveryIds} (h : recoverInFlightSession database session timestamp ids = .ok left) :
    AuditGrows database left := by
  simp only [recoverInFlightSession, bind_eq_ok, pure_eq_ok] at h
  obtain ⟨-, -, attempted, hattempted, -, -, planned, hplanned, permitted, hpermitted, diagnosed,
    hdiagnosed, rfl⟩ := h
  have hattempted : AuditGrows database attempted := by
    refine foldlM_induction (P := AuditGrows database) ?_ (.refl _) hattempted
    exact fun before role after hbefore _ hstep =>
      hbefore.trans (recoverActiveAttempt_writes hstep).audit
  obtain ⟨⟨_, rfl⟩, -⟩ := recoverRefreshPlan_writes hplanned
  obtain ⟨⟨_, rfl⟩, -⟩ := recoverPermit_writes hpermitted
  exact (hattempted.trans ((appendDiagnostic_audit hdiagnosed).after rfl rfl)).trans
    appendEvent_audit

omit [Sha256] [OutputPorts] in
theorem recordCommitRace_audit {sessionId : OpaqueId} {ports : RacePorts}
    (h : Service.recordCommitRace database sessionId ports = .ok left) :
    AuditGrows database left := by
  simp only [Service.recordCommitRace, bind_eq_ok] at h
  obtain ⟨found, -, h⟩ := h
  cases found with
  | none => exact pure_eq_ok.mp h ▸ .refl _
  | some session =>
    dsimp only at h
    split at h
    · exact pure_eq_ok.mp h ▸ .refl _
    · split at h
      · split_ifs at h
        · exact pure_eq_ok.mp h ▸ .refl _
        · exact appendDiagnostic_audit h
        · obtain rfl := pure_eq_ok.mp h
          exact appendEvent_audit
        · exact appendEvent_audit.trans (appendDiagnostic_audit h)
      · exact pure_eq_ok.mp h ▸ .refl _

/-- Every call but a reset appends to the audit trail, each record above the
ones of its session before it. -/
theorem auditGrows_leaves {call : Call} (hreset : ∀ ids, call ≠ .resetDemo ids)
    (h : call.leaves database = some left) : AuditGrows database left := by
  cases call with
  | registerRole registration =>
    simp only [Call.leaves, toOption_eq_some, Service.registerRole, bind_eq_ok, pure_eq_ok] at h
    obtain ⟨-, -, -, -, rfl⟩ := h
    exact .of_same rfl rfl
  | createSession request ports =>
    simp only [Call.leaves, Option.bind_eq_bind, Option.bind_eq_some_iff, toOption_eq_some] at h
    obtain ⟨verified, -, h⟩ := h
    exact createSession_audit h
  | transitionToCollecting sessionId timestamp event =>
    simp only [Call.leaves, toOption_eq_some, Service.transitionToCollecting, bind_eq_ok,
      pure_eq_ok] at h
    obtain ⟨_, -, session, -, -, -, rfl⟩ := h
    exact appendEvent_audit.after rfl rfl
  | transitionToDispatching | bindRunOnce | mirrorRun | failAttempt | rejectCompletedOutput =>
    exact (writesRuns_observer rfl h).audit
  | join settled scope =>
    obtain rfl := Option.some.inj h
    exact writesRuns_join.audit
  | acceptInitial sessionId observations ports =>
    exact acceptAndValidate_audit (toOption_eq_some.mp h)
  | acceptRefresh sessionId observation plan ports =>
    simp only [Call.leaves, Option.ite_none_right_eq_some, toOption_eq_some] at h
    exact acceptAndValidate_audit h.2
  | claimRefreshPlan sessionId request registration runtimeLabel timestamp assignmentId receiptId
      attemptId =>
    simp only [Call.leaves, Option.ite_none_right_eq_some, toOption_eq_some,
      except_map_eq_ok] at h
    obtain ⟨-, out, hclaim, rfl⟩ := h
    cases claimRefreshPlan_cases hclaim <;> exact .of_same rfl rfl
  | captureRefreshObservation scenarioId assignmentId nonce issuedAt =>
    obtain ⟨_, _, rfl⟩ := captureRefreshObservation_writes (toOption_eq_some.mp h)
    exact .of_same rfl rfl
  | failSession sessionId error ports => exact failSession_audit (toOption_eq_some.mp h)
  | commit sessionId expectedSessionRevision effectId timestamp =>
    simp only [Call.leaves, toOption_eq_some, except_map_eq_ok] at h
    obtain ⟨out, hcommit, rfl⟩ := h
    cases EffectGate.commit_cases hcommit <;> exact .of_same rfl rfl
  | recordCommitRace sessionId ports => exact recordCommitRace_audit (toOption_eq_some.mp h)
  | recoverSessions timestamp ids =>
    refine foldlM_induction (P := AuditGrows database) ?_ (.refl _) (toOption_eq_some.mp h)
    exact fun before session after hbefore _ hstep =>
      hbefore.trans (recoverInFlightSession_audit hstep)
  | resetDemo ids => exact absurd rfl (hreset ids)
  | worldCommit input =>
    simp only [Call.leaves, toOption_eq_some, except_map_eq_ok] at h
    obtain ⟨-, -, rfl⟩ := h
    exact .of_same rfl rfl

theorem AuditGrows.publish {call : Call} (hreset : ∀ ids, call ≠ .resetDemo ids)
    (h : publish database call = some left) : AuditGrows database left := by
  obtain ⟨written, hwritten, -, rfl⟩ := publish_eq_some.mp h
  exact (auditGrows_leaves hreset hwritten).trans (.of_same rfl rfl)

end Calls

end Service

end EpochGuard
