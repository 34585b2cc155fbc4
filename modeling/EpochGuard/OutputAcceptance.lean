import EpochGuard.CallFrames
import EpochGuard.EffectRetry

/-!
# The outputs of a fan-out

`acceptAndValidate` normalizes all outputs in one mutation. A malformed output
is a result and is stored; a check that stops takes the whole mutation back, and
the malformed output of a sibling with it. What each output needs is a condition
on the store before any of them: one output leaves the records of the others
alone.
-/

namespace EpochGuard

open Json Checked

namespace DecisionParser

section Outputs

variable [Sha256] [OutputPorts] {database left : EpochDatabase} {attemptId : OpaqueId}
  {rawOutput : JsString} {records : ConsumableRecords}

/-! ## The checks before the parser -/

/-- The records of an attempt, each the only one of its identifier. -/
structure Found (database : EpochDatabase) (attemptId : OpaqueId) (records : ConsumableRecords) :
    Prop where
  attempt : single? database.attempts (fun a => a.attemptId = attemptId) = some records.attempt
  assignment : single? database.runAssignments
    (fun a => a.assignmentId = records.attempt.assignmentId) = some records.assignment
  session : single? database.sessions
    (fun s => s.sessionId = records.assignment.sessionId) = some records.session
  receipt : single? database.receipts
    (fun r => r.receiptId = records.assignment.receiptId) = some records.receipt

/-- The checks of `requireConsumable` on the records it found, which do not look
at what the output says. -/
structure Passes (database : EpochDatabase) (rawOutput : JsString) (records : ConsumableRecords) :
    Prop where
  action : assertCanonicalAction records.session = .ok ()
  available : records.assignment.status = .BOUND ∧
    records.assignment.consumedByDecisionCertificateId = none ∧
    records.assignment.consumedAt = none
  run : records.assignment.boundRunId = some records.runId
  completed : records.attempt.status = .COMPLETED ∧ records.attempt.runId ≠ none ∧
    records.attempt.runStartedAt ≠ none ∧ records.attempt.runCompletedAt ≠ none ∧
    records.attempt.outputDigest ≠ none
  output : records.attempt.outputDigest = some (sha256Digest rawOutput)
  attemptBinding : AttemptBinding records.session records.attempt records.assignment
  registration : assertRegistrationBinding database records.session records.assignment = .ok ()
  receiptBinding : ReceiptBinding records.assignment records.receipt
  query : assertRoleQueryBinding database records.session records.assignment records.receipt =
    .ok ()
  active : records.session.activeAttemptIds.get records.assignment.role =
    some records.attempt.attemptId

omit [OutputPorts] in
/-- An output is consumed if its records are found once and pass every check. -/
theorem requireConsumable_eq_ok :
    requireConsumable database attemptId rawOutput = .ok records ↔
      Found database attemptId records ∧ Passes database rawOutput records := by
  simp only [requireConsumable, bind_eq_ok, requireUnique_eq_ok, require_eq_ok, orStop_eq_ok,
    assertEqual_eq_ok, pure_eq_ok, assertAttemptAndAssignmentBinding_eq_ok,
    assertReceiptBinding_eq_ok]
  constructor
  · rintro ⟨attempt, hattempt, assignment, hassignment, session, hsession, receipt, hreceipt, _,
      haction, _, hassigned, runId, hrun, _, hcompleted, _, houtput, _, hbinding, _, hregistration,
      _, hreceiptBinding, _, hquery, _, hactive, rfl⟩
    exact ⟨⟨hattempt, hassignment, hsession, hreceipt⟩, ⟨haction, hassigned, hrun, hcompleted,
      houtput, hbinding, hregistration, hreceiptBinding, hquery, hactive⟩⟩
  · rintro ⟨hfound, hpasses⟩
    exact ⟨_, hfound.attempt, _, hfound.assignment, _, hfound.session, _, hfound.receipt, (),
      hpasses.action, (), hpasses.available, _, hpasses.run, (), hpasses.completed, (),
      hpasses.output, (), hpasses.attemptBinding, (), hpasses.registration, (),
      hpasses.receiptBinding, (), hpasses.query, (), hpasses.active, rfl⟩

/-! ## What an output needs -/

/-- The redaction of a malformed output replays its failure, so that the stored
text proves the rejection. One that is too large is not stored. -/
def Replays (rawOutput : JsString) (failure : DecisionNormalizationError) : Prop :=
  utf8Length rawOutput ≤ MAX_DECISION_OUTPUT_BYTES →
    utf8Length (OutputPorts.redactRejectedDecisionOutput rawOutput) ≤ utf8Length rawOutput ∧
    OutputPorts.redactRejectedDecisionOutput (OutputPorts.redactRejectedDecisionOutput rawOutput) =
      OutputPorts.redactRejectedDecisionOutput rawOutput ∧
    parseDecisionEnvelope (OutputPorts.redactRejectedDecisionOutput rawOutput) = .error failure

/-- What the parser made of an output can be stored: the envelope is the one
that was asked for, or the rejection can be replayed. -/
def Storable (database : EpochDatabase) (rawOutput : JsString) (records : ConsumableRecords) :
    Prop :=
  match parseDecisionEnvelope rawOutput with
  | .error failure => Replays rawOutput failure
  | .ok envelope =>
      assertEnvelopeBinding envelope records.assignment records.receipt = .ok () ∧
        ∃ existing, requireSupersedable database records.session records.assignment.role =
          .ok existing

/-- What one output needs, with the store as it is. -/
def Acceptable (database : EpochDatabase) (attemptId : OpaqueId) (rawOutput : JsString) : Prop :=
  ∃ records, requireConsumable database attemptId rawOutput = .ok records ∧
    Storable database rawOutput records

/-- An output that `parseDecisionEnvelope` rejects. -/
def IsMalformed (rawOutput : JsString) : Prop :=
  ∃ failure, parseDecisionEnvelope rawOutput = .error failure

omit [Sha256] in
/-- The parser has one code for all that it refuses. -/
theorem parseDecisionEnvelope_error {failure : DecisionNormalizationError}
    (h : parseDecisionEnvelope rawOutput = .error failure) :
    failure.reasonCode = .OUTPUT_MALFORMED := by
  simp only [parseDecisionEnvelope, bind_eq_error, require_eq_error, orStop_eq_error] at h
  rcases h with ⟨-, rfl⟩ | ⟨_, -, ⟨-, rfl⟩ | ⟨_, -, ⟨-, rfl⟩ | ⟨_, -, ⟨-, rfl⟩ |
    ⟨_, -, -, rfl⟩⟩⟩⟩ <;> rfl

/-- The identifiers for an output are new. -/
def IsFresh (database : EpochDatabase) (options : DecisionNormalizationOptions) : Prop :=
  (∀ d ∈ database.decisions, d.certificateId ≠ options.certificateId) ∧
    ∀ a ∈ database.rejectedOutputArtifacts, a.artifactId ≠ options.rejectedOutputArtifactId

/-- A rejected output can be stored exactly when it replays to the failure that
is reported. -/
theorem buildRejectedOutputArtifact_ok {sessionId : OpaqueId}
    {failure : DecisionNormalizationError} {options : DecisionNormalizationOptions}
    (hfresh : IsFresh database options) :
    (∃ artifact, buildRejectedOutputArtifact database sessionId attemptId rawOutput failure
      options = .ok artifact) ↔ Replays rawOutput failure := by
  have hid := hfresh.2
  unfold buildRejectedOutputArtifact Replays
  simp only [bind_eq_ok, require_eq_ok]
  split_ifs with hlarge
  · simpa [Nat.not_le.mpr hlarge] using hid
  · simpa [Nat.not_lt.mp hlarge, and_assoc] using fun _ _ _ => hid

/-- Whether an output is taken depends on the store and the output, and on no
identifier that is drawn for it. -/
theorem normalizeAndConsumeDecision_ok {options : DecisionNormalizationOptions}
    (hfresh : IsFresh database options) :
    (∃ out, normalizeAndConsumeDecision database attemptId rawOutput options = .ok out) ↔
      Acceptable database attemptId rawOutput := by
  unfold Acceptable Storable
  simp only [normalizeAndConsumeDecision, bind_eq_ok]
  constructor
  · rintro ⟨out, records, hrecords, h⟩
    refine ⟨records, hrecords, ?_⟩
    cases hparse : parseDecisionEnvelope rawOutput with
    | error failure =>
      simp only [hparse, bind_eq_ok] at h
      obtain ⟨-, -, artifact, hartifact, -⟩ := h
      exact (buildRejectedOutputArtifact_ok hfresh).mp ⟨artifact, hartifact⟩
    | ok envelope =>
      simp only [hparse, bind_eq_ok] at h
      obtain ⟨_, hbinding, _, -, existing, hexisting, -⟩ := h
      exact ⟨hbinding, existing, hexisting⟩
  · rintro ⟨records, hrecords, h⟩
    cases hparse : parseDecisionEnvelope rawOutput with
    | error failure =>
      simp only [hparse] at h
      obtain ⟨artifact, hartifact⟩ : ∃ artifact,
          buildRejectedOutputArtifact database records.session.sessionId
            records.attempt.attemptId rawOutput failure options = .ok artifact :=
        (buildRejectedOutputArtifact_ok hfresh).mpr h
      refine ⟨(rejectOutput database records artifact, .outputRejected artifact), records, hrecords,
        ?_⟩
      simp only [bind_eq_ok]
      exact ⟨(), require_eq_ok.mpr (parseDecisionEnvelope_error hparse), artifact, hartifact, rfl⟩
    | ok envelope =>
      simp only [hparse] at h
      obtain ⟨hbinding, existing, hexisting⟩ := h
      refine ⟨(consume database records existing (certificateFor records envelope options),
        .accepted (certificateFor records envelope options)), records, hrecords, ?_⟩
      simp only [bind_eq_ok]
      exact ⟨(), hbinding, (), require_eq_ok.mpr hfresh.1, existing, hexisting, rfl⟩

/-! ## One output leaves the others alone -/

omit [Sha256] [OutputPorts] in
/-- The decision that a new one may supersede, as the store has it. -/
theorem requireSupersedable_ok {session : EpochSession} {role : Role} :
    (∃ existing, requireSupersedable database session role = .ok existing) ↔
      ∀ id, session.activeDecisionCertificateIds.get role = some id →
        ∃ d, single? database.decisions (fun c => c.certificateId = id) = some d ∧
          d.status = .ACTIVE ∧ d.role = role ∧ d.sessionId = session.sessionId ∧
          d.actionHash = session.actionHash := by
  unfold requireSupersedable
  cases hactive : session.activeDecisionCertificateIds.get role with
  | none => simp
  | some id =>
    simp only [bind_eq_ok, requireUnique_eq_ok, require_eq_ok, pure_eq_ok, Option.some.injEq,
      forall_eq']
    constructor
    · rintro ⟨existing, d, hd, _, hsupersedable, -⟩
      exact ⟨d, hd, hsupersedable⟩
    · rintro ⟨d, hd, hsupersedable⟩
      exact ⟨some d, d, hd, (), hsupersedable, rfl⟩

/-- A session after an output: as it was, or without the attempt and with the
decision of one role. -/
def Repointed (role : Role) (before after : EpochSession) : Prop :=
  after = before ∨ ∃ certificateId, after = { before with
    activeDecisionCertificateIds := before.activeDecisionCertificateIds.set role certificateId
    activeAttemptIds := before.activeAttemptIds.set role none }

/-- What the normalization of one output does to the records that the others
need: its own attempt and assignment are out of use, its session points
elsewhere for its role at most, and everything else is found as before. -/
structure Took (database left : EpochDatabase) (records : ConsumableRecords) : Prop where
  shape : ∃ runAssignments attempts decisions sessions rejectedOutputArtifacts,
    left = { database with
      runAssignments, attempts, decisions, sessions, rejectedOutputArtifacts }
  attempt : ∃ t, single? left.attempts (fun a => a.attemptId = records.attempt.attemptId) =
    some t ∧ t.status ≠ .COMPLETED
  attempts : ∀ id, id ≠ records.attempt.attemptId →
    single? left.attempts (fun a => a.attemptId = id) =
      single? database.attempts (fun a => a.attemptId = id)
  assignment : ∃ a, single? left.runAssignments
    (fun a => a.assignmentId = records.assignment.assignmentId) = some a ∧ a.status ≠ .BOUND
  assignments : ∀ id, id ≠ records.assignment.assignmentId →
    single? left.runAssignments (fun a => a.assignmentId = id) =
      single? database.runAssignments (fun a => a.assignmentId = id)
  session : ∃ s, single? left.sessions (fun s => s.sessionId = records.session.sessionId) =
    some s ∧ Repointed records.assignment.role records.session s
  sessions : ∀ id, id ≠ records.session.sessionId →
    single? left.sessions (fun s => s.sessionId = id) =
      single? database.sessions (fun s => s.sessionId = id)
  decisions : ∀ d, d.status = .ACTIVE →
    d.role ≠ records.assignment.role ∨ d.sessionId ≠ records.session.sessionId →
    (single? left.decisions (fun c => c.certificateId = d.certificateId) = some d ↔
      single? database.decisions (fun c => c.certificateId = d.certificateId) = some d)

omit [Sha256] [OutputPorts] in
theorem Found.ownAttempt (h : Found database attemptId records) :
    single? database.attempts (fun a => a.attemptId = records.attempt.attemptId) =
      some records.attempt := by
  have hid : records.attempt.attemptId = attemptId := by simpa using (single?_mem h.attempt).2
  exact hid ▸ h.attempt

omit [Sha256] [OutputPorts] in
theorem Found.ownAssignment (h : Found database attemptId records) :
    single? database.runAssignments
      (fun a => a.assignmentId = records.assignment.assignmentId) = some records.assignment := by
  have hid : records.assignment.assignmentId = records.attempt.assignmentId := by
    simpa using (single?_mem h.assignment).2
  exact hid ▸ h.assignment

omit [Sha256] [OutputPorts] in
theorem Found.ownSession (h : Found database attemptId records) :
    single? database.sessions (fun s => s.sessionId = records.session.sessionId) =
      some records.session := by
  have hid : records.session.sessionId = records.assignment.sessionId := by
    simpa using (single?_mem h.session).2
  exact hid ▸ h.session

omit [Sha256] [OutputPorts] in
/-- So does a rejected one. -/
theorem rejectOutput_took {artifact : RejectedOutputArtifact}
    (h : Found database attemptId records) :
    Took database (rejectOutput database records artifact) records where
  shape := ⟨_, _, database.decisions, database.sessions, _, rfl⟩
  attempt := ⟨_, single?_written h.ownAttempt rfl, by simp⟩
  attempts := fun _ hne => single?_unwritten hne
  assignment := ⟨_, single?_written h.ownAssignment rfl, by simp⟩
  assignments := fun _ hne => single?_unwritten hne
  session := ⟨records.session, h.ownSession, .inl rfl⟩
  sessions := fun _ _ => rfl
  decisions := fun _ _ _ => Iff.rfl

omit [OutputPorts] in
/-- An accepted output takes its attempt and its assignment out of use. -/
theorem consume_took {existing : Option DependencyCertificate} {envelope : AgentDecisionEnvelope}
    {options : DecisionNormalizationOptions} (h : Found database attemptId records)
    (hfresh : ∀ d ∈ database.decisions, d.certificateId ≠ options.certificateId)
    (hexisting : requireSupersedable database records.session records.assignment.role =
      .ok existing) :
    Took database (consume database records existing (certificateFor records envelope options))
      records where
  shape := by
    cases existing <;> exact ⟨_, _, _, _, database.rejectedOutputArtifacts, rfl⟩
  attempt := by
    cases existing <;> exact ⟨_, single?_written h.ownAttempt rfl, by simp⟩
  attempts := by
    intro id hne
    cases existing <;> exact single?_unwritten hne
  assignment := by
    cases existing <;> exact ⟨_, single?_written h.ownAssignment rfl, by simp⟩
  assignments := by
    intro id hne
    cases existing <;> exact single?_unwritten hne
  session := by
    cases existing <;> exact ⟨_, single?_written h.ownSession rfl, .inr ⟨_, rfl⟩⟩
  sessions := by
    intro id hne
    cases existing <;> exact single?_unwritten hne
  decisions := by
    intro d hactive hother
    have hsession : records.session.sessionId = records.assignment.sessionId := by
      simpa using (single?_mem h.session).2
    have hcertificate : d ≠ certificateFor records envelope options := by
      rintro rfl
      rcases hother with hrole | hid
      · exact hrole rfl
      · exact hid hsession.symm
    by_cases hnew : d.certificateId = options.certificateId
    · constructor <;> intro hd
      -- the new certificate is the one with its identifier
      · refine absurd (single?_unique hd ?_ (by simp [certificateFor, hnew])) hcertificate.symm
        cases existing <;> exact List.mem_append_right _ (List.mem_singleton_self _)
      · exact absurd hnew (hfresh d (single?_mem hd).1)
    have hothers : ∀ c ∈ [certificateFor records envelope options],
        decide (c.certificateId = d.certificateId) = false := by
      simpa [certificateFor] using fun heq => hnew heq.symm
    obtain ⟨-, hsupersedable⟩ := requireSupersedable_cases hexisting
    cases existing with
    | none => exact iff_of_eq (congrArg (· = some d) (single?_append_right hothers))
    | some e =>
      obtain ⟨hfound, -, hrole, hsessionId, -⟩ := hsupersedable e rfl
      refine (iff_of_eq (congrArg (· = some d) (single?_append_right hothers))).trans ?_
      by_cases he : d.certificateId = e.certificateId
      · constructor <;> intro hd
        -- the decision that was superseded is not active any more
        · have hwritten := (he ▸ hd).symm.trans (single?_written hfound rfl)
          rw [Option.some.inj hwritten] at hactive
          cases hactive
        · obtain rfl := Option.some.inj ((he ▸ hd).symm.trans hfound)
          rcases hother with hother | hother
          · exact absurd hrole hother
          · exact absurd hsessionId hother
      · exact iff_of_eq (congrArg (· = some d) (single?_unwritten he))

theorem took_of_normalized {options : DecisionNormalizationOptions}
    {result : DecisionNormalizationResult} (hfresh : IsFresh database options)
    (h : normalizeAndConsumeDecision database attemptId rawOutput options = .ok (left, result)) :
    ∃ records, Found database attemptId records ∧ Passes database rawOutput records ∧
      Took database left records := by
  simp only [normalizeAndConsumeDecision, bind_eq_ok] at h
  obtain ⟨records, hrecords, h⟩ := h
  obtain ⟨hfound, hpasses⟩ := requireConsumable_eq_ok.mp hrecords
  refine ⟨records, hfound, hpasses, ?_⟩
  cases hparse : parseDecisionEnvelope rawOutput with
  | error failure =>
    simp only [hparse, bind_eq_ok, pure_eq_ok, Prod.mk.injEq] at h
    obtain ⟨-, -, artifact, -, rfl, -⟩ := h
    exact rejectOutput_took hfound
  | ok envelope =>
    simp only [hparse, bind_eq_ok, pure_eq_ok, Prod.mk.injEq] at h
    obtain ⟨-, -, -, -, existing, hexisting, rfl, -⟩ := h
    exact consume_took hfound hfresh.1 hexisting

omit [OutputPorts] in
/-- The checks read no more of the pointers than the active attempt. -/
theorem Passes.repointed {r : ConsumableRecords} {session : EpochSession} {role : Role}
    (hshape : ∃ runAssignments attempts decisions sessions rejectedOutputArtifacts,
      left = { database with
        runAssignments, attempts, decisions, sessions, rejectedOutputArtifacts })
    (hrepointed : Repointed role r.session session)
    (hactive : session.activeAttemptIds.get r.assignment.role =
      r.session.activeAttemptIds.get r.assignment.role) :
    Passes left rawOutput { r with session } ↔ Passes database rawOutput r := by
  obtain ⟨_, _, _, _, _, rfl⟩ := hshape
  constructor
  · intro h
    obtain rfl | ⟨certificateId, rfl⟩ := hrepointed <;>
      exact { h with attemptBinding := { h.attemptBinding with }, active := hactive ▸ h.active }
  · intro h
    obtain rfl | ⟨certificateId, rfl⟩ := hrepointed <;>
      exact { h with
        attemptBinding := { h.attemptBinding with }, active := hactive.trans h.active }

omit [Sha256] [OutputPorts] in
/-- A decision of another role or session can be superseded after an output if
it could be before it. -/
theorem Took.supersedable {before after : EpochSession} {role : Role}
    (h : Took database left records)
    (hrepointed : after.sessionId = before.sessionId ∧ after.actionHash = before.actionHash)
    (hactive : after.activeDecisionCertificateIds.get role =
      before.activeDecisionCertificateIds.get role)
    (hother : role ≠ records.assignment.role ∨ before.sessionId ≠ records.session.sessionId) :
    (∃ existing, requireSupersedable left after role = .ok existing) ↔
      ∃ existing, requireSupersedable database before role = .ok existing := by
  rw [requireSupersedable_ok, requireSupersedable_ok, hactive, hrepointed.1, hrepointed.2]
  refine forall₂_congr fun id _ => exists_congr fun d => ?_
  constructor <;> rintro ⟨hfound, hstatus, hrole, hsession, haction⟩ <;>
    have hid : d.certificateId = id := by simpa using (single?_mem hfound).2
  all_goals
    subst hid
    have hdecisions := h.decisions d hstatus (by rwa [hrole, hsession])
  · exact ⟨hdecisions.mp hfound, hstatus, hrole, hsession, haction⟩
  · exact ⟨hdecisions.mpr hfound, hstatus, hrole, hsession, haction⟩

/-- A session before and after the output of an attempt, for a role that it is
not about. -/
structure Apart (records : ConsumableRecords) (role : Role) (before after : EpochSession) :
    Prop where
  repointed : Repointed records.assignment.role before after
  attempt : after.activeAttemptIds.get role = before.activeAttemptIds.get role
  decision : after.activeDecisionCertificateIds.get role =
    before.activeDecisionCertificateIds.get role
  other : role ≠ records.assignment.role ∨ before.sessionId ≠ records.session.sessionId

omit [Sha256] [OutputPorts] in
theorem Apart.of_ne {role : Role} {before after : EpochSession}
    (h : Repointed records.assignment.role before after) (hrole : role ≠ records.assignment.role) :
    Apart records role before after := by
  rcases h with rfl | ⟨certificateId, rfl⟩
  · exact ⟨.inl rfl, rfl, rfl, .inl hrole⟩
  · exact ⟨.inr ⟨_, rfl⟩, PerRole.get_set_ne hrole, PerRole.get_set_ne hrole, .inl hrole⟩

omit [Sha256] [OutputPorts] in
/-- The session of another attempt that is active after an output. -/
theorem Took.session_before (h : Took database left records)
    (hfound : Found database attemptId records)
    (hactive : records.session.activeAttemptIds.get records.assignment.role = some attemptId)
    {sessionId otherId : OpaqueId} {role : Role} {after : EpochSession}
    (hne : otherId ≠ attemptId)
    (hafter : single? left.sessions (fun s => s.sessionId = sessionId) = some after)
    (hother : after.activeAttemptIds.get role = some otherId) :
    ∃ before, single? database.sessions (fun s => s.sessionId = sessionId) = some before ∧
      Apart records role before after := by
  by_cases hsame : sessionId = records.session.sessionId
  · subst hsame
    obtain ⟨s, hs, hrepointed⟩ := h.session
    obtain rfl := Option.some.inj (hs.symm.trans hafter)
    refine ⟨records.session, hfound.ownSession, .of_ne hrepointed ?_⟩
    rintro rfl
    rcases hrepointed with rfl | ⟨certificateId, rfl⟩
    · exact hne (Option.some.inj (hother.symm.trans hactive))
    · simp at hother
  · rw [h.sessions _ hsame] at hafter
    refine ⟨after, hafter, .inl rfl, rfl, rfl, .inr ?_⟩
    have hid : after.sessionId = sessionId := by simpa using (single?_mem hafter).2
    exact hid ▸ hsame

omit [Sha256] [OutputPorts] in
/-- The session of another attempt that is active before an output. -/
theorem Took.session_after (h : Took database left records)
    (hfound : Found database attemptId records)
    (hactive : records.session.activeAttemptIds.get records.assignment.role = some attemptId)
    {sessionId otherId : OpaqueId} {role : Role} {before : EpochSession}
    (hne : otherId ≠ attemptId)
    (hbefore : single? database.sessions (fun s => s.sessionId = sessionId) = some before)
    (hother : before.activeAttemptIds.get role = some otherId) :
    ∃ after, single? left.sessions (fun s => s.sessionId = sessionId) = some after ∧
      Apart records role before after := by
  by_cases hsame : sessionId = records.session.sessionId
  · subst hsame
    obtain rfl := Option.some.inj (hfound.ownSession.symm.trans hbefore)
    obtain ⟨s, hs, hrepointed⟩ := h.session
    refine ⟨s, hs, .of_ne hrepointed ?_⟩
    rintro rfl
    exact hne (Option.some.inj (hother.symm.trans hactive))
  · refine ⟨before, (h.sessions _ hsame).trans hbefore, .inl rfl, rfl, rfl, .inr ?_⟩
    have hid : before.sessionId = sessionId := by simpa using (single?_mem hbefore).2
    exact hid ▸ hsame

omit [Sha256] [OutputPorts] in
theorem Repointed.same {role : Role} {before after : EpochSession}
    (h : Repointed role before after) :
    after.sessionId = before.sessionId ∧ after.actionHash = before.actionHash := by
  rcases h with rfl | ⟨certificateId, rfl⟩ <;> exact ⟨rfl, rfl⟩

omit [Sha256] in
/-- What the parser made of an output of another attempt can be stored after an
output if it could be before it. -/
theorem Took.storable (h : Took database left records) {o : ConsumableRecords}
    {session : EpochSession} (hapart : Apart records o.assignment.role o.session session) :
    Storable left rawOutput { o with session } ↔ Storable database rawOutput o := by
  unfold Storable
  cases parseDecisionEnvelope rawOutput with
  | error failure => exact Iff.rfl
  | ok envelope =>
    exact and_congr_right fun _ =>
      h.supersedable hapart.repointed.same hapart.decision hapart.other

/-- What one output needs is there after another output if it was there before,
and no output can be taken twice. -/
theorem Took.acceptable (h : Took database left records)
    (hfound : Found database attemptId records) {taken : JsString}
    (hpasses : Passes database taken records) {otherId : OpaqueId} :
    Acceptable left otherId rawOutput ↔
      otherId ≠ attemptId ∧ Acceptable database otherId rawOutput := by
  have hown : records.attempt.attemptId = attemptId := by simpa using (single?_mem hfound.attempt).2
  have hactive := hown ▸ hpasses.active
  constructor
  · rintro ⟨others, hothers, hstorable⟩
    obtain ⟨hfound', hpasses'⟩ := requireConsumable_eq_ok.mp hothers
    have hown' : others.attempt.attemptId = otherId := by
      simpa using (single?_mem hfound'.attempt).2
    -- an attempt that was taken is not completed any more, nor is its assignment
    -- available
    have hne : otherId ≠ attemptId := by
      rintro rfl
      obtain ⟨t, ht, hstatus⟩ := h.attempt
      obtain rfl := Option.some.inj ((hown ▸ ht).symm.trans hfound'.attempt)
      exact hstatus hpasses'.completed.1
    have hassignment : others.attempt.assignmentId ≠ records.assignment.assignmentId := by
      intro heq
      obtain ⟨a, ha, hstatus⟩ := h.assignment
      obtain rfl := Option.some.inj ((heq ▸ ha).symm.trans hfound'.assignment)
      exact hstatus hpasses'.available.1
    obtain ⟨before, hbefore, hapart⟩ :=
      h.session_before hfound hactive hne hfound'.session (hown' ▸ hpasses'.active)
    refine ⟨hne, { others with session := before }, requireConsumable_eq_ok.mpr ⟨⟨?_, ?_, hbefore,
      ?_⟩, ?_⟩, (h.storable (o := { others with session := before }) hapart).mp hstorable⟩
    · rw [← h.attempts otherId (hown ▸ hne)]
      exact hfound'.attempt
    · rw [← h.assignments _ hassignment]
      exact hfound'.assignment
    · obtain ⟨_, _, _, _, _, rfl⟩ := h.shape
      exact hfound'.receipt
    · exact (Passes.repointed (r := { others with session := before }) h.shape
        hapart.repointed hapart.attempt).mp hpasses'
  · rintro ⟨hne, others, hothers, hstorable⟩
    obtain ⟨hfound', hpasses'⟩ := requireConsumable_eq_ok.mp hothers
    have hown' : others.attempt.attemptId = otherId := by
      simpa using (single?_mem hfound'.attempt).2
    -- the other output has touched the session alone of what this one reads
    obtain ⟨after, hafter, hapart⟩ :=
      h.session_after hfound hactive hne hfound'.session (hown' ▸ hpasses'.active)
    have hassignment : others.attempt.assignmentId ≠ records.assignment.assignmentId := by
      intro heq
      have hsame : others.assignment = records.assignment :=
        Option.some.inj (hfound'.assignment.symm.trans (heq ▸ hfound.ownAssignment))
      rcases hapart.other with hrole | hsession
      · exact hrole (by rw [hsame])
      · refine hsession ?_
        have hid : others.session.sessionId = others.assignment.sessionId := by
          simpa using (single?_mem hfound'.session).2
        have hid' : records.session.sessionId = records.assignment.sessionId := by
          simpa using (single?_mem hfound.session).2
        rw [hid, hid', hsame]
    refine ⟨{ others with session := after }, requireConsumable_eq_ok.mpr ⟨⟨?_, ?_, hafter, ?_⟩,
      ?_⟩, (h.storable hapart).mpr hstorable⟩
    · exact (h.attempts otherId (hown ▸ hne)).trans hfound'.attempt
    · exact (h.assignments _ hassignment).trans hfound'.assignment
    · obtain ⟨_, _, _, _, _, rfl⟩ := h.shape
      exact hfound'.receipt
    · exact (Passes.repointed h.shape hapart.repointed hapart.attempt).mpr hpasses'

/-! ## What a normalization adds -/

/-- What the normalization of one output keeps, and what it stores of a malformed
one. -/
structure Normalized (database left : EpochDatabase) (attemptId : OpaqueId) (rawOutput : JsString)
    (options : DecisionNormalizationOptions) (result : DecisionNormalizationResult) : Prop where
  parses : database.parses → left.parses
  attempts : left.attempts.map AgentAttempt.attemptId =
    database.attempts.map AgentAttempt.attemptId
  artifacts : database.rejectedOutputArtifacts ⊆ left.rejectedOutputArtifacts
  fresh : ∀ later : DecisionNormalizationOptions, IsFresh database later →
    options.certificateId ≠ later.certificateId →
    options.rejectedOutputArtifactId ≠ later.rejectedOutputArtifactId → IsFresh left later
  outcome : IsMalformed rawOutput ∧ (∃ artifact, result = .outputRejected artifact ∧
      artifact ∈ left.rejectedOutputArtifacts ∧ artifact.attemptId = attemptId ∧
      artifact.originalDigest = sha256Digest rawOutput) ∨
    ¬IsMalformed rawOutput ∧ ∃ decision, result = .accepted decision

omit [OutputPorts] in
/-- The attempt is accepted by the schema of the store also when it has been
settled. -/
theorem Passes.parses_settled (h : Passes database rawOutput records)
    (hparses : records.attempt.parses) {status : AttemptState}
    (hstatus : status = .OUTPUT_REJECTED ∨ status = .ACCEPTED) :
    ({ records.attempt with status } : AgentAttempt).parses := by
  simp only [AgentAttempt.parses, attemptTimelineIsValid, h.completed.1] at hparses ⊢
  rcases hstatus with rfl | rfl <;> exact hparses

omit [OutputPorts] in
theorem parses_setAttempt {attempt : AgentAttempt} (h : database.parses)
    (hattempt : attempt.parses) : (database.setAttempt attempt).parses := by
  refine ⟨h.1, fun t ht => ?_, h.2.2⟩
  rcases mem_modifyWhere.mp ht with ⟨-, -, -, rfl⟩ | ⟨hold, -⟩
  · exact hattempt
  · exact h.2.1 t hold

omit [OutputPorts] in
theorem parses_setSession (session : EpochSession) (h : database.parses)
    (hsession : session.action.parses) : (database.setSession session).parses := by
  refine ⟨h.1, h.2.1, fun s hs => ?_⟩
  rcases mem_modifyWhere.mp hs with ⟨-, -, -, rfl⟩ | ⟨hold, -⟩
  · exact hsession
  · exact h.2.2 s hold

omit [Sha256] [OutputPorts] in
theorem attemptIds_setAttempt {attempt : AgentAttempt} :
    (database.setAttempt attempt).attempts.map AgentAttempt.attemptId =
      database.attempts.map AgentAttempt.attemptId :=
  map_modifyWhere fun t _ ht => (by simpa using ht : t.attemptId = attempt.attemptId).symm

theorem buildRejectedOutputArtifact_identifies {sessionId : OpaqueId}
    {failure : DecisionNormalizationError} {options : DecisionNormalizationOptions}
    {artifact : RejectedOutputArtifact}
    (h : buildRejectedOutputArtifact database sessionId attemptId rawOutput failure options =
      .ok artifact) :
    artifact.artifactId = options.rejectedOutputArtifactId ∧ artifact.attemptId = attemptId ∧
      artifact.originalDigest = sha256Digest rawOutput := by
  simp only [buildRejectedOutputArtifact, bind_eq_ok] at h
  obtain ⟨-, -, h⟩ := h
  split_ifs at h
  · obtain rfl := pure_eq_ok.mp h
    exact ⟨rfl, rfl, rfl⟩
  · simp only [bind_eq_ok, pure_eq_ok] at h
    obtain ⟨-, -, -, -, rfl⟩ := h
    exact ⟨rfl, rfl, rfl⟩

theorem normalized_of_ok {options : DecisionNormalizationOptions}
    {result : DecisionNormalizationResult}
    (h : normalizeAndConsumeDecision database attemptId rawOutput options = .ok (left, result)) :
    Normalized database left attemptId rawOutput options result := by
  simp only [normalizeAndConsumeDecision, bind_eq_ok] at h
  obtain ⟨records, hrecords, h⟩ := h
  obtain ⟨hfound, hpasses⟩ := requireConsumable_eq_ok.mp hrecords
  obtain ⟨hattempt, hid⟩ := single?_mem hfound.attempt
  obtain ⟨hsession, -⟩ := single?_mem hfound.session
  simp only [decide_eq_true_eq] at hid
  cases hparse : parseDecisionEnvelope rawOutput with
  | error failure =>
    simp only [hparse, bind_eq_ok, pure_eq_ok, Prod.mk.injEq] at h
    obtain ⟨-, -, artifact, hartifact, rfl, rfl⟩ := h
    obtain ⟨hartifactId, hattemptId, hdigest⟩ := buildRejectedOutputArtifact_identifies hartifact
    constructor
    · intro hdatabase
      have hrejected := parses_setAttempt hdatabase
        (hpasses.parses_settled (hdatabase.2.1 _ hattempt) (.inl rfl))
      exact hrejected
    · exact attemptIds_setAttempt
    · exact List.subset_append_left _ _
    · intro later hlater _ hne
      refine ⟨hlater.1, fun a ha => ?_⟩
      rcases List.mem_append.mp ha with hold | hnew
      · exact hlater.2 a hold
      · obtain rfl := List.mem_singleton.mp hnew
        exact hartifactId ▸ hne
    · exact .inl ⟨⟨failure, hparse⟩, artifact, rfl,
        List.mem_append_right _ (List.mem_singleton_self _), hattemptId.trans hid, hdigest⟩
  | ok envelope =>
    simp only [hparse, bind_eq_ok, pure_eq_ok, Prod.mk.injEq] at h
    obtain ⟨-, -, -, -, existing, hexisting, rfl, rfl⟩ := h
    have haccepted : database.parses →
        ({ records.attempt with status := .ACCEPTED } : AgentAttempt).parses := fun hdatabase =>
      hpasses.parses_settled (hdatabase.2.1 _ hattempt) (.inr rfl)
    constructor
    · intro hdatabase
      have hconsumed := parses_setAttempt hdatabase (haccepted hdatabase)
      have hlater := parses_setSession { records.session with
        activeDecisionCertificateIds := records.session.activeDecisionCertificateIds.set
          records.assignment.role (some options.certificateId)
        activeAttemptIds := records.session.activeAttemptIds.set records.assignment.role none }
        hconsumed (hdatabase.2.2 records.session hsession)
      cases existing <;> exact hlater
    · cases existing <;> exact attemptIds_setAttempt
    · cases existing <;> exact List.Subset.refl _
    · intro later hlater hne _
      refine ⟨fun d hd => ?_, by cases existing <;> exact hlater.2⟩
      -- a decision that is superseded keeps its identifier
      have hids : d.certificateId = options.certificateId ∨
          ∃ c ∈ database.decisions, d.certificateId = c.certificateId := by
        cases existing with
        | none =>
          rcases List.mem_append.mp hd with hold | hnew
          · exact .inr ⟨d, hold, rfl⟩
          · obtain rfl := List.mem_singleton.mp hnew
            exact .inl rfl
        | some e =>
          rcases List.mem_append.mp hd with hold | hnew
          · rcases mem_modifyWhere.mp hold with ⟨c, hc, hid, rfl⟩ | ⟨hold, -⟩
            · exact .inr ⟨c, hc, (by simpa using hid : c.certificateId = e.certificateId).symm⟩
            · exact .inr ⟨d, hold, rfl⟩
          · obtain rfl := List.mem_singleton.mp hnew
            exact .inl rfl
      rcases hids with hnew | ⟨c, hc, hold⟩
      · exact hnew ▸ hne
      · exact hold ▸ hlater.1 c hc
    · refine .inr ⟨?_, _, rfl⟩
      rintro ⟨failure, herror⟩
      cases hparse.symm.trans herror

end Outputs

end DecisionParser

namespace Service

open DecisionParser RunObserver SafetyDiagnostics

section Acceptance

variable [Sha256] [OutputPorts] {database normalized left : EpochDatabase} {ports : AcceptPorts}
  {index : Nat} {observations : List TerminalRunObservation}

/-! ## All outputs of a mutation -/

/-- The identifiers for the output at an index. -/
def AcceptPorts.options (ports : AcceptPorts) (index : Nat) : DecisionNormalizationOptions where
  certificateId := (ports.outputs index).1
  rejectedOutputArtifactId := (ports.outputs index).2
  createdAt := ports.timestamp

/-- The identifiers that are created for the outputs from one index to another
are new, and no two outputs get the same. -/
structure FreshOutputs (database : EpochDatabase) (ports : AcceptPorts) (index stop : Nat) :
    Prop where
  new : ∀ i, index ≤ i → i < stop → IsFresh database (ports.options i)
  apart : ∀ i j, i < j → j < stop → (ports.outputs i).1 ≠ (ports.outputs j).1 ∧
    (ports.outputs i).2 ≠ (ports.outputs j).2

/-- Every output can be taken from the store as it is, each for an attempt of its
own. -/
def AllAcceptable (database : EpochDatabase) (observations : List TerminalRunObservation) : Prop :=
  (∀ o ∈ observations, Acceptable database o.attempt.attemptId o.output) ∧
    (observations.map fun o => o.attempt.attemptId).Nodup

theorem FreshOutputs.later {attemptId : OpaqueId} {rawOutput : JsString}
    {result : DecisionNormalizationResult}
    {stop : Nat} (h : FreshOutputs database ports index stop)
    (hnormalized : Normalized database left attemptId rawOutput (ports.options index) result) :
    FreshOutputs left ports (index + 1) stop where
  new := by
    intro i hi hstop
    obtain ⟨hcertificate, hartifact⟩ := h.apart index i hi hstop
    exact hnormalized.fresh _ (h.new i (by omega) hstop) hcertificate hartifact
  apart := h.apart

/-- One output after the other, each on the store that the one before has left.
-/
theorem normalizeAll_cons {o : TerminalRunObservation}
    {out : EpochDatabase × List DecisionNormalizationResult} :
    normalizeAll database ports index (o :: observations) = .ok out ↔
      ∃ left result results,
        normalizeAndConsumeDecision database o.attempt.attemptId o.output (ports.options index) =
            .ok (left, result) ∧
          normalizeAll left ports (index + 1) observations = .ok (out.1, results) ∧
          out.2 = result :: results := by
  simp only [normalizeAll, bind_eq_ok, mapError_eq_ok, pure_eq_ok, Prod.exists]
  constructor
  · rintro ⟨left, result, hfirst, final, results, hrest, rfl⟩
    exact ⟨left, result, results, hfirst, hrest, rfl⟩
  · rintro ⟨left, result, results, hfirst, hrest, hout⟩
    exact ⟨left, result, hfirst, out.1, results, hrest, by rw [← hout]⟩

/-- The mutation takes all outputs exactly when the store before it lets each of
them be taken. -/
theorem normalizeAll_ok {stop : Nat} (hfresh : FreshOutputs database ports index stop)
    (hstop : index + observations.length ≤ stop) :
    (∃ out, normalizeAll database ports index observations = .ok out) ↔
      AllAcceptable database observations := by
  induction observations generalizing database index with
  | nil => simp [normalizeAll, AllAcceptable]
  | cons o rest ih =>
    rw [List.length_cons] at hstop
    have hnew := hfresh.new index le_rfl (by omega)
    have hrest {left : EpochDatabase} {result : DecisionNormalizationResult}
        (hfirst : normalizeAndConsumeDecision database o.attempt.attemptId o.output
          (ports.options index) = .ok (left, result)) :
        (∃ out, normalizeAll left ports (index + 1) rest = .ok out) ↔
          (∀ p ∈ rest, p.attempt.attemptId ≠ o.attempt.attemptId ∧
            Acceptable database p.attempt.attemptId p.output) ∧
          (rest.map fun p => p.attempt.attemptId).Nodup := by
      obtain ⟨records, hfound, hpasses, htook⟩ := took_of_normalized hnew hfirst
      rw [ih (hfresh.later (normalized_of_ok hfirst)) (by omega), AllAcceptable]
      exact and_congr_left fun _ => forall₂_congr fun p _ => htook.acceptable hfound hpasses
    constructor
    · rintro ⟨out, hout⟩
      obtain ⟨left, result, results, hfirst, hlater, -⟩ := normalizeAll_cons.mp hout
      obtain ⟨hacceptable, hnodup⟩ := (hrest hfirst).mp ⟨_, hlater⟩
      have ho := (normalizeAndConsumeDecision_ok hnew).mp ⟨_, hfirst⟩
      refine ⟨List.forall_mem_cons.mpr ⟨ho, fun p hp => (hacceptable p hp).2⟩, ?_⟩
      refine List.nodup_cons.mpr ⟨fun hmem => ?_, hnodup⟩
      obtain ⟨p, hp, heq⟩ := List.mem_map.mp hmem
      exact (hacceptable p hp).1 heq
    · rintro ⟨hacceptable, hnodup⟩
      obtain ⟨ho, hothers⟩ := List.forall_mem_cons.mp hacceptable
      obtain ⟨hfirstOf, hnodup⟩ := List.nodup_cons.mp hnodup
      obtain ⟨⟨left, result⟩, hfirst⟩ :=
        (normalizeAndConsumeDecision_ok hnew).mpr ho
      obtain ⟨⟨final, results⟩, hlater⟩ := (hrest hfirst).mpr ⟨fun p hp =>
        ⟨fun heq => hfirstOf (List.mem_map.mpr ⟨p, hp, heq⟩), hothers p hp⟩, hnodup⟩
      exact ⟨(final, result :: results), normalizeAll_cons.mpr
        ⟨left, result, results, hfirst, hlater, rfl⟩⟩

/-- What the normalization of all outputs leaves. -/
structure AllNormalized (database normalized : EpochDatabase)
    (observations : List TerminalRunObservation) (results : List DecisionNormalizationResult) :
    Prop where
  parses : database.parses → normalized.parses
  attempts : normalized.attempts.map AgentAttempt.attemptId =
    database.attempts.map AgentAttempt.attemptId
  artifacts : database.rejectedOutputArtifacts ⊆ normalized.rejectedOutputArtifacts
  stored : ∀ artifact, results.findSome? DecisionNormalizationResult.artifact? = some artifact →
    artifact ∈ normalized.rejectedOutputArtifacts ∧
      ∃ o ∈ observations, IsMalformed o.output ∧ artifact.attemptId = o.attempt.attemptId ∧
        artifact.originalDigest = sha256Digest o.output
  found : (∃ o ∈ observations, IsMalformed o.output) →
    ∃ artifact, results.findSome? DecisionNormalizationResult.artifact? = some artifact

theorem allNormalized_of_ok {results : List DecisionNormalizationResult}
    (h : normalizeAll database ports index observations = .ok (normalized, results)) :
    AllNormalized database normalized observations results := by
  induction observations generalizing database index results with
  | nil =>
    obtain ⟨rfl, rfl⟩ := Prod.mk.inj (pure_eq_ok.mp h)
    exact ⟨id, rfl, List.Subset.refl _, by simp, by simp⟩
  | cons o rest ih =>
    obtain ⟨left, result, results, hfirst, hlater, hout⟩ := normalizeAll_cons.mp h
    dsimp only at hlater hout
    subst hout
    have hfirst := normalized_of_ok hfirst
    have hrest := ih hlater
    refine ⟨fun hparses => hrest.parses (hfirst.parses hparses),
      hrest.attempts.trans hfirst.attempts, List.Subset.trans hfirst.artifacts hrest.artifacts,
      ?_, ?_⟩
    · intro artifact hfound
      rcases hfirst.outcome with ⟨hmalformed, first, rfl, hstored, hid, hdigest⟩ |
        ⟨-, decision, rfl⟩
      · obtain rfl : first = artifact := by
          simpa [List.findSome?_cons, DecisionNormalizationResult.artifact?] using hfound
        exact ⟨hrest.artifacts hstored, o, List.mem_cons_self, hmalformed, hid, hdigest⟩
      · obtain ⟨hstored, p, hp, hmalformed⟩ := hrest.stored artifact
          (by simpa [List.findSome?_cons, DecisionNormalizationResult.artifact?] using hfound)
        exact ⟨hstored, p, List.mem_cons_of_mem _ hp, hmalformed⟩
    · rintro ⟨p, hp, hmalformed⟩
      rcases hfirst.outcome with ⟨-, first, rfl, -⟩ | ⟨hwell, decision, rfl⟩
      · exact ⟨first, by simp [List.findSome?_cons, DecisionNormalizationResult.artifact?]⟩
      · rcases List.mem_cons.mp hp with rfl | hp
        · exact absurd hmalformed hwell
        · obtain ⟨artifact, hfound⟩ := hrest.found ⟨p, hp, hmalformed⟩
          exact ⟨artifact, by
            simpa [List.findSome?_cons, DecisionNormalizationResult.artifact?] using hfound⟩

/-! ## The closure of a malformed output -/

omit [Sha256] [OutputPorts] in
/-- An attempt that is closed with its claimed refresh stays well formed. -/
theorem parses_closed {attempt : AgentAttempt} (h : attempt.parses)
    (hclosable : attempt.runId.isNone = true ∨ attempt.runCompletedAt.isSome = true) :
    ({ attempt with status := .FAILED } : AgentAttempt).parses := by
  obtain ⟨⟨hordered, hevidence⟩, hthread⟩ := h
  refine ⟨⟨hordered, ?_⟩, hthread⟩
  dsimp only
  cases hrun : attempt.runId <;> cases hstarted : attempt.runStartedAt <;>
    cases hcompleted : attempt.runCompletedAt <;> cases hstatus : attempt.status <;>
    simp_all [attemptEvidenceMatches]

omit [OutputPorts] in
theorem closeBoundRefresh_ok {session : EpochSession} {plan : RefreshPlan}
    {attempt : AgentAttempt} {assignment : RunAssignment} (h : database.parses)
    (hattempt : attempt ∈ database.attempts) :
    ∃ closure, closeBoundRefresh database session plan attempt assignment .FAILED none =
      .ok closure ∧ closure.database.parses := by
  have hparses := h.2.1 attempt hattempt
  unfold closeBoundRefresh
  dsimp only
  rw [if_neg (by simp)]
  split
  · rename_i hclosable
    have hclosed : ({ attempt with
        status := if (attempt.status = .FAILED || attempt.status = .INTERRUPTED ||
          attempt.status = .OUTPUT_REJECTED) = true then attempt.status else .FAILED } :
        AgentAttempt).parses := by
      split_ifs with hterminal
      · exact hparses
      · refine parses_closed hparses ?_
        simpa [hterminal] using hclosable
    rw [require_pos hclosed]
    have hwritten := parses_setAttempt h hclosed
    exact ⟨_, rfl, hwritten⟩
  · exact ⟨_, rfl, h⟩

omit [OutputPorts] in
/-- A plan that is claimed can always be closed. -/
theorem closeClaimedRefreshFailure_ok (session : EpochSession) (h : database.parses) :
    ∃ closure, closeClaimedRefreshFailure database session .FAILED none = .ok closure ∧
      closure.database.parses := by
  unfold closeClaimedRefreshFailure
  dsimp only
  split
  · exact ⟨_, rfl, h⟩
  · split
    · exact ⟨_, rfl, h⟩
    · split
      · rename_i attempt assignment hattempt hassignment
        split
        · obtain ⟨attemptId, -, hfound⟩ := Option.bind_eq_some_iff.mp hattempt
          exact closeBoundRefresh_ok h (single?_mem hfound).1
        · exact ⟨_, rfl, h⟩
      · exact ⟨_, rfl, h⟩

def malformedValues (attempt : AgentAttempt) (artifact : RejectedOutputArtifact) :
    DiagnosticValues where
  kind := .SYSTEM_FAILURE
  stage := .PARSE
  reasonCode := .OUTPUT_MALFORMED
  role := some attempt.role
  attemptId := some attempt.attemptId
  assignmentId := some attempt.assignmentId
  runId := attempt.runId
  artifactRefs := attemptRefs attempt ++ [.record .REJECTED_OUTPUT artifact.artifactId]
  rejectedOutputArtifactId := some artifact.artifactId
  recommendedAction := .NEW_SESSION

omit [Sha256] [OutputPorts] in
/-- The diagnostic of a rejected output has the shape that it needs. -/
theorem malformedDiagnostic_ok (session : EpochSession) (attempt : AgentAttempt)
    (artifact : RejectedOutputArtifact) (diagnosticId : OpaqueId) :
    ∃ left, appendDiagnostic database session (malformedValues attempt artifact) diagnosticId =
      .ok left := by
  unfold appendDiagnostic
  simp only [bind_eq_ok, mapError_eq_ok, buildSafetyDiagnostic_eq_ok, pure_eq_ok]
  refine ⟨_, _, ⟨?_, rfl⟩, rfl⟩
  cases hrun : attempt.runId <;>
    simp [assertDiagnosticShapeSemantics, diagnosticFor, malformedValues, attemptRefs, requireRef,
      refsOfKind, hrun]

/-- The session has failed, and the artifact of one of its malformed outputs is
stored with the diagnostic that refers to it. -/
structure RejectionStored (left : EpochDatabase) (sessionId : OpaqueId)
    (observations : List TerminalRunObservation) : Prop where
  failed : ∃ s, sessionById left sessionId = .ok (some s) ∧ s.state = .FAILED
  artifact : ∃ artifact ∈ left.rejectedOutputArtifacts,
    (∃ o ∈ observations, IsMalformed o.output ∧ artifact.attemptId = o.attempt.attemptId ∧
      artifact.originalDigest = sha256Digest o.output) ∧
    ∃ d ∈ left.diagnostics, d.sessionId = sessionId ∧ d.reasonCode = .OUTPUT_MALFORMED ∧
      d.rejectedOutputArtifactId = some artifact.artifactId ∧
      ArtifactRef.record .REJECTED_OUTPUT artifact.artifactId ∈ d.artifactRefs

/-- The mutation of `acceptAndValidate`. -/
def acceptMutation (sessionId : OpaqueId) (observations : List TerminalRunObservation)
    (refreshPlan : Option RefreshPlan) (ports : AcceptPorts) : EpochStore.Mutation where
  callback := fun database =>
    (acceptAndValidate database sessionId observations refreshPlan ports).toOption

omit [Sha256] [OutputPorts] in
theorem sessionById_rewritten {sessionId : OpaqueId} {session : EpochSession}
    (hwritten : OutputsWritten database left)
    (h : sessionById database sessionId = .ok (some session)) :
    ∃ session', sessionById left sessionId = .ok (some session') := by
  simp only [sessionById, atMostOne_eq_ok, Option.toList_some] at h ⊢
  obtain ⟨f, hf, -⟩ := hwritten.sessions.filter (p := fun s => s.sessionId = sessionId)
    fun a b hpointed => by rw [hpointed.progress.1]
  exact ⟨f session, by rw [hf, h]; rfl⟩

omit [Sha256] [OutputPorts] in
/-- A session that is written over stays the only one of its identifier. -/
theorem sessionById_setSession {sessionId : OpaqueId} {session final : EpochSession}
    (h : sessionById database sessionId = .ok (some session))
    (hsame : final.sessionId = session.sessionId) :
    sessionById (database.setSession final) sessionId = .ok (some final) := by
  simp only [sessionById, atMostOne_eq_ok, Option.toList_some] at h ⊢
  exact single?_eq_some.mp (single?_written (single?_eq_some.mpr h) hsame)

theorem closeMalformedOutput_stores {sessionId : OpaqueId} {session : EpochSession}
    {artifact : RejectedOutputArtifact} (ports : AcceptPorts) (hparses : database.parses)
    (hsession : sessionById database sessionId = .ok (some session))
    (hartifact : artifact ∈ database.rejectedOutputArtifacts)
    (hattempt : artifact.attemptId ∈ database.attempts.map AgentAttempt.attemptId)
    (hmalformed : ∃ o ∈ observations, IsMalformed o.output ∧
      artifact.attemptId = o.attempt.attemptId ∧
      artifact.originalDigest = sha256Digest o.output) :
    ∃ left, closeMalformedOutput database session artifact ports = .ok left ∧ left.parses ∧
      RejectionStored left sessionId observations := by
  obtain ⟨attempt, hfound⟩ : ∃ attempt, database.attempts.find? (fun a =>
      a.attemptId = artifact.attemptId) = some attempt := by
    obtain ⟨t, ht, hid⟩ := List.mem_map.mp hattempt
    exact Option.isSome_iff_exists.mp (List.find?_isSome.mpr ⟨t, ht, by simpa using hid⟩)
  -- neither the closure of a claimed plan nor the diagnostic can fail on what is
  -- stored
  obtain ⟨closure, hclosure, hclosed⟩ :=
    closeClaimedRefreshFailure_ok (failedSession session ports.timestamp) hparses
  obtain ⟨left, hleft⟩ : ∃ left,
      appendDiagnostic (closure.database.setSession closure.closedSession) closure.closedSession
        (malformedValues attempt artifact) ports.diagnosticId = .ok left :=
    malformedDiagnostic_ok _ _ _ _
  obtain ⟨-, hdiagnosed⟩ := appendDiagnostic_cases hleft
  have hwritten := failureWritten_of_closed hclosure (appendDiagnostic_writes hleft)
  have haction : closure.closedSession.action = session.action ∧
      closure.closedSession.sessionId = session.sessionId ∧
      closure.closedSession.state = .FAILED := by
    obtain ⟨_, _, _, hfinal⟩ := hwritten.closes
    rw [hfinal]
    exact ⟨rfl, rfl, rfl⟩
  obtain ⟨hmem, hid, -⟩ := sessionById_some hsession
  refine ⟨left, ?_, ?_, ?_, ?_⟩
  · simp only [closeMalformedOutput, bind_eq_ok, orStop_eq_ok]
    exact ⟨attempt, hfound, closure, hclosure, hleft⟩
  · rw [hdiagnosed]
    exact parses_setSession closure.closedSession hclosed (haction.1 ▸ hparses.2.2 session hmem)
  · refine ⟨closure.closedSession, ?_, haction.2.2⟩
    obtain ⟨_, _, _, _, _, hwrites⟩ := hwritten.writes
    rw [hwrites]
    exact sessionById_setSession hsession haction.2.1
  · obtain ⟨_, _, _, _, _, hwrites⟩ := hwritten.writes
    have hkept : left.rejectedOutputArtifacts = database.rejectedOutputArtifacts := by
      rw [hwrites]
      rfl
    have hdiagnostic : diagnosticFor (closure.database.setSession closure.closedSession)
        closure.closedSession (malformedValues attempt artifact) ports.diagnosticId ∈
          left.diagnostics := by
      rw [hdiagnosed]
      exact List.mem_append_right _ (List.mem_singleton_self _)
    exact ⟨artifact, hkept ▸ hartifact, hmalformed, _, hdiagnostic, haction.2.1.trans hid, rfl,
      rfl, List.mem_append_right _ (List.mem_singleton_self _)⟩

/-- Where an output is malformed, it is stored with its diagnostic exactly when
the session is stored and every output, the well-formed ones of its siblings
too, can be taken from the store as it is before any of them. -/
theorem acceptAndValidate_stores_rejected {sessionId : OpaqueId}
    {refreshPlan : Option RefreshPlan} (hparses : database.parses)
    (hfresh : FreshOutputs database ports 0 observations.length)
    (hmalformed : ∃ o ∈ observations, IsMalformed o.output) :
    (∃ left, (acceptMutation sessionId observations refreshPlan ports).apply database = some left ∧
        RejectionStored left sessionId observations) ↔
      (∃ session, sessionById database sessionId = .ok (some session)) ∧
        AllAcceptable database observations := by
  simp only [acceptMutation, EpochStore.Mutation.apply, Option.bind_eq_bind,
    Option.bind_eq_some_iff, toOption_eq_some]
  constructor
  · rintro ⟨left, ⟨written, haccept, -⟩, -⟩
    simp only [acceptAndValidate, bind_eq_ok, orStop_eq_ok, Prod.exists] at haccept
    obtain ⟨_, hfound, session, rfl, normalized, results, hnormalized, -⟩ := haccept
    exact ⟨⟨session, hfound⟩, (normalizeAll_ok hfresh (Nat.zero_add _).le).mp ⟨_, hnormalized⟩⟩
  · rintro ⟨⟨session, hfound⟩, hacceptable⟩
    obtain ⟨⟨normalized, results⟩, hnormalized⟩ :=
      (normalizeAll_ok hfresh (Nat.zero_add _).le).mpr hacceptable
    have hall := allNormalized_of_ok hnormalized
    obtain ⟨artifact, hartifact⟩ := hall.found hmalformed
    obtain ⟨hstored, o, ho, hof⟩ := hall.stored artifact hartifact
    obtain ⟨session', hfound'⟩ := sessionById_rewritten (normalizeAll_written hnormalized) hfound
    have hattempt : artifact.attemptId ∈ normalized.attempts.map AgentAttempt.attemptId := by
      obtain ⟨records, hrecords, -⟩ := hacceptable.1 o ho
      obtain ⟨hmem, hid⟩ := single?_mem (requireConsumable_eq_ok.mp hrecords).1.attempt
      rw [hall.attempts, hof.2.1]
      exact List.mem_map.mpr ⟨_, hmem, by simpa using hid⟩
    obtain ⟨left, hleft, hparses', hrejection⟩ := closeMalformedOutput_stores
      ports (hall.parses hparses) hfound' hstored hattempt ⟨o, ho, hof⟩
    refine ⟨EpochStore.stamp left database, ⟨left, ?_, if_pos hparses'⟩,
      ⟨hrejection.failed, hrejection.artifact⟩⟩
    simp only [acceptAndValidate, bind_eq_ok, orStop_eq_ok, Prod.exists]
    exact ⟨_, hfound, session, rfl, normalized, results, hnormalized, _, hfound', session', rfl,
      by rw [hartifact]; exact hleft⟩

end Acceptance

/-! ## A malformed output beside one with a foreign nonce -/

namespace OutputSample

scoped instance : Sha256 := Sha256.standard

def foreignEnvelope : AgentDecisionEnvelope :=
  { Sample.envelope .budget with nonce := js "nonce-of-a-receipt-in-another-session" }

/-- An envelope that is another assignment's. -/
def foreignText : JsString := canonicalJson (envelopeJson foreignEnvelope)

/-- Reads the envelopes back. -/
scoped instance : OutputPorts where
  jsonParse := fun text =>
    if text = foreignText then some (envelopeJson foreignEnvelope)
    else if text = Sample.envelopeText .policy then some (envelopeJson (Sample.envelope .policy))
    else none
  redactRejectedDecisionOutput := id

def output : Role → JsString
  | .inventory => js "The inventory suffices."
  | .budget => EPOCH_DECISION_OPEN_MARKER ++ foreignText ++ EPOCH_DECISION_CLOSE_MARKER
  | .policy => Sample.output .policy

def completedRun (role : Role) : AgentRun :=
  { Sample.completedRun role with output := some (output role) }

def observation (role : Role) : TerminalRunObservation :=
  { Sample.observation role with
    attempt := { Sample.completedAttempt role with
      outputDigest := some (sha256Digest (output role)) }
    output := output role }

def observations : PerRole TerminalRunObservation := PerRole.ofFn observation

def scope : RoleRunJoinScope where
  sessionId := Sample.sessionId
  actionHash := actionHash Fixtures.FIXTURE_ACTION
  assignmentIds := ROLES.map Sample.assignmentId

def calls : List Call :=
  Sample.openingCalls ++ ROLES.flatMap fun role =>
    [.transitionToDispatching (Sample.input role),
      .bindRunOnce (Sample.input role) (completedRun role) Sample.time,
      .mirrorRun (Sample.input role) (Sample.agentId role) (completedRun role)]

/-- The three Runs are joined, and the mutation that accepts them throws. -/
theorem calls_lose : (Runs.run publish emptyEpochDatabase calls).any (fun database =>
    database.decisions = [] ∧ database.rejectedOutputArtifacts = [] ∧
      (joinRoleRunObservations database (observations.toList.map .fulfilled) scope).2 =
        .joined observations ∧
      (acceptMutation Sample.sessionId observations.toList none Sample.acceptPorts).apply database =
        none) = true := by
  unfold calls Sample.openingCalls
  rw [List.append_assoc, List.cons_append, Sample.run_opening]
  decide +kernel

theorem calls_publish : (Runs.run publish emptyEpochDatabase calls).isSome = true :=
  Option.isSome_of_any calls_lose

/-- The three outputs are observed. -/
def observed : EpochDatabase := (Runs.run publish emptyEpochDatabase calls).get calls_publish

theorem observed_reachable : Reachable observed := ⟨calls, (Option.some_get calls_publish).symm⟩

theorem observed_loses : observed.decisions = [] ∧ observed.rejectedOutputArtifacts = [] ∧
    (joinRoleRunObservations observed (observations.toList.map .fulfilled) scope).2 =
      .joined observations ∧
    (acceptMutation Sample.sessionId observations.toList none Sample.acceptPorts).apply observed =
      none :=
  get_of_any calls_lose

theorem inventory_malformed : IsMalformed (observations.get .inventory).output :=
  ⟨_, rfl⟩

end OutputSample

open OutputSample in
theorem acceptAndValidate_loses_rejected :
    ¬∀ (database : EpochDatabase) (scope : RoleRunJoinScope) (settled : List Settled)
      (observations : PerRole TerminalRunObservation) (ports : AcceptPorts),
      Reachable database →
      (joinRoleRunObservations database settled scope).2 = .joined observations →
      (∃ role, IsMalformed (observations.get role).output) →
      ∃ left, (acceptMutation scope.sessionId observations.toList none ports).apply database =
        some left ∧ RejectionStored left scope.sessionId observations.toList := by
  intro h
  obtain ⟨-, -, hjoined, hlost⟩ := observed_loses
  obtain ⟨left, hleft, -⟩ := h observed scope _ observations Sample.acceptPorts observed_reachable
    hjoined ⟨.inventory, inventory_malformed⟩
  cases hlost.symm.trans hleft

open OutputSample in
theorem acceptAndValidate_stores_rejected_sample :
    (∃ left, (acceptMutation Sample.sessionId observations.toList none Sample.acceptPorts).apply
        observed = some left ∧ RejectionStored left Sample.sessionId observations.toList) ↔
      (∃ session, sessionById observed Sample.sessionId = .ok (some session)) ∧
        AllAcceptable observed observations.toList := by
  obtain ⟨hdecisions, hartifacts, -⟩ := observed_loses
  refine acceptAndValidate_stores_rejected observed_reachable.parses ⟨?_, ?_⟩
    ⟨observations.get .inventory, by simp [PerRole.toList, PerRole.get], inventory_malformed⟩
  · intro i _ _
    simp [IsFresh, hdecisions, hartifacts]
  · intro i j hij hj
    have hlength : observations.toList.length = 3 := rfl
    have hcases : i = 0 ∧ j = 1 ∨ i = 0 ∧ j = 2 ∨ i = 1 ∧ j = 2 := by omega
    rcases hcases with ⟨rfl, rfl⟩ | ⟨rfl, rfl⟩ | ⟨rfl, rfl⟩ <;> decide

end Service

end EpochGuard
