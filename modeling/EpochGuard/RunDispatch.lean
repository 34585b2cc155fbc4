import EpochGuard.Publications

/-!
# The dispatch of a Run

`dispatchBindPoll`: one assignment is dispatched, bound to the Run that the
Agent port returns, and polled until the Run ends or the time is up. What the
ports answer, and what other tasks publish meanwhile, comes from outside; each
answer runs one mutation of the store at most.
-/

namespace EpochGuard

open Json Checked Runs

namespace RunObserver

/-! ## What is asked of a Run -/

/-- The name of a role in a prompt. -/
def roleName : Role → String
  | .inventory => "Inventory"
  | .budget => "Budget"
  | .policy => "Policy"

/-- The prompt of an assignment, by the version of the template that it was
created with. -/
def buildAssignmentPrompt (assignment : RunAssignment) : Observed String := do
  let lines :=
    ["You are the " ++ roleName assignment.role ++ " Agent for assignment " ++
        assignment.assignmentId.val ++ ".",
      "Read " ++ assignment.evidencePackRelativePath ++ ".",
      "Use only the immutable action and evidence in that file.",
      "Do not infer missing facts or claim a publish action."]
  if assignment.promptTemplateVersion.val = "epoch-prompt-v1" then
    return "\n".intercalate (lines ++
      ["Return exactly one <EPOCH_DECISION>\x7b...\x7d</EPOCH_DECISION> envelope."])
  else do
    require (assignment.promptTemplateVersion = Service.CURRENT_PROMPT_TEMPLATE_VERSION)
      (mismatch ("Unsupported prompt template version: " ++ assignment.promptTemplateVersion.val))
    return "\n".intercalate (lines ++
      ["Return exactly one <EPOCH_DECISION> JSON envelope and no other text or Markdown.",
        "The JSON object must contain exactly these nine keys in this spelling: schemaVersion, " ++
          "sessionId, actionHash, runAssignmentId, role, receiptId, nonce, verdict, reason.",
        "Set schemaVersion to the number 1.",
        "Copy sessionId, actionHash, runAssignmentId, and role exactly from the Evidence Pack " ++
          "assignment object.",
        "Copy receiptId and nonce exactly from the Evidence Pack observation object.",
        "Set verdict to exactly ALLOW or DENY by applying only the Evidence Pack decisionRule.",
        "Set reason to one concise evidence-based string.",
        "Do not rename verdict to decision, do not rename reason to justification, and do not " ++
          "add campaignId or any other key.",
        "Output the exact opening marker <EPOCH_DECISION>, then the complete nine-key JSON " ++
          "object, then the exact closing marker </EPOCH_DECISION>. Do not emit ellipses or " ++
          "placeholders.",
        "Before emitting, silently verify that the object has exactly nine keys, the forbidden " ++
          "aliases are absent, and every copied binding value exactly equals the Evidence Pack."])

/-- A Run is one of the assignment's Agent, and the one expected where one is.
-/
def validateRunIdentity (run : AgentRun) (assignment : RunAssignment)
    (expectedRunId : Option String) : Observed Unit := do
  let _ ← orStop (OpaqueId.parse? run.id) (.other "Invalid Run identifier")
  require (run.agentId = assignment.agentId.val ∧ ∀ id ∈ expectedRunId, run.id = id)
    (mismatch ("Run " ++ run.id ++ " does not match the authoritative Agent/Run binding"))

/-- What `sendMessage` returns is a queued Run of the prompt in which nothing
has happened yet. -/
def validateDispatchResult (run : AgentRun) (assignment : RunAssignment) (prompt : String) :
    Observed Unit := do
  validateRunIdentity run assignment none
  require (run.status = .queued ∧ run.prompt = prompt ∧ run.startedAt = none ∧
      run.completedAt = none ∧ run.threadId = none ∧ run.output = none ∧ run.error = none ∧
      run.usage = none)
    (mismatch "sendMessage did not return a pristine queued Run")

/-- The Run that `sendMessage` returned, or nothing where it threw. -/
def dispatchedRun (assignment : RunAssignment) (sent : Option AgentRun) : Observed AgentRun := do
  let prompt ← buildAssignmentPrompt assignment
  let run ← orStop sent (.other "sendMessage failed")
  validateDispatchResult run assignment prompt
  return run

/-- The Run that `getRun` returned, or nothing where it threw. -/
def observedRun (assignment : RunAssignment) (runId : String) (reported : Option AgentRun) :
    Observed AgentRun := do
  let run ← orStop reported (.other "getRun failed")
  validateRunIdentity run assignment (some runId)
  return run

/-! ## One mutation -/

section Dispatch

variable [Sha256]

/-- `store.mutate` with the attempt that the callback returns: a callback that
throws, or leaves what the schema refuses, publishes nothing. -/
def mutate (database : EpochDatabase)
    (callback : EpochDatabase → Observed (EpochDatabase × AgentAttempt)) :
    EpochDatabase × Observed AgentAttempt :=
  match callback database with
  | .ok (left, attempt) =>
      if (EpochStore.stamp left database).parses then
        (EpochStore.stamp left database, .ok attempt)
      else (database, .error (.other "Invalid database"))
  | .error failure => (database, .error failure)

/-- Where `dispatchBindPoll` waits, with the values that it has read before and
will use after. -/
inductive Phase where
  | start
  | verifying (assignment : RunAssignment)
  | sending (assignment : RunAssignment)
  | binding (assignment : RunAssignment) (run : AgentRun)
  | polling (assignment : RunAssignment) (runId : String) (pollingStartedAt : Int)
  | waiting (assignment : RunAssignment) (runId : String) (pollingStartedAt : Int)
      (run : AgentRun)
  | completed (assignment : RunAssignment) (attempt : AgentAttempt) (runId : OpaqueId)
      (output : JsString)
  | resolved (observation : TerminalRunObservation)
  | rejected (failure : RunFailure)

/-- What it waits for: the outcome of a call, or the time. The clock's readings
may be anything. -/
inductive Answer where
  | begin
  /-- `verifyRoleAgentProfile` returned, or threw. -/
  | profile (holds : Bool)
  | sent (run : Option AgentRun)
  | bound (now : RunTime) (monotonicMs : Int)
  | polled (run : Option AgentRun)
  | elapsed (monotonicMs : Int)
  /-- Other tasks published meanwhile. -/
  | others (next : EpochDatabase)

/-- The promise of `dispatchBindPoll` is settled. -/
def Phase.isSettled : Phase → Bool
  | .resolved _ | .rejected _ => true
  | _ => false

/-- Other tasks leave the assignment and the attempt of an input alone. -/
def leavesAlone (input : DispatchBindPollInput) (database next : EpochDatabase) : Prop :=
  next.parses ∧
    next.runAssignments.filter (fun a => a.assignmentId = input.assignmentId) =
      database.runAssignments.filter (fun a => a.assignmentId = input.assignmentId) ∧
    next.attempts.filter (fun t => t.attemptId = input.attemptId) =
      database.attempts.filter (fun t => t.attemptId = input.attemptId)

instance (input : DispatchBindPollInput) (database next : EpochDatabase) :
    Decidable (leavesAlone input database next) :=
  inferInstanceAs (Decidable (_ ∧ _))

/-- `failAttempt` and the error that is thrown after it, or its own error. -/
def failWith (database : EpochDatabase) (input : DispatchBindPollInput) (run : Option AgentRun)
    (code : FailureCode) (message : String) : EpochDatabase × Phase :=
  match mutate database fun db => failAttempt db input .FAILED run with
  | (left, .ok failed) => (left, .rejected (.adapter code message (some failed)))
  | (left, .error failure) => (left, .rejected failure)

/-- The reason under which a failure before the mirror is reported. -/
def bindingCode : RunFailure → FailureCode
  | .adapter .BINDING_MISMATCH _ _ => .BINDING_MISMATCH
  | _ => .RUN_FAILED

/-- The reason under which a failure of the mirror is reported. -/
def mirrorCode : RunFailure → FailureCode
  | .adapter code _ _ => code
  | .other _ => .RUN_FAILED

/-- The first mutation, and the records that the dispatch goes on with. -/
def begin (database : EpochDatabase) (input : DispatchBindPollInput) : EpochDatabase × Phase :=
  match mutate database fun db => transitionToDispatching db input with
  | (left, .ok _) =>
      match requireRecords left input with
      | .ok (assignment, _) => (left, .verifying assignment)
      | .error failure => (left, .rejected failure)
  | (left, .error failure) => (left, .rejected failure)

/-- The mutation that binds the Run which `sendMessage` returned, and the start
of the polling. -/
def bindRun (database : EpochDatabase) (input : DispatchBindPollInput)
    (assignment : RunAssignment) (run : AgentRun) (now : RunTime) (monotonicMs : Int) :
    EpochDatabase × Phase :=
  let bound := mutate database fun db => do
    let boundAt ← orStop now.timestamp? (.other "Invalid RunAssignment")
    bindRunOnce db input run boundAt
  match bound with
  | (left, .ok _) => (left, .polling assignment run.id monotonicMs)
  | (left, .error _) =>
      failWith left input none .BINDING_MISMATCH
        "Assignment rejected a second or stale Run binding"

/-- One poll: the report is mirrored, and the mirrored attempt decides whether
the dispatch has its output, has failed, or waits for the next poll. -/
def pollRun (database : EpochDatabase) (input : DispatchBindPollInput)
    (assignment : RunAssignment) (runId : String) (pollingStartedAt : Int)
    (reported : Option AgentRun) : EpochDatabase × Phase :=
  match observedRun assignment runId reported with
  | .error failure =>
      failWith database input none (bindingCode failure)
        "Assignment-bound Run could not be observed"
  | .ok run =>
      match mutate database fun db => mirrorRun db input assignment.agentId run with
      | (left, .error failure) =>
          failWith left input (some run) (mirrorCode failure)
            "Run timeline evidence could not be mirrored"
      | (left, .ok attempt) =>
          match attempt.status, attempt.runId, run.output with
          | .COMPLETED, some runId, some output =>
              (left, .completed assignment attempt runId output)
          | .FAILED, _, _ =>
              (left, .rejected (.adapter .RUN_FAILED "Role Run reached terminal status FAILED"
                (some attempt)))
          | .INTERRUPTED, _, _ =>
              (left, .rejected (.adapter .RUN_FAILED
                "Role Run reached terminal status INTERRUPTED" (some attempt)))
          | _, _, _ => (left, .waiting assignment runId pollingStartedAt run)

/-- The profile has changed since the dispatch, and the output is rejected. -/
def rejectOutput (database : EpochDatabase) (input : DispatchBindPollInput) :
    EpochDatabase × Phase :=
  match mutate database fun db => rejectCompletedOutput db input with
  | (left, .ok rejected) =>
      (left, .rejected (.adapter .ROLE_PROFILE_MISMATCH
        "Role Profile changed after dispatch; output was rejected" (some rejected)))
  | (left, .error failure) => (left, .rejected failure)

/-- `dispatchBindPoll` from one answer to the next. What fails on the way is
recorded in the attempt and the assignment before the dispatch is rejected. -/
def dispatchStep (input : DispatchBindPollInput) (timeoutMs : Nat)
    (state : EpochDatabase × Phase) (answer : Answer) : Option (EpochDatabase × Phase) :=
  let (database, phase) := state
  match phase, answer with
  | .start, .begin => some (begin database input)
  | .verifying assignment, .profile holds =>
      some (if holds then (database, .sending assignment)
        else failWith database input none .ROLE_PROFILE_MISMATCH
          "Role Profile failed the pre-dispatch verification")
  | .sending assignment, .sent run =>
      some (match dispatchedRun assignment run with
        | .ok run => (database, .binding assignment run)
        | .error failure =>
            failWith database input none (bindingCode failure)
              "Role Run could not be dispatched as a pristine queued Run")
  | .binding assignment run, .bound now monotonicMs =>
      some (bindRun database input assignment run now monotonicMs)
  | .polling assignment runId pollingStartedAt, .polled reported =>
      some (pollRun database input assignment runId pollingStartedAt reported)
  | .waiting assignment runId pollingStartedAt run, .elapsed monotonicMs =>
      some (if monotonicMs - pollingStartedAt ≥ timeoutMs then
          failWith database input (some run) .RUN_TIMEOUT "Role Run polling timed out"
        else (database, .polling assignment runId pollingStartedAt))
  | .completed assignment attempt runId output, .profile holds =>
      some (if holds then
          (database, .resolved
            { role := assignment.role
              agentId := assignment.agentId
              assignmentId := assignment.assignmentId
              runId
              attempt
              output })
        else rejectOutput database input)
  | phase, .others next =>
      if phase.isSettled = false ∧ leavesAlone input database next then some (next, phase)
      else none
  | _, _ => none

/-! ## The records of an input -/

/-- The only assignment and the only attempt of an input, in a valid store. -/
structure Stored (input : DispatchBindPollInput) (database : EpochDatabase)
    (assignment : RunAssignment) (attempt : AgentAttempt) : Prop where
  parses : database.parses
  assignment : single? database.runAssignments (fun a => a.assignmentId = input.assignmentId) =
    some assignment
  attempt : single? database.attempts (fun t => t.attemptId = input.attemptId) = some attempt

variable {input : DispatchBindPollInput} {database : EpochDatabase} {assignment : RunAssignment}
  {attempt : AgentAttempt}

theorem Stored.attempt_parses (h : Stored input database assignment attempt) : attempt.parses :=
  h.parses.2.1 attempt (single?_mem h.attempt).1

theorem Stored.records (h : Stored input database assignment attempt) :
    requireRecords database input = .ok (assignment, attempt) :=
  requireRecords_eq_ok.mpr ⟨h.assignment, h.attempt⟩

theorem Stored.leavesAlone {next : EpochDatabase} (h : Stored input database assignment attempt)
    (hnext : leavesAlone input database next) : Stored input next assignment attempt := by
  obtain ⟨hparses, hassignments, hattempts⟩ := hnext
  refine ⟨hparses, ?_, ?_⟩
  · rw [single?_eq_some, hassignments]
    exact single?_eq_some.mp h.assignment
  · rw [single?_eq_some, hattempts]
    exact single?_eq_some.mp h.attempt

/-- The records that a mutation has written are stored when it is published. -/
theorem Stored.written (h : Stored input database assignment attempt)
    {assignment' : RunAssignment} {attempt' t : AgentAttempt} {written : EpochDatabase}
    (hstore : store database assignment' attempt' = .ok (written, t))
    (hassignment : assignment'.assignmentId = assignment.assignmentId)
    (hattempt : attempt'.attemptId = attempt.attemptId) :
    attempt' = t ∧ Stored input (EpochStore.stamp written database) assignment' attempt' := by
  obtain ⟨hparses, hwritten⟩ := store_eq_ok.mp hstore
  obtain ⟨rfl, rfl⟩ := Prod.mk.inj hwritten
  refine ⟨rfl, ?_, ?_, ?_⟩
  · obtain ⟨hversions, hattempts, hsessions⟩ := h.parses
    refine ⟨hversions, fun t ht => ?_, hsessions⟩
    rcases mem_modifyWhere.mp ht with ⟨-, -, -, rfl⟩ | ⟨hold, -⟩
    · exact hparses
    · exact hattempts t hold
  · exact single?_written (k := RunAssignment.assignmentId) h.assignment hassignment
  · exact single?_written (k := AgentAttempt.attemptId) h.attempt hattempt

/-- A mutation that writes the two records publishes them, if the attempt is
well formed. -/
theorem mutate_store (h : Stored input database assignment attempt)
    {assignment' : RunAssignment} {attempt' : AgentAttempt}
    (callback : EpochDatabase → Observed (EpochDatabase × AgentAttempt))
    (hcallback : callback database = store database assignment' attempt')
    (hassignment : assignment'.assignmentId = assignment.assignmentId)
    (hattempt : attempt'.attemptId = attempt.attemptId) (hparses : attempt'.parses) :
    ∃ left, mutate database callback = (left, .ok attempt') ∧
      Stored input left assignment' attempt' := by
  have hstore : store database assignment' attempt' =
      .ok ((database.setAssignment assignment').setAttempt attempt', attempt') :=
    store_eq_ok.mpr ⟨hparses, rfl⟩
  obtain ⟨-, hstored⟩ := h.written hstore hassignment hattempt
  refine ⟨_, ?_, hstored⟩
  rw [mutate, hcallback, hstore]
  exact if_pos hstored.parses

/-- A callback that publishes has written well-formed records. -/
theorem mutate_ok {callback : EpochDatabase → Observed (EpochDatabase × AgentAttempt)}
    {left : EpochDatabase} {result : Observed AgentAttempt}
    (h : mutate database callback = (left, result)) :
    (∃ written t, callback database = .ok (written, t) ∧ result = .ok t ∧
        left = EpochStore.stamp written database ∧ left.parses) ∨
      ∃ failure, result = .error failure ∧ left = database := by
  unfold mutate at h
  split at h
  · rename_i written t hcallback
    split_ifs at h with hparses
    · obtain ⟨rfl, rfl⟩ := Prod.mk.inj h
      exact .inl ⟨written, t, hcallback, rfl, rfl, hparses⟩
    · obtain ⟨rfl, rfl⟩ := Prod.mk.inj h
      exact .inr ⟨_, rfl, rfl⟩
  · obtain ⟨rfl, rfl⟩ := Prod.mk.inj h
    exact .inr ⟨_, rfl, rfl⟩

/-! ## The mirror -/

/-- An attempt goes on as the mirror of its Run: its status does not go back,
one that is terminal stays so, and what is known of the Run stays known. -/
structure Mirrors (before after : AgentAttempt) : Prop where
  rank : attemptStatusRank before.status ≤ attemptStatusRank after.status
  terminal : attemptStatusRank before.status = 4 → after.status = before.status ∨
    before.status = .COMPLETED ∧ after.status = .OUTPUT_REJECTED
  runId : before.runId ≠ none → after.runId = before.runId
  startedAt : before.runStartedAt ≠ none → after.runStartedAt = before.runStartedAt
  completedAt : before.runCompletedAt ≠ none → after.runCompletedAt = before.runCompletedAt
  output : before.outputDigest ≠ none → after.outputDigest = before.outputDigest

omit [Sha256] in
theorem Mirrors.refl (attempt : AgentAttempt) : Mirrors attempt attempt :=
  ⟨le_rfl, fun _ => .inl rfl, fun _ => rfl, fun _ => rfl, fun _ => rfl, fun _ => rfl⟩

/-- The completion of a failed attempt is one that its own Run reported. -/
def ReportedIn (reports : List Answer) (attempt : AgentAttempt) : Prop :=
  attempt.status = .FAILED ∨ attempt.status = .INTERRUPTED → ∀ runId ∈ attempt.runId,
    ∃ run timestamp, .polled (some run) ∈ reports ∧ run.id = runId.val ∧
      run.completedAt = some (.valid timestamp) ∧ attempt.runCompletedAt = some timestamp

omit [Sha256] in
theorem open_evidence (hparses : attempt.parses) (hopen : attemptStatusRank attempt.status < 4) :
    attempt.runCompletedAt = none := by
  obtain ⟨⟨-, hevidence⟩, -⟩ := hparses
  cases hstatus : attempt.status <;>
    simp_all [attemptEvidenceMatches, attemptStatusRank]

omit [Sha256] in
theorem unbound_evidence (hparses : attempt.parses) (hrun : attempt.runId = none) :
    attempt.runStartedAt = none ∧ attempt.runCompletedAt = none := by
  obtain ⟨⟨-, hevidence⟩, -⟩ := hparses
  cases hstatus : attempt.status <;> simp_all [attemptEvidenceMatches]

/-! ## A failure -/

omit [Sha256] in
theorem timestamp?_eq_some {time : Option RunTime} {timestamp : Timestamp}
    (h : time.bind RunTime.timestamp? = some timestamp) : time = some (.valid timestamp) := by
  obtain ⟨reported, rfl, hvalid⟩ := Option.bind_eq_some_iff.mp h
  cases reported with
  | valid t => rw [Option.some.inj hvalid]
  | invalid text => cases hvalid

/-- What a failure makes of a bound attempt that is not terminal. -/
inductive FailureEvidence (attempt : AgentAttempt) (run : AgentRun) : AgentAttempt → Prop
  | unchanged : FailureEvidence attempt run attempt
  | started {startedAt : Timestamp} (queued : attempt.status = .QUEUED) :
      FailureEvidence attempt run
        { attempt with status := .RUNNING, runStartedAt := some startedAt }
  | completed {startedAt : Option Timestamp} {completedAt : Timestamp} {usage : Option RunUsage}
      (reported : run.completedAt = some (.valid completedAt))
      (ordered : timestampsOrdered startedAt (some completedAt))
      (kept : attempt.runStartedAt ≠ none → startedAt = attempt.runStartedAt) :
      FailureEvidence attempt run
        { attempt with
          status := .FAILED, runStartedAt := startedAt, runCompletedAt := some completedAt, usage }

omit [Sha256] in
theorem open_status (hparses : attempt.parses) (hopen : attemptStatusRank attempt.status < 4)
    (hrun : attempt.runId ≠ none) :
    attempt.status = .QUEUED ∧ attempt.runStartedAt = none ∨
      attempt.status = .RUNNING ∧ ∃ startedAt, attempt.runStartedAt = some startedAt := by
  obtain ⟨⟨-, hevidence⟩, -⟩ := hparses
  cases hstatus : attempt.status <;>
    simp_all [attemptEvidenceMatches, attemptStatusRank, Option.isSome_iff_exists]

omit [Sha256] in
theorem observeFailure_cases (run : AgentRun) (hparses : attempt.parses)
    (hopen : attemptStatusRank attempt.status < 4) (hrun : attempt.runId ≠ none) :
    FailureEvidence attempt run (observeFailure attempt .FAILED run) := by
  have hnone := open_evidence hparses hopen
  have hstatus := open_status hparses hopen hrun
  obtain ⟨attemptId, sessionId, actionHash, role, agentId, assignmentId, runId, status, startedAt,
    completedAt, threadId, usage, outputDigest⟩ := attempt
  dsimp only at hnone hstatus
  subst hnone
  cases hcompleted : run.completedAt.bind RunTime.timestamp? with
  | none =>
    rcases hstatus with ⟨rfl, rfl⟩ | ⟨rfl, started, rfl⟩
    · cases hstarted : run.startedAt.bind RunTime.timestamp? with
      | none => simpa [observeFailure, hcompleted, hstarted, timestampsOrdered] using .unchanged
      | some time =>
        simpa [observeFailure, hcompleted, hstarted, timestampsOrdered] using .started rfl
    · simpa [observeFailure, hcompleted, timestampsOrdered] using .unchanged
  | some completed =>
    have hreported := timestamp?_eq_some hcompleted
    simp only [observeFailure, hcompleted, Option.none_or]
    split
    · rename_i hcandidate
      refine .completed hreported hcandidate.2.2 (fun hstored => ?_)
      obtain ⟨started, rfl⟩ : ∃ started, startedAt = some started :=
        Option.ne_none_iff_exists'.mp hstored
      rfl
    -- a report that contradicts what is stored is not used
    · simpa using .unchanged

omit [Sha256] in
theorem FailureEvidence.mirrors {run : AgentRun} {after : AgentAttempt}
    (h : FailureEvidence attempt run after) (hparses : attempt.parses)
    (hopen : attemptStatusRank attempt.status < 4) (hrun : attempt.runId ≠ none) :
    after.parses ∧ Mirrors attempt after := by
  have hnone := open_evidence hparses hopen
  have hbound := Option.isSome_iff_ne_none.mpr hrun
  have hterminal : attemptStatusRank attempt.status ≠ 4 := Nat.ne_of_lt hopen
  cases h with
  | unchanged => exact ⟨hparses, .refl _⟩
  | @started startedAt queued =>
    have hstarted : attempt.runStartedAt = none := by
      rcases open_status hparses hopen hrun with ⟨-, hstarted⟩ | ⟨hrunning, -⟩
      · exact hstarted
      · simp [queued] at hrunning
    refine ⟨⟨⟨?_, ?_⟩, hparses.2⟩, ⟨?_, ?_, ?_, ?_, ?_, ?_⟩⟩
    · simp [timestampsOrdered, hnone]
    · simp [attemptEvidenceMatches, hbound, hnone]
    · simp [queued, attemptStatusRank]
    · exact fun h => absurd h hterminal
    · exact fun _ => rfl
    · exact fun h => absurd hstarted h
    · exact fun _ => rfl
    · exact fun _ => rfl
  | @completed startedAt completedAt usage reported ordered kept =>
    refine ⟨⟨⟨ordered, ?_⟩, hparses.2⟩, ⟨?_, ?_, ?_, ?_, ?_, ?_⟩⟩
    · cases startedAt <;> simp [attemptEvidenceMatches, hbound]
    · exact Nat.le_of_lt hopen
    · exact fun h => absurd h hterminal
    · exact fun _ => rfl
    · exact kept
    · exact fun h => absurd hnone h
    · exact fun _ => rfl

omit [Sha256] in
/-- An attempt that fails before it ends mirrors what it was, and its completion
is reported with the failure. -/
theorem failedAttempt_mirrors (run : Option AgentRun) {reports : List Answer}
    (hparses : attempt.parses) (hopen : attemptStatusRank attempt.status < 4)
    (hreports : ∀ r ∈ run, .polled (some r) ∈ reports) :
    (failedAttempt attempt .FAILED run).parses ∧
      Mirrors attempt (failedAttempt attempt .FAILED run) ∧
      ReportedIn reports (failedAttempt attempt .FAILED run) ∧
      (failedAttempt attempt .FAILED run).attemptId = attempt.attemptId := by
  have hunchanged : ReportedIn reports attempt := by
    rintro (hfailed | hfailed) <;> simp [hfailed, attemptStatusRank] at hopen
  unfold failedAttempt
  split
  · rename_i hrun
    obtain ⟨hstarted, hcompleted⟩ := unbound_evidence hparses hrun
    refine ⟨⟨⟨?_, ?_⟩, hparses.2⟩, ⟨?_, ?_, ?_, ?_, ?_, ?_⟩, ?_, rfl⟩
    · exact hparses.1.1
    · simp [attemptEvidenceMatches, hrun, hstarted, hcompleted]
    · exact Nat.le_of_lt hopen
    · exact fun h => absurd h (Nat.ne_of_lt hopen)
    · exact fun _ => rfl
    · exact fun _ => rfl
    · exact fun _ => rfl
    · exact fun _ => rfl
    · intro _ runId hid
      simp [hrun] at hid
  · rename_i runId run hrun
    split_ifs with hid
    · have hbound : attempt.runId ≠ none := by simp [hrun]
      have hcases := observeFailure_cases run hparses hopen hbound
      obtain ⟨hparses', hmirrors⟩ := hcases.mirrors hparses hopen hbound
      generalize observeFailure attempt .FAILED run = after at hcases hparses' hmirrors ⊢
      refine ⟨hparses', hmirrors, ?_, ?_⟩
      · cases hcases with
        | unchanged => exact hunchanged
        | started => rintro (hfailed | hfailed) <;> cases hfailed
        | completed reported =>
          intro _ id hid'
          obtain rfl := Option.some.inj (hrun.symm.trans hid')
          exact ⟨run, _, hreports run rfl, hid, reported, rfl⟩
      · cases hcases <;> rfl
    · exact ⟨hparses, .refl _, hunchanged, rfl⟩
  · exact ⟨hparses, .refl _, hunchanged, rfl⟩

/-- After a failure the assignment is rejected, whatever was reported. -/
theorem failWith_rejects (h : Stored input database assignment attempt) {run : Option AgentRun}
    {reports : List Answer} (hopen : attemptStatusRank attempt.status < 4)
    (hunconsumed : assignment.status ≠ .CONSUMED)
    (hreports : ∀ r ∈ run, .polled (some r) ∈ reports) (code : FailureCode) (message : String) :
    ∃ left failure attempt', failWith database input run code message =
        (left, .rejected failure) ∧
      Stored input left { assignment with status := .REJECTED } attempt' ∧
      ReportedIn reports attempt' ∧ Mirrors attempt attempt' := by
  obtain ⟨hparses, hmirrors, hreported, hid⟩ :=
    failedAttempt_mirrors run h.attempt_parses hopen hreports
  have haccepted : attempt.status ≠ .ACCEPTED := by
    intro hstatus
    simp [hstatus, attemptStatusRank] at hopen
  have hcallback : failAttempt database input .FAILED run =
      store database { assignment with status := .REJECTED }
        (failedAttempt attempt .FAILED run) := by
    unfold failAttempt
    rw [h.records]
    show (require _ _ >>= fun _ => parseAttempt attempt >>= fun _ => _) = _
    rw [require_pos ⟨haccepted, hunconsumed⟩, parseAttempt, require_pos h.attempt_parses]
    rfl
  obtain ⟨left, hmutate, hstored⟩ :=
    mutate_store h (fun db => failAttempt db input .FAILED run) hcallback rfl hid
      hparses
  exact ⟨left, _, _, by rw [failWith, hmutate], hstored, hreported, hmirrors⟩

/-! ## The phases -/

/-- The records between the dispatch and the binding. -/
def IsDispatched (assignment : RunAssignment) (attempt : AgentAttempt) : Prop :=
  isUnused assignment ∧ attempt.status = .DISPATCHING ∧ attempt.runId = none ∧
    attempt.outputDigest = none

/-- The records while the bound Run is polled. -/
def IsPolled (runId : String) (assignment : RunAssignment) (attempt : AgentAttempt) : Prop :=
  assignment.status = .BOUND ∧ (attempt.status = .QUEUED ∨ attempt.status = .RUNNING) ∧
    (∃ id, attempt.runId = some id ∧ assignment.boundRunId = some id ∧ id.val = runId) ∧
    attempt.outputDigest = none

/-- The records of a Run that reported this output. -/
def IsCompleted (reports : List Answer) (runId : OpaqueId) (output : JsString)
    (assignment : RunAssignment) (attempt : AgentAttempt) : Prop :=
  assignment.status = .BOUND ∧ attempt.status = .COMPLETED ∧ attempt.runId = some runId ∧
    attempt.outputDigest = some (sha256Digest output) ∧
    ∃ run, .polled (some run) ∈ reports ∧ run.id = runId.val ∧ run.output = some output

/-- What is stored in each phase. That the assignment of a rejected dispatch is
rejected, and that of a resolved one is bound, is part of it. -/
def Fits (reports : List Answer) (phase : Phase) (assignment : RunAssignment)
    (attempt : AgentAttempt) : Prop :=
  match phase with
  | .start => isUnused assignment ∧
      attempt = Service.initialAttemptForAssignment assignment attempt.attemptId
  | .verifying _ | .sending _ | .binding _ _ => IsDispatched assignment attempt
  | .polling _ runId _ => IsPolled runId assignment attempt
  | .waiting _ runId _ run => IsPolled runId assignment attempt ∧ .polled (some run) ∈ reports
  | .completed _ held runId output =>
      held = attempt ∧ IsCompleted reports runId output assignment attempt
  | .resolved observation => observation.attempt = attempt ∧
      IsCompleted reports observation.runId observation.output assignment attempt
  | .rejected _ => assignment.status = .REJECTED

omit [Sha256] in
theorem IsDispatched.isOpen (h : IsDispatched assignment attempt) :
    attemptStatusRank attempt.status < 4 ∧ assignment.status ≠ .CONSUMED := by
  obtain ⟨⟨hcreated, -⟩, hstatus, -⟩ := h
  rw [hstatus, hcreated]
  decide

omit [Sha256] in
theorem IsPolled.isOpen {runId : String} (h : IsPolled runId assignment attempt) :
    attemptStatusRank attempt.status < 4 ∧ assignment.status ≠ .CONSUMED := by
  obtain ⟨hbound, hstatus, -⟩ := h
  rw [hbound]
  rcases hstatus with hstatus | hstatus <;> rw [hstatus] <;> decide

/-- What a report asks for, if it passes its own checks: an open Run, a
completed one with an output, or one that has ended with a completion time. -/
inductive Targets (run : AgentRun) : RunTarget → Prop
  | opened {status : AttemptState} {startedAt : Option Timestamp}
      (hopen : run.status = .queued ∨ run.status = .running)
      (hstatus : status = .QUEUED ∨ status = .RUNNING) :
      Targets run ⟨status, startedAt, none, none⟩
  | completed {startedAt completedAt : Option Timestamp} {output : JsString}
      (hended : run.status = .completed) (houtput : run.output = some output) :
      Targets run ⟨.COMPLETED, startedAt, completedAt, some (sha256Digest output)⟩
  | ended {status : AttemptState} {startedAt : Option Timestamp} {completedAt : Timestamp}
      (hstatus : status = .FAILED ∨ status = .INTERRUPTED)
      (hcompleted : run.completedAt = some (.valid completedAt)) :
      Targets run ⟨status, startedAt, some completedAt, none⟩

omit [Sha256] in
theorem validTime_cases {time : Option RunTime} (h : isValidTime time) (hreported : time ≠ none) :
    ∃ timestamp, time = some (.valid timestamp) := by
  obtain ⟨reported, rfl⟩ := Option.ne_none_iff_exists'.mp hreported
  have hvalid := h reported rfl
  cases reported with
  | valid timestamp => exact ⟨timestamp, rfl⟩
  | invalid text => cases hvalid

theorem targetAttemptFromRun_cases {run : AgentRun} {target : RunTarget}
    (h : targetAttemptFromRun run = .ok target) : Targets run target := by
  unfold targetAttemptFromRun at h
  obtain ⟨_, htimes, h⟩ := bind_eq_ok.mp h
  obtain ⟨-, hcompletion, -⟩ := require_eq_ok.mp htimes
  cases hstatus : run.status with
  | queued =>
    simp only [hstatus, bind_eq_ok, require_eq_ok, pure_eq_ok] at h
    obtain ⟨-, -, rfl⟩ := h
    exact .opened (.inl hstatus) (.inl rfl)
  | running =>
    simp only [hstatus, bind_eq_ok, require_eq_ok, pure_eq_ok] at h
    obtain ⟨-, -, rfl⟩ := h
    exact .opened (.inr hstatus) (.inr rfl)
  | completed =>
    simp only [hstatus, bind_eq_ok, require_eq_ok, orStop_eq_ok, pure_eq_ok] at h
    obtain ⟨-, -, output, houtput, rfl⟩ := h
    exact .completed hstatus houtput
  | failed =>
    simp only [hstatus, bind_eq_ok, require_eq_ok, pure_eq_ok] at h
    obtain ⟨-, hreported, rfl⟩ := h
    obtain ⟨timestamp, hvalid⟩ := validTime_cases hcompletion hreported
    rw [hvalid]
    exact .ended (.inl rfl) hvalid
  | cancelled =>
    simp only [hstatus, bind_eq_ok, require_eq_ok, pure_eq_ok] at h
    obtain ⟨-, hreported, rfl⟩ := h
    obtain ⟨timestamp, hvalid⟩ := validTime_cases hcompletion hreported
    rw [hvalid]
    exact .ended (.inr rfl) hvalid

/-- What an accepted report of the bound Run leaves. -/
inductive Mirrored (run : AgentRun) (assignment : RunAssignment) (attempt : AgentAttempt) : Prop
  | opened (isOpen : run.status = .queued ∨ run.status = .running)
      (polled : IsPolled run.id assignment attempt)
  | completed {output : JsString} (ended : run.status = .completed)
      (bound : assignment.status = .BOUND)
      (status : attempt.status = .COMPLETED)
      (runId : attempt.runId.map OpaqueId.val = some run.id)
      (reported : run.output = some output)
      (digest : attempt.outputDigest = some (sha256Digest output))
  | ended {completedAt : Timestamp} (rejected : assignment.status = .REJECTED)
      (status : attempt.status = .FAILED ∨ attempt.status = .INTERRUPTED)
      (runId : attempt.runId.map OpaqueId.val = some run.id)
      (reported : run.completedAt = some (.valid completedAt))
      (stored : attempt.runCompletedAt = some completedAt)

theorem mirrorRun_cases (h : Stored input database assignment attempt) {run : AgentRun}
    (hpolled : IsPolled run.id assignment attempt) {agentId : OpaqueId}
    {written : EpochDatabase × AgentAttempt}
    (hmirror : mirrorRun database input agentId run = .ok written) :
    ∃ assignment' attempt', store database assignment' attempt' = .ok written ∧
      assignment'.assignmentId = assignment.assignmentId ∧
      attempt'.attemptId = attempt.attemptId ∧ Mirrors attempt attempt' ∧
      Mirrored run assignment' attempt' := by
  obtain ⟨hopen, -⟩ := hpolled.isOpen
  obtain ⟨hbound, -, ⟨id, hid, hboundId, hval⟩, hdigest⟩ := hpolled
  have hnone := open_evidence h.attempt_parses hopen
  simp only [mirrorRun, bind_eq_ok, orStop_eq_ok, require_eq_ok, h.records, Except.ok.injEq,
    Prod.exists, Prod.mk.injEq] at hmirror
  obtain ⟨runId, hrunId, _, _, target, htarget, _, _, ⟨rfl, rfl⟩, _, hsame, _, hrank, _, -, _, -, _,
    -, _, -, usage, -, hstore⟩ := hmirror
  refine ⟨_, _, hstore, rfl, rfl, ⟨hrank, ?_, fun _ => rfl, ?_, ?_, ?_⟩, ?_⟩
  · intro hterminal
    exact absurd hterminal (Nat.ne_of_lt hopen)
  · intro hstarted
    obtain ⟨startedAt, hstarted⟩ := Option.ne_none_iff_exists'.mp hstarted
    simp [hstarted]
  · exact fun hcompleted => absurd hnone hcompleted
  · exact fun houtput => absurd hdigest houtput
  -- the status that the report asks for decides what is left
  · cases targetAttemptFromRun_cases htarget with
    | opened hopen hstatus =>
      refine .opened hopen ⟨?_, hstatus, ⟨id, hid, hboundId, hval⟩, rfl⟩
      rcases hstatus with rfl | rfl <;> simpa using hbound
    | completed hended houtput =>
      exact .completed hended hbound rfl (by simp [hid, hval]) houtput rfl
    | ended hstatus hcompleted =>
      refine .ended ?_ hstatus (by simp [hid, hval]) hcompleted (by simp [hnone])
      exact if_pos hstatus

/-- What one step keeps: the records fit the phase, and the attempt goes on as
the mirror of its Run. -/
def Keeps (input : DispatchBindPollInput) (reports : List Answer) (attempt : AgentAttempt)
    (state : EpochDatabase × Phase) : Prop :=
  ∃ assignment' attempt', Stored input state.1 assignment' attempt' ∧
    Fits reports state.2 assignment' attempt' ∧ ReportedIn reports attempt' ∧
    Mirrors attempt attempt'

theorem failWith_keeps (h : Stored input database assignment attempt) {run : Option AgentRun}
    {reports : List Answer}
    (hopen : attemptStatusRank attempt.status < 4 ∧ assignment.status ≠ .CONSUMED)
    (hreports : ∀ r ∈ run, .polled (some r) ∈ reports) (code : FailureCode) (message : String) :
    Keeps input reports attempt (failWith database input run code message) := by
  obtain ⟨left, failure, attempt', hfail, hstored, hreported, hmirrors⟩ :=
    failWith_rejects h hopen.1 hopen.2 hreports code message
  rw [hfail]
  exact ⟨_, attempt', hstored, rfl, hreported, hmirrors⟩

omit [Sha256] in
theorem reportedIn_of_open {reports : List Answer}
    (h : attempt.status ≠ .FAILED ∧ attempt.status ≠ .INTERRUPTED) : ReportedIn reports attempt :=
  fun hfailed => (hfailed.elim h.1 h.2).elim

theorem begin_keeps {reports : List Answer} (h : Stored input database assignment attempt)
    (hfits : Fits reports .start assignment attempt) :
    Keeps input reports attempt (begin database input) := by
  obtain ⟨hunused, hfresh⟩ := hfits
  have hstatus : attempt.status = .ASSIGNMENT_CREATED := by rw [hfresh]; rfl
  have hrun : attempt.runId = none := by rw [hfresh]; rfl
  have hcontext : attempt.assignmentId = assignment.assignmentId ∧
      attempt.sessionId = assignment.sessionId ∧ attempt.actionHash = assignment.actionHash ∧
      attempt.role = assignment.role ∧ attempt.agentId = assignment.agentId := by
    rw [hfresh]
    exact ⟨rfl, rfl, rfl, rfl, rfl⟩
  have hcallback : transitionToDispatching database input =
      store database assignment { attempt with status := .DISPATCHING } := by
    unfold transitionToDispatching
    rw [h.records]
    show (parseAttempt attempt >>= fun _ => require _ _ >>= fun _ => require _ _ >>= fun _ => _) = _
    rw [parseAttempt, require_pos h.attempt_parses, require_pos ⟨hunused, hstatus, hrun⟩,
      require_pos hcontext]
    rfl
  have hparses : ({ attempt with status := .DISPATCHING } : AgentAttempt).parses := by
    rw [hfresh]
    exact ⟨⟨by simp [timestampsOrdered, Service.initialAttemptForAssignment], rfl⟩,
      by simp [threadIdParses, Service.initialAttemptForAssignment]⟩
  obtain ⟨left, hmutate, hstored⟩ :=
    mutate_store h (fun db => transitionToDispatching db input) hcallback rfl rfl
      hparses
  rw [begin, hmutate]
  simp only [hstored.records]
  refine ⟨_, _, hstored, ⟨hunused, rfl, hrun, by rw [hfresh]; rfl⟩,
    reportedIn_of_open ⟨by simp, by simp⟩, ⟨?_, ?_, fun _ => rfl, fun _ => rfl, fun _ => rfl,
      fun _ => rfl⟩⟩
  · rw [hstatus]
    exact Nat.zero_le _
  · intro hterminal
    simp [hstatus, attemptStatusRank] at hterminal

theorem bindRun_keeps {reports : List Answer} (h : Stored input database assignment attempt)
    (hfits : IsDispatched assignment attempt) (dispatched : RunAssignment) (run : AgentRun)
    (now : RunTime) (monotonicMs : Int) :
    Keeps input reports attempt (bindRun database input dispatched run now monotonicMs) := by
  have hopen := hfits.isOpen
  obtain ⟨hunused, hstatus, hrun, hdigest⟩ := hfits
  unfold bindRun
  generalize hmutate : mutate database _ = bound
  obtain ⟨left, result⟩ := bound
  rcases mutate_ok hmutate with ⟨written, t, hbind, rfl, rfl, hparses⟩ | ⟨failure, rfl, rfl⟩
  · obtain ⟨boundAt, -, hbind⟩ := bind_eq_ok.mp hbind
    simp only [bindRunOnce, bind_eq_ok, orStop_eq_ok, require_eq_ok, h.records, Except.ok.injEq,
      Prod.exists, Prod.mk.injEq] at hbind
    obtain ⟨_, _, ⟨rfl, rfl⟩, _, -, _, -, runId, hrunId, hstore⟩ := hbind
    obtain ⟨rfl, hstored⟩ := h.written hstore rfl rfl
    have hval : runId.val = run.id := OpaqueId.parse?_eq_some.mp hrunId
    refine ⟨_, _, hstored, ⟨rfl, .inl rfl, ⟨runId, rfl, rfl, hval⟩, hdigest⟩,
      reportedIn_of_open ⟨by simp, by simp⟩, ⟨?_, ?_, ?_, fun _ => rfl, fun _ => rfl,
        fun _ => rfl⟩⟩
    · rw [hstatus]
      exact Nat.le_succ 1
    · intro hterminal
      simp [hstatus, attemptStatusRank] at hterminal
    · exact fun hsome => absurd hrun hsome
  · exact failWith_keeps h hopen (by simp) _ _

theorem pollRun_keeps {reports : List Answer} (h : Stored input database assignment attempt)
    {runId : String} (hfits : IsPolled runId assignment attempt) (dispatched : RunAssignment)
    (pollingStartedAt : Int) {reported : Option AgentRun} (hreports : .polled reported ∈ reports) :
    Keeps input reports attempt
      (pollRun database input dispatched runId pollingStartedAt reported) := by
  have hopen := hfits.isOpen
  unfold pollRun
  split
  · exact failWith_keeps h hopen (by simp) _ _
  rename_i run hobserved
  obtain ⟨rfl, rfl⟩ : reported = some run ∧ run.id = runId := by
    simp only [observedRun, validateRunIdentity, bind_eq_ok, orStop_eq_ok, require_eq_ok,
      pure_eq_ok] at hobserved
    obtain ⟨_, hreported, _, ⟨_, _, _, hsame⟩, rfl⟩ := hobserved
    exact ⟨hreported, hsame runId rfl⟩
  generalize hmutate : mutate database _ = mirrored
  obtain ⟨left, result⟩ := mirrored
  rcases mutate_ok hmutate with ⟨written, t, hmirror, rfl, rfl, -⟩ | ⟨failure, rfl, rfl⟩
  · obtain ⟨assignment', attempt', hstore, hassignment, hattempt, hmirrors, hcases⟩ :=
      mirrorRun_cases h hfits hmirror
    obtain ⟨rfl, hstored⟩ := h.written hstore hassignment hattempt
    cases hcases with
    | opened _ polled =>
      have hpolled := polled
      obtain ⟨-, status, -⟩ := polled
      rcases status with status | status <;> simp only [status] <;>
        exact ⟨_, _, hstored, ⟨hpolled, hreports⟩,
          reportedIn_of_open ⟨by simp [status], by simp [status]⟩, hmirrors⟩
    | completed _ bound status bindsRun houtput digest =>
      obtain ⟨id, hid, hval⟩ := Option.map_eq_some_iff.mp bindsRun
      simp only [status, hid, houtput]
      exact ⟨_, _, hstored, ⟨rfl, bound, status, hid, digest, run, hreports, hval.symm, houtput⟩,
        reportedIn_of_open ⟨by simp [status], by simp [status]⟩, hmirrors⟩
    | @ended completedAt rejected status bindsRun hcompleted hstoredAt =>
      have hreported : ReportedIn reports attempt' := by
        intro _ id hid
        rw [hid] at bindsRun
        exact ⟨run, completedAt, hreports, (Option.some.inj bindsRun).symm, hcompleted, hstoredAt⟩
      rcases status with status | status <;> simp only [status] <;>
        exact ⟨_, _, hstored, rejected, hreported, hmirrors⟩
  · exact failWith_keeps h hopen (fun r hr => by rwa [Option.mem_some_iff.mp hr] at hreports) _ _

theorem rejectOutput_keeps {reports : List Answer} {runId : OpaqueId} {output : JsString}
    (h : Stored input database assignment attempt)
    (hfits : IsCompleted reports runId output assignment attempt) :
    Keeps input reports attempt (rejectOutput database input) := by
  obtain ⟨hbound, hstatus, hrun, -, -⟩ := hfits
  have hcallback : rejectCompletedOutput database input =
      store database { assignment with status := .REJECTED }
        { attempt with status := .OUTPUT_REJECTED } := by
    unfold rejectCompletedOutput
    rw [h.records]
    show (require _ _ >>= fun _ => _) = _
    rw [require_pos ⟨hbound, hstatus⟩]
    rfl
  have hparses : ({ attempt with status := .OUTPUT_REJECTED } : AgentAttempt).parses := by
    have hold := h.attempt_parses
    simp only [AgentAttempt.parses, attemptTimelineIsValid, hstatus] at hold ⊢
    exact hold
  obtain ⟨left, hmutate, hstored⟩ :=
    mutate_store h (fun db => rejectCompletedOutput db input) hcallback rfl rfl hparses
  rw [rejectOutput, hmutate]
  refine ⟨_, _, hstored, rfl, reportedIn_of_open ⟨by simp, by simp⟩, ⟨?_, ?_, fun _ => rfl,
    fun _ => rfl, fun _ => rfl, fun _ => rfl⟩⟩
  · rw [hstatus]
    exact le_rfl
  · exact fun _ => .inr ⟨hstatus, rfl⟩

/-! ## Runs of the dispatch -/

omit [Sha256] in
theorem Mirrors.trans {first second third : AgentAttempt} (h : Mirrors first second)
    (h' : Mirrors second third) : Mirrors first third where
  rank := h.rank.trans h'.rank
  terminal := by
    intro hterminal
    rcases h.terminal hterminal with hsame | ⟨hcompleted, hrejected⟩
    · have hlater := h'.terminal (hsame ▸ hterminal)
      rwa [hsame] at hlater
    · rcases h'.terminal (by rw [hrejected]; rfl) with hsame | ⟨hagain, -⟩
      · exact .inr ⟨hcompleted, hsame.trans hrejected⟩
      · rw [hrejected] at hagain
        cases hagain
  runId := fun hset => (h'.runId (h.runId hset ▸ hset)).trans (h.runId hset)
  startedAt := fun hset => (h'.startedAt (h.startedAt hset ▸ hset)).trans (h.startedAt hset)
  completedAt := fun hset =>
    (h'.completedAt (h.completedAt hset ▸ hset)).trans (h.completedAt hset)
  output := fun hset => (h'.output (h.output hset ▸ hset)).trans (h.output hset)

omit [Sha256] in
theorem ReportedIn.mono {reports later : List Answer} (h : ReportedIn reports attempt)
    (hsub : reports ⊆ later) : ReportedIn later attempt := by
  intro hfailed runId hid
  obtain ⟨run, timestamp, hmem, hrun⟩ := h hfailed runId hid
  exact ⟨run, timestamp, hsub hmem, hrun⟩

theorem IsCompleted.mono {reports later : List Answer} {runId : OpaqueId} {output : JsString}
    (h : IsCompleted reports runId output assignment attempt) (hsub : reports ⊆ later) :
    IsCompleted later runId output assignment attempt := by
  obtain ⟨hbound, hstatus, hid, hdigest, run, hmem, hrun⟩ := h
  exact ⟨hbound, hstatus, hid, hdigest, run, hsub hmem, hrun⟩

theorem Fits.mono {reports later : List Answer} {phase : Phase}
    (h : Fits reports phase assignment attempt) (hsub : reports ⊆ later) :
    Fits later phase assignment attempt := by
  cases phase with
  | waiting dispatched runId pollingStartedAt run => exact ⟨h.1, hsub h.2⟩
  | completed dispatched held runId output => exact ⟨h.1, h.2.mono hsub⟩
  | resolved observation => exact ⟨h.1, h.2.mono hsub⟩
  | start | verifying | sending | binding | polling | rejected => exact h

/-- One answer keeps the records fitting, whatever it is. -/
theorem dispatchStep_keeps {timeoutMs : Nat} {reports : List Answer} {phase : Phase}
    {answer : Answer} {next : EpochDatabase × Phase}
    (h : Stored input database assignment attempt) (hfits : Fits reports phase assignment attempt)
    (hreported : ReportedIn reports attempt)
    (hstep : dispatchStep input timeoutMs (database, phase) answer = some next) :
    Keeps input (reports ++ [answer]) attempt next := by
  have hsub : reports ⊆ reports ++ [answer] := List.subset_append_left _ _
  have hstay : ∀ phase', Fits (reports ++ [answer]) phase' assignment attempt →
      Keeps input (reports ++ [answer]) attempt (database, phase') :=
    fun phase' hfits' => ⟨_, _, h, hfits', hreported.mono hsub, .refl _⟩
  replace hfits := hfits.mono hsub
  unfold dispatchStep at hstep
  dsimp only at hstep
  split at hstep
  -- `begin`
  · obtain rfl := Option.some.inj hstep
    exact begin_keeps h hfits
  -- the profile before the dispatch
  · obtain rfl := Option.some.inj hstep
    split_ifs
    · exact hstay _ hfits
    · exact failWith_keeps h (IsDispatched.isOpen hfits) (by simp) _ _
  -- `sendMessage`
  · obtain rfl := Option.some.inj hstep
    split
    · exact hstay _ hfits
    · exact failWith_keeps h (IsDispatched.isOpen hfits) (by simp) _ _
  -- `bindRunOnce`
  · obtain rfl := Option.some.inj hstep
    exact bindRun_keeps h hfits _ _ _ _
  -- `getRun` and `mirrorRun`
  · obtain rfl := Option.some.inj hstep
    exact pollRun_keeps h hfits _ _ (by simp)
  -- the timeout
  · rename_i dispatched runId pollingStartedAt run monotonicMs
    obtain rfl := Option.some.inj hstep
    split_ifs
    · refine failWith_keeps h hfits.1.isOpen (fun r hr => ?_) _ _
      obtain rfl := Option.mem_some_iff.mp hr
      exact hfits.2
    · exact hstay _ hfits.1
  -- the profile after the dispatch
  · obtain rfl := Option.some.inj hstep
    split_ifs
    · exact hstay _ hfits
    · exact rejectOutput_keeps h hfits.2
  -- other tasks
  · split_ifs at hstep with hothers
    obtain rfl := Option.some.inj hstep
    exact ⟨_, _, h.leavesAlone hothers.2, hfits, hreported.mono hsub, .refl _⟩
  -- any other answer
  · cases hstep

theorem dispatchRun_keeps {timeoutMs : Nat} {answers reports : List Answer}
    {state next : EpochDatabase × Phase} (h : Stored input state.1 assignment attempt)
    (hfits : Fits reports state.2 assignment attempt) (hreported : ReportedIn reports attempt)
    (hrun : run (dispatchStep input timeoutMs) state answers = some next) :
    Keeps input (reports ++ answers) attempt next := by
  induction answers generalizing state reports assignment attempt with
  | nil =>
    rw [run_nil] at hrun
    rw [List.append_nil]
    exact hrun ▸ ⟨_, _, h, hfits, hreported, .refl _⟩
  | cons answer answers ih =>
    obtain ⟨middle, hstep, hrest⟩ := run_cons.mp hrun
    obtain ⟨assignment', attempt', hstored, hfits', hreported', hmirrors⟩ :=
      dispatchStep_keeps h hfits hreported hstep
    obtain ⟨assignment'', attempt'', hstored', hfits'', hreported'', hmirrors'⟩ :=
      ih hstored hfits' hreported' hrest
    rw [List.append_assoc, List.singleton_append] at hfits'' hreported''
    exact ⟨assignment'', attempt'', hstored', hfits'', hreported'', hmirrors.trans hmirrors'⟩

/-! ## The calls of the dispatch -/

section Calls

variable [DecisionParser.OutputPorts]

/-- A step leaves the store alone, or publishes what one of its calls leaves. -/
def Publishes (database left : EpochDatabase) : Prop :=
  left = database ∨ ∃ call, Service.publish database call = some left

theorem mutate_publishes {callback : EpochDatabase → Observed (EpochDatabase × AgentAttempt)}
    {left : EpochDatabase} {result : Observed AgentAttempt} (call : Service.Call)
    (hcall : call.leaves database = ((callback database).map Prod.fst).toOption)
    (h : mutate database callback = (left, result)) : Publishes database left := by
  rcases mutate_ok h with ⟨written, t, hcallback, -, rfl, hparses⟩ | ⟨-, -, rfl⟩
  · refine .inr ⟨call, Service.publish_eq_some.mpr ⟨written, ?_, hparses, rfl⟩⟩
    rw [hcall, hcallback]
    rfl
  · exact .inl rfl

theorem failWith_publishes (run : Option AgentRun) (code : FailureCode) (message : String) :
    Publishes database (failWith database input run code message).1 := by
  unfold failWith
  generalize hmutate : mutate database _ = failed
  obtain ⟨left, result⟩ := failed
  have hpublishes := mutate_publishes (.failAttempt input .FAILED run)
    (by simp [Service.Call.leaves]) hmutate
  cases result <;> exact hpublishes

theorem begin_publishes : Publishes database (begin database input).1 := by
  unfold begin
  generalize hmutate : mutate database _ = begun
  obtain ⟨left, result⟩ := begun
  have hpublishes := mutate_publishes (.transitionToDispatching input) rfl hmutate
  cases result with
  | error failure => exact hpublishes
  | ok attempt =>
    dsimp only
    split <;> exact hpublishes

theorem bindRun_publishes (dispatched : RunAssignment) (run : AgentRun) (now : RunTime)
    (monotonicMs : Int) :
    Publishes database (bindRun database input dispatched run now monotonicMs).1 := by
  unfold bindRun
  generalize hmutate : mutate database _ = bound
  obtain ⟨left, result⟩ := bound
  rcases mutate_ok hmutate with ⟨written, t, hbind, rfl, rfl, hparses⟩ | ⟨failure, rfl, rfl⟩
  · obtain ⟨boundAt, -, hbind⟩ := bind_eq_ok.mp hbind
    refine .inr ⟨.bindRunOnce input run boundAt, Service.publish_eq_some.mpr
      ⟨written, ?_, hparses, rfl⟩⟩
    simp [Service.Call.leaves, hbind, Except.map, Except.toOption]
  · exact failWith_publishes _ _ _

theorem pollRun_publishes (dispatched : RunAssignment) (runId : String) (pollingStartedAt : Int)
    (reported : Option AgentRun) :
    Publishes database (pollRun database input dispatched runId pollingStartedAt reported).1 := by
  unfold pollRun
  split
  · exact failWith_publishes _ _ _
  rename_i run hobserved
  generalize hmutate : mutate database _ = mirrored
  obtain ⟨left, result⟩ := mirrored
  have hpublishes :=
    mutate_publishes (.mirrorRun input dispatched.agentId run) rfl hmutate
  rcases mutate_ok hmutate with ⟨-, t, -, rfl, -, -⟩ | ⟨failure, rfl, rfl⟩
  · dsimp only
    split <;> exact hpublishes
  · exact failWith_publishes _ _ _

theorem rejectOutput_publishes : Publishes database (rejectOutput database input).1 := by
  unfold rejectOutput
  generalize hmutate : mutate database _ = rejected
  obtain ⟨left, result⟩ := rejected
  have hpublishes := mutate_publishes (.rejectCompletedOutput input) rfl hmutate
  cases result <;> exact hpublishes

end Calls

/-! ## The end of the dispatch -/

/-- The answer that a phase waits for. -/
def Phase.awaits : Phase → Answer → Bool
  | .start, .begin => true
  | .verifying _, .profile _ => true
  | .sending _, .sent _ => true
  | .binding _ _, .bound _ _ => true
  | .polling _ _ _, .polled _ => true
  | .waiting _ _ _ _, .elapsed _ => true
  | .completed _ _ _ _, .profile _ => true
  | _, _ => false

/-- How far the dispatch has come. -/
def Phase.stage : Phase → Nat
  | .start => 0
  | .verifying _ => 1
  | .sending _ => 2
  | .binding _ _ => 3
  | .polling _ _ _ => 4
  | .waiting _ _ _ _ => 4
  | .completed _ _ _ _ => 5
  | .resolved _ => 6
  | .rejected _ => 6

/-- An answer after which the loop may go on: the Run is reported as open, or
the time is not up. -/
def Phase.pollsOn (timeoutMs : Nat) : Phase → Answer → Prop
  | .polling _ _ _, .polled (some run) => run.status = .queued ∨ run.status = .running
  | .waiting _ _ pollingStartedAt _, .elapsed monotonicMs =>
      monotonicMs - pollingStartedAt < timeoutMs
  | _, _ => False

/-- An answer that makes the dispatch fail: a profile that does not hold, a call
that threw or returned another Run than it should, a Run that has failed or was
cancelled, or the time being up. -/
def Phase.failsOn (timeoutMs : Nat) : Phase → Answer → Prop
  | .verifying _, .profile holds => holds = false
  | .sending assignment, .sent sent => ∀ run, dispatchedRun assignment sent ≠ .ok run
  | .polling assignment runId _, .polled reported =>
      ∀ run, observedRun assignment runId reported = .ok run →
        run.status = .failed ∨ run.status = .cancelled
  | .waiting _ _ pollingStartedAt _, .elapsed monotonicMs =>
      timeoutMs ≤ monotonicMs - pollingStartedAt
  | .completed _ _ _ _, .profile holds => holds = false
  | _, _ => False

/-- The awaited answer never finds the dispatch stuck: it takes it further, but
for a poll that goes on, and a failing one ends it. -/
def Proceeds [DecisionParser.OutputPorts] (input : DispatchBindPollInput) (timeoutMs : Nat)
    (state : EpochDatabase × Phase) : Prop :=
  ∀ answer, state.2.awaits answer = true →
    ∃ next, dispatchStep input timeoutMs state answer = some next ∧
      Publishes state.1 next.1 ∧
      (state.2.stage < next.2.stage ∨ state.2.pollsOn timeoutMs answer ∧ next.2.stage = 4) ∧
      (state.2.failsOn timeoutMs answer → ∃ failure, next.2 = .rejected failure)

theorem failWith_rejected (run : Option AgentRun) (code : FailureCode) (message : String) :
    ∃ failure, (failWith database input run code message).2 = .rejected failure := by
  unfold failWith
  split <;> exact ⟨_, rfl⟩

theorem begin_stage : 0 < (begin database input).2.stage := by
  unfold begin
  split
  · split <;> simp [Phase.stage]
  · simp [Phase.stage]

theorem bindRun_stage (dispatched : RunAssignment) (run : AgentRun) (now : RunTime)
    (monotonicMs : Int) : 3 < (bindRun database input dispatched run now monotonicMs).2.stage := by
  unfold bindRun
  dsimp only
  split
  · simp [Phase.stage]
  · obtain ⟨failure, hfailed⟩ := @failWith_rejected _ input _ none .BINDING_MISMATCH
      "Assignment rejected a second or stale Run binding"
    rw [hfailed]
    simp [Phase.stage]

theorem rejectOutput_rejected : ∃ failure, (rejectOutput database input).2 = .rejected failure := by
  unfold rejectOutput
  split <;> exact ⟨_, rfl⟩

/-- A poll goes on while the Run is open; the report of a Run that has ended ends
the polling. -/
theorem pollRun_proceeds (h : Stored input database assignment attempt) {runId : String}
    (hfits : IsPolled runId assignment attempt) (dispatched : RunAssignment)
    (pollingStartedAt : Int) (reported : Option AgentRun) (timeoutMs : Nat) :
    let phase := Phase.polling dispatched runId pollingStartedAt
    let next := pollRun database input dispatched runId pollingStartedAt reported
    (4 < next.2.stage ∨ phase.pollsOn timeoutMs (.polled reported) ∧ next.2.stage = 4) ∧
      (phase.failsOn timeoutMs (.polled reported) → ∃ failure, next.2 = .rejected failure) := by
  intro phase next
  have hrejected : ∀ last : Phase, (∃ failure, last = .rejected failure) →
      (4 < last.stage ∨ phase.pollsOn timeoutMs (.polled reported) ∧ last.stage = 4) ∧
      (phase.failsOn timeoutMs (.polled reported) → ∃ failure, last = .rejected failure) := by
    rintro last ⟨failure, rfl⟩
    exact ⟨.inl (by simp [Phase.stage]), fun _ => ⟨failure, rfl⟩⟩
  show (4 < next.2.stage ∨ _) ∧ _
  unfold next pollRun
  split
  · exact hrejected _ (failWith_rejected _ _ _)
  rename_i run hobserved
  obtain ⟨rfl, rfl⟩ : reported = some run ∧ run.id = runId := by
    simp only [observedRun, validateRunIdentity, bind_eq_ok, orStop_eq_ok, require_eq_ok,
      pure_eq_ok] at hobserved
    obtain ⟨_, hreported, _, ⟨_, _, _, hsame⟩, rfl⟩ := hobserved
    exact ⟨hreported, hsame runId rfl⟩
  have hended : phase.failsOn timeoutMs (.polled (some run)) →
      run.status = .failed ∨ run.status = .cancelled := fun hfails => hfails run hobserved
  generalize hmutate : mutate database _ = mirrored
  obtain ⟨left, result⟩ := mirrored
  rcases mutate_ok hmutate with ⟨written, t, hmirror, rfl, rfl, -⟩ | ⟨failure, rfl, rfl⟩
  · obtain ⟨assignment', attempt', hstore, -, -, -, hcases⟩ := mirrorRun_cases h hfits hmirror
    obtain ⟨-, hwritten⟩ := store_eq_ok.mp hstore
    obtain ⟨-, rfl⟩ := Prod.mk.inj hwritten
    cases hcases with
    | opened isOpen polled =>
      obtain ⟨-, status, -⟩ := polled
      -- a Run that is still open has reported no failure
      have hstays : ¬phase.failsOn timeoutMs (.polled (some run)) := by
        intro hfails
        rcases isOpen with hopen | hopen <;> simpa [hopen] using hended hfails
      rcases status with status | status <;> simp only [status] <;>
        exact ⟨.inr ⟨isOpen, rfl⟩, fun hfails => absurd hfails hstays⟩
    | completed ended _ status bindsRun houtput =>
      obtain ⟨id, hid, -⟩ := Option.map_eq_some_iff.mp bindsRun
      simp only [status, hid, houtput]
      refine ⟨.inl (by simp [Phase.stage]), fun hfails => ?_⟩
      simpa [ended] using hended hfails
    | ended _ status =>
      rcases status with status | status <;> simp only [status] <;>
        exact hrejected _ ⟨_, rfl⟩
  · exact hrejected _ (failWith_rejected _ _ _)

/-- A failure takes an open phase to its end. -/
theorem failWith_proceeds [DecisionParser.OutputPorts] {n : Nat} {polls fails : Prop}
    (hn : n < 6) (run : Option AgentRun) (code : FailureCode) (message : String) :
    let next := failWith database input run code message
    Publishes database next.1 ∧ (n < next.2.stage ∨ polls) ∧
      (fails → ∃ failure, next.2 = .rejected failure) := by
  obtain ⟨failure, hfailure⟩ := @failWith_rejected _ input database run code message
  refine ⟨failWith_publishes _ _ _, .inl ?_, fun _ => ⟨failure, hfailure⟩⟩
  rw [hfailure]
  exact hn

/-- No phase that a dispatch reaches is stuck. -/
theorem dispatchStep_proceeds [DecisionParser.OutputPorts] {timeoutMs : Nat}
    {reports : List Answer} {phase : Phase} (h : Stored input database assignment attempt)
    (hfits : Fits reports phase assignment attempt) :
    Proceeds input timeoutMs (database, phase) := by
  intro answer hawaits
  cases phase <;> cases answer <;> simp only [Phase.awaits, Bool.false_eq_true] at hawaits
  case start.begin => exact ⟨_, rfl, begin_publishes, .inl begin_stage, fun h => h.elim⟩
  case verifying.profile dispatched holds =>
    refine ⟨_, rfl, ?_⟩
    cases holds
    · exact failWith_proceeds (by simp [Phase.stage]) _ _ _
    · exact ⟨.inl rfl, .inl (Nat.lt_succ_self 1), fun h => by cases h⟩
  case sending.sent dispatched sent =>
    refine ⟨_, rfl, ?_⟩
    cases hsent : dispatchedRun dispatched sent with
    | error failure =>
      exact failWith_proceeds (by simp [Phase.stage]) _ _ _
    | ok run => exact ⟨.inl rfl, .inl (Nat.lt_succ_self 2), fun h => absurd hsent (h run)⟩
  case binding.bound dispatched run now monotonicMs =>
    exact ⟨_, rfl, bindRun_publishes _ _ _ _, .inl (bindRun_stage _ _ _ _), fun h => h.elim⟩
  case polling.polled dispatched runId pollingStartedAt reported =>
    obtain ⟨hstage, hfails⟩ :=
      pollRun_proceeds h hfits dispatched pollingStartedAt reported timeoutMs
    exact ⟨_, rfl, pollRun_publishes _ _ _ _, hstage, hfails⟩
  case waiting.elapsed dispatched runId pollingStartedAt run monotonicMs =>
    refine ⟨_, rfl, ?_⟩
    -- the wait ends in another poll as long as there is time left
    by_cases htime : monotonicMs - pollingStartedAt ≥ timeoutMs
    · simp only [if_pos htime]
      exact failWith_proceeds (by simp [Phase.stage]) _ _ _
    · simp only [if_neg htime]
      exact ⟨.inl rfl, .inr ⟨Int.not_le.mp htime, rfl⟩, fun h => absurd h htime⟩
  case completed.profile dispatched held runId output holds =>
    refine ⟨_, rfl, ?_⟩
    obtain ⟨failure, hrejected⟩ := @rejectOutput_rejected _ input database
    cases holds
    · refine ⟨rejectOutput_publishes, .inl ?_, fun _ => ⟨failure, hrejected⟩⟩
      show 5 < (rejectOutput database input).2.stage
      rw [hrejected]
      exact Nat.lt_succ_self 5
    · exact ⟨.inl rfl, .inl (Nat.lt_succ_self 5), fun h => by cases h⟩

/-- Ports that answer every call, and no longer let the poll go on. -/
def Concludes (timeoutMs : Nat) (reply : Phase → Answer) : Prop :=
  ∀ phase : Phase, phase.isSettled = false →
    phase.awaits (reply phase) = true ∧ ¬phase.pollsOn timeoutMs (reply phase)

omit [Sha256] in
theorem Phase.isSettled_iff {phase : Phase} : phase.isSettled = true ↔ 6 ≤ phase.stage := by
  cases phase <;> simp [Phase.isSettled, Phase.stage]

/-- From wherever it is, a dispatch whose calls are answered settles in at most
six answers once its Run has ended or its time is up. -/
theorem dispatchRun_settles {timeoutMs : Nat} {reports : List Answer}
    {state : EpochDatabase × Phase} (h : Stored input state.1 assignment attempt)
    (hfits : Fits reports state.2 assignment attempt) (hreported : ReportedIn reports attempt)
    {reply : Phase → Answer} (hreply : Concludes timeoutMs reply) :
    ∃ more later, more.length ≤ 6 - state.2.stage ∧
      run (dispatchStep input timeoutMs) state more = some later ∧ later.2.isSettled = true := by
  let _ : DecisionParser.OutputPorts := ⟨fun _ => none, id⟩
  -- by induction on what is left of the way
  induction hleft : 6 - state.2.stage using Nat.strong_induction_on
    generalizing state reports assignment attempt with
  | _ left ih =>
    cases hsettled : state.2.isSettled with
    | true => exact ⟨[], state, Nat.zero_le _, rfl, hsettled⟩
    | false =>
      obtain ⟨hawaits, hends⟩ := hreply state.2 hsettled
      obtain ⟨next, hstep, -, hstage, -⟩ :=
        @dispatchStep_proceeds _ _ _ _ _ _ timeoutMs _ _ h hfits (reply state.2) hawaits
      have hfurther : state.2.stage < next.2.stage :=
        hstage.resolve_right fun hpolls => hends hpolls.1
      obtain ⟨assignment', attempt', hstored', hfits', hreported', -⟩ :=
        dispatchStep_keeps h hfits hreported hstep
      have hopen : ¬6 ≤ state.2.stage := by
        rw [← Phase.isSettled_iff, hsettled]
        exact Bool.false_ne_true
      obtain ⟨more, later, hlength, hrun, hlater⟩ :=
        ih (6 - next.2.stage) (by omega) hstored' hfits' hreported' rfl
      refine ⟨reply state.2 :: more, later, ?_, run_cons.mpr ⟨next, hstep, hrun⟩, hlater⟩
      rw [List.length_cons]
      omega

/-- What `dispatchBindPoll` leaves when it ends: it resolves with the output of
the completed attempt, or its assignment is rejected. -/
def Ends (answers : List Answer) (phase : Phase) (assignment : RunAssignment)
    (attempt : AgentAttempt) : Prop :=
  match phase with
  | .resolved observation =>
      observation.attempt = attempt ∧ attempt.status = .COMPLETED ∧
        attempt.runId = some observation.runId ∧
        attempt.outputDigest = some (sha256Digest observation.output) ∧
        assignment.status = .BOUND ∧
        ∃ run, .polled (some run) ∈ answers ∧ run.id = observation.runId.val ∧
          run.output = some observation.output
  | .rejected _ => assignment.status = .REJECTED
  | _ => True

/-- Whatever the ports and the clocks answer, the stored attempt of a dispatch
is at every moment a well-formed record of what its own Run reported, and it goes
on as the mirror of that Run. No answer that the dispatch waits for leaves it
stuck: a failing one rejects it, and once the Run has ended or the time is up it
settles, with the completed output or with its assignment rejected. -/
theorem dispatchBindPoll_mirrors [DecisionParser.OutputPorts] {timeoutMs : Nat}
    (hparses : database.parses)
    (hassignment : single? database.runAssignments
      (fun a => a.assignmentId = input.assignmentId) = some assignment)
    (hunused : isUnused assignment)
    (hattempt : single? database.attempts (fun t => t.attemptId = input.attemptId) =
      some (Service.initialAttemptForAssignment assignment input.attemptId))
    {answers : List Answer} {state : EpochDatabase × Phase}
    (hrun : run (dispatchStep input timeoutMs) (database, .start) answers = some state) :
    ∃ assignment' attempt', Stored input state.1 assignment' attempt' ∧ attempt'.parses ∧
      ReportedIn answers attempt' ∧ Ends answers state.2 assignment' attempt' ∧
      Proceeds input timeoutMs state ∧
      (∀ reply, Concludes timeoutMs reply → ∃ more later, more.length ≤ 6 ∧
        run (dispatchStep input timeoutMs) state more = some later ∧
        later.2.isSettled = true) ∧
      ∀ more later, run (dispatchStep input timeoutMs) state more = some later →
        ∃ assignment'' attempt'', Stored input later.1 assignment'' attempt'' ∧
          Mirrors attempt' attempt'' := by
  have hstored : Stored input database assignment
      (Service.initialAttemptForAssignment assignment input.attemptId) :=
    ⟨hparses, hassignment, hattempt⟩
  obtain ⟨assignment', attempt', hstored', hfits, hreported, -⟩ :=
    dispatchRun_keeps hstored (show Fits [] .start assignment _ from ⟨hunused, rfl⟩)
      (reportedIn_of_open ⟨by simp [Service.initialAttemptForAssignment],
        by simp [Service.initialAttemptForAssignment]⟩) hrun
  rw [List.nil_append] at hfits hreported
  refine ⟨assignment', attempt', hstored', hstored'.attempt_parses, hreported, ?_,
    dispatchStep_proceeds hstored' hfits, ?_, ?_⟩
  · obtain ⟨database', phase⟩ := state
    cases phase with
    | resolved observation =>
      obtain ⟨hheld, hbound, hstatus, hid, hdigest, hrun⟩ := hfits
      exact ⟨hheld, hstatus, hid, hdigest, hbound, hrun⟩
    | rejected failure => exact hfits
    | start | verifying | sending | binding | polling | waiting | completed => trivial
  · intro reply hreply
    obtain ⟨more, later, hlength, hrest⟩ := dispatchRun_settles hstored' hfits hreported hreply
    exact ⟨more, later, hlength.trans (Nat.sub_le _ _), hrest⟩
  · intro more later hmore
    obtain ⟨assignment'', attempt'', hlater, -, -, hmirrors⟩ :=
      dispatchRun_keeps hstored' hfits hreported hmore
    exact ⟨assignment'', attempt'', hlater, hmirrors⟩

end Dispatch

/-! ## The dispatch of one Run -/

namespace DispatchSample

open Service.Sample

def assignment : RunAssignment where
  assignmentId := assignmentId .inventory
  sessionId := sessionId
  actionHash := actionHash Fixtures.FIXTURE_ACTION
  agentId := agentId .inventory
  agentNameAtAssignment := "inventory"
  role := .inventory
  receiptId := receiptId .inventory
  queryHash := ⟨List.replicate 64 'b', by decide⟩
  roleProfileVersion := (registration .inventory).roleProfileVersion
  promptTemplateVersion := Service.CURRENT_PROMPT_TEMPLATE_VERSION
  agentsMdDigest := (registration .inventory).agentsMdDigest
  runtimeLabelAtDispatch := "Codex Runtime"
  evidencePackRelativePath :=
    (evidencePackRelativePath sessionId .inventory (assignmentId .inventory)).getD ""
  evidencePackHash := ⟨List.replicate 64 'c', by decide⟩
  boundRunId := none
  status := .CREATED
  consumedByDecisionCertificateId := none
  createdAt := time
  boundAt := none
  consumedAt := none

def database : EpochDatabase :=
  { emptyEpochDatabase with
    runAssignments := [assignment]
    attempts := [Service.initialAttemptForAssignment assignment (attemptId .inventory)] }

def queuedRun : AgentRun where
  id := (runId .inventory).val
  agentId := (agentId .inventory).val
  status := .queued
  prompt := match buildAssignmentPrompt assignment with
    | .ok prompt => prompt
    | .error _ => ""
  output := none
  error := none
  usage := none
  threadId := none
  startedAt := none
  completedAt := none

/-- A Run that is bound, seen running, and seen completed. -/
def answers : List Answer :=
  [.begin, .profile true, .sent (some queuedRun), .bound (.valid time) 0,
    .polled (some { queuedRun with status := .running, startedAt := some (.valid time) }),
    .elapsed 1,
    .polled (some (completedRun .inventory)),
    .profile true]

theorem answers_run :
    (run (dispatchStep (input .inventory) 1000) (database, .start) answers).isSome = true := by
  decide +kernel

/-- The dispatch has resolved. -/
def resolved : EpochDatabase × Phase :=
  (run (dispatchStep (input .inventory) 1000) (database, .start) answers).get answers_run

theorem run_resolved :
    run (dispatchStep (input .inventory) 1000) (database, .start) answers = some resolved :=
  (Option.some_get answers_run).symm

scoped instance : DecisionParser.OutputPorts where
  jsonParse := fun _ => none
  redactRejectedDecisionOutput := id

/-- The Run and the output that a dispatch has resolved with. -/
def resolvedWith : Phase → Option (OpaqueId × JsString)
  | .resolved observation => some (observation.runId, observation.output)
  | _ => none

theorem resolved_output :
    resolvedWith resolved.2 = some (runId .inventory, output .inventory) := by decide +kernel

theorem resolvedWith_eq_some {phase : Phase} {runId : OpaqueId} {output : JsString}
    (h : resolvedWith phase = some (runId, output)) :
    ∃ observation, phase = .resolved observation ∧ observation.runId = runId ∧
      observation.output = output := by
  cases phase with
  | resolved observation =>
    obtain ⟨rfl, rfl⟩ := Prod.mk.inj (Option.some.inj h)
    exact ⟨observation, rfl, rfl, rfl⟩
  | start | verifying | sending | binding | polling | waiting | completed | rejected => cases h

end DispatchSample

open Service.Sample DispatchSample in
/-- The dispatch has resolved with the output of the completed Run, and later
publications of other tasks keep the attempt as it is stored. -/
theorem dispatchBindPoll_mirrors_sample :
    ∃ observation assignment' attempt', resolved.2 = .resolved observation ∧
      observation.runId = runId .inventory ∧ observation.output = output .inventory ∧
      Stored (input .inventory) resolved.1 assignment' attempt' ∧
      observation.attempt = attempt' ∧ attempt'.status = .COMPLETED ∧
      attempt'.outputDigest = some (sha256Digest (output .inventory)) ∧
      assignment'.status = .BOUND ∧
      ∀ more later, run (dispatchStep (input .inventory) 1000) resolved more = some later →
        ∃ assignment'' attempt'', Stored (input .inventory) later.1 assignment'' attempt'' ∧
          Mirrors attempt' attempt'' := by
  have hparses : DispatchSample.database.parses := by decide
  have hassignment : single? DispatchSample.database.runAssignments
      (fun a => a.assignmentId = (input .inventory).assignmentId) =
        some DispatchSample.assignment := by
    decide +kernel
  obtain ⟨observation, hphase, hrunId, houtput⟩ := resolvedWith_eq_some resolved_output
  have hmirrors := dispatchBindPoll_mirrors hparses hassignment (by decide +kernel)
    (by decide +kernel) run_resolved
  rw [hphase] at hmirrors
  obtain ⟨assignment', attempt', hstored, -, -, hends, -, -, hlater⟩ := hmirrors
  obtain ⟨hheld, hstatus, -, hdigest, hbound, -⟩ := hends
  rw [houtput] at hdigest
  exact ⟨observation, assignment', attempt', hphase, hrunId, houtput, hstored, hheld, hstatus,
    hdigest, hbound, hlater⟩

end RunObserver

end EpochGuard
