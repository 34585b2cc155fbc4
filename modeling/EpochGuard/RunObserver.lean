import EpochGuard.Records

/-!
# The run observer

`run-observer.ts`: the store mutations that dispatch an assignment, bind the
one Run it gets, mirror what the Agent port reports of that Run, and join the
three Runs of a session. Reports are untrusted: identifiers and times are
texts, and usage may be malformed.
-/

namespace EpochGuard

open Json Checked

namespace RunObserver

/-- The states of a Run as the Agent port reports them. -/
inductive RunStatus where
  | queued | running | completed | failed | cancelled
deriving DecidableEq, Repr

/-- A reported time, which `TimestampSchema` accepts or not. -/
inductive RunTime where
  | valid (timestamp : Timestamp)
  | invalid (text : String)
deriving DecidableEq

/-- The time of a report, if the schema accepts it. -/
def RunTime.timestamp? : RunTime → Option Timestamp
  | .valid timestamp => some timestamp
  | .invalid _ => none

/-- Reported usage, which `RunUsageSchema` accepts or not. -/
inductive ReportedUsage where
  | parsed (usage : RunUsage)
  | malformed
deriving DecidableEq

/-- A Run as the Agent port reports it. Its times are texts that may not be
times, and its usage may be anything. -/
structure AgentRun where
  id : String
  agentId : String
  status : RunStatus
  prompt : String
  output : Option JsString
  error : Option JsString
  usage : Option ReportedUsage
  threadId : Option String
  startedAt : Option RunTime
  completedAt : Option RunTime
deriving DecidableEq

/-- A `RunAdapterError`, or any other error. -/
inductive RunFailure where
  | adapter (code : FailureCode) (message : String) (attempt : Option AgentAttempt)
  | other (message : String)
deriving DecidableEq

/-- A computation of the observer, which stops at its first failed check. -/
abbrev Observed := Except RunFailure

/-- The failure of a check on bindings, with the attempt as far as it was found.
-/
def mismatch (message : String) (attempt : Option AgentAttempt := none) : RunFailure :=
  .adapter .BINDING_MISMATCH message attempt

/-- The assignment and the attempt that one `dispatchBindPoll` is about. -/
structure DispatchBindPollInput where
  assignmentId : OpaqueId
  attemptId : OpaqueId
deriving DecidableEq

/-- The completed Run of a role, with the attempt that mirrors it and the output
itself, which the store does not hold. -/
structure TerminalRunObservation where
  role : Role
  agentId : OpaqueId
  assignmentId : OpaqueId
  runId : OpaqueId
  attempt : AgentAttempt
  output : JsString
deriving DecidableEq

/-- The one record with a property; none or several are a mismatch. -/
def requireSingle {α : Type} (values : List α) (predicate : α → Bool) (label : String) :
    Observed α :=
  orStop (single? values predicate) (mismatch (label ++ " must resolve to exactly one record"))

@[simp] theorem requireSingle_eq_ok {α : Type} {values : List α} {predicate : α → Bool}
    {label : String} {a : α} :
    requireSingle values predicate label = .ok a ↔ single? values predicate = some a := by
  simp [requireSingle]

/-- The assignment and the attempt of an input. -/
def requireRecords (database : EpochDatabase) (input : DispatchBindPollInput) :
    Observed (RunAssignment × AgentAttempt) := do
  let assignment ← requireSingle database.runAssignments
    (fun a => a.assignmentId = input.assignmentId) ("Assignment " ++ input.assignmentId.val)
  let attempt ← requireSingle database.attempts (fun a => a.attemptId = input.attemptId)
    ("Attempt " ++ input.attemptId.val)
  return (assignment, attempt)

@[simp] theorem requireRecords_eq_ok {database : EpochDatabase} {input : DispatchBindPollInput}
    {assignment : RunAssignment} {attempt : AgentAttempt} :
    requireRecords database input = .ok (assignment, attempt) ↔
      single? database.runAssignments (fun a => a.assignmentId = input.assignmentId) =
          some assignment ∧
        single? database.attempts (fun a => a.attemptId = input.attemptId) = some attempt := by
  simp [requireRecords]

/-- `AgentAttemptSchema.parse` -/
def parseAttempt (attempt : AgentAttempt) : Observed Unit :=
  require attempt.parses (.other "Invalid AgentAttempt")

/-- The records as a mutation leaves them, if the attempt is well formed. -/
def store (database : EpochDatabase) (assignment : RunAssignment) (attempt : AgentAttempt) :
    Observed (EpochDatabase × AgentAttempt) := do
  parseAttempt attempt
  return ((database.setAssignment assignment).setAttempt attempt, attempt)

@[simp] theorem store_eq_ok {database : EpochDatabase} {assignment : RunAssignment}
    {attempt : AgentAttempt} {out : EpochDatabase × AgentAttempt} :
    store database assignment attempt = .ok out ↔
      attempt.parses ∧ ((database.setAssignment assignment).setAttempt attempt, attempt) = out := by
  simp [store, parseAttempt]

/-! ## Dispatch and binding -/

/-- An assignment that nothing has used yet. -/
def isUnused (assignment : RunAssignment) : Prop :=
  assignment.status = .CREATED ∧ assignment.boundRunId = none ∧ assignment.boundAt = none ∧
    assignment.consumedByDecisionCertificateId = none ∧ assignment.consumedAt = none

instance (assignment : RunAssignment) : Decidable (isUnused assignment) :=
  inferInstanceAs (Decidable (_ ∧ _))

/-- The mutation before a Run is asked for: an unused assignment and its fresh
attempt go over to dispatching, so that a second dispatch of the same assignment
finds them used. -/
def transitionToDispatching (database : EpochDatabase) (input : DispatchBindPollInput) :
    Observed (EpochDatabase × AgentAttempt) := do
  let (assignment, attempt) ← requireRecords database input
  parseAttempt attempt
  require (isUnused assignment ∧ attempt.status = .ASSIGNMENT_CREATED ∧ attempt.runId = none)
    (mismatch "Assignment or Attempt has already entered dispatch" (some attempt))
  require (attempt.assignmentId = assignment.assignmentId ∧
      attempt.sessionId = assignment.sessionId ∧ attempt.actionHash = assignment.actionHash ∧
      attempt.role = assignment.role ∧ attempt.agentId = assignment.agentId)
    (mismatch "Attempt context does not match Assignment context" (some attempt))
  store database assignment { attempt with status := .DISPATCHING }

/-- Binds a Run to an assignment and its attempt, at most once in the store. -/
def bindRunOnce (database : EpochDatabase) (input : DispatchBindPollInput) (run : AgentRun)
    (boundAt : Timestamp) : Observed (EpochDatabase × AgentAttempt) := do
  let (assignment, attempt) ← requireRecords database input
  require (isUnused assignment ∧ attempt.status = .DISPATCHING ∧ attempt.runId = none)
    (mismatch "Assignment can bind exactly one queued Run" (some attempt))
  require ((∀ a ∈ database.runAssignments, a.assignmentId ≠ assignment.assignmentId →
        a.boundRunId.map OpaqueId.val ≠ some run.id) ∧
      ∀ t ∈ database.attempts, t.attemptId ≠ attempt.attemptId →
        t.runId.map OpaqueId.val ≠ some run.id)
    (mismatch ("Run " ++ run.id ++ " is already bound to another Assignment or Attempt")
      (some attempt))
  let runId ← orStop (OpaqueId.parse? run.id) (.other "Invalid Run identifier")
  store database
    { assignment with boundRunId := some runId, boundAt := some boundAt, status := .BOUND }
    { attempt with runId := some runId, status := .QUEUED }

/-! ## Failures -/

/-- What a report adds to an attempt that fails. A bound attempt becomes
terminal only with a reported completion. -/
def observeFailure (attempt : AgentAttempt) (status : AttemptState) (run : AgentRun) :
    AgentAttempt :=
  let incomingStartedAt := run.startedAt.bind RunTime.timestamp?
  let incomingCompletedAt := run.completedAt.bind RunTime.timestamp?
  let conflicts := fun (stored incoming : Option Timestamp) =>
    stored.isSome && incoming.isSome && stored != incoming
  let candidateStartedAt := attempt.runStartedAt.or incomingStartedAt
  let candidateCompletedAt := attempt.runCompletedAt.or incomingCompletedAt
  let evidenced :=
    if conflicts attempt.runStartedAt incomingStartedAt = false ∧
        conflicts attempt.runCompletedAt incomingCompletedAt = false ∧
        timestampsOrdered candidateStartedAt candidateCompletedAt then
      { attempt with
        status := if attempt.runStartedAt.isNone && incomingStartedAt.isSome &&
            attempt.status == .QUEUED then .RUNNING else attempt.status
        runStartedAt := candidateStartedAt
        runCompletedAt := candidateCompletedAt }
    else attempt
  if evidenced.runCompletedAt.isSome then
    { evidenced with
      status
      usage := match run.usage with
        | some (.parsed usage) => some usage
        | _ => evidenced.usage }
  else evidenced

/-- The attempt after a failure, with the report that came with it. -/
def failedAttempt (attempt : AgentAttempt) (status : AttemptState) (run : Option AgentRun) :
    AgentAttempt :=
  match attempt.runId, run with
  | none, _ => { attempt with status }
  | some runId, some run => if run.id = runId.val then observeFailure attempt status run
      else attempt
  | some _, none => attempt

/-- The mutation after a failure: the assignment is rejected, and the attempt
keeps what the report that came with the failure proves of its Run. -/
def failAttempt (database : EpochDatabase) (input : DispatchBindPollInput)
    (status : AttemptState) (run : Option AgentRun) :
    Observed (EpochDatabase × AgentAttempt) := do
  let (assignment, attempt) ← requireRecords database input
  require (attempt.status ≠ .ACCEPTED ∧ assignment.status ≠ .CONSUMED)
    (mismatch "A consumed Assignment cannot be failed by the Run Observer" (some attempt))
  parseAttempt attempt
  store database { assignment with status := .REJECTED } (failedAttempt attempt status run)

/-- The mutation that rejects the output of a completed Run whose role profile
has changed meanwhile. -/
def rejectCompletedOutput (database : EpochDatabase) (input : DispatchBindPollInput) :
    Observed (EpochDatabase × AgentAttempt) := do
  let (assignment, attempt) ← requireRecords database input
  require (assignment.status = .BOUND ∧ attempt.status = .COMPLETED)
    (mismatch "Only a completed bound Run output can be rejected" (some attempt))
  store database { assignment with status := .REJECTED }
    { attempt with status := .OUTPUT_REJECTED }

/-! ## Mirroring -/

/-- The state that a report asks an attempt to take. -/
structure RunTarget where
  status : AttemptState
  startedAt : Option Timestamp
  completedAt : Option Timestamp
  outputDigest : Option Sha256Digest

/-- The schema accepts a time, where one is reported. -/
def isValidTime (time : Option RunTime) : Prop := ∀ t ∈ time, t.timestamp?.isSome = true

instance (time : Option RunTime) : Decidable (isValidTime time) :=
  match time with
  | none => .isTrue (by simp [isValidTime])
  | some t => decidable_of_iff (t.timestamp?.isSome = true) (by simp [isValidTime])

/-- The reported times are times, and the completion does not come before the
start. -/
def validateTimestampOrder (startedAt completedAt : Option RunTime) : Observed Unit :=
  require (isValidTime startedAt ∧ isValidTime completedAt ∧
      timestampsOrdered (startedAt.bind RunTime.timestamp?) (completedAt.bind RunTime.timestamp?))
    (mismatch "Run completion precedes Run start")

/-- How far a status has gone; the ones in which a Run can end share the last
rank. -/
def attemptStatusRank : AttemptState → Nat
  | .ASSIGNMENT_CREATED => 0
  | .DISPATCHING => 1
  | .QUEUED => 2
  | .RUNNING => 3
  | .COMPLETED | .FAILED | .INTERRUPTED | .OUTPUT_REJECTED | .ACCEPTED => 4

section Mirror

variable [Sha256]

/-- What a report asks an attempt to become. Each status has to come with
exactly the times, and a completed Run with the output, that it stands for. -/
def targetAttemptFromRun (run : AgentRun) : Observed RunTarget := do
  validateTimestampOrder run.startedAt run.completedAt
  let startedAt := run.startedAt.bind RunTime.timestamp?
  let completedAt := run.completedAt.bind RunTime.timestamp?
  match run.status with
  | .queued => do
      require (run.startedAt = none ∧ run.completedAt = none)
        (mismatch "Queued Run contains start or completion evidence")
      return ⟨.QUEUED, none, none, none⟩
  | .running => do
      require (run.startedAt ≠ none ∧ run.completedAt = none)
        (mismatch "Running Run lacks exact start evidence")
      return ⟨.RUNNING, startedAt, none, none⟩
  | .completed => do
      let lacks : RunFailure :=
        .adapter .RUN_FAILED "Completed Run lacks terminal output or time evidence" none
      require (run.completedAt ≠ none) lacks
      let output ← orStop run.output lacks
      return ⟨.COMPLETED, startedAt, completedAt, some (sha256Digest output)⟩
  | .failed => do
      require (run.completedAt ≠ none)
        (.adapter .RUN_FAILED "Failed Run lacks authoritative completion evidence" none)
      return ⟨.FAILED, startedAt, completedAt, none⟩
  | .cancelled => do
      require (run.completedAt ≠ none)
        (.adapter .RUN_FAILED "Cancelled Run lacks authoritative completion evidence" none)
      return ⟨.INTERRUPTED, startedAt, completedAt, none⟩

/-- `RunUsageSchema.parse` of reported usage, where there is one. -/
def parseUsage : Option ReportedUsage → Observed (Option RunUsage)
  | none => return none
  | some (.parsed usage) => return some usage
  | some .malformed => throw (.other "Invalid Run usage")

/-- Mirrors a report of the bound Run. The assignment that was dispatched names
the Agent that may report. -/
def mirrorRun (database : EpochDatabase) (input : DispatchBindPollInput)
    (dispatchedAgentId : OpaqueId) (run : AgentRun) :
    Observed (EpochDatabase × AgentAttempt) := do
  let runId ← orStop (OpaqueId.parse? run.id) (.other "Invalid Run identifier")
  require (run.agentId = dispatchedAgentId.val)
    (mismatch ("Run " ++ run.id ++ " does not match the authoritative Agent/Run binding"))
  let target ← targetAttemptFromRun run
  let (assignment, attempt) ← requireRecords database input
  require (assignment.boundRunId = some runId ∧ attempt.runId = some runId ∧
      (assignment.status = .BOUND ∨ assignment.status = .REJECTED))
    (mismatch "Observed Run is not the Assignment-bound Run" (some attempt))
  require (attemptStatusRank attempt.status ≤ attemptStatusRank target.status)
    (mismatch "Observed Run status regressed" (some attempt))
  require (attemptStatusRank attempt.status = 4 → attempt.status = target.status)
    (mismatch "Observed Run terminal status changed" (some attempt))
  require (attempt.runStartedAt = none ∨ target.startedAt = none ∨
      attempt.runStartedAt = target.startedAt)
    (mismatch "Observed Run start timestamp changed" (some attempt))
  require (attempt.runCompletedAt = none ∨ target.completedAt = none ∨
      attempt.runCompletedAt = target.completedAt)
    (mismatch "Observed Run completion timestamp changed" (some attempt))
  let runStartedAt := attempt.runStartedAt.or target.startedAt
  let runCompletedAt := attempt.runCompletedAt.or target.completedAt
  require (timestampsOrdered runStartedAt runCompletedAt)
    (mismatch "Run completion precedes Run start")
  let usage ← parseUsage run.usage
  store database
    { assignment with
      status := if target.status = .FAILED ∨ target.status = .INTERRUPTED then .REJECTED
        else assignment.status }
    { attempt with
      status := target.status
      runStartedAt
      runCompletedAt
      threadId := if target.status = .COMPLETED then run.threadId else none
      usage
      outputDigest := target.outputDigest }

end Mirror

/-! ## The join of three Runs -/

/-- What became of one role's `dispatchBindPoll`. -/
inductive Settled where
  | fulfilled (observation : TerminalRunObservation)
  | rejected (reason : RunFailure)
deriving DecidableEq

/-- The session and action of a join, and the assignments of its siblings. -/
structure RoleRunJoinScope where
  sessionId : OpaqueId
  actionHash : Sha256Digest
  assignmentIds : List OpaqueId
deriving DecidableEq

/-- The join's answer: the three observations in the order of the roles, or a
failure with the index of the sibling that it is attributed to. -/
inductive JoinMutationOutcome where
  | joined (observations : PerRole TerminalRunObservation)
  | failed (code : FailureCode) (message : String) (attempt : Option AgentAttempt)
      (rejectedProvenanceIndex : Option Nat)
deriving DecidableEq

/-- Rejects every sibling assignment that no decision has consumed. -/
def rejectSiblings (database : EpochDatabase) (scope : RoleRunJoinScope) : EpochDatabase :=
  { database with
    runAssignments := modifyWhere
      (fun a => scope.assignmentIds.contains a.assignmentId && a.sessionId = scope.sessionId &&
        a.actionHash = scope.actionHash && a.status != .CONSUMED)
      (fun a => { a with status := .REJECTED }) database.runAssignments }

/-- The statuses in which a Run can end. -/
def isTerminalAttempt (status : AttemptState) : Bool := attemptStatusRank status == 4

/-- A failed sibling whose attempt is terminal exactly as it is stored, so that
its error is one of this scope and may be reported for the join. -/
def provesRejection (database : EpochDatabase) (scope : RoleRunJoinScope) (index : Nat)
    (result : Settled) : Bool :=
  match result with
  | .rejected (.adapter _ _ (some attempt)) =>
      attempt.parses && isTerminalAttempt attempt.status && attempt.runId.isSome &&
        attempt.runCompletedAt.isSome &&
        scope.assignmentIds[index]? = some attempt.assignmentId &&
        single? database.attempts (fun a => a.attemptId = attempt.attemptId) = some attempt &&
        (single? database.runAssignments fun a => a.assignmentId = attempt.assignmentId).any
          fun assignment =>
            assignment.sessionId = scope.sessionId && assignment.actionHash = scope.actionHash &&
              assignment.sessionId = attempt.sessionId &&
              assignment.actionHash = attempt.actionHash && assignment.role = attempt.role &&
              assignment.agentId = attempt.agentId && assignment.boundRunId = attempt.runId &&
              assignment.status != .CONSUMED
  | _ => false

/-- The first of the three siblings that is proven to have ended without an
output. -/
def firstTerminalRejectionIndex (settled : List Settled) (database : EpochDatabase)
    (scope : RoleRunJoinScope) : Option Nat :=
  if settled.length = ROLES.length then
    (settled.zipIdx.find? fun r => provesRejection database scope r.2 r.1).map Prod.snd
  else none

/-- The assignments of the scope, if each is the only one of its identifier. -/
def scopeAssignments (database : EpochDatabase) (scope : RoleRunJoinScope) :
    Option (List RunAssignment) :=
  scope.assignmentIds.mapM fun assignmentId => do
    let assignment ← single? database.runAssignments fun a => a.assignmentId = assignmentId
    if assignment.sessionId = scope.sessionId ∧ assignment.actionHash = scope.actionHash then
      some assignment
    else none

section Join

variable [Sha256]

/-- The evidence that an observation must match, given the observations that
have been accepted before it. -/
def matchesEvidence (database : EpochDatabase) (scope : RoleRunJoinScope)
    (assignments : List RunAssignment) (accepted : List TerminalRunObservation)
    (observation : TerminalRunObservation) : Bool :=
  let attempt := observation.attempt
  attempt.status = .COMPLETED && attempt.sessionId = scope.sessionId &&
    attempt.actionHash = scope.actionHash && observation.assignmentId = attempt.assignmentId &&
    ((assignments.find? fun a => a.assignmentId = observation.assignmentId).any
      fun assignment =>
        assignment.sessionId = attempt.sessionId &&
          assignment.actionHash = attempt.actionHash && assignment.role = attempt.role &&
          assignment.agentId = attempt.agentId && assignment.status = .BOUND &&
          assignment.boundRunId = some observation.runId &&
          assignment.consumedByDecisionCertificateId = none && assignment.consumedAt = none) &&
    single? database.attempts (fun a => a.attemptId = attempt.attemptId) = some attempt &&
    attempt.runId = some observation.runId && attempt.agentId = observation.agentId &&
    attempt.role = observation.role &&
    attempt.outputDigest = some (sha256Digest observation.output) &&
    accepted.all fun o => o.role != observation.role && o.agentId != observation.agentId &&
      o.runId != observation.runId

/-- The loop over the observations; it stops at the first one that does not
match. -/
def acceptObservations (database : EpochDatabase) (scope : RoleRunJoinScope)
    (assignments : List RunAssignment) (accepted : List TerminalRunObservation) :
    List TerminalRunObservation → Except (String × Option AgentAttempt)
      (List TerminalRunObservation)
  | [] => .ok accepted
  | observation :: rest => do
      require observation.attempt.parses ("Role join received a malformed Attempt", none)
      require (matchesEvidence database scope assignments accepted observation = true)
        ("Role join requires matching Session, Action, Assignment, Attempt, output, Agent, " ++
            "and Run evidence",
          some observation.attempt)
      acceptObservations database scope assignments (observation :: accepted) rest

/-- The observation of a sibling, if it settled with one. -/
def Settled.fulfilled? : Settled → Option TerminalRunObservation
  | .fulfilled observation => some observation
  | .rejected _ => none

/-- The answer of the join before anything is written: three observations that
match the stored evidence, or the reason why there are not. -/
def joinOutcome (database : EpochDatabase) (settled : List Settled) (scope : RoleRunJoinScope) :
    JoinMutationOutcome :=
  let fail := fun message attempt =>
    JoinMutationOutcome.failed .BINDING_MISMATCH message attempt none
  match settled.mapM Settled.fulfilled? with
  | none => .failed .RUN_FAILED "All three Role Runs must complete before Decision composition"
      none (firstTerminalRejectionIndex settled database scope)
  | some observations =>
      if settled.length ≠ ROLES.length then
        .failed .RUN_FAILED "All three Role Runs must complete before Decision composition" none
          (firstTerminalRejectionIndex settled database scope)
      else if scope.assignmentIds.length ≠ ROLES.length ∨ ¬ scope.assignmentIds.Nodup then
        fail "Role join scope must contain three distinct sibling Assignments" none
      else
        match scopeAssignments database scope with
        | none => fail "Role join scope does not resolve to one Session and Action" none
        | some assignments =>
            match acceptObservations database scope assignments [] observations with
            | .error (message, attempt) => fail message attempt
            | .ok accepted =>
                let byRole := PerRole.ofFn fun role => accepted.find? fun o => o.role = role
                match byRole.all? with
                | some observations => .joined observations
                | none => fail "Role join is missing a required Role" none

/-- Validates the three observations, or rejects every unconsumed sibling
assignment. Attempts are never rewritten by the join. -/
def joinRoleRunObservations (database : EpochDatabase) (settled : List Settled)
    (scope : RoleRunJoinScope) : EpochDatabase × JoinMutationOutcome :=
  match joinOutcome database settled scope with
  | .joined observations => (database, .joined observations)
  | outcome => (rejectSiblings database scope, outcome)

end Join

/-! ## Coordination -/

/-- An attempt with a Run interval of positive length. -/
def runInterval? (attempt : AgentAttempt) : Option (Int × Int) := do
  let startedAt ← attempt.runStartedAt
  let completedAt ← attempt.runCompletedAt
  if attempt.parses ∧
      (attempt.status = .COMPLETED ∨ attempt.status = .OUTPUT_REJECTED ∨
        attempt.status = .ACCEPTED) ∧
      attempt.runId ≠ none ∧ startedAt.millis < completedAt.millis then
    some (startedAt.millis, completedAt.millis)
  else none

/-- Reports concurrency only when the Run intervals of three different Agents
share a positive stretch of time; whatever is missing or doubled counts as
sequential. -/
def deriveCoordinationMode (attempts : List AgentAttempt) : CoordinationMode :=
  if attempts.length = ROLES.length ∧ (attempts.map AgentAttempt.role).Nodup ∧
      (attempts.map AgentAttempt.agentId).Nodup ∧ (attempts.map AgentAttempt.runId).Nodup then
    match attempts.mapM runInterval? with
    | none => .SEQUENTIAL_FALLBACK
    | some intervals =>
        match (intervals.map Prod.fst).max?, (intervals.map Prod.snd).min? with
        | some latestStart, some earliestCompletion =>
            if latestStart < earliestCompletion then .CONCURRENT else .SEQUENTIAL_FALLBACK
        | _, _ => .SEQUENTIAL_FALLBACK
  else .SEQUENTIAL_FALLBACK

end RunObserver

end EpochGuard
