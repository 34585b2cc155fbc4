import EpochGuard.SnapshotSafety
import EpochGuard.Lib.Runs

/-!
# The web session controller

`useEpochGuardSession.ts` within one generation: a session that is polled,
reloaded and commanded, with any number of requests in flight, whose responses
arrive in any order.
-/

namespace EpochGuard

namespace SessionController

open Json SnapshotContract Runs

/-! ## Decoding -/

/-- What the view shows in place of a snapshot, or beside one that is out of
date. -/
inductive ViewErrorKind where
  | SOURCE_ERROR | SESSION_NOT_FOUND | SESSION_MISMATCH | UNSUPPORTED_SCHEMA
  | PROJECTION_MISMATCH
deriving DecidableEq

/-- The property of an object, if the value is one and has it. -/
def property? (key : String) : Value → Option Value
  | .obj entries => (entries.find? fun e => e.1 = js key).map Prod.snd
  | _ => none

/-- `unsupportedFailure`: the payload is of another contract. -/
def unsupported (payload : Value) : Bool :=
  !((property? "schemaVersion" payload).any (fun v => (literalNat? 1 v).isSome) &&
    (property? "contractVersion" payload).any (fun v => (literal? CONTRACT_VERSION v).isSome) &&
    (property? "contractDigest" payload).any (fun v => (literal? CONTRACT_DIGEST v).isSome))

/-- Decodes every payload through the active frozen contract. -/
def decodeEpochGuardSnapshot [Sha256] (payload : Value) : Except ViewErrorKind Snapshot :=
  if unsupported payload then .error .UNSUPPORTED_SCHEMA
  else
    match decodeSnapshot payload with
    | some snapshot => .ok snapshot
    | none => .error .PROJECTION_MISMATCH

/-! ## Failures of a request -/

/-- The `error` of a typed error body. -/
inductive ApiError where
  | STALE_VIEW | ALREADY_REOBSERVING | AGENTS_BUSY | MISSING_ACTION_FIELDS | SESSION_NOT_FOUND
  | UNSUPPORTED_SCHEMA | PROJECTION_MISMATCH | UNSTABLE_WORLD | ROLE_PROFILE_MISMATCH
deriving DecidableEq

/-- What a request is rejected with. -/
inductive Reason where
  | abort
  | source (status : Option Nat) (body : Option ApiError)
  | other
deriving DecidableEq

/-- A failure that counts at once, without the three tries of an ordinary one,
and whether it takes the snapshot off the view. -/
structure ImmediateSourceFailure where
  error : ViewErrorKind
  clearSnapshot : Bool
deriving DecidableEq

/-- The failures that count at once: a session that is not there and a contract
that is not spoken. Only the first of them clears the view, and a 404 is one
whatever its body says. -/
def immediateSourceFailure : Reason → Option ImmediateSourceFailure
  | .source status body =>
      if status = some 404 then some ⟨.SESSION_NOT_FOUND, true⟩
      else
        match body with
        | some .SESSION_NOT_FOUND => some ⟨.SESSION_NOT_FOUND, true⟩
        | some .UNSUPPORTED_SCHEMA => some ⟨.UNSUPPORTED_SCHEMA, false⟩
        | some .PROJECTION_MISMATCH => some ⟨.PROJECTION_MISMATCH, false⟩
        | _ => none
  | _ => none

/-! ## The controller -/

/-- What the user can ask of a session. -/
inductive EpochGuardCommand where
  | REFRESH | COMMIT
deriving DecidableEq

/-- The action that a snapshot must offer for a command to be sent. -/
def EpochGuardCommand.action : EpochGuardCommand → AvailableAction
  | .REFRESH => .REOBSERVE_INVALID
  | .COMMIT => .COMMIT

/-- Who awaits a read. -/
inductive Reader where
  | poll | reload | command
deriving DecidableEq

/-- A request in flight, by the number it was issued under. -/
structure Read where
  number : Nat
  reader : Reader
deriving DecidableEq

/-- A command as it goes to the server: by the revision, and the plan, of the
snapshot that is shown. -/
structure SentRequest where
  command : EpochGuardCommand
  expectedSessionRevision : Nat
  refreshPlanId : Option OpaqueId
deriving DecidableEq

/-- A reference and the state variable written together with it are one field;
`shown` is the snapshot of the last render. -/
structure Controller where
  sessionId : OpaqueId
  snapshot : Option Snapshot
  shown : Option Snapshot
  error : Option ViewErrorKind
  isLoading : Bool
  stale : Bool
  commandPending : Option EpochGuardCommand
  latestRevision : Option Nat
  failureCount : Nat
  hardFailure : Bool
  staleTimer : Bool
  reads : List Read
  commands : List Nat
  issued : Nat
  sent : List SentRequest

/-- After how many failed reads in a row the view counts as out of date. -/
def FAILURE_STALE_THRESHOLD : Nat := 3

/-- A generation starts with its first poll. -/
def start (sessionId : OpaqueId) : Controller where
  sessionId
  snapshot := none
  shown := none
  error := none
  isLoading := true
  stale := false
  commandPending := none
  latestRevision := none
  failureCount := 0
  hardFailure := false
  staleTimer := true
  reads := [⟨0, .poll⟩]
  commands := []
  issued := 1
  sent := []

namespace Controller

/-- A payload that cannot be shown. -/
def rejectPayload (s : Controller) (error : ViewErrorKind) : Controller :=
  { s with hardFailure := true, stale := true, error := some error, isLoading := false,
           staleTimer := false }

/-- A snapshot is stored, and what had failed before it is forgotten. -/
def accept (s : Controller) (snapshot : Snapshot) : Controller :=
  { s with latestRevision := some snapshot.snapshotRevision, failureCount := 0,
           hardFailure := false, stale := false, snapshot := some snapshot, error := none,
           isLoading := false, staleTimer := true }

/-- A snapshot below the latest revision. -/
def older (s : Controller) (snapshot : Snapshot) : Prop :=
  ∃ latest ∈ s.latestRevision, snapshot.snapshotRevision < latest

instance (s : Controller) (snapshot : Snapshot) : Decidable (s.older snapshot) :=
  inferInstanceAs (Decidable (∃ latest ∈ s.latestRevision, _))

/-- `readSnapshot` after its request has succeeded. What cannot be decoded, or
is of another session, fails closed; an older snapshot is dropped without a
trace. -/
def readPayload [Sha256] (s : Controller) (payload : Value) : Controller :=
  match decodeEpochGuardSnapshot payload with
  | .error kind => s.rejectPayload kind
  | .ok snapshot =>
      if snapshot.sessionId ≠ s.sessionId then s.rejectPayload .SESSION_MISMATCH
      else if s.older snapshot then s
      else s.accept snapshot

/-- A failure that counts at once. A cleared view also forgets the revision that
later reads are compared with. -/
def failClosed (s : Controller) (failure : ImmediateSourceFailure) : Controller :=
  let s := { s with failureCount := FAILURE_STALE_THRESHOLD, hardFailure := true, stale := true,
                    error := some failure.error, isLoading := false, staleTimer := false }
  if failure.clearSnapshot then { s with latestRevision := none, snapshot := none, shown := none }
  else s

/-- `readSnapshot` after its request has failed. An ordinary failure counts, and
only the third in a row makes the view stale. -/
def readFailure (s : Controller) (reason : Reason) : Controller :=
  if reason = .abort then s
  else
    match immediateSourceFailure reason with
    | some failure => s.failClosed failure
    | none =>
        { s with failureCount := s.failureCount + 1
                 stale := s.stale || FAILURE_STALE_THRESHOLD ≤ s.failureCount + 1
                 error := some .SOURCE_ERROR
                 isLoading := false }

/-- A read is sent under the next number. -/
def issueRead (s : Controller) (reader : Reader) : Controller :=
  { s with reads := s.reads ++ [⟨s.issued, reader⟩], issued := s.issued + 1 }

/-- The `finally` of a command. -/
def endCommand (s : Controller) : Controller := { s with commandPending := none }

/-- A read that has settled; the command that awaits it ends with it. -/
def settleRead (s : Controller) (read : Read) (outcome : Controller → Controller) : Controller :=
  let settled := outcome { s with reads := s.reads.filter fun r => r.number ≠ read.number }
  if read.reader = .command then settled.endCommand else settled

/-- The request of a command that `runCommand` does not refuse, for the snapshot
of the last render: it must offer the action, the view must be neither stale nor
failed, and no command may be pending. -/
def request? (s : Controller) (command : EpochGuardCommand) : Option SentRequest :=
  match s.shown with
  | none => none
  | some active =>
      if s.stale ∨ s.hardFailure ∨ s.commandPending ≠ none then none
      else if command.action ∉ active.availableActions then none
      else
        match command with
        | .REFRESH => active.refreshPlan.map fun plan =>
            ⟨.REFRESH, active.sessionRevision, some plan.refreshPlanId⟩
        | .COMMIT => some ⟨.COMMIT, active.sessionRevision, none⟩

/-- A command is sent, unless one is under way or the view does not offer it;
the last error is cleared. -/
def runCommand (s : Controller) (command : EpochGuardCommand) : Controller :=
  match s.request? command with
  | none => s
  | some request =>
      { s with commandPending := some command, error := none, commands := s.commands ++ [s.issued],
               issued := s.issued + 1, sent := s.sent ++ [request] }

/-- `runCommand` after its request has failed. A 409 refreshes the view exactly
once; the command is never replayed. -/
def commandFailure (s : Controller) (reason : Reason) : Controller :=
  if reason = .abort then s.endCommand
  else
    match immediateSourceFailure reason with
    | some failure => (s.failClosed failure).endCommand
    | none =>
        let failed := { s with error := some .SOURCE_ERROR }
        match reason with
        | .source (some 409) _ => failed.issueRead .command
        | _ => failed.endCommand

end Controller

/-! ## Steps -/

/-- What happens to the controller: its timers, its renders, the requests of the
user, and the answers to requests in whatever order they arrive. -/
inductive Event where
  | pollTimer
  | reload
  | readResolved (number : Nat) (payload : Value)
  | readRejected (number : Nat) (reason : Reason)
  | command (command : EpochGuardCommand)
  | commandResolved (number : Nat)
  | commandRejected (number : Nat) (reason : Reason)
  | staleTimer
  | render

/-- One event of the controller. The next poll is issued after the previous one
has settled; other reads may be in flight beside it. -/
def step [Sha256] (s : Controller) : Event → Option Controller
  | .pollTimer =>
      if s.reads.any fun r => r.reader = .poll then none else some (s.issueRead .poll)
  | .reload => some (s.issueRead .reload)
  | .readResolved number payload =>
      (s.reads.find? fun r => r.number = number).map fun read =>
        s.settleRead read fun s => s.readPayload payload
  | .readRejected number reason =>
      (s.reads.find? fun r => r.number = number).map fun read =>
        s.settleRead read fun s => s.readFailure reason
  | .command command => some (s.runCommand command)
  | .commandResolved number =>
      if number ∈ s.commands then
        some ({ s with commands := s.commands.filter (· ≠ number) }.issueRead .command)
      else none
  | .commandRejected number reason =>
      if number ∈ s.commands then
        some ({ s with commands := s.commands.filter (· ≠ number) }.commandFailure reason)
      else none
  | .staleTimer => if s.staleTimer then some { s with stale := true, staleTimer := false } else none
  | .render => some { s with shown := s.snapshot }

/-- The failure of a request that clears the snapshot. -/
def Event.clears : Event → Bool
  | .readRejected _ reason | .commandRejected _ reason =>
      (immediateSourceFailure reason).any ImmediateSourceFailure.clearSnapshot
  | _ => false

/-- A response that `readSnapshot` shows. -/
def Valid [Sha256] (s : Controller) (e : Event) : Prop :=
  ∃ number payload snapshot, e = .readResolved number payload ∧
    decodeEpochGuardSnapshot payload = .ok snapshot ∧ snapshot.sessionId = s.sessionId ∧
    ¬s.older snapshot

/-! ## What a step does to the view -/

/-- The view of a controller. -/
structure View where
  sessionId : OpaqueId
  snapshot : Option Snapshot
  shown : Option Snapshot
  error : Option ViewErrorKind
  stale : Bool
  latestRevision : Option Nat
  hardFailure : Bool

def Controller.view (s : Controller) : View :=
  ⟨s.sessionId, s.snapshot, s.shown, s.error, s.stale, s.latestRevision, s.hardFailure⟩

section Views

variable [Sha256] {s t : Controller} {e : Event}

/-- What one step can do to the view, whatever event it is for. -/
inductive ViewStep (s : Controller) (e : Event) : View → Prop
  | same : ViewStep s e s.view
  | accept (snapshot : Snapshot) (valid : Valid s e) (newer : ¬s.older snapshot) :
      ViewStep s e (s.accept snapshot).view
  | rejectPayload (kind : ViewErrorKind) : ViewStep s e (s.rejectPayload kind).view
  | failClosed (failure : ImmediateSourceFailure)
      (clears : failure.clearSnapshot = true → e.clears = true) :
      ViewStep s e (s.failClosed failure).view
  | sourceError (stale : Bool) (kept : s.stale = true → stale = true) :
      ViewStep s e { s.view with stale, error := some .SOURCE_ERROR }
  | command (open' : s.hardFailure = false) : ViewStep s e { s.view with error := none }
  | staleTimer : ViewStep s e { s.view with stale := true }
  | render : ViewStep s e { s.view with shown := s.snapshot }

theorem readPayload_view {number : Nat} {payload : Value} {u : Controller} (hu : u.view = s.view) :
    ViewStep s (.readResolved number payload) (u.readPayload payload).view := by
  have hid : u.sessionId = s.sessionId := congrArg View.sessionId hu
  have hlatest : u.latestRevision = s.latestRevision := congrArg View.latestRevision hu
  unfold Controller.readPayload
  split
  · rename_i kind _
    have hview : (u.rejectPayload kind).view = (s.rejectPayload kind).view := by
      simp only [Controller.view, Controller.rejectPayload, View.mk.injEq] at hu ⊢
      simp [hu]
    exact hview ▸ .rejectPayload kind
  · rename_i snapshot hdecoded
    split_ifs with hsession holder
    · have hview : (u.rejectPayload .SESSION_MISMATCH).view =
          (s.rejectPayload .SESSION_MISMATCH).view := by
        simp only [Controller.view, Controller.rejectPayload, View.mk.injEq] at hu ⊢
        simp [hu]
      exact hview ▸ .rejectPayload _
    · exact hu ▸ .same
    · have hnewer : ¬s.older snapshot := by
        rwa [Controller.older, hlatest] at holder
      have hview : (u.accept snapshot).view = (s.accept snapshot).view := by
        simp only [Controller.view, Controller.accept, View.mk.injEq] at hu ⊢
        simp [hu]
      refine hview ▸ .accept snapshot ⟨number, payload, snapshot, rfl, hdecoded, ?_, hnewer⟩ hnewer
      rw [← hid]
      exact not_not.mp hsession

omit [Sha256] in
theorem failClosed_view {u : Controller} (hu : u.view = s.view) (failure : ImmediateSourceFailure) :
    (u.failClosed failure).view = (s.failClosed failure).view := by
  simp only [Controller.view, View.mk.injEq] at hu
  obtain ⟨h0, h1, h2, h3, h4, h5, h6⟩ := hu
  unfold Controller.failClosed
  dsimp only
  split <;> simp [Controller.view, *]

theorem readFailure_view {number : Nat} {reason : Reason} {u : Controller} (hu : u.view = s.view) :
    ViewStep s (.readRejected number reason) (u.readFailure reason).view := by
  unfold Controller.readFailure
  split_ifs with habort
  · exact hu ▸ .same
  split
  · rename_i failure hfailure
    refine failClosed_view hu failure ▸ .failClosed failure fun hclear => ?_
    simp only [Event.clears, hfailure, Option.any_some, hclear]
  · have hstale : u.stale = s.stale := congrArg View.stale hu
    simp only [Controller.view, View.mk.injEq] at hu
    have hview : ({ u with
        failureCount := u.failureCount + 1
        stale := u.stale || FAILURE_STALE_THRESHOLD ≤ u.failureCount + 1
        error := some .SOURCE_ERROR
        isLoading := false } : Controller).view =
        { s.view with
          stale := u.stale || decide (FAILURE_STALE_THRESHOLD ≤ u.failureCount + 1)
          error := some .SOURCE_ERROR } := by
      simp [Controller.view, hu]
    rw [hview]
    refine .sourceError _ fun h => ?_
    rw [hstale, h, Bool.true_or]

theorem commandFailure_view {number : Nat} {reason : Reason} {u : Controller}
    (hu : u.view = s.view) :
    ViewStep s (.commandRejected number reason) (u.commandFailure reason).view := by
  unfold Controller.commandFailure
  split_ifs with habort
  · exact (show u.endCommand.view = s.view from hu) ▸ .same
  split
  · rename_i failure hfailure
    have hview : (u.failClosed failure).endCommand.view = (s.failClosed failure).view :=
      failClosed_view hu failure
    refine hview ▸ .failClosed failure fun hclear => ?_
    simp only [Event.clears, hfailure, Option.any_some, hclear]
  · have hview : ({ u with error := some .SOURCE_ERROR } : Controller).view =
        { s.view with stale := s.stale, error := some .SOURCE_ERROR } := by
      simp only [Controller.view, View.mk.injEq] at hu ⊢
      simp [hu]
    dsimp only
    split
    · exact hview ▸ .sourceError s.stale id
    · exact hview ▸ .sourceError s.stale id

omit [Sha256] in
theorem settleRead_view (read : Read) (outcome : Controller → Controller) :
    (s.settleRead read outcome).view =
      (outcome { s with reads := s.reads.filter fun r => r.number ≠ read.number }).view := by
  unfold Controller.settleRead
  dsimp only
  split <;> rfl

omit [Sha256] in
/-- A request is sent for the snapshot shown, when it is neither stale nor failed
closed and no command is pending. -/
theorem request?_eq_some {command : EpochGuardCommand} {request : SentRequest}
    (h : s.request? command = some request) :
    ∃ active, s.shown = some active ∧ s.stale = false ∧ s.hardFailure = false ∧
      s.commandPending = none ∧ command.action ∈ active.availableActions ∧
      request.command = command ∧ request.expectedSessionRevision = active.sessionRevision ∧
      request.refreshPlanId =
        if command = .REFRESH then active.refreshPlan.map (·.refreshPlanId) else none := by
  unfold Controller.request? at h
  split at h
  · exact absurd h (by simp)
  rename_i active hshown
  split_ifs at h with hblocked hoffered
  rw [not_or, not_or, not_not] at hblocked
  obtain ⟨hstale, hhard, hpending⟩ := hblocked
  refine ⟨active, hshown, by simpa using hstale, by simpa using hhard, hpending,
    hoffered, ?_⟩
  cases command with
  | REFRESH =>
    obtain ⟨plan, hplan, rfl⟩ := Option.map_eq_some_iff.mp h
    exact ⟨rfl, rfl, by simp [hplan]⟩
  | COMMIT =>
    obtain rfl := Option.some.inj h
    exact ⟨rfl, rfl, rfl⟩

/-- What every step does to the view. -/
theorem step_view (h : step s e = some t) : ViewStep s e t.view := by
  cases e with
  | pollTimer =>
    simp only [step, Option.ite_none_left_eq_some, Option.some.injEq] at h
    exact h.2 ▸ .same
  | reload =>
    simp only [step, Option.some.injEq] at h
    exact h ▸ .same
  | readResolved number payload =>
    obtain ⟨read, -, rfl⟩ := Option.map_eq_some_iff.mp h
    rw [settleRead_view]
    exact readPayload_view rfl
  | readRejected number reason =>
    obtain ⟨read, -, rfl⟩ := Option.map_eq_some_iff.mp h
    rw [settleRead_view]
    exact readFailure_view rfl
  | command command =>
    simp only [step, Option.some.injEq] at h
    subst h
    unfold Controller.runCommand
    split
    · exact .same
    · rename_i request hrequest
      obtain ⟨-, -, -, hopen, -⟩ := request?_eq_some hrequest
      exact .command hopen
  | commandResolved number =>
    simp only [step, Option.ite_none_right_eq_some, Option.some.injEq] at h
    exact h.2 ▸ .same
  | commandRejected number reason =>
    simp only [step, Option.ite_none_right_eq_some, Option.some.injEq] at h
    exact h.2 ▸ commandFailure_view rfl
  | staleTimer =>
    simp only [step, Option.ite_none_right_eq_some, Option.some.injEq] at h
    exact h.2 ▸ .staleTimer
  | render =>
    simp only [step, Option.some.injEq] at h
    exact h ▸ .render

/-! ## The order of the view -/

/-- The revision shown is at most the latest one, and a controller that has
failed closed is stale and shows an error. -/
structure Ordered (v : View) : Prop where
  stored : ∀ snapshot ∈ v.snapshot, v.latestRevision = some snapshot.snapshotRevision
  shown : ∀ snapshot ∈ v.shown, ∃ latest ∈ v.latestRevision, snapshot.snapshotRevision ≤ latest
  failed : v.hardFailure = true → v.stale = true ∧ v.error ≠ none

omit [Sha256] in
theorem ordered_start (sessionId : OpaqueId) : Ordered (start sessionId).view :=
  ⟨by simp [Controller.view, start], by simp [Controller.view, start],
    by simp [Controller.view, start]⟩

omit [Sha256] in
theorem not_older_le {snapshot : Snapshot} (h : ¬s.older snapshot) :
    ∀ latest ∈ s.latestRevision, latest ≤ snapshot.snapshotRevision := by
  intro latest hlatest
  by_contra hlt
  exact h ⟨latest, hlatest, Nat.not_le.mp hlt⟩

theorem ordered_step (hs : Ordered s.view) (h : step s e = some t) : Ordered t.view := by
  obtain ⟨hstored, hshown, hfailed⟩ := hs
  have hview := step_view h
  generalize t.view = v at hview ⊢
  cases hview with
  | same => exact ⟨hstored, hshown, hfailed⟩
  | accept snapshot _ hnewer =>
    refine ⟨?_, ?_, by simp [Controller.view, Controller.accept]⟩
    · simp [Controller.view, Controller.accept]
    · intro shown hmem
      obtain ⟨latest, hlatest, hle⟩ := hshown shown hmem
      exact ⟨_, rfl, hle.trans (not_older_le hnewer latest hlatest)⟩
  | rejectPayload kind =>
    exact ⟨hstored, hshown, by simp [Controller.view, Controller.rejectPayload]⟩
  | failClosed failure _ =>
    unfold Controller.failClosed
    dsimp only
    split
    · exact ⟨by simp [Controller.view], by simp [Controller.view], by simp [Controller.view]⟩
    · exact ⟨hstored, hshown, by simp [Controller.view]⟩
  | sourceError stale hkept =>
    exact ⟨hstored, hshown, fun hhard => ⟨hkept (hfailed hhard).1, by simp⟩⟩
  | command hopen =>
    refine ⟨hstored, hshown, fun hhard => ?_⟩
    have hopen' : s.view.hardFailure = false := hopen
    rw [hopen'] at hhard
    exact absurd hhard (by decide)
  | staleTimer => exact ⟨hstored, hshown, fun hhard => ⟨rfl, (hfailed hhard).2⟩⟩
  | render => exact ⟨hstored, fun snapshot hmem => ⟨_, hstored snapshot hmem, le_rfl⟩, hfailed⟩

/-- Nothing below `n` is shown any more. -/
structure Since (n : Nat) (v : View) : Prop where
  latest : ∃ latest ∈ v.latestRevision, n ≤ latest
  stored : ∀ snapshot ∈ v.snapshot, n ≤ snapshot.snapshotRevision
  shown : ∀ snapshot ∈ v.shown, n ≤ snapshot.snapshotRevision

omit [Sha256] in
theorem since_shown {v : View} (hv : Ordered v) {snapshot : Snapshot}
    (hshown : v.shown = some snapshot) : Since snapshot.snapshotRevision v := by
  obtain ⟨latest, hlatest, hle⟩ := hv.shown snapshot hshown
  refine ⟨⟨latest, hlatest, hle⟩, fun stored hstored => ?_, fun shown hmem => ?_⟩
  · have hrevision := hv.stored stored hstored
    rw [hlatest, Option.some.injEq] at hrevision
    exact hrevision ▸ hle
  · obtain rfl : snapshot = shown := Option.some.inj (hshown.symm.trans hmem)
    exact le_rfl

theorem since_step {n : Nat} (hs : Since n s.view) (hkept : e.clears = false)
    (h : step s e = some t) : Since n t.view := by
  obtain ⟨⟨latest, hlatest, hle⟩, hstored, hshown⟩ := hs
  have hview := step_view h
  generalize t.view = v at hview ⊢
  cases hview with
  | same => exact ⟨⟨latest, hlatest, hle⟩, hstored, hshown⟩
  | accept snapshot _ hnewer =>
    have hsince := hle.trans (not_older_le hnewer latest hlatest)
    refine ⟨⟨_, rfl, hsince⟩, ?_, hshown⟩
    intro stored hmem
    obtain rfl : snapshot = stored := Option.some.inj hmem
    exact hsince
  | rejectPayload kind => exact ⟨⟨latest, hlatest, hle⟩, hstored, hshown⟩
  | failClosed failure hclears =>
    have hclear : failure.clearSnapshot = false := by
      cases hclear : failure.clearSnapshot
      · rfl
      · rw [hclears hclear] at hkept
        exact absurd hkept (by decide)
    simp only [Controller.failClosed, hclear, Bool.false_eq_true, if_false]
    exact ⟨⟨latest, hlatest, hle⟩, hstored, hshown⟩
  | sourceError stale _ => exact ⟨⟨latest, hlatest, hle⟩, hstored, hshown⟩
  | command _ => exact ⟨⟨latest, hlatest, hle⟩, hstored, hshown⟩
  | staleTimer => exact ⟨⟨latest, hlatest, hle⟩, hstored, hshown⟩
  | render => exact ⟨⟨latest, hlatest, hle⟩, hstored, hstored⟩

/-- Between two points of a run without a failure that clears the snapshot, the
revision shown does not go back. -/
theorem shown_monotone {es : List Event} {v w : Snapshot} (hs : Ordered s.view)
    (hv : s.shown = some v) (hkept : ∀ e ∈ es, e.clears = false) (h : run step s es = some t)
    (hw : t.shown = some w) : v.snapshotRevision ≤ w.snapshotRevision := by
  have hsince := since_shown hs hv
  clear hv hs
  induction es generalizing s with
  | nil =>
    obtain rfl := run_nil.mp h
    exact hsince.shown w hw
  | cons e es ih =>
    obtain ⟨u, hu, hrest⟩ := run_cons.mp h
    rw [List.forall_mem_cons] at hkept
    exact ih hkept.2 hrest (since_step hsince hkept.1 hu)

theorem sessionId_step (h : step s e = some t) : t.sessionId = s.sessionId := by
  have hid : ∀ {v : View}, ViewStep s e v → v.sessionId = s.sessionId := by
    intro v hv
    cases hv with
    | failClosed failure _ =>
      unfold Controller.failClosed
      dsimp only
      split <;> rfl
    | _ => rfl
  exact hid (step_view h)

/-- A run that ends open after it had failed closed has shown a valid response
in between. -/
theorem reopened_by_valid {es : List Event} (hs : s.hardFailure = true)
    (h : run step s es = some t) (ht : t.hardFailure = false) :
    ∃ before e after u, es = before ++ e :: after ∧ run step s before = some u ∧
      u.sessionId = s.sessionId ∧ Valid u e := by
  induction es generalizing s with
  | nil =>
    obtain rfl := run_nil.mp h
    rw [hs] at ht
    exact absurd ht (by decide)
  | cons e es ih =>
    obtain ⟨u, hu, hrest⟩ := run_cons.mp h
    by_cases hopen : u.hardFailure = true
    · obtain ⟨before, e', after, u', rfl, hbefore, hid, hvalid⟩ := ih hopen hrest
      exact ⟨e :: before, e', after, u', rfl, run_cons.mpr ⟨u, hu, hbefore⟩,
        hid.trans (sessionId_step hu), hvalid⟩
    · -- this step has opened the controller
      refine ⟨[], e, es, s, rfl, run_nil.mpr rfl, rfl, ?_⟩
      have hclosed : ∀ {v : View}, ViewStep s e v → v.hardFailure ≠ true → Valid s e := by
        intro v hv hne
        cases hv with
        | accept snapshot hvalid _ => exact hvalid
        | failClosed failure _ =>
          refine absurd ?_ hne
          unfold Controller.failClosed
          dsimp only
          split <;> rfl
        | rejectPayload kind => exact absurd rfl hne
        | command hnot => rw [hs] at hnot; exact absurd hnot (by decide)
        | same => exact absurd hs hne
        | sourceError _ _ => exact absurd hs hne
        | staleTimer => exact absurd hs hne
        | render => exact absurd hs hne
      exact hclosed (step_view hu) hopen

/-! ## Commands -/

theorem readPayload_traffic (u : Controller) (payload : Value) :
    (u.readPayload payload).reads = u.reads ∧ (u.readPayload payload).commands = u.commands ∧
      (u.readPayload payload).commandPending = u.commandPending ∧
      (u.readPayload payload).sent = u.sent := by
  unfold Controller.readPayload
  split
  · exact ⟨rfl, rfl, rfl, rfl⟩
  · split_ifs <;> exact ⟨rfl, rfl, rfl, rfl⟩

omit [Sha256] in
theorem failClosed_traffic (u : Controller) (failure : ImmediateSourceFailure) :
    (u.failClosed failure).reads = u.reads ∧ (u.failClosed failure).commands = u.commands ∧
      (u.failClosed failure).commandPending = u.commandPending ∧
      (u.failClosed failure).sent = u.sent := by
  unfold Controller.failClosed
  dsimp only
  split <;> exact ⟨rfl, rfl, rfl, rfl⟩

omit [Sha256] in
theorem readFailure_traffic (u : Controller) (reason : Reason) :
    (u.readFailure reason).reads = u.reads ∧ (u.readFailure reason).commands = u.commands ∧
      (u.readFailure reason).commandPending = u.commandPending ∧
      (u.readFailure reason).sent = u.sent := by
  unfold Controller.readFailure
  split
  · exact ⟨rfl, rfl, rfl, rfl⟩
  · split
    · exact failClosed_traffic u _
    · exact ⟨rfl, rfl, rfl, rfl⟩

/-- The reads that commands await. -/
def commandReads (reads : List Read) : List Read := reads.filter fun r => r.reader = .command

/-- At most one request is in flight for a command, and none when no command is
pending. -/
structure Exclusive (s : Controller) : Prop where
  one : s.commands.length + (commandReads s.reads).length ≤ 1
  idle : s.commandPending = none → s.commands = [] ∧ commandReads s.reads = []

omit [Sha256] in
theorem exclusive_start (sessionId : OpaqueId) : Exclusive (start sessionId) :=
  ⟨Nat.zero_le 1, fun _ => ⟨rfl, rfl⟩⟩

omit [Sha256] in
theorem commandReads_filter (reads : List Read) (number : Nat) :
    commandReads (reads.filter fun r => r.number ≠ number) =
      (commandReads reads).filter fun r => r.number ≠ number := by
  unfold commandReads
  rw [List.filter_filter, List.filter_filter]
  congr 1
  funext r
  exact Bool.and_comm ..

omit [Sha256] in
/-- A settled read leaves the commands exclusive: the command that awaited it has
no other request. -/
theorem exclusive_settleRead {read : Read} {outcome : Controller → Controller}
    (hs : Exclusive s) (hmem : read ∈ s.reads)
    (hkept : ∀ u : Controller, (outcome u).reads = u.reads ∧ (outcome u).commands = u.commands ∧
      (outcome u).commandPending = u.commandPending ∧ (outcome u).sent = u.sent) :
    Exclusive (s.settleRead read outcome) ∧ (s.settleRead read outcome).sent = s.sent := by
  obtain ⟨hreads, hcommands, hpending, hsent⟩ :=
    hkept { s with reads := s.reads.filter fun r => r.number ≠ read.number }
  have hle := List.length_filter_le (fun r : Read => decide (r.number ≠ read.number))
    (commandReads s.reads)
  have hone := hs.one
  unfold Controller.settleRead
  dsimp only
  split
  · rename_i hreader
    have hawaited : read ∈ commandReads s.reads :=
      List.mem_filter.mpr ⟨hmem, decide_eq_true hreader⟩
    have hcount := List.length_pos_of_mem hawaited
    -- the awaited read is the only request of a command
    have hnone : s.commands = [] := List.eq_nil_of_length_eq_zero (by omega)
    obtain ⟨only, honly⟩ := List.length_eq_one_iff.mp
      (show (commandReads s.reads).length = 1 by omega)
    have hleft : commandReads (s.reads.filter fun r => r.number ≠ read.number) = [] := by
      rw [honly, List.mem_singleton] at hawaited
      rw [commandReads_filter, honly, hawaited]
      simp
    refine ⟨⟨?_, fun _ => ⟨?_, ?_⟩⟩, hsent⟩
    · show (outcome _).commands.length + (commandReads (outcome _).reads).length ≤ 1
      rw [hcommands, hreads, hnone, hleft]
      decide
    · show (outcome _).commands = []
      rw [hcommands, hnone]
    · show commandReads (outcome _).reads = []
      rw [hreads, hleft]
  · refine ⟨⟨?_, fun hnone => ?_⟩, hsent⟩
    · rw [hcommands, hreads, commandReads_filter]
      dsimp only
      omega
    · rw [hpending] at hnone
      obtain ⟨hnone, hempty⟩ := hs.idle hnone
      rw [hcommands, hreads, commandReads_filter, hempty]
      exact ⟨hnone, rfl⟩

omit [Sha256] in
/-- The response to a command's request leaves nothing in flight for it. -/
theorem exclusive_answered {number : Nat} (hs : Exclusive s) (hmem : number ∈ s.commands) :
    s.commands.filter (· ≠ number) = [] ∧ commandReads s.reads = [] := by
  have hcount := List.length_pos_of_mem hmem
  have hone := hs.one
  obtain ⟨only, honly⟩ := List.length_eq_one_iff.mp (show s.commands.length = 1 by omega)
  rw [honly, List.mem_singleton] at hmem
  refine ⟨?_, List.eq_nil_of_length_eq_zero (by omega)⟩
  rw [honly, hmem]
  simp

omit [Sha256] in
theorem commandReads_append (reads : List Read) (read : Read) :
    commandReads (reads ++ [read]) =
      commandReads reads ++ if read.reader = .command then [read] else [] := by
  rw [commandReads, commandReads, List.filter_append]
  congr 1
  by_cases h : read.reader = .command <;> simp [h]

/-- One step keeps the commands exclusive, and sends a request for a command of
the user alone, when none is pending, for the snapshot shown. -/
theorem exclusive_step (hs : Exclusive s) (h : step s e = some t) :
    Exclusive t ∧ (t.sent = s.sent ∨ ∃ command request active, e = .command command ∧
      t.sent = s.sent ++ [request] ∧ s.shown = some active ∧ s.stale = false ∧
      s.hardFailure = false ∧ s.commandPending = none ∧ s.commands = [] ∧
      commandReads s.reads = [] ∧ command.action ∈ active.availableActions ∧
      request.command = command ∧ request.expectedSessionRevision = active.sessionRevision ∧
      request.refreshPlanId =
        if command = .REFRESH then active.refreshPlan.map (·.refreshPlanId) else none) := by
  obtain ⟨hone, hidle⟩ := hs
  cases e with
  | pollTimer =>
    simp only [step, Option.ite_none_left_eq_some, Option.some.injEq] at h
    obtain ⟨-, rfl⟩ := h
    refine ⟨⟨?_, ?_⟩, .inl rfl⟩
    · simpa [Controller.issueRead, commandReads_append] using hone
    · simpa [Controller.issueRead, commandReads_append] using hidle
  | reload =>
    simp only [step, Option.some.injEq] at h
    subst h
    refine ⟨⟨?_, ?_⟩, .inl rfl⟩
    · simpa [Controller.issueRead, commandReads_append] using hone
    · simpa [Controller.issueRead, commandReads_append] using hidle
  | readResolved number payload =>
    obtain ⟨read, hfound, rfl⟩ := Option.map_eq_some_iff.mp h
    obtain ⟨hexclusive, hsent⟩ := exclusive_settleRead ⟨hone, hidle⟩
      (List.mem_of_find?_eq_some hfound) fun u => readPayload_traffic u payload
    exact ⟨hexclusive, .inl hsent⟩
  | readRejected number reason =>
    obtain ⟨read, hfound, rfl⟩ := Option.map_eq_some_iff.mp h
    obtain ⟨hexclusive, hsent⟩ := exclusive_settleRead ⟨hone, hidle⟩
      (List.mem_of_find?_eq_some hfound) fun u => readFailure_traffic u reason
    exact ⟨hexclusive, .inl hsent⟩
  | command command =>
    simp only [step, Option.some.injEq] at h
    subst h
    unfold Controller.runCommand
    split
    · exact ⟨⟨hone, hidle⟩, .inl rfl⟩
    · -- only a controller with no command pending sends one
      rename_i request hrequest
      obtain ⟨active, hshown, hstale, hopen, hpending, hoffered, hfields⟩ :=
        request?_eq_some hrequest
      obtain ⟨hcommands, hreads⟩ := hidle hpending
      refine ⟨⟨?_, by simp⟩, .inr ⟨command, request, active, rfl, rfl, hshown, hstale, hopen,
        hpending, hcommands, hreads, hoffered, hfields⟩⟩
      simp [hcommands, hreads]
  | commandResolved number =>
    simp only [step, Option.ite_none_right_eq_some, Option.some.injEq] at h
    obtain ⟨hmem, rfl⟩ := h
    obtain ⟨hnone, hreads⟩ := exclusive_answered ⟨hone, hidle⟩ hmem
    rw [hnone]
    refine ⟨⟨?_, fun hpending => ?_⟩, .inl rfl⟩
    · simp [Controller.issueRead, commandReads_append, hreads]
    · rw [(hidle hpending).1] at hmem
      exact absurd hmem List.not_mem_nil
  | commandRejected number reason =>
    simp only [step, Option.ite_none_right_eq_some, Option.some.injEq] at h
    obtain ⟨hmem, rfl⟩ := h
    obtain ⟨hnone, hreads⟩ := exclusive_answered ⟨hone, hidle⟩ hmem
    rw [hnone]
    unfold Controller.commandFailure
    split_ifs with habort
    · exact ⟨⟨by simp [Controller.endCommand, hreads], fun _ => ⟨rfl, hreads⟩⟩, .inl rfl⟩
    split
    · rename_i failure _
      -- a failure that counts at once ends the command
      obtain ⟨hreads', hcommands', -, hsent'⟩ := failClosed_traffic
        { s with commands := [] } failure
      refine ⟨⟨?_, fun _ => ⟨hcommands', ?_⟩⟩, .inl hsent'⟩
      · simp [Controller.endCommand, hreads', hcommands', hreads]
      · rw [Controller.endCommand, hreads', hreads]
    · dsimp only
      split
      · -- after a 409 the command awaits one more read
        refine ⟨⟨?_, fun hpending => ?_⟩, .inl rfl⟩
        · simp [Controller.issueRead, commandReads_append, hreads]
        · rw [(hidle hpending).1] at hmem
          exact absurd hmem List.not_mem_nil
      · exact ⟨⟨by simp [Controller.endCommand, hreads], fun _ => ⟨rfl, hreads⟩⟩, .inl rfl⟩
  | staleTimer =>
    simp only [step, Option.ite_none_right_eq_some, Option.some.injEq] at h
    obtain ⟨-, rfl⟩ := h
    exact ⟨⟨hone, hidle⟩, .inl rfl⟩
  | render =>
    simp only [step, Option.some.injEq] at h
    subst h
    exact ⟨⟨hone, hidle⟩, .inl rfl⟩

/-! ## Runs -/

def Event.isCommand : Event → Bool
  | .command _ => true
  | _ => false

theorem ordered_run {es : List Event} (hs : Ordered s.view) (h : run step s es = some t) :
    Ordered t.view :=
  run_induction (I := fun u => Ordered u.view) (fun _ _ _ hu hstep => ordered_step hu hstep) hs h

theorem exclusive_run {es : List Event} (hs : Exclusive s) (h : run step s es = some t) :
    Exclusive t :=
  run_induction (fun _ _ _ hu hstep => (exclusive_step hu hstep).1) hs h

theorem sessionId_run {es : List Event} (h : run step s es = some t) :
    t.sessionId = s.sessionId :=
  run_induction (I := fun u => u.sessionId = s.sessionId)
    (fun _ _ _ hu hstep => (sessionId_step hstep).trans hu) rfl h

/-- Every request sent answers a command of its own. -/
theorem sent_length_le {es : List Event} (hs : Exclusive s) (h : run step s es = some t) :
    t.sent.length ≤ s.sent.length + (es.filter Event.isCommand).length := by
  induction es generalizing s with
  | nil =>
    obtain rfl := run_nil.mp h
    exact Nat.le_add_right ..
  | cons e es ih =>
    obtain ⟨u, hu, hrest⟩ := run_cons.mp h
    obtain ⟨hexclusive, hsent⟩ := exclusive_step hs hu
    have hle := ih hexclusive hrest
    rcases hsent with hsent | ⟨command, request, _, rfl, hsent, -⟩
    · have hmore := List.length_filter_le Event.isCommand (e :: es)
      rw [hsent] at hle
      have hcons : (es.filter Event.isCommand).length ≤
          ((e :: es).filter Event.isCommand).length :=
        ((List.sublist_cons_self e es).filter _).length_le
      omega
    · rw [hsent, List.length_append, List.length_singleton] at hle
      rw [List.filter_cons_of_pos rfl, List.length_cons]
      omega

/-- In every run of a generation: the revision shown does not go back while no
failure clears the snapshot; a controller that has failed closed stays stale,
with an error, until it shows a valid response that is not older than the latest
one; and a request answers one command of the user, for the snapshot shown. -/
theorem controller_ordered {sessionId : OpaqueId} {es fs : List Event}
    (hs : run step (start sessionId) es = some s) (ht : run step s fs = some t) :
    (∀ v w, s.shown = some v → t.shown = some w → (∀ e ∈ fs, e.clears = false) →
      v.snapshotRevision ≤ w.snapshotRevision) ∧
    (s.hardFailure = true → s.stale = true ∧ s.error ≠ none ∧
      (t.hardFailure = false → ∃ before e after u, fs = before ++ e :: after ∧
        run step s before = some u ∧ u.sessionId = sessionId ∧ Valid u e)) ∧
    (∀ e u, step s e = some u → u.sent = s.sent ∨
      ∃ command request active, e = .command command ∧
        u.sent = s.sent ++ [request] ∧ s.shown = some active ∧ s.stale = false ∧
        s.hardFailure = false ∧ s.commandPending = none ∧ s.commands = [] ∧
        commandReads s.reads = [] ∧ command.action ∈ active.availableActions ∧
        request.command = command ∧ request.expectedSessionRevision = active.sessionRevision ∧
        request.refreshPlanId =
          if command = .REFRESH then active.refreshPlan.map (·.refreshPlanId) else none) ∧
    s.sent.length ≤ (es.filter Event.isCommand).length := by
  have hordered := ordered_run (ordered_start sessionId) hs
  have hexclusive := exclusive_run (exclusive_start sessionId) hs
  refine ⟨?monotone, ?failClosed, ?command, ?once⟩
  case monotone =>
    intro v w hv hw hkept
    exact shown_monotone hordered hv hkept ht hw
  case failClosed =>
    intro hfailed
    obtain ⟨hstale, herror⟩ := hordered.failed hfailed
    refine ⟨hstale, herror, fun hopen => ?_⟩
    obtain ⟨before, e, after, u, hfs, hbefore, hid, hvalid⟩ := reopened_by_valid hfailed ht hopen
    exact ⟨before, e, after, u, hfs, hbefore, hid.trans (sessionId_run hs), hvalid⟩
  case command =>
    intro e u hu
    exact (exclusive_step hexclusive hu).2
  case once =>
    have hle := sent_length_le (exclusive_start sessionId) hs
    simpa [start] using hle

end Views

/-! ## Runs on a snapshot -/

namespace ControllerSample

open SnapshotSample

def sessionId : OpaqueId := ⟨"session_1", by decide⟩

/-- The payload of the sample with another snapshot revision. -/
def revised (revision : Nat) : Value :=
  match value with
  | .obj entries => .obj (entries.map fun e =>
      if e.1 = js "snapshotRevision" then (e.1, jnat revision) else e)
  | v => v

/-- The snapshot is shown and offers COMMIT, which is sent once. -/
theorem commit_sent : ((run step (start sessionId) [.readResolved 0 value, .render]).any fun s =>
    s.shown.isSome ∧ (run step s [.command .COMMIT]).any fun t => t.sent.length = 1) = true := by
  decide +kernel

end ControllerSample

open SnapshotSample ControllerSample in
theorem controller_ordered_sample : ∃ s t,
    run step (start sessionId) [.readResolved 0 value, .render] = some s ∧
    run step s [.command .COMMIT] = some t ∧ t.sent.length = 1 ∧ s.sent.length ≤ 0 ∧
    ∀ v w, s.shown = some v → t.shown = some w → v.snapshotRevision ≤ w.snapshotRevision := by
  obtain ⟨s, hs, h⟩ := (Option.any_eq_true _ _).mp commit_sent
  obtain ⟨-, hrun⟩ := of_decide_eq_true h
  obtain ⟨t, ht, hsent⟩ := (Option.any_eq_true _ _).mp hrun
  obtain ⟨hmonotone, -, -, honce⟩ := controller_ordered hs ht
  refine ⟨s, t, hs, ht, of_decide_eq_true hsent, honce, fun v w hv hw => ?_⟩
  refine hmonotone v w hv hw fun e he => ?_
  obtain rfl := List.mem_singleton.mp he
  rfl

open SnapshotSample ControllerSample in
/-- The response to an earlier read reopens a controller that has failed closed,
and after a failure that clears the snapshot a lower revision is shown. -/
theorem controller_unordered :
    (∃ s t, run step (start sessionId) [.reload, .readResolved 1 .null] = some s ∧
      s.reads = [⟨0, .poll⟩] ∧ s.hardFailure = true ∧ s.error = some .UNSUPPORTED_SCHEMA ∧
      step s (.readResolved 0 value) = some t ∧ t.hardFailure = false ∧ t.error = none) ∧
    ∃ s t v w, run step (start sessionId)
        [.reload, .reload, .readResolved 1 value, .render] = some s ∧
      run step s [.readRejected 2 (.source (some 404) none), .readResolved 0 (revised 19),
        .render] = some t ∧
      s.shown = some v ∧ t.shown = some w ∧ w.snapshotRevision < v.snapshotRevision := by
  constructor
  · have hrun : ((run step (start sessionId) [.reload, .readResolved 1 .null]).any fun s =>
        (s.reads = [⟨0, .poll⟩] ∧ s.hardFailure = true ∧ s.error = some .UNSUPPORTED_SCHEMA) ∧
          (step s (.readResolved 0 value)).any fun t =>
            t.hardFailure = false ∧ t.error = none) = true := by
      decide +kernel
    obtain ⟨s, hs, h⟩ := (Option.any_eq_true _ _).mp hrun
    obtain ⟨⟨hreads, hfailed, herror⟩, h⟩ := of_decide_eq_true h
    obtain ⟨t, ht, h⟩ := (Option.any_eq_true _ _).mp h
    obtain ⟨hopen, hnone⟩ := of_decide_eq_true h
    exact ⟨s, t, hs, hreads, hfailed, herror, ht, hopen, hnone⟩
  · have hrun : ((run step (start sessionId)
        [.reload, .reload, .readResolved 1 value, .render]).any fun s =>
        (run step s [.readRejected 2 (.source (some 404) none), .readResolved 0 (revised 19),
          .render]).any fun t => s.shown.any fun v => t.shown.any fun w =>
            w.snapshotRevision < v.snapshotRevision) = true := by
      decide +kernel
    obtain ⟨s, hs, h⟩ := (Option.any_eq_true _ _).mp hrun
    obtain ⟨t, ht, h⟩ := (Option.any_eq_true _ _).mp h
    obtain ⟨v, hv, h⟩ := (Option.any_eq_true _ _).mp h
    obtain ⟨w, hw, h⟩ := (Option.any_eq_true _ _).mp h
    exact ⟨s, t, v, w, hs, ht, hv, hw, of_decide_eq_true h⟩

end SessionController

end EpochGuard
