import EpochGuard.Publications
import Mathlib.Data.Option.Basic

/-!
# Runs of the service

The requests that the service answers, the continuations that a created session
and a claimed refresh leave in memory, and the restarts that end them. Each
event runs one mutation of the store at most; a mutation that throws is the
failure of its continuation.
-/

namespace EpochGuard

open Json Checked Runs

namespace Service

open DecisionParser RunObserver

/-- Where a continuation is: before its first mutation, while its Runs are
observed, with what they gave, or after an error. -/
inductive Stage where
  | opening
  | observing
  | observed (observations : List TerminalRunObservation)
  | failing

/-- What a created session (no plan) or a claimed refresh still has to do. -/
structure Continuation where
  sessionId : OpaqueId
  inputs : List DispatchBindPollInput
  refreshPlan : Option RefreshPlan
  stage : Stage

/-- The database of the store and what the process has in memory beside it. -/
structure Server where
  database : EpochDatabase
  continuations : List Continuation

/-- What happens to a server: a request, a publication of a continuation that a
request has started, a continuation that ends or fails, or a new start of the
process. -/
inductive Event where
  | request (call : Call)
  | work (index : Nat) (call : Call)
  /-- The poll of a refresh resolves. -/
  | resolve (index : Nat) (observation : TerminalRunObservation)
  | fail (index : Nat)
  /-- A failed continuation gives up, or finds its session closed. -/
  | finish (index : Nat)
  | restart (timestamp : Timestamp) (ids : OpaqueId → RecoveryIds)

namespace Continuation

def initial (continuation : Continuation) : Prop := continuation.refreshPlan = none

instance (continuation : Continuation) : Decidable continuation.initial :=
  inferInstanceAs (Decidable (_ = _))

def assignmentIds (continuation : Continuation) : List OpaqueId :=
  continuation.inputs.map DispatchBindPollInput.assignmentId

/-- The input that a mutation of the run observer is about. -/
def observedInput : Call → Option DispatchBindPollInput
  | .transitionToDispatching input => some input
  | .bindRunOnce input _ _ => some input
  | .mirrorRun input _ _ => some input
  | .failAttempt input _ _ => some input
  | .rejectCompletedOutput input => some input
  | _ => none

end Continuation

section Runs

variable [Sha256] [OutputPorts]

/-- The requests of the API, of a starting process and of the World. -/
def isRequest (server : Server) : Call → Prop
  | .registerRole _ | .createSession .. | .claimRefreshPlan .. | .commit ..
  | .recordCommitRace .. | .worldCommit _ => True
  | .resetDemo backgroundSessionIds =>
      backgroundSessionIds =
        (server.continuations.filter fun c => c.initial).map Continuation.sessionId
  | _ => False

instance (server : Server) (call : Call) : Decidable (isRequest server call) := by
  cases call <;> unfold isRequest <;> infer_instance

/-- The continuation that a published request starts: three dispatches after a
creation, one after a claim. The other requests leave nothing behind. -/
def started (database : EpochDatabase) : Call → List Continuation
  | .createSession _ ports =>
      [{ sessionId := ports.sessionId
         inputs := ROLES.map fun role =>
           ⟨(ports.captures.get role).assignmentId, (ports.captures.get role).attemptId⟩
         refreshPlan := none
         stage := .opening }]
  | .claimRefreshPlan sessionId request registration runtimeLabel timestamp assignmentId receiptId
      attemptId =>
      match RefreshPlanner.claimRefreshPlan database EffectGate.identityPort sessionId request
          timestamp (createClaimArtifacts registration runtimeLabel timestamp assignmentId
            receiptId attemptId) with
      | .ok (_, .CLAIMED _ _ plan assignment attempt) =>
          [{ sessionId
             inputs := [⟨assignment.assignmentId, attempt.attemptId⟩]
             refreshPlan := some plan
             stage := .opening }]
      | _ => []
  | _ => []

/-- What is left of a continuation after one of its mutations, if the mutation
is one of its own at this stage. -/
def Continuation.advance (database : EpochDatabase) (c : Continuation) (call : Call) :
    Option (List Continuation) :=
  match c.stage, call with
  | .opening, .transitionToCollecting sessionId _ _ =>
      if c.initial ∧ sessionId = c.sessionId then some [{ c with stage := .observing }] else none
  | .opening, .captureRefreshObservation scenarioId assignmentId _ _ =>
      if ¬c.initial ∧ c.assignmentIds = [assignmentId] ∧
          ∃ s ∈ database.sessions, s.sessionId = c.sessionId ∧ s.scenarioId = scenarioId then
        some [{ c with stage := .observing }]
      else none
  | .observing, .join settled scope =>
      if c.initial ∧ scope.sessionId = c.sessionId ∧ scope.assignmentIds = c.assignmentIds then
        match (joinRoleRunObservations database settled scope).2 with
        | .joined observations => some [{ c with stage := .observed observations.toList }]
        | .failed .. => some [{ c with stage := .failing }]
      else none
  | .observing, .failSession sessionId _ _ =>
      -- the precise failure of a Run closes the session before the join
      if sessionId = c.sessionId then some [{ c with stage := .failing }] else none
  | .observing, call =>
      if ∃ input ∈ c.inputs, Continuation.observedInput call = some input then some [c] else none
  | .observed observations, .acceptInitial sessionId accepted _ =>
      if c.initial ∧ sessionId = c.sessionId ∧ accepted.toList = observations then some []
      else none
  | .observed observations, .acceptRefresh sessionId accepted plan _ =>
      if c.refreshPlan = some plan ∧ sessionId = c.sessionId ∧ [accepted] = observations then
        some []
      else none
  | .failing, .failSession sessionId _ _ =>
      if sessionId = c.sessionId then some [c] else none
  | .failing, .join _ scope =>
      if c.initial ∧ scope.sessionId = c.sessionId ∧ scope.assignmentIds = c.assignmentIds then
        some [c]
      else none
  | _, _ => none

/-- The mutations that a continuation runs, at each of its stages. What the code
still does after an error, it does at the stage `failing`. -/
inductive Continuation.Advances (database : EpochDatabase) (c : Continuation) :
    Call → List Continuation → Prop
  | collect {timestamp : Timestamp} {event : EventStamp} (stage : c.stage = .opening)
      (initial : c.initial) :
      Advances database c (.transitionToCollecting c.sessionId timestamp event)
        [{ c with stage := .observing }]
  | capture {scenarioId : ScenarioId} {assignmentId : OpaqueId} {nonce : String}
      {issuedAt : Timestamp} (stage : c.stage = .opening) (refresh : ¬c.initial)
      (own : c.assignmentIds = [assignmentId]) :
      Advances database c (.captureRefreshObservation scenarioId assignmentId nonce issuedAt)
        [{ c with stage := .observing }]
  | observe {call : Call} {input : DispatchBindPollInput} (stage : c.stage = .observing)
      (own : input ∈ c.inputs) (observed : Continuation.observedInput call = some input) :
      Advances database c call [c]
  | joined {settled : List Settled} {scope : RoleRunJoinScope}
      {observations : PerRole TerminalRunObservation} (stage : c.stage = .observing)
      (initial : c.initial)
      (own : scope.sessionId = c.sessionId ∧ scope.assignmentIds = c.assignmentIds)
      (outcome : (joinRoleRunObservations database settled scope).2 = .joined observations) :
      Advances database c (.join settled scope)
        [{ c with stage := .observed observations.toList }]
  | unjoined {settled : List Settled} {scope : RoleRunJoinScope}
      (stage : c.stage = .observing ∨ c.stage = .failing) (initial : c.initial)
      (own : scope.sessionId = c.sessionId ∧ scope.assignmentIds = c.assignmentIds) :
      Advances database c (.join settled scope) [{ c with stage := .failing }]
  | close {error : ServiceError} {ports : FailPorts}
      (stage : c.stage = .observing ∨ c.stage = .failing) :
      Advances database c (.failSession c.sessionId error ports) [{ c with stage := .failing }]
  | acceptInitial {observations : PerRole TerminalRunObservation} {ports : AcceptPorts}
      (stage : c.stage = .observed observations.toList) (initial : c.initial) :
      Advances database c (.acceptInitial c.sessionId observations ports) []
  | acceptRefresh {observation : TerminalRunObservation} {plan : RefreshPlan}
      {ports : AcceptPorts} (stage : c.stage = .observed [observation])
      (claimed : c.refreshPlan = some plan) :
      Advances database c (.acceptRefresh c.sessionId observation plan ports) []

omit [OutputPorts] in
theorem Continuation.advance_cases {database : EpochDatabase} {c : Continuation} {call : Call}
    {left : List Continuation} (h : c.advance database call = some left) :
    Continuation.Advances database c call left := by
  unfold Continuation.advance at h
  split at h
  case h_1 hstage =>
    simp only [Option.ite_none_right_eq_some, Option.some.injEq] at h
    obtain ⟨⟨hinitial, rfl⟩, rfl⟩ := h
    exact .collect hstage hinitial
  case h_2 hstage =>
    simp only [Option.ite_none_right_eq_some, Option.some.injEq] at h
    obtain ⟨⟨hrefresh, hown, -⟩, rfl⟩ := h
    exact .capture hstage hrefresh hown
  case h_3 hstage =>
    simp only [Option.ite_none_right_eq_some] at h
    obtain ⟨⟨hinitial, hown⟩, h⟩ := h
    split at h
    · rename_i observations houtcome
      obtain rfl := Option.some.inj h
      exact .joined hstage hinitial hown houtcome
    · obtain rfl := Option.some.inj h
      exact .unjoined (.inl hstage) hinitial hown
  case h_4 hstage =>
    simp only [Option.ite_none_right_eq_some, Option.some.injEq] at h
    obtain ⟨rfl, rfl⟩ := h
    exact .close (.inl hstage)
  case h_5 hstage _ _ =>
    simp only [Option.ite_none_right_eq_some, Option.some.injEq] at h
    obtain ⟨⟨input, hown, hobserved⟩, rfl⟩ := h
    exact .observe hstage hown hobserved
  case h_6 hstage =>
    simp only [Option.ite_none_right_eq_some, Option.some.injEq] at h
    obtain ⟨⟨hinitial, rfl, rfl⟩, rfl⟩ := h
    exact .acceptInitial hstage hinitial
  case h_7 hstage =>
    simp only [Option.ite_none_right_eq_some, Option.some.injEq] at h
    obtain ⟨⟨hclaimed, rfl, rfl⟩, rfl⟩ := h
    exact .acceptRefresh hstage hclaimed
  case h_8 hstage =>
    simp only [Option.ite_none_right_eq_some, Option.some.injEq] at h
    obtain ⟨rfl, rfl⟩ := h
    simpa [← hstage] using Continuation.Advances.close (.inr hstage)
  case h_9 hstage =>
    simp only [Option.ite_none_right_eq_some, Option.some.injEq] at h
    obtain ⟨⟨hinitial, hown⟩, rfl⟩ := h
    simpa [← hstage] using Continuation.Advances.unjoined (.inr hstage) hinitial hown
  case h_10 => cases h

omit [OutputPorts] in
theorem Continuation.Advances.sessionId {database : EpochDatabase} {c : Continuation} {call : Call}
    {left : List Continuation} (h : c.Advances database call left) :
    ∀ c' ∈ left, c'.sessionId = c.sessionId := by
  cases h <;> simp

/-- What the poll of a refresh may resolve with: the completed attempt that is
stored, its Run and the output that the digest is of. -/
def resolves (database : EpochDatabase) (c : Continuation)
    (observation : TerminalRunObservation) : Prop :=
  c.inputs = [⟨observation.assignmentId, observation.attempt.attemptId⟩] ∧
    observation.attempt ∈ database.attempts ∧ observation.attempt.status = .COMPLETED ∧
    observation.attempt.runId = some observation.runId ∧
    observation.attempt.outputDigest = some (sha256Digest observation.output)

instance (database : EpochDatabase) (c : Continuation) (observation : TerminalRunObservation) :
    Decidable (resolves database c observation) :=
  inferInstanceAs (Decidable (_ ∧ _))

/-- The continuation at an index, with the others. -/
def Server.replace (server : Server) (index : Nat) (continuations : List Continuation) :
    List Continuation :=
  server.continuations.take index ++ continuations ++ server.continuations.drop (index + 1)

/-- One event of a server: a request is published, a continuation goes on, or
the process starts again, which drops all continuations. An event that cannot
happen has no next server. -/
def serve (server : Server) : Event → Option Server
  | .request call => do
      guard (isRequest server call)
      let next ← publish server.database call
      return ⟨next, server.continuations ++ started server.database call⟩
  | .work index call => do
      let continuation ← server.continuations[index]?
      let left ← continuation.advance server.database call
      let next ← publish server.database call
      return ⟨next, server.replace index left⟩
  | .resolve index observation => do
      let continuation ← server.continuations[index]?
      guard (¬continuation.initial ∧ resolves server.database continuation observation)
      match continuation.stage with
      | .observing =>
          return ⟨server.database,
            server.replace index [{ continuation with stage := .observed [observation] }]⟩
      | _ => none
  | .fail index => do
      let continuation ← server.continuations[index]?
      return ⟨server.database, server.replace index [{ continuation with stage := .failing }]⟩
  | .finish index => do
      let continuation ← server.continuations[index]?
      match continuation.stage with
      | .failing => return ⟨server.database, server.replace index []⟩
      | _ => none
  | .restart timestamp ids =>
      if ∃ s ∈ server.database.sessions, isInFlightSession s.state = true then do
        let next ← publish server.database (.recoverSessions timestamp ids)
        return ⟨next, []⟩
      else some ⟨server.database, []⟩

omit [Sha256] [OutputPorts] in
theorem Server.mem_replace {server : Server} {index : Nat} {continuations : List Continuation}
    {c : Continuation} (h : c ∈ server.replace index continuations) :
    c ∈ server.continuations ∨ c ∈ continuations := by
  simp only [Server.replace, List.append_assoc, List.mem_append] at h
  rcases h with htake | hnew | hdrop
  · exact .inl (List.mem_of_mem_take htake)
  · exact .inr hnew
  · exact .inl (List.mem_of_mem_drop hdrop)

/-- The events, by what they do. -/
inductive Serves (server : Server) : Event → Server → Prop
  | request {call : Call} {next : EpochDatabase} (asked : isRequest server call)
      (published : publish server.database call = some next) :
      Serves server (.request call) ⟨next, server.continuations ++ started server.database call⟩
  | work {index : Nat} {call : Call} {c : Continuation} {left : List Continuation}
      {next : EpochDatabase} (found : c ∈ server.continuations)
      (advances : c.Advances server.database call left)
      (published : publish server.database call = some next) :
      Serves server (.work index call) ⟨next, server.replace index left⟩
  | resolve {index : Nat} {observation : TerminalRunObservation} {c : Continuation}
      (found : c ∈ server.continuations) (stage : c.stage = .observing) (refresh : ¬c.initial)
      (resolved : resolves server.database c observation) :
      Serves server (.resolve index observation)
        ⟨server.database,
          server.replace index [{ c with stage := .observed [observation] }]⟩
  | fail {index : Nat} {c : Continuation} (found : c ∈ server.continuations) :
      Serves server (.fail index)
        ⟨server.database, server.replace index [{ c with stage := .failing }]⟩
  | finish {index : Nat} : Serves server (.finish index) ⟨server.database, server.replace index []⟩
  | restart {timestamp : Timestamp} {ids : OpaqueId → RecoveryIds} {next : EpochDatabase}
      (published : publish server.database (.recoverSessions timestamp ids) = some next) :
      Serves server (.restart timestamp ids) ⟨next, []⟩
  | restartIdle {timestamp : Timestamp} {ids : OpaqueId → RecoveryIds}
      (idle : ∀ s ∈ server.database.sessions, isInFlightSession s.state = false) :
      Serves server (.restart timestamp ids) ⟨server.database, []⟩

theorem serve_cases {server next : Server} {event : Event} (h : serve server event = some next) :
    Serves server event next := by
  cases event with
  | request call =>
    simp only [serve, Option.bind_eq_bind, Option.bind_eq_some_iff, Option.guard_eq_some',
      Option.pure_def, Option.some.injEq] at h
    obtain ⟨-, hasked, database, hpublished, rfl⟩ := h
    exact .request hasked hpublished
  | work index call =>
    simp only [serve, Option.bind_eq_bind, Option.bind_eq_some_iff, Option.pure_def,
      Option.some.injEq] at h
    obtain ⟨c, hfound, left, hadvance, database, hpublished, rfl⟩ := h
    exact .work (List.mem_of_getElem? hfound) (Continuation.advance_cases hadvance) hpublished
  | resolve index observation =>
    simp only [serve, Option.bind_eq_bind, Option.bind_eq_some_iff, Option.guard_eq_some',
      Option.pure_def] at h
    obtain ⟨c, hfound, -, ⟨hrefresh, hresolved⟩, h⟩ := h
    split at h
    · rename_i hstage
      obtain rfl := Option.some.inj h
      exact .resolve (List.mem_of_getElem? hfound) hstage hrefresh hresolved
    · cases h
  | fail index =>
    simp only [serve, Option.bind_eq_bind, Option.bind_eq_some_iff, Option.pure_def,
      Option.some.injEq] at h
    obtain ⟨c, hfound, rfl⟩ := h
    exact .fail (List.mem_of_getElem? hfound)
  | finish index =>
    simp only [serve, Option.bind_eq_bind, Option.bind_eq_some_iff] at h
    obtain ⟨c, -, h⟩ := h
    split at h
    · obtain rfl := Option.some.inj h
      exact .finish
    · cases h
  | restart timestamp ids =>
    simp only [serve] at h
    split at h
    · simp only [Option.bind_eq_bind, Option.bind_eq_some_iff, Option.pure_def,
        Option.some.injEq] at h
      obtain ⟨database, hpublished, rfl⟩ := h
      exact .restart hpublished
    · rename_i hidle
      obtain rfl := Option.some.inj h
      exact .restartIdle fun s hs => by simpa using fun hflight => hidle ⟨s, hs, hflight⟩

/-- A server that starts with an empty store. -/
def emptyServer : Server := ⟨emptyEpochDatabase, []⟩

/-- What a run of the service publishes is reachable. -/
theorem reachable_of_serve {server next : Server} {event : Event}
    (hreachable : Reachable server.database) (h : serve server event = some next) :
    Reachable next.database := by
  cases serve_cases h with
  | request asked published => exact hreachable.publish published
  | work found advances published => exact hreachable.publish published
  | restart published => exact hreachable.publish published
  | resolve => exact hreachable
  | fail => exact hreachable
  | finish => exact hreachable
  | restartIdle => exact hreachable

theorem reachable_of_run {events : List Event} {server : Server}
    (h : run serve emptyServer events = some server) : Reachable server.database :=
  run_induction (I := fun s => Reachable s.database) (fun _ _ _ hs => reachable_of_serve hs)
    ⟨[], rfl⟩ h

end Runs

namespace Sample

theorem serve_registerRoles [OutputPorts] :
    run serve emptyServer
        (ROLES.map fun role => .request (.registerRole (registration role))) =
      some ⟨registered, []⟩ := rfl

/-- The server with the new session of a scenario. -/
def createdServer (scenarioId : ScenarioId) : Server :=
  ⟨created scenarioId,
    started registered (.createSession ⟨scenarioId, PerRole.ofFn agentId⟩ createPorts)⟩

theorem serve_createSession [OutputPorts] (scenarioId : ScenarioId) :
    serve ⟨registered, []⟩
        (.request (.createSession ⟨scenarioId, PerRole.ofFn agentId⟩ createPorts)) =
      some (createdServer scenarioId) := by
  simp only [serve, publish_createSession]
  rfl

/-- A run that opens a session, from where it is created. -/
theorem run_openingServer [OutputPorts] (scenarioId : ScenarioId) (rest : List Event) :
    run serve emptyServer
        (ROLES.map (fun role => .request (.registerRole (registration role))) ++
          .request (.createSession ⟨scenarioId, PerRole.ofFn agentId⟩ createPorts) :: rest) =
      run serve (createdServer scenarioId) rest := by
  rw [run_append_of_eq serve_registerRoles, run_cons_of_eq (serve_createSession scenarioId)]

end Sample

end Service

end EpochGuard
