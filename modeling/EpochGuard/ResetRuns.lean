import EpochGuard.SessionHistory

/-!
# Runs with resets

A reset leaves behind the tasks that have failed: their session is gone, and
all that they still do is to find it missing. The other tasks are those of a
run without resets. In the store that it leaves, a session opens.
-/

namespace EpochGuard

open Json Checked Runs

namespace Service

open DecisionParser RunObserver

/-! ## Sessions and their scenarios -/

/-- What no call changes about a session. -/
def scenarioOf (session : EpochSession) : OpaqueId × ScenarioId :=
  (session.sessionId, session.scenarioId)

/-- The session that a call opens. -/
def Call.opened : Call → Option OpaqueId
  | .createSession _ ports => some ports.sessionId
  | _ => none

def Event.opened : Event → Option OpaqueId
  | .request call => call.opened
  | _ => none

section Sessions

variable [Sha256] [OutputPorts] {database left : EpochDatabase} {sessionId : OpaqueId}

omit [Sha256] [OutputPorts] in
theorem scenarios_of_singletons {s s' : EpochSession} (hwas : database.sessions = [s])
    (hbecame : left.sessions = [s']) (h : scenarioOf s' = scenarioOf s) :
    left.sessions.map scenarioOf = database.sessions.map scenarioOf := by
  simp [hwas, hbecame, h]

omit [Sha256] [OutputPorts] in
theorem scenarios_setSession {session next : EpochSession} (hmem : session ∈ database.sessions)
    (halone : database.sessions.length ≤ 1) (h : scenarioOf next = scenarioOf session) :
    (database.setSession next).sessions.map scenarioOf = database.sessions.map scenarioOf := by
  have hsessions := eq_singleton_of_mem halone hmem
  exact scenarios_of_singletons hsessions
    (setSession_of_singleton next hsessions (congrArg Prod.fst h)) h

omit [Sha256] [OutputPorts] in
theorem alone_of_scenarios (h : left.sessions.map scenarioOf = database.sessions.map scenarioOf)
    (halone : database.sessions.length ≤ 1) : left.sessions.length ≤ 1 := by
  have hlength := congrArg List.length h
  simp only [List.length_map] at hlength
  omega

theorem scenarios_normalizeAndConsumeDecision {attemptId : OpaqueId} {rawOutput : JsString}
    {options : DecisionNormalizationOptions} {result : DecisionNormalizationResult}
    (halone : database.sessions.length ≤ 1)
    (h : normalizeAndConsumeDecision database attemptId rawOutput options = .ok (left, result)) :
    left.sessions.map scenarioOf = database.sessions.map scenarioOf := by
  obtain ⟨records, hconsumable, ⟨_, _, -, -, rfl, -⟩ | ⟨_, existing, -, -, -, rfl, -⟩⟩ :=
    normalizeAndConsumeDecision_cases h
  · rfl
  · have hmem := (single?_mem hconsumable.session).1
    cases existing <;> exact scenarios_setSession hmem halone rfl

theorem scenarios_normalizeAll {ports : AcceptPorts} {index : Nat}
    {observations : List TerminalRunObservation} {results : List DecisionNormalizationResult}
    (halone : database.sessions.length ≤ 1)
    (h : normalizeAll database ports index observations = .ok (left, results)) :
    left.sessions.map scenarioOf = database.sessions.map scenarioOf := by
  induction observations generalizing database index results with
  | nil =>
    obtain ⟨rfl, -⟩ := Prod.mk.inj (pure_eq_ok.mp h)
    rfl
  | cons observation rest ih =>
    simp only [normalizeAll, bind_eq_ok, mapError_eq_ok, pure_eq_ok, Prod.exists,
      Prod.mk.injEq] at h
    obtain ⟨normalized, result, hfirst, final, results', hrest, rfl, -⟩ := h
    have hfirst := scenarios_normalizeAndConsumeDecision halone hfirst
    exact (ih (alone_of_scenarios hfirst halone) hrest).trans hfirst

omit [Sha256] [OutputPorts] in
theorem FailureWritten.scenarios {session final : EpochSession} {timestamp : Timestamp}
    (halone : database.sessions.length ≤ 1) (hmem : session ∈ database.sessions)
    (h : FailureWritten database session timestamp left final) :
    left.sessions.map scenarioOf = database.sessions.map scenarioOf := by
  obtain ⟨⟨_, _, _, _, _, rfl⟩, -, ⟨_, _, _, rfl⟩⟩ := h
  exact scenarios_setSession hmem halone rfl

theorem scenarios_acceptAndValidate {observations : List TerminalRunObservation}
    {refreshPlan : Option RefreshPlan} {ports : AcceptPorts}
    (halone : database.sessions.length ≤ 1)
    (h : acceptAndValidate database sessionId observations refreshPlan ports = .ok left) :
    left.sessions.map scenarioOf = database.sessions.map scenarioOf := by
  obtain ⟨normalized, results, session, final, hnormalized, hfound, hout⟩ :=
    acceptAndValidate_cases h
  have hsame := scenarios_normalizeAll halone hnormalized
  have halone' := alone_of_scenarios hsame halone
  have hmem := (sessionById_some hfound).1
  rcases hout with ⟨-, hfailed⟩ | ⟨-, mode, hvalidated⟩
  · exact (hfailed.scenarios halone' hmem).trans hsame
  · obtain ⟨⟨_, _, _, _, _, _, _, rfl⟩, ⟨_, _, _, _, _, -, hfinal⟩, -⟩ := hvalidated
    have hsessions := eq_singleton_of_mem halone' hmem
    have hvalidating := setSession_of_singleton
      (validatingSession session mode ports.timestamp) hsessions rfl
    have hafter := setSession_of_singleton final hvalidating (by rw [hfinal])
    refine Eq.trans ?_ hsame
    exact scenarios_of_singletons hsessions hafter (by rw [hfinal]; rfl)

omit [OutputPorts] in
theorem ClaimOutcome.scenarios (halone : database.sessions.length ≤ 1)
    {request : RefreshPlanner.RefreshSessionRequest} {timestamp : Timestamp}
    {world : EffectGate.WorldPort}
    {createArtifacts : EpochSession → RefreshPlan → Role → OpaqueId →
      Except String RefreshPlanner.RefreshClaimArtifacts}
    {out : EpochDatabase × RefreshPlanner.ClaimRefreshPlanResult}
    (h : ClaimOutcome database world sessionId request timestamp createArtifacts out) :
    out.1.sessions.map scenarioOf = database.sessions.map scenarioOf := by
  cases h with
  | stale found =>
    have hsessions := eq_singleton_of_mem halone (single?_mem found).1
    exact scenarios_of_singletons hsessions (setSession_of_singleton _ hsessions rfl) rfl
  | claimed found =>
    have hsessions := eq_singleton_of_mem halone (single?_mem found).1
    exact scenarios_of_singletons hsessions (setSession_of_singleton _ hsessions rfl) rfl

omit [OutputPorts] in
theorem CommitOutcome.scenarios {expectedSessionRevision : Nat} {effectId : OpaqueId}
    {timestamp : Timestamp} {world : EffectGate.WorldPort}
    {out : EpochDatabase × EffectGate.CommitProtectedEffectResult}
    (h : EffectGate.CommitOutcome database world sessionId expectedSessionRevision effectId
      timestamp out) :
    out.1.sessions.map scenarioOf = database.sessions.map scenarioOf := by
  have hsessions (id : OpaqueId) (f : EpochSession → EpochSession)
      (hf : ∀ s, scenarioOf (f s) = scenarioOf s) :
      (modifyWhere (fun s => s.sessionId = id) f database.sessions).map scenarioOf =
        database.sessions.map scenarioOf :=
    map_modifyWhere fun s _ _ => hf s
  cases h with
  | existing => rfl
  | race => exact hsessions _ _ fun s => rfl
  | created => exact hsessions _ _ fun s => rfl

omit [Sha256] [OutputPorts] in
theorem scenarios_recoverSessions (halone : database.sessions.length ≤ 1)
    {timestamp : Timestamp} {ids : OpaqueId → RecoveryIds}
    (h : recoverSessions database timestamp ids = .ok left) :
    left.sessions.map scenarioOf = database.sessions.map scenarioOf := by
  unfold recoverSessions at h
  match hflight : database.sessions.filter fun s => isInFlightSession s.state with
  | [] =>
    rw [hflight, List.foldlM_nil, pure_eq_ok] at h
    rw [h]
  | session :: rest =>
    have hmem : session ∈ database.sessions.filter fun s => isInFlightSession s.state := by
      simp [hflight]
    have hmem := (List.mem_filter.mp hmem).1
    have hrest : rest = [] := by
      have hlength := List.length_filter_le (fun s => isInFlightSession s.state) database.sessions
      rw [hflight, List.length_cons] at hlength
      exact List.eq_nil_of_length_eq_zero (by omega)
    subst hrest
    simp only [hflight, List.foldlM_cons, List.foldlM_nil, bind_eq_ok, pure_eq_ok] at h
    obtain ⟨_, hrecovered, rfl⟩ := h
    obtain ⟨⟨_, _, _, _, _, _, rfl⟩, -, -⟩ := recoverInFlightSession_written hrecovered
    exact scenarios_setSession hmem halone rfl

/-- A call that neither opens a session nor resets keeps the sessions. -/
theorem scenarios_leaves (halone : database.sessions.length ≤ 1) {call : Call}
    (hopened : call.opened = none) (hreset : ∀ ids, call ≠ .resetDemo ids)
    (h : call.leaves database = some left) :
    left.sessions.map scenarioOf = database.sessions.map scenarioOf := by
  cases call with
  | createSession request ports => cases hopened
  | resetDemo ids => exact absurd rfl (hreset ids)
  | registerRole registration =>
    simp only [Call.leaves, toOption_eq_some, registerRole, bind_eq_ok, pure_eq_ok] at h
    obtain ⟨-, -, -, -, rfl⟩ := h
    rfl
  | transitionToCollecting id timestamp event =>
    simp only [Call.leaves, toOption_eq_some, transitionToCollecting, bind_eq_ok, orStop_eq_ok,
      pure_eq_ok] at h
    obtain ⟨_, hfound, session, rfl, -, -, rfl⟩ := h
    exact scenarios_setSession (sessionById_some hfound).1 halone rfl
  | transitionToDispatching | bindRunOnce | mirrorRun | failAttempt | rejectCompletedOutput =>
    obtain ⟨_, _, rfl⟩ := writesRuns_observer rfl h
    rfl
  | join settled scope =>
    obtain ⟨_, _, hjoined⟩ := Option.some.inj h ▸ writesRuns_join
    rw [hjoined]
  | acceptInitial id observations ports =>
    exact scenarios_acceptAndValidate halone (toOption_eq_some.mp h)
  | acceptRefresh id observation plan ports =>
    simp only [Call.leaves, Option.ite_none_right_eq_some, toOption_eq_some] at h
    exact scenarios_acceptAndValidate halone h.2
  | claimRefreshPlan id request registration runtimeLabel timestamp assignmentId receiptId
      attemptId =>
    simp only [Call.leaves, Option.ite_none_right_eq_some, toOption_eq_some,
      except_map_eq_ok] at h
    obtain ⟨-, out, hclaim, rfl⟩ := h
    exact (claimRefreshPlan_cases hclaim).scenarios halone
  | captureRefreshObservation scenarioId assignmentId nonce issuedAt =>
    obtain ⟨_, _, rfl⟩ := captureRefreshObservation_writes (toOption_eq_some.mp h)
    rfl
  | failSession id error ports =>
    rcases failSession_cases (toOption_eq_some.mp h) with
      rfl | ⟨session, final, hfound, -, hfailed⟩
    · rfl
    · exact hfailed.scenarios halone (sessionById_some hfound).1
  | commit id expectedSessionRevision effectId timestamp =>
    simp only [Call.leaves, toOption_eq_some, except_map_eq_ok] at h
    obtain ⟨out, hcommit, rfl⟩ := h
    exact CommitOutcome.scenarios (EffectGate.commit_cases hcommit)
  | recordCommitRace id ports =>
    obtain ⟨_, _, rfl⟩ := recordCommitRace_writes (toOption_eq_some.mp h)
    rfl
  | recoverSessions timestamp ids =>
    exact scenarios_recoverSessions halone (toOption_eq_some.mp h)
  | worldCommit input =>
    simp only [Call.leaves, toOption_eq_some, except_map_eq_ok] at h
    obtain ⟨_, -, rfl⟩ := h
    rfl

theorem scenarios_publish (halone : database.sessions.length ≤ 1) {call : Call}
    (hopened : call.opened = none) (hreset : ∀ ids, call ≠ .resetDemo ids)
    (h : publish database call = some left) :
    left.sessions.map scenarioOf = database.sessions.map scenarioOf := by
  obtain ⟨written, hwritten, -, rfl⟩ := publish_eq_some.mp h
  exact (scenarios_leaves halone hopened hreset hwritten :)

omit [OutputPorts] in
theorem Continuation.Advances.background {c : Continuation} {call : Call}
    {continuations : List Continuation} (h : c.Advances database call continuations) :
    call.opened = none ∧ ∀ ids, call ≠ .resetDemo ids := by
  cases h with
  | observe _ _ observed => cases call <;> simp_all [Call.opened, Continuation.observedInput]
  | _ => exact ⟨rfl, nofun⟩

theorem scenarios_serve {server next : Server} {event : Event}
    (halone : server.database.sessions.length ≤ 1) (hopened : event.opened = none)
    (hkept : ¬event.isReset) (h : serve server event = some next) :
    next.database.sessions.map scenarioOf = server.database.sessions.map scenarioOf := by
  cases serve_cases h with
  | request asked published =>
    refine scenarios_publish halone hopened (fun ids heq => hkept ?_) published
    rw [heq]
    exact trivial
  | work found advances published =>
    exact scenarios_publish halone advances.background.1 advances.background.2 published
  | restart published => exact scenarios_publish halone rfl (by simp) published
  | resolve | fail | finish | restartIdle => rfl

omit [OutputPorts] in
/-- The created session has the scenario of its request. -/
theorem createSession_scenario (hinv : database.evidence.Inv) {request : CreateSessionRequest}
    {verified : PerRole RoleAgentRegistration} {ports : CreateSessionPorts}
    (h : Service.createSession database request verified ports = .ok left) :
    ∃ s, left.sessions = [s] ∧ s.scenarioId = request.scenarioId := by
  have hnone := (createSession_opens hinv h).1
  unfold Service.createSession at h
  dsimp only at h
  split at h
  · simp at h
  · simp only [bind_eq_ok, require_eq_ok, mapError_eq_ok, pure_eq_ok] at h
    obtain ⟨-, -, prepared, ⟨world, -, action, -, queried, hqueried, hprepared⟩, -, -, rfl⟩ := h
    have hqueried : queried.sessions = [] := by
      refine foldlM_induction (P := fun db : EpochDatabase => db.sessions = []) ?_ ?_ hqueried
      swap
      · exact hnone
      intro before role after hbefore _ hstore
      obtain ⟨_, rfl⟩ := Evidence.storeQuerySpec_cases hstore
      exact hbefore
    have hprepared : prepared.database.sessions = [prepared.session] ∧
        prepared.session.scenarioId = request.scenarioId := by
      refine foldlM_induction (P := fun p : Prepared => p.database.sessions = [p.session] ∧
        p.session.scenarioId = request.scenarioId) ?_ ⟨by simp [hqueried], rfl⟩ hprepared
      intro before step after hbefore _ hstep
      cases step with
      | commit step =>
        simp only [initialStep, bind_eq_ok, pure_eq_ok] at hstep
        obtain ⟨world, -, rfl⟩ := hstep
        exact hbefore
      | capture step =>
        simp only [initialStep, captureInitial, bind_eq_ok, pure_eq_ok] at hstep
        obtain ⟨-, -, assignment, -, issued, hissued, rfl⟩ := hstep
        obtain ⟨_, _, rfl⟩ := issueAndPack_writes hissued
        exact ⟨setSession_of_singleton _ hbefore.1 rfl, hbefore.2⟩
    exact ⟨prepared.session, hprepared⟩

end Sessions

/-! ## Tasks and what a reset leaves behind -/

def Server.owns (server : Server) (c : Continuation) : Bool :=
  server.database.sessions.any fun s => s.sessionId = c.sessionId

/-- The server with the tasks of its session. -/
def Server.live (server : Server) : Server :=
  { server with continuations := server.continuations.filter server.owns }

section Jobs

variable [Sha256] [OutputPorts] {used : List OpaqueId} {server next : Server} {event : Event}

/-- The tasks of the session are those of a run without resets; the others have
failed. Identifiers are used once. -/
structure Jobs (used : List OpaqueId) (server : Server) : Prop where
  tasks : Tasks server.live
  behind : ∀ c ∈ server.continuations, server.owns c = false → c.stage = .failing
  sessions : ∀ s ∈ server.database.sessions, s.sessionId ∈ used
  continuations : ∀ c ∈ server.continuations, c.sessionId ∈ used

/-- The sessions are the ones before, and the closed ones are closed. -/
def Settles (before after : EpochDatabase) : Prop :=
  ∀ s' ∈ after.sessions, ∃ s ∈ before.sessions, scenarioOf s' = scenarioOf s ∧
    (isTerminalSession s.state = true → isTerminalSession s'.state = true)

theorem Jobs.reachable (h : Jobs used server) : Reachable server.database := h.tasks.reachable

theorem Jobs.alone (h : Jobs used server) : server.database.sessions.length ≤ 1 := h.tasks.single

omit [Sha256] [OutputPorts] in
theorem settles_of_monotone {database left : EpochDatabase} (hafter : left.sessions.length ≤ 1)
    (hsame : left.sessions.map scenarioOf = database.sessions.map scenarioOf)
    (h : Monotone database left) : Settles database left := by
  intro s' hs'
  have hmem : scenarioOf s' ∈ database.sessions.map scenarioOf := hsame ▸ List.mem_map_of_mem hs'
  obtain ⟨s, hs, hscenario⟩ := List.mem_map.mp hmem
  refine ⟨s, hs, hscenario.symm, fun hterminal => ?_⟩
  obtain ⟨t, ht, -, hstep⟩ := h.sessions s hs
  rw [eq_singleton_of_mem hafter hs', List.mem_singleton] at ht
  subst ht
  rcases hstep with hstands | ⟨hopen, -⟩
  · simp only [standing, Prod.mk.injEq] at hstands
    rw [hstands.1]
    exact hterminal
  · simp [hopen] at hterminal

omit [Sha256] [OutputPorts] in
theorem ids_of_scenarios {database left : EpochDatabase}
    (h : left.sessions.map scenarioOf = database.sessions.map scenarioOf)
    (hused : ∀ s ∈ database.sessions, s.sessionId ∈ used) :
    ∀ s ∈ left.sessions, s.sessionId ∈ used := by
  intro s hs
  have hs' : scenarioOf s ∈ database.sessions.map scenarioOf := h ▸ List.mem_map_of_mem hs
  obtain ⟨s', hs', heq⟩ := List.mem_map.mp hs'
  have hid : s'.sessionId = s.sessionId := congrArg Prod.fst heq
  exact hid ▸ hused s' hs'

omit [Sha256] [OutputPorts] in
theorem Server.owns_of_id {c c' : Continuation} (h : c'.sessionId = c.sessionId) :
    server.owns c' = server.owns c := by
  simp [Server.owns, h]

omit [Sha256] [OutputPorts] in
theorem Server.owns_eq_true {c : Continuation} :
    server.owns c = true ↔ ∃ s ∈ server.database.sessions, s.sessionId = c.sessionId := by
  simp [Server.owns]

omit [Sha256] [OutputPorts] in
theorem Server.owns_of_scenarios
    (h : next.database.sessions.map scenarioOf = server.database.sessions.map scenarioOf) :
    next.owns = server.owns := by
  have hany (sessions : List EpochSession) (c : Continuation) :
      (sessions.any fun s => s.sessionId = c.sessionId) =
        (sessions.map scenarioOf).any fun k => k.1 = c.sessionId := by
    rw [List.any_map]
    rfl
  funext c
  rw [Server.owns, hany, h, ← hany, Server.owns]

omit [Sha256] [OutputPorts] in
theorem Server.live_of_none (h : server.database.sessions = []) :
    server.live.continuations = [] :=
  List.filter_eq_nil_iff.mpr fun c _ => by simp [Server.owns, h]

/-- An event about a task is one of a server that has no other. -/
theorem serve_single {index : Nat} (hindex : event.index = some index)
    (h : serve server event = some next) :
    ∃ c event' left, server.continuations[index]? = some c ∧
      next.continuations = server.replace index left ∧
      event'.index = some 0 ∧ event'.opened = none ∧ ¬event'.isReset ∧
      serve ⟨server.database, [c]⟩ event' = some ⟨next.database, left⟩ ∧
      ∀ c' ∈ left, c'.sessionId = c.sessionId := by
  cases event with
  | work i call =>
    obtain rfl := Option.some.inj hindex
    simp only [serve, Option.bind_eq_bind, Option.bind_eq_some_iff, Option.pure_def,
      Option.some.injEq] at h
    obtain ⟨c, hc, left, hadvance, database, hpublish, rfl⟩ := h
    exact ⟨c, .work 0 call, left, hc, rfl, rfl, rfl, id,
      by simp [serve, hadvance, hpublish, Server.replace],
      (Continuation.advance_cases hadvance).sessionId⟩
  | resolve i observation =>
    obtain rfl := Option.some.inj hindex
    simp only [serve, Option.bind_eq_bind, Option.bind_eq_some_iff, Option.guard_eq_some',
      Option.pure_def] at h
    obtain ⟨c, hc, -, hguard, h⟩ := h
    split at h
    · rename_i hstage
      obtain rfl := Option.some.inj h
      exact ⟨c, .resolve 0 observation, _, hc, rfl, rfl, rfl, id,
        by simp [serve, hguard, hstage, Server.replace], by simp⟩
    · cases h
  | fail i =>
    obtain rfl := Option.some.inj hindex
    simp only [serve, Option.bind_eq_bind, Option.bind_eq_some_iff, Option.pure_def,
      Option.some.injEq] at h
    obtain ⟨c, hc, rfl⟩ := h
    exact ⟨c, .fail 0, _, hc, rfl, rfl, rfl, id, by simp [serve, Server.replace], by simp⟩
  | finish i =>
    obtain rfl := Option.some.inj hindex
    simp only [serve, Option.bind_eq_bind, Option.bind_eq_some_iff] at h
    obtain ⟨c, hc, h⟩ := h
    split at h
    · rename_i hstage
      obtain rfl := Option.some.inj h
      exact ⟨c, .finish 0, _, hc, rfl, rfl, rfl, id,
        by simp [serve, hstage, Server.replace], by simp⟩
    · cases h
  | request | restart => cases hindex

/-- A failed task without a session does nothing. -/
theorem serve_behind {database left : EpochDatabase} {c : Continuation}
    {continuations : List Continuation} (hstage : c.stage = .failing)
    (hmissing : ∀ s ∈ database.sessions, s.sessionId ≠ c.sessionId)
    (hindex : event.index = some 0)
    (h : serve ⟨database, [c]⟩ event = some ⟨left, continuations⟩) :
    Still database left ∧ ∀ c' ∈ continuations, c'.stage = .failing := by
  have hold : ∀ c' ∈ [c], c'.stage = .failing := by simpa using hstage
  cases serve_cases h with
  | request | restart | restartIdle => cases hindex
  | @work _ call c' cs _ found advances published =>
    obtain rfl := List.mem_singleton.mp found
    obtain ⟨written, hwritten, -, rfl⟩ := publish_eq_some.mp published
    have hnew {cs : List Continuation} (hcs : ∀ c ∈ cs, c.stage = .failing) (index : Nat) :
        ∀ c ∈ Server.replace ⟨database, [c']⟩ index cs, c.stage = .failing :=
      fun c hc => (Server.mem_replace hc).elim (hold c) (hcs c)
    cases advances with
    | unjoined =>
      obtain ⟨_, _, hjoined⟩ := Option.some.inj hwritten ▸ writesRuns_join
      rw [hjoined]
      exact ⟨⟨rfl, rfl, rfl, rfl⟩, hnew (by simp) _⟩
    | close =>
      rcases failSession_cases (toOption_eq_some.mp hwritten) with
        rfl | ⟨session, final, hfound, -, -⟩
      · exact ⟨⟨rfl, rfl, rfl, rfl⟩, hnew (by simp) _⟩
      · obtain ⟨hmem, hid, -⟩ := sessionById_some hfound
        exact absurd hid (hmissing session hmem)
    | collect stage | capture stage | observe stage | joined stage | acceptInitial stage
    | acceptRefresh stage => simp [hstage] at stage
  | resolve found stage =>
    obtain rfl := List.mem_singleton.mp found
    simp [hstage] at stage
  | fail found =>
    refine ⟨.refl _, fun c' hc' => ?_⟩
    rcases Server.mem_replace hc' with hold' | hnew
    · exact hold c' hold'
    · rw [List.mem_singleton.mp hnew]
  | finish =>
    refine ⟨.refl _, fun c' hc' => ?_⟩
    rcases Server.mem_replace hc' with hold' | hnew
    · exact hold c' hold'
    · cases hnew

omit [Sha256] [OutputPorts] in
theorem Server.split {index : Nat} {c : Continuation}
    (h : server.continuations[index]? = some c) :
    server.continuations = server.replace index [c] := by
  obtain ⟨hindex, rfl⟩ := List.getElem?_eq_some_iff.mp h
  rw [Server.replace, List.append_assoc, List.singleton_append, List.getElem_cons_drop,
    List.take_append_drop]

omit [Sha256] [OutputPorts] in
theorem Server.filter_replace {index : Nat} {continuations : List Continuation}
    {p : Continuation → Bool} : (server.replace index continuations).filter p =
      (server.continuations.take index).filter p ++ continuations.filter p ++
        (server.continuations.drop (index + 1)).filter p := by
  simp [Server.replace, List.filter_append]

/-- What an event about a task keeps. -/
theorem Jobs.indexed (h : Jobs used server) {index : Nat} (hindex : event.index = some index)
    (hserve : serve server event = some next) :
    Jobs used next ∧ Settles server.database next.database := by
  obtain ⟨c, event', left, hc, hnext, hindex', hopened, hkept, hstep, hids⟩ :=
    serve_single hindex hserve
  have hsame : next.database.sessions.map scenarioOf = server.database.sessions.map scenarioOf :=
    (scenarios_serve (by exact h.alone) hopened hkept hstep :)
  have howns := Server.owns_of_scenarios hsame
  have hsplit := Server.split hc
  have hold : ∀ c' ∈ next.continuations, c' ∈ server.continuations ∨ c' ∈ left := by
    rw [hnext]
    exact fun c' => Server.mem_replace
  have hmem : c ∈ server.continuations := List.mem_of_getElem? hc
  have hsessions := ids_of_scenarios hsame h.sessions
  have hcontinuations : ∀ c' ∈ next.continuations, c'.sessionId ∈ used := by
    intro c' hc'
    rcases hold c' hc' with hc' | hc'
    · exact h.continuations c' hc'
    · exact hids c' hc' ▸ h.continuations c hmem
  have hafter := alone_of_scenarios hsame h.alone
  -- the tasks of the session, before and after
  have hlive := congrArg (List.filter server.owns) hsplit
  rw [Server.filter_replace] at hlive
  have hlive' := congrArg (List.filter next.owns) hnext
  rw [Server.filter_replace, howns] at hlive'
  cases howned : server.owns c with
  | true =>
    have hnone : (server.continuations.take index).filter server.owns = [] ∧
        (server.continuations.drop (index + 1)).filter server.owns = [] := by
      have hlength := h.tasks.alone
      simp only [Server.live, hlive, List.length_append, List.filter_cons_of_pos howned,
        List.length_cons] at hlength
      constructor <;> refine List.eq_nil_of_length_eq_zero ?_ <;> omega
    have hown : left.filter server.owns = left :=
      List.filter_eq_self.mpr fun c' hc' => (Server.owns_of_id (hids c' hc')).trans howned
    rw [hnone.1, hnone.2, List.filter_cons_of_pos howned] at hlive
    rw [hnone.1, hnone.2, hown] at hlive'
    have hserver : server.live = ⟨server.database, [c]⟩ := by simpa [Server.live] using hlive
    have hserver' : next.live = ⟨next.database, left⟩ := by
      simpa [Server.live, howns] using hlive'
    obtain ⟨htasks, hmonotone⟩ := (hserver ▸ h.tasks).serve hkept hstep
    refine ⟨⟨hserver' ▸ htasks, fun c' hc' hbehind => ?_, hsessions, hcontinuations⟩,
      settles_of_monotone hafter hsame hmonotone⟩
    rw [howns] at hbehind
    rcases hold c' hc' with hc' | hc'
    · exact h.behind c' hc' hbehind
    · simp [Server.owns_of_id (hids c' hc'), howned] at hbehind
  | false =>
    have hmissing : ∀ s ∈ server.database.sessions, s.sessionId ≠ c.sessionId := by
      intro s hs hid
      simp [Server.owns_eq_true.mpr ⟨s, hs, hid⟩] at howned
    obtain ⟨hstill, hfailing⟩ := serve_behind (h.behind c hmem howned) hmissing hindex' hstep
    have hnone : left.filter server.owns = [] :=
      List.filter_eq_nil_iff.mpr fun c' hc' => by simp [Server.owns_of_id (hids c' hc'), howned]
    have hserver' : next.live = ⟨next.database, server.live.continuations⟩ := by
      rw [List.filter_cons_of_neg (by simp [howned]), List.filter_nil] at hlive
      rw [hnone, ← hlive] at hlive'
      simpa [Server.live, howns] using hlive'
    have hreachable : Reachable next.database := reachable_of_serve h.reachable hserve
    obtain ⟨htasks, hmonotone⟩ := h.tasks.still hreachable hstill h.tasks.alone
      fun c' hc' => ⟨c', hc', rfl, id⟩
    refine ⟨⟨hserver' ▸ htasks, fun c' hc' hbehind => ?_, hsessions, hcontinuations⟩,
      settles_of_monotone hafter hsame hmonotone⟩
    rcases hold c' hc' with hc' | hc'
    · exact h.behind c' hc' (howns ▸ hbehind)
    · exact hfailing c' hc'

/-- What a request keeps that neither opens a session nor resets. -/
theorem Jobs.asked (h : Jobs used server) {call : Call} (hopened : call.opened = none)
    (hkept : ¬(Event.request call).isReset)
    (hserve : serve server (.request call) = some next) :
    Jobs used next ∧ Settles server.database next.database := by
  have hcall : (Event.request call).opened = none := hopened
  have hsame := scenarios_serve h.alone hcall hkept hserve
  have howns := Server.owns_of_scenarios hsame
  have hafter := alone_of_scenarios hsame h.alone
  cases serve_cases hserve with
  | @request _ left asked published =>
    have hasked : isRequest server.live call := by
      cases call <;> first | exact asked | exact absurd trivial hkept
    obtain ⟨htasks, hmonotone⟩ := h.tasks.request hasked hkept published
    -- the task that the request starts is one of the session
    have hstarted : (started server.database call).filter server.owns =
        started server.database call := by
      refine List.filter_eq_self.mpr fun c hc => ?_
      obtain ⟨s, hs, hid, -⟩ := htasks.owned c (List.mem_append_right _ hc)
      rw [← howns]
      exact Server.owns_eq_true.mpr ⟨s, hs, hid⟩
    have hlive : Server.live ⟨left, server.continuations ++ started server.database call⟩ =
        ⟨left, server.live.continuations ++ started server.database call⟩ := by
      simp [Server.live, howns, List.filter_append, hstarted]
    have hids := ids_of_scenarios hsame h.sessions
    refine ⟨⟨hlive ▸ htasks, fun c hc hbehind => ?_, hids, fun c hc => ?_⟩,
      settles_of_monotone hafter hsame hmonotone⟩
    · rw [howns] at hbehind
      rcases List.mem_append.mp hc with hc | hc
      · exact h.behind c hc hbehind
      · rw [← hstarted] at hc
        simp [(List.mem_filter.mp hc).2] at hbehind
    · rcases List.mem_append.mp hc with hc | hc
      · exact h.continuations c hc
      · obtain ⟨s, hs, hid, -⟩ := htasks.owned c (List.mem_append_right _ hc)
        exact hid ▸ hids s hs

/-- A session is opened in a store that has none, with a new identifier. -/
theorem Jobs.create (h : Jobs used server) {request : CreateSessionRequest}
    {ports : CreateSessionPorts} (hfresh : ports.sessionId ∉ used)
    (hserve : serve server (.request (.createSession request ports)) = some next) :
    Jobs (used ++ [ports.sessionId]) next ∧ server.database.sessions = [] ∧
      ∃ s, next.database.sessions = [s] ∧ scenarioOf s = (ports.sessionId, request.scenarioId) := by
  cases serve_cases hserve with
  | @request _ left asked published =>
    obtain ⟨written, hwritten, -, rfl⟩ := publish_eq_some.mp published
    have hcreated := hwritten
    simp only [Call.leaves, Option.bind_eq_bind, Option.bind_eq_some_iff,
      toOption_eq_some] at hcreated
    obtain ⟨verified, -, hcreated⟩ := hcreated
    have hinv := Evidence.inv_reachable h.reachable
    obtain ⟨hnone, -, s, hs, hid, -⟩ := createSession_opens hinv hcreated
    obtain ⟨s', hs', hscenario⟩ := createSession_scenario hinv hcreated
    obtain rfl := List.singleton_inj.mp (hs.symm.trans hs')
    have hasked : isRequest server.live (.createSession request ports) := trivial
    obtain ⟨htasks, -⟩ := h.tasks.request hasked id published
    rw [Server.live_of_none hnone, List.nil_append] at htasks
    -- continuations of sessions before the reset are not of the new session
    have howns (c : Continuation) (hc : c ∈ server.continuations) :
        Server.owns ⟨EpochStore.stamp written server.database, server.continuations ++
          started server.database (.createSession request ports)⟩ c = false := by
      have hne : ports.sessionId ≠ c.sessionId :=
        fun heq => hfresh (heq ▸ h.continuations c hc)
      simp [Server.owns, EpochStore.stamp, hs, hid, hne]
    refine ⟨⟨?_, fun c hc hbehind => ?_, fun t ht => ?_, fun c hc => ?_⟩, hnone, s,
      by simp [EpochStore.stamp, hs], Prod.ext hid hscenario⟩
    · have hserver : Server.live ⟨EpochStore.stamp written server.database,
          server.continuations ++ started server.database (.createSession request ports)⟩ =
          ⟨EpochStore.stamp written server.database,
            started server.database (.createSession request ports)⟩ := by
        have hold := List.filter_eq_nil_iff.mpr fun c hc => by
          simpa using howns c hc
        rw [Server.live, List.filter_append, hold]
        simp [started, Server.owns, EpochStore.stamp, hs, hid]
      exact hserver ▸ htasks
    · rcases List.mem_append.mp hc with hc | hc
      · refine h.behind c hc ?_
        simp [Server.owns, hnone]
      · rw [started, List.mem_singleton] at hc
        subst hc
        simp [Server.owns, EpochStore.stamp, hs, hid] at hbehind
    · have ht : t ∈ [s] := hs ▸ ht
      rw [List.mem_singleton.mp ht, hid]
      simp
    · rcases List.mem_append.mp hc with hc | hc
      · exact List.mem_append_left _ (h.continuations c hc)
      · rw [started, List.mem_singleton] at hc
        subst hc
        simp

/-- A reset leaves no session, and of the tasks the failed ones. -/
theorem Jobs.reset (h : Jobs used server) {ids : List OpaqueId}
    (hserve : serve server (.request (.resetDemo ids)) = some next) :
    Jobs used next ∧ next.database.sessions = [] := by
  have hreachable : Reachable next.database := reachable_of_serve h.reachable hserve
  cases serve_cases hserve with
  | @request _ left asked published =>
    obtain ⟨written, hwritten, -, rfl⟩ := publish_eq_some.mp published
    simp only [Call.leaves, toOption_eq_some, resetDemo] at hwritten
    split at hwritten
    · simp at hwritten
    · rename_i hnone
      obtain rfl := pure_eq_ok.mp hwritten
      have hclosed : ∀ s ∈ server.database.sessions, isTerminalSession s.state = true := by
        have hlength := congrArg List.length (List.head?_eq_none_iff.mp hnone)
        simp only [JointValidity.sortIds, List.length_insertionSort, List.length_map,
          List.length_nil, List.length_eq_zero_iff] at hlength
        intro s hs
        have hclosed := List.filter_eq_nil_iff.mp hlength s hs
        simp only [Bool.or_eq_true, Bool.not_eq_true', not_or, Bool.not_eq_false] at hclosed
        exact hclosed.2
      refine ⟨⟨⟨hreachable, offered_of_none ?_, ?_, ?_⟩, fun c hc _ => ?_, ?_, ?_⟩, rfl⟩
      · exact fun p hp => absurd hp List.not_mem_nil
      · rw [Server.live_of_none rfl]
        exact Nat.zero_le _
      · rw [Server.live_of_none rfl]
        exact fun c hc => absurd hc List.not_mem_nil
      · simp only [started, List.append_nil] at hc
        cases howned : server.owns c with
        | false => exact h.behind c hc howned
        | true =>
          obtain ⟨s, hs, -, hstate⟩ := h.tasks.owned c (List.mem_filter.mpr ⟨hc, howned⟩)
          rcases hstate with hworking | ⟨hfailing, -⟩
          · have hterminal := hclosed s hs
            simp [(working_open hworking).1] at hterminal
          · exact hfailing
      · exact fun s hs => absurd hs List.not_mem_nil
      · simpa [started] using h.continuations

theorem Jobs.restart (h : Jobs used server) {timestamp : Timestamp} {ids : OpaqueId → RecoveryIds}
    (hserve : serve server (.restart timestamp ids) = some next) :
    Jobs used next ∧ Settles server.database next.database := by
  have hsame := scenarios_serve h.alone rfl id hserve
  have hlive : serve server.live (.restart timestamp ids) = some next := hserve
  obtain ⟨htasks, hmonotone⟩ := h.tasks.serve id hlive
  have hnone : next.continuations = [] := by
    cases serve_cases hserve <;> rfl
  have hserver : next.live = next := by
    cases next
    simp_all [Server.live]
  exact ⟨⟨hserver.symm ▸ htasks, by simp [hnone], ids_of_scenarios hsame h.sessions,
    by simp [hnone]⟩, settles_of_monotone (alone_of_scenarios hsame h.alone) hsame hmonotone⟩

/-- What every event keeps that opens no session. -/
theorem Jobs.serve (h : Jobs used server) (hopened : event.opened = none)
    (hserve : Service.serve server event = some next) :
    Jobs used next ∧ Settles server.database next.database := by
  cases event with
  | request call =>
    by_cases hreset : (Event.request call).isReset
    · cases call with
      | resetDemo ids =>
        obtain ⟨hjobs, hnone⟩ := h.reset hserve
        exact ⟨hjobs, fun s hs => by simp [hnone] at hs⟩
      | _ => exact hreset.elim
    · exact h.asked hopened hreset hserve
  | work index call => exact h.indexed rfl hserve
  | resolve index observation => exact h.indexed rfl hserve
  | fail index => exact h.indexed rfl hserve
  | finish index => exact h.indexed rfl hserve
  | restart timestamp ids => exact h.restart hserve

theorem jobs_emptyServer : Jobs [] emptyServer where
  tasks := tasks_emptyServer
  behind := fun _ hc => absurd hc List.not_mem_nil
  sessions := fun _ hs => absurd hs List.not_mem_nil
  continuations := fun _ hc => absurd hc List.not_mem_nil

theorem Jobs.mono (h : Jobs used server) (new : List OpaqueId) : Jobs (used ++ new) server where
  tasks := h.tasks
  behind := h.behind
  sessions := fun s hs => List.mem_append_left _ (h.sessions s hs)
  continuations := fun c hc => List.mem_append_left _ (h.continuations c hc)

end Jobs

/-! ## The session after a reset -/

section Reopening

attribute [local instance] Sha256.standard

variable [OutputPorts] {server : Server}

/-- The sessions that a reset takes for running whatever their state. -/
def Server.background (server : Server) : List OpaqueId :=
  (server.continuations.filter fun c => c.initial).map Continuation.sessionId

/-- Every session is closed, and no initial task is left that works on one. -/
def Server.Quiet (server : Server) : Prop :=
  ∀ s ∈ server.database.sessions,
    isTerminalSession s.state = true ∧ s.sessionId ∉ server.background

instance (server : Server) : Decidable server.Quiet :=
  inferInstanceAs (Decidable (∀ s ∈ _, _))

/-- What a reset leaves in the store. -/
def emptied (database : EpochDatabase) : EpochDatabase :=
  { emptyEpochDatabase with
    snapshotRevision := database.snapshotRevision + 1
    roleAgentRegistrations := database.roleAgentRegistrations }

omit [OutputPorts] in
theorem emptied_parses (database : EpochDatabase) : (emptied database).parses := by
  refine ⟨?_, ?_, ?_⟩
  · intro v hv
    cases hv
  · intro t ht
    cases ht
  · intro s hs
    cases hs

theorem serve_resetDemo (h : server.Quiet) :
    serve server (.request (.resetDemo server.background)) =
      some ⟨emptied server.database, server.continuations⟩ := by
  have hnone : server.database.sessions.filter (fun s =>
      server.background.contains s.sessionId || !isTerminalSession s.state) = [] := by
    rw [List.filter_eq_nil_iff]
    intro s hs
    obtain ⟨hclosed, hidle⟩ := h s hs
    simp [hclosed, hidle]
  have hreset : resetDemo server.database server.background =
      .ok { emptyEpochDatabase with
        snapshotRevision := server.database.snapshotRevision
        roleAgentRegistrations := server.database.roleAgentRegistrations } := by
    unfold resetDemo
    rw [hnone]
    rfl
  have hpublish : publish server.database (.resetDemo server.background) =
      some (emptied server.database) := by
    rw [publish_eq_some]
    exact ⟨_, toOption_eq_some.mpr hreset, emptied_parses server.database, rfl⟩
  have hasked : isRequest server (.resetDemo server.background) := rfl
  simp [serve, hasked, hpublish, started]

/-- Once every session is closed, the store can be reset, and a session of the
registered Agents opens whatever the runs before have left. -/
theorem reset_reopens {events : List Event} (hrun : run serve emptyServer events = some server)
    (hquiet : server.Quiet) {request : CreateSessionRequest}
    {verified : PerRole RoleAgentRegistration} {ports : CreateSessionPorts}
    (hagents : verifyRequestedAgents server.database request = .ok verified)
    (hfit : ports.Fit) :
    ∃ reset next session,
      serve server (.request (.resetDemo server.background)) = some reset ∧
      serve reset (.request (.createSession request ports)) = some next ∧
      next.database.sessions = [session] ∧ session.sessionId = ports.sessionId ∧
      session.scenarioId = request.scenarioId ∧ session.state = .DISPATCHING ∧
      next.database.runAssignments.map RunAssignment.assignmentId =
        (ROLES.map fun role => (ports.captures.get role).assignmentId) ∧
      next.database.receipts.map ObservationReceipt.runAssignmentId =
        ROLES.map fun role => (ports.captures.get role).assignmentId := by
  have hreset := serve_resetDemo hquiet
  have hempty : Pristine (emptied server.database) := ⟨rfl, rfl, rfl, rfl, rfl⟩
  let left := opened (emptied server.database) request verified ports
  have hcreate : createSession (emptied server.database) request verified ports = .ok left :=
    createSession_eq hempty hfit
  have hverified : verifyRequestedAgents (emptied server.database) request = .ok verified :=
    hagents
  -- what was opened is accepted by the schema of the store
  have hparses : (EpochStore.stamp left (emptied server.database)).parses :=
    opened_parses (emptied_parses server.database)
  have hpublish : publish (emptied server.database) (.createSession request ports) =
      some (EpochStore.stamp left (emptied server.database)) := by
    rw [publish_eq_some]
    refine ⟨left, ?_, hparses, rfl⟩
    simp only [Call.leaves, hverified]
    exact toOption_eq_some.mpr hcreate
  have hserve : serve ⟨emptied server.database, server.continuations⟩
      (.request (.createSession request ports)) =
        some ⟨EpochStore.stamp left (emptied server.database),
          server.continuations ++
            started (emptied server.database) (.createSession request ports)⟩ := by
    have hasked : isRequest ⟨emptied server.database, server.continuations⟩
        (.createSession request ports) := trivial
    simp [serve, hasked, hpublish]
  have hinv : (emptied server.database).evidence.Inv :=
    Evidence.inv_reachable (reachable_of_serve (reachable_of_run hrun) hreset)
  obtain ⟨-, -, session, hsessions, hid, hstate⟩ := createSession_opens hinv hcreate
  obtain ⟨same, hsame, hscenario⟩ := createSession_scenario hinv hcreate
  obtain rfl := List.singleton_inj.mp (hsessions.symm.trans hsame)
  have hassignments : left.runAssignments.map RunAssignment.assignmentId =
      ROLES.map fun role => (ports.captures.get role).assignmentId :=
    opened_assignments hempty hfit
  have hreceipts : left.receipts.map ObservationReceipt.runAssignmentId =
      left.runAssignments.map RunAssignment.assignmentId := opened_receipts hempty
  exact ⟨_, _, session, hreset, hserve, hsessions, hid, hscenario, hstate, hassignments,
    hreceipts.trans hassignments⟩

end Reopening

namespace Sample

/-- A session that a restart has interrupted. -/
theorem interrupted :
    (run serve emptyServer (openingEvents ++ closingEvents)).any (fun server =>
      server.Quiet && server.database.sessions.length = 1 &&
        server.database.roleAgentRegistrations = ROLES.map registration) = true := by
  unfold openingEvents
  rw [List.append_assoc, List.cons_append, run_openingServer]
  decide +kernel

end Sample

open scoped Sample in
theorem reset_reopens_sample : ∃ server reset next session,
    run serve emptyServer (Sample.openingEvents ++ Sample.closingEvents) = some server ∧
      server.database.sessions.length = 1 ∧
      serve server (.request (.resetDemo server.background)) = some reset ∧
      serve reset (.request (.createSession
        ⟨.impossibleCollageV1, PerRole.ofFn Sample.agentId⟩ Sample.createPorts)) = some next ∧
      next.database.sessions = [session] ∧ session.scenarioId = .impossibleCollageV1 ∧
      session.state = .DISPATCHING := by
  obtain ⟨server, hrun, hserver⟩ := (Option.any_eq_true _ _).mp Sample.interrupted
  simp only [Bool.and_eq_true, decide_eq_true_eq] at hserver
  obtain ⟨⟨hquiet, hone⟩, hregistered⟩ := hserver
  have hagents : verifyRequestedAgents server.database
      ⟨.impossibleCollageV1, PerRole.ofFn Sample.agentId⟩ =
        .ok (PerRole.ofFn Sample.registration) := by
    unfold verifyRequestedAgents roleRegistration
    rw [hregistered]
    rfl
  obtain ⟨reset, next, session, hreset, hserve, hsessions, -, hscenario, hstate, -⟩ :=
    reset_reopens hrun hquiet hagents Sample.createPorts_fit
  exact ⟨server, reset, next, session, hrun, hone, hreset, hserve, hsessions, hscenario, hstate⟩

end Service

end EpochGuard
