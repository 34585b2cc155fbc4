import EpochGuard.AuditTrail
import EpochGuard.EvidenceChain
import EpochGuard.ServiceRuns

/-!
# The history of a session

Once a session is terminal nothing about it changes any more. Before that, its
state changes only together with its revision. What guards a closed session
differs from call to call: most look at its state, a claim finds the plan that
it asks for closed with the session, and an acceptance belongs to a task that
ended before the session did.
-/

namespace EpochGuard

open Json Checked Runs Growth

namespace Service

open DecisionParser RunObserver

/-! ## What a call makes of the session -/

/-- The states in which a task of the session is at work. -/
def isWorkingSession : SessionState → Bool
  | .DISPATCHING | .COLLECTING | .REOBSERVING => true
  | _ => false

theorem working_open {state : SessionState} (h : isWorkingSession state = true) :
    isTerminalSession state = false ∧ state ≠ .BLOCKED_NO_CUT ∧ state ≠ .READY_AT_CURRENT_HEAD := by
  cases state <;> simp_all [isWorkingSession, isTerminalSession]

theorem outcome_not_working {state : SessionState} (h : state ∈ outcomeStates) :
    isWorkingSession state = false := by
  revert h
  cases state <;> decide

/-- A plan that is offered belongs to a blocked session, which names it. -/
def Offered (database : EpochDatabase) : Prop :=
  ∀ p ∈ database.refreshPlans, p.status = .AVAILABLE → ∀ s ∈ database.sessions,
    s.state = .BLOCKED_NO_CUT ∧ s.activeRefreshPlanId = some p.refreshPlanId

theorem Offered.none_available {database : EpochDatabase} (h : Offered database) {s : EpochSession}
    (hs : s ∈ database.sessions) (hstate : s.state ≠ .BLOCKED_NO_CUT) :
    ∀ p ∈ database.refreshPlans, p.status ≠ .AVAILABLE :=
  fun p hp havailable => hstate (h p hp havailable s hs).1

/-- Nothing of the session changes. -/
structure Still (before after : EpochDatabase) : Prop where
  sessions : after.sessions = before.sessions
  plans : after.refreshPlans = before.refreshPlans
  permits : after.permits = before.permits
  effects : after.effects = before.effects

/-- The session of the store, which is not terminal, goes on with a larger
revision. -/
structure Change (database left : EpochDatabase) (s s' : EpochSession) : Prop where
  was : database.sessions = [s]
  became : left.sessions = [s']
  id : s'.sessionId = s.sessionId
  opened : isTerminalSession s.state = false
  revision : s.sessionRevision < s'.sessionRevision
  offered : Offered left

theorem Still.refl (database : EpochDatabase) : Still database database := ⟨rfl, rfl, rfl, rfl⟩

theorem Change.stamp {database left : EpochDatabase} {s s' : EpochSession}
    (h : Change database left s s') : Change database (EpochStore.stamp left database) s s' :=
  ⟨h.was, h.became, h.id, h.opened, h.revision, h.offered⟩

theorem Still.offered {before after : EpochDatabase} (h : Still before after)
    (hoffered : Offered before) : Offered after := by
  rw [Offered, h.sessions, h.plans]
  exact hoffered

theorem offered_of_none {database : EpochDatabase}
    (h : ∀ p ∈ database.refreshPlans, p.status ≠ .AVAILABLE) : Offered database :=
  fun p hp havailable => absurd havailable (h p hp)

section Calls

variable [Sha256] [OutputPorts] {database left : EpochDatabase} {sessionId : OpaqueId}

omit [Sha256] [OutputPorts] in
theorem setSession_of_singleton {s : EpochSession} (s' : EpochSession)
    (hsessions : database.sessions = [s]) (hid : s'.sessionId = s.sessionId) :
    (database.setSession s').sessions = [s'] := by
  simp [EpochDatabase.setSession, hsessions, hid, modifyWhere]

omit [Sha256] [OutputPorts] in
theorem collecting_change (halone : database.sessions.length ≤ 1) (hoffered : Offered database)
    {timestamp : Timestamp} {event : EventStamp}
    (h : Service.transitionToCollecting database sessionId timestamp event = .ok left) :
    ∃ s s', Change database left s s' ∧ s'.state = .COLLECTING := by
  simp only [Service.transitionToCollecting, bind_eq_ok, orStop_eq_ok, require_eq_ok,
    pure_eq_ok] at h
  obtain ⟨_, hfound, session, rfl, -, hstate, rfl⟩ := h
  have hmem := (sessionById_some hfound).1
  have hsessions := eq_singleton_of_mem halone hmem
  refine ⟨session, _, ⟨hsessions, setSession_of_singleton _ hsessions rfl, rfl, ?_, ?_, ?_⟩, rfl⟩
  · rw [hstate]
    rfl
  · exact Nat.lt_succ_self _
  · exact offered_of_none (hoffered.none_available hmem (by simp [hstate]))

omit [Sha256] [OutputPorts] in
/-- A claim finds its plan available, so its session is blocked, and no plan is
available once this one is closed. -/
theorem requirePlan_blocked (halone : database.sessions.length ≤ 1) (hoffered : Offered database)
    {request : RefreshPlanner.RefreshSessionRequest} {session : EpochSession}
    {plan : RefreshPlan} (closed : RefreshPlan)
    (hfound : single? database.sessions (fun s => s.sessionId = sessionId) = some session)
    (hplan : RefreshPlanner.requirePlan database session request = .ok plan)
    (havailable : plan.status = .AVAILABLE)
    (hclosed : closed.refreshPlanId = plan.refreshPlanId ∧ closed.status ≠ .AVAILABLE) :
    session.sessionId = sessionId ∧ database.sessions = [session] ∧
      session.state = .BLOCKED_NO_CUT ∧
      ∀ p ∈ (database.setRefreshPlan closed).refreshPlans, p.status ≠ .AVAILABLE := by
  obtain ⟨hmem, hid⟩ := single?_mem hfound
  simp only [RefreshPlanner.requirePlan, bind_eq_ok, require_eq_ok, orStop_eq_ok,
    pure_eq_ok, only?_eq_some] at hplan
  obtain ⟨-, -, plan', hplan', -, -, rfl⟩ := hplan
  have hplan : plan' ∈ database.refreshPlans := by
    have hmem : plan' ∈ [plan'] := List.mem_singleton_self _
    rw [← hplan'] at hmem
    exact (List.mem_filter.mp (List.mem_filter.mp hmem).1).1
  obtain ⟨hblocked, hactive⟩ := hoffered _ hplan havailable session hmem
  refine ⟨by simpa using hid, eq_singleton_of_mem halone hmem, hblocked, fun p hp => ?_⟩
  rcases mem_modifyWhere.mp hp with ⟨-, -, -, rfl⟩ | ⟨hp, hother⟩
  · exact hclosed.2
  · -- another available plan would be the one that the session names
    intro hp'
    have hsame := (hoffered p hp hp' session hmem).2
    rw [hactive] at hsame
    simp [hclosed.1, Option.some.inj hsame] at hother

omit [OutputPorts] in
theorem claim_change (halone : database.sessions.length ≤ 1) (hoffered : Offered database)
    {request : RefreshPlanner.RefreshSessionRequest} {timestamp : Timestamp}
    {createArtifacts : EpochSession → RefreshPlan → Role → OpaqueId →
      Except String RefreshPlanner.RefreshClaimArtifacts}
    {out : EpochDatabase × RefreshPlanner.ClaimRefreshPlanResult}
    (h : ClaimOutcome database EffectGate.identityPort sessionId request timestamp createArtifacts
      out) :
    ∃ s s', Change database out.1 s s' ∧ s.sessionId = sessionId ∧ s.state = .BLOCKED_NO_CUT ∧
      ((∃ agentRole agentId plan assignment attempt,
        out.2 = .CLAIMED agentRole agentId plan assignment attempt) → s'.state = .REOBSERVING) := by
  cases h with
  | @stale session plan found planned available revision moved =>
    obtain ⟨hid, hsessions, hblocked, hnone⟩ :=
      requirePlan_blocked halone hoffered (invalidated plan) found planned available
        ⟨rfl, by simp [invalidated]⟩
    refine ⟨session, _, ⟨hsessions, setSession_of_singleton _ hsessions rfl, rfl, ?_, ?_,
      offered_of_none hnone⟩, hid, hblocked, ?_⟩
    · rw [hblocked]
      rfl
    · exact Nat.lt_succ_self _
    · rintro ⟨_, _, _, _, _, hclaimed⟩
      cases hclaimed
  | @claimed session plan artifacts found planned available owner revision active matching idle
      created fresh =>
    obtain ⟨hid, hsessions, hblocked, hnone⟩ :=
      requirePlan_blocked halone hoffered (RefreshPlanner.claimedPlan plan artifacts.attempt) found
        planned available
        ⟨rfl, by simp [RefreshPlanner.claimedPlan]⟩
    refine ⟨session, _, ⟨hsessions, setSession_of_singleton _ hsessions rfl, rfl, ?_, ?_,
      offered_of_none hnone⟩, hid, hblocked, fun _ => rfl⟩
    · rw [hblocked]
      rfl
    · exact Nat.lt_succ_self _

omit [Sha256] [OutputPorts] in
theorem FailureWritten.change {session final : EpochSession} {timestamp : Timestamp}
    (hsessions : database.sessions = [session]) (hopen : isTerminalSession session.state = false)
    (hnone : ∀ p ∈ database.refreshPlans, p.status ≠ .AVAILABLE)
    (h : FailureWritten database session timestamp left final) :
    Change database left session final ∧ final.state = .FAILED := by
  obtain ⟨⟨_, _, plans, _, _, rfl⟩, hplans, ⟨_, _, _, rfl⟩⟩ := h
  refine ⟨⟨hsessions, setSession_of_singleton _ hsessions rfl, rfl, hopen, Nat.lt_succ_self _,
    offered_of_none fun p hp => ?_⟩, rfl⟩
  rcases hplans p hp with hold | ⟨hinvalidated, -⟩
  · exact hnone p hold
  · simp [hinvalidated]

omit [Sha256] [OutputPorts] in
/-- A failure closes a session at work, and none that is closed. -/
theorem fail_change (halone : database.sessions.length ≤ 1) (hoffered : Offered database)
    (hworking : ∀ s ∈ database.sessions, s.sessionId = sessionId →
      isWorkingSession s.state = true ∨ isTerminalSession s.state = true)
    {error : ServiceError} {ports : FailPorts}
    (h : Service.failSession database sessionId error ports = .ok left) :
    left = database ∨ ∃ s s', Change database left s s' ∧ s'.state = .FAILED := by
  rcases failSession_cases h with rfl | ⟨session, final, hfound, hopen, hfailed⟩
  · exact .inl rfl
  · obtain ⟨hmem, hid, -⟩ := sessionById_some hfound
    have hblocked : session.state ≠ .BLOCKED_NO_CUT := by
      rcases hworking session hmem hid with hworking | hterminal
      · exact (working_open hworking).2.1
      · simp [hopen] at hterminal
    exact .inr ⟨session, final, hfailed.change (eq_singleton_of_mem halone hmem) hopen
      (hoffered.none_available hmem hblocked)⟩

/-- Outputs are accepted for a session at work. -/
theorem accept_change (halone : database.sessions.length ≤ 1) (hoffered : Offered database)
    (hworking : ∀ s ∈ database.sessions, s.sessionId = sessionId → isWorkingSession s.state = true)
    {observations : List TerminalRunObservation} {refreshPlan : Option RefreshPlan}
    {ports : AcceptPorts}
    (h : acceptAndValidate database sessionId observations refreshPlan ports = .ok left) :
    ∃ s s', Change database left s s' ∧ isWorkingSession s'.state = false := by
  obtain ⟨normalized, results, session, final, hnormalized, hfound, hout⟩ :=
    acceptAndValidate_cases h
  have hwritten := normalizeAll_written hnormalized
  obtain ⟨hmem, hid, -⟩ := sessionById_some hfound
  obtain ⟨before, hbefore, hpointed⟩ := hwritten.sessions.of_mem hmem
  obtain ⟨hid', hstate, hrevision, -⟩ := hpointed.progress
  have hbefore' := hworking before hbefore (hid'.symm.trans hid)
  have hsessions := eq_singleton_of_mem halone hbefore
  have hsessions' : normalized.sessions = [session] := by
    obtain ⟨_, hnormalized, -⟩ := hwritten.sessions
    rw [hsessions] at hnormalized
    refine eq_singleton_of_mem ?_ hmem
    simp [hnormalized]
  have hnone := hoffered.none_available hbefore (working_open hbefore').2.1
  have hopen := (working_open hbefore').1
  obtain ⟨_, _, _, _, _, rfl⟩ := hwritten.writes
  -- what is known of the session before its outputs carries over
  have hchange {s' : EpochSession} (hafter : left.sessions = [s'])
      (hsame : s'.sessionId = session.sessionId)
      (hlater : session.sessionRevision < s'.sessionRevision) (hleft : Offered left)
      (hdone : isWorkingSession s'.state = false) :
      ∃ s s', Change database left s s' ∧ isWorkingSession s'.state = false :=
    ⟨before, s', ⟨hsessions, hafter, hsame.trans hid', hopen, hrevision ▸ hlater, hleft⟩, hdone⟩
  rcases hout with ⟨-, hfailed⟩ | ⟨-, mode, hvalidated⟩
  · obtain ⟨hfailed, hstate'⟩ := hfailed.change hsessions' (hstate ▸ hopen) hnone
    refine hchange hfailed.became hfailed.id hfailed.revision hfailed.offered ?_
    rw [hstate']
    rfl
  · obtain ⟨⟨_, _, _, _, _, _, _, rfl⟩, ⟨_, _, _, state, _, houtcome, hfinal⟩, hplans, -⟩ :=
      hvalidated
    have hvalidating := setSession_of_singleton
      (validatingSession session mode ports.timestamp) hsessions' rfl
    have hafter := setSession_of_singleton final hvalidating (by rw [hfinal])
    have hlater : session.sessionRevision < final.sessionRevision := by
      rw [hfinal]
      simp only [validatingSession]
      omega
    have hdone : isWorkingSession final.state = false := by
      rw [hfinal]
      exact outcome_not_working houtcome
    refine hchange hafter (by rw [hfinal]; rfl) hlater (fun p hp havailable s hs => ?_) hdone
    obtain rfl := List.mem_singleton.mp (hafter ▸ hs)
    rcases hplans p hp with hold | ⟨hcompleted, -⟩ | ⟨-, -, hblocked, hactive⟩
    · exact absurd havailable (hnone p hold)
    · simp [hcompleted] at havailable
    · exact ⟨hblocked, hactive⟩

omit [OutputPorts] in
/-- The gate writes only where the session is ready. -/
theorem commit_change (halone : database.sessions.length ≤ 1) (hoffered : Offered database)
    {expectedSessionRevision : Nat} {effectId : OpaqueId} {timestamp : Timestamp}
    {out : EpochDatabase × EffectGate.CommitProtectedEffectResult}
    (h : EffectGate.CommitOutcome database EffectGate.identityPort sessionId
      expectedSessionRevision effectId timestamp out) :
    out.1 = database ∨
      ∃ s s', Change database out.1 s s' ∧ s.state = .READY_AT_CURRENT_HEAD ∧
        isWorkingSession s'.state = false := by
  have hready {session : EpochSession} {permit : EffectPermit}
      (hbound : EffectGate.SessionBound database sessionId session)
      (hready : EffectGate.Ready database session permit) :
      database.sessions = [session] ∧ isTerminalSession session.state = false ∧
        ∀ p ∈ database.refreshPlans, p.status ≠ .AVAILABLE := by
    have hmem : session ∈ database.sessions := by
      have hmem : session ∈ [session] := List.mem_singleton_self _
      rw [← hbound.only] at hmem
      exact (List.mem_filter.mp hmem).1
    refine ⟨eq_singleton_of_mem halone hmem, ?_,
      hoffered.none_available hmem (by simp [hready.state])⟩
    rw [hready.state]
    rfl
  cases h with
  | existing => exact .inl rfl
  | @race session permit bound none revision ready moved =>
    obtain ⟨hsessions, hopen, hnone⟩ := hready bound ready
    refine .inr ⟨session, { session with
      state := .COMMIT_RACE
      sessionRevision := session.sessionRevision + 1
      stateUpdatedAt := timestamp
      activePermitId := Option.none }, ⟨hsessions, ?_, rfl, hopen, Nat.lt_succ_self _,
      offered_of_none hnone⟩, ready.state, rfl⟩
    simp [EffectGate.invalidateCommitRace, EffectGate.updateSession, hsessions, modifyWhere]
  | @created session release activeDecisionIds registrations bound none revision ready current
      backed fresh =>
    obtain ⟨hsessions, hopen, hnone⟩ := hready bound ready
    refine .inr ⟨session, { session with
      state := .COMMITTED
      sessionRevision := session.sessionRevision + 1
      stateUpdatedAt := timestamp }, ⟨hsessions, ?_, rfl, hopen, Nat.lt_succ_self _,
      offered_of_none hnone⟩, ready.state, rfl⟩
    simp [EffectGate.recordEffect, EffectGate.updateSession, EffectGate.effectRecordFor,
      hsessions, modifyWhere]

omit [Sha256] [OutputPorts] in
theorem recover_change (halone : database.sessions.length ≤ 1) (hoffered : Offered database)
    {timestamp : Timestamp} {ids : OpaqueId → RecoveryIds}
    (h : Service.recoverSessions database timestamp ids = .ok left) :
    left = database ∧ (∀ s ∈ database.sessions, isInFlightSession s.state = false) ∨
      ∃ s s', Change database left s s' ∧ s'.state = .INTERRUPTED := by
  unfold Service.recoverSessions at h
  match hflight : database.sessions.filter fun s => isInFlightSession s.state with
  | [] =>
    rw [hflight, List.foldlM_nil, pure_eq_ok] at h
    refine .inl ⟨h.symm, fun s hs => ?_⟩
    simpa using List.filter_eq_nil_iff.mp hflight s hs
  | session :: rest =>
    have hmem : session ∈ database.sessions.filter fun s => isInFlightSession s.state := by
      simp [hflight]
    obtain ⟨hmem, hstate⟩ := List.mem_filter.mp hmem
    have hsessions := eq_singleton_of_mem halone hmem
    have hrest : rest = [] := by
      have hlength := congrArg List.length hflight
      rw [hsessions] at hlength
      simpa [hstate] using hlength.symm
    subst hrest
    simp only [hflight, List.foldlM_cons, List.foldlM_nil, bind_eq_ok, pure_eq_ok] at h
    obtain ⟨_, hrecovered, rfl⟩ := h
    obtain ⟨⟨_, _, _, _, _, _, rfl⟩, hplans, -⟩ := recoverInFlightSession_written hrecovered
    have hopen : isTerminalSession session.state = false ∧ session.state ≠ .BLOCKED_NO_CUT := by
      cases hs : session.state <;> simp_all [isInFlightSession, isTerminalSession]
    refine .inr ⟨session, _, ⟨hsessions, setSession_of_singleton _ hsessions rfl, rfl, hopen.1,
      Nat.lt_succ_self _, offered_of_none fun p hp => ?_⟩, rfl⟩
    rcases hplans p hp with hold | ⟨hinvalidated, -⟩
    · exact hoffered.none_available hmem hopen.2 p hold
    · simp [hinvalidated]

/-- What the preparation of a session keeps: its session alone, and the plans. -/
structure Opening (database : EpochDatabase) (sessionId : OpaqueId) (prepared : Prepared) :
    Prop where
  sessions : prepared.database.sessions = [prepared.session]
  id : prepared.session.sessionId = sessionId
  state : prepared.session.state = .DISPATCHING
  plans : prepared.database.refreshPlans = database.refreshPlans

omit [OutputPorts] in
theorem Opening.step {ports : CreateSessionPorts} {fixture : Fixtures.EpochGuardFixture}
    {verified : PerRole RoleAgentRegistration} {before after : Prepared}
    {step : Fixtures.FixtureInitialStep} (hopening : Opening database sessionId before)
    (h : initialStep ports fixture verified before step = .ok after) :
    Opening database sessionId after := by
  cases step with
  | commit step =>
    simp only [initialStep, bind_eq_ok, pure_eq_ok] at h
    obtain ⟨world, -, rfl⟩ := h
    exact ⟨hopening.sessions, hopening.id, hopening.state, hopening.plans⟩
  | capture step =>
    simp only [initialStep, captureInitial, bind_eq_ok, pure_eq_ok] at h
    obtain ⟨-, -, assignment, -, issued, hissued, rfl⟩ := h
    obtain ⟨_, _, rfl⟩ := issueAndPack_writes hissued
    exact ⟨setSession_of_singleton _ hopening.sessions rfl, hopening.id, hopening.state,
      hopening.plans⟩

omit [OutputPorts] in
/-- A session is created in a store that has none. -/
theorem createSession_opens (hinv : database.evidence.Inv) {request : CreateSessionRequest}
    {verified : PerRole RoleAgentRegistration} {ports : CreateSessionPorts}
    (h : Service.createSession database request verified ports = .ok left) :
    database.sessions = [] ∧ left.refreshPlans = [] ∧ ∃ s, left.sessions = [s] ∧
      s.sessionId = ports.sessionId ∧ s.state = .DISPATCHING := by
  unfold Service.createSession at h
  dsimp only at h
  split at h
  · simp at h
  · simp only [bind_eq_ok, require_eq_ok, mapError_eq_ok, pure_eq_ok] at h
    obtain ⟨-, ⟨hhead, -⟩, prepared, ⟨world, -, action, -, queried, hqueried, hprepared⟩, -, -,
      rfl⟩ := h
    have hnone : database.sessions = [] := by
      by_contra hne
      exact hinv.opened (by simpa [EpochDatabase.evidence] using hne) hhead
    have hplans : database.refreshPlans = [] :=
      (hinv.unopened (by simp [EpochDatabase.evidence, hnone])).2.1
    have hqueried : queried.sessions = [] ∧ queried.refreshPlans = database.refreshPlans := by
      refine foldlM_induction (P := fun db =>
        db.sessions = [] ∧ db.refreshPlans = database.refreshPlans) ?_ ⟨hnone, rfl⟩ hqueried
      intro before role after hbefore _ hstore
      obtain ⟨_, rfl⟩ := Evidence.storeQuerySpec_cases hstore
      exact hbefore
    have hprepared : Opening database ports.sessionId prepared := by
      refine foldlM_induction (P := Opening database ports.sessionId) ?_ ?_ hprepared
      · exact fun before step after hbefore _ hstep => hbefore.step hstep
      · exact ⟨by simp [hqueried.1], rfl, rfl, hqueried.2⟩
    exact ⟨hnone, hprepared.plans.trans hplans, prepared.session, hprepared.sessions,
      hprepared.id, hprepared.state⟩

/-! ## Tasks -/

/-- At most one task is in flight. Its session is at work, or the task failed
and the session is closed. -/
structure Tasks (server : Server) : Prop where
  reachable : Reachable server.database
  offered : Offered server.database
  alone : server.continuations.length ≤ 1
  owned : ∀ c ∈ server.continuations, ∃ s ∈ server.database.sessions,
    s.sessionId = c.sessionId ∧ (isWorkingSession s.state = true ∨
      c.stage = .failing ∧ isTerminalSession s.state = true)

theorem Tasks.single {server : Server} (h : Tasks server) :
    server.database.sessions.length ≤ 1 := by
  simpa [EpochDatabase.evidence] using (Evidence.inv_reachable h.reachable).alone

/-- The task that an event is about. -/
def Event.index : Event → Option Nat
  | .work index _ | .resolve index _ | .fail index | .finish index => some index
  | _ => none

theorem serve_index {server next : Server} {event : Event} (h : serve server event = some next)
    {index : Nat} (hindex : event.index = some index) : index < server.continuations.length := by
  have hlt {c : Continuation} (hc : server.continuations[index]? = some c) :
      index < server.continuations.length := (List.getElem?_eq_some_iff.mp hc).1
  cases event with
  | work | resolve | fail | finish =>
    obtain rfl := Option.some.inj hindex
    simp only [serve, Option.bind_eq_bind, Option.bind_eq_some_iff] at h
    obtain ⟨c, hc, -⟩ := h
    exact hlt hc
  | request | restart => cases hindex

omit [Sha256] [OutputPorts] in
theorem Server.replace_alone {server : Server} (halone : server.continuations.length ≤ 1)
    {index : Nat} (hindex : index < server.continuations.length)
    (continuations : List Continuation) : server.replace index continuations = continuations := by
  have hzero : index = 0 := by omega
  subst hzero
  have hdrop : server.continuations.drop (0 + 1) = [] := List.drop_eq_nil_of_le halone
  simp [Server.replace, hdrop]

/-! ## Steps of the server -/

/-- What a terminal session keeps. -/
def standing (session : EpochSession) : SessionState × Nat × PerRole (Option OpaqueId) :=
  (session.state, session.sessionRevision, session.activeDecisionCertificateIds)

/-- Sessions that are not terminal go on with a larger revision, or stand as
they are; where one is terminal, so do the permits and the effects. -/
structure Monotone (before after : EpochDatabase) : Prop where
  sessions : ∀ s ∈ before.sessions, ∃ s' ∈ after.sessions, s'.sessionId = s.sessionId ∧
    (standing s' = standing s ∨
      isTerminalSession s.state = false ∧ s.sessionRevision < s'.sessionRevision)
  ledger : (∃ s ∈ before.sessions, isTerminalSession s.state = true) →
    after.permits = before.permits ∧ after.effects = before.effects

omit [Sha256] [OutputPorts] in
theorem Still.monotone (h : Still database left) : Monotone database left where
  sessions s hs := ⟨s, h.sessions ▸ hs, rfl, .inl rfl⟩
  ledger _ := ⟨h.permits, h.effects⟩

omit [Sha256] [OutputPorts] in
theorem Change.monotone {s s' : EpochSession} (h : Change database left s s') :
    Monotone database left := by
  constructor
  · intro t ht
    rw [h.was, List.mem_singleton] at ht
    subst ht
    exact ⟨s', by simp [h.became], h.id, .inr ⟨h.opened, h.revision⟩⟩
  · rintro ⟨t, ht, hterminal⟩
    rw [h.was, List.mem_singleton] at ht
    subst ht
    simp [h.opened] at hterminal

omit [Sha256] [OutputPorts] in
theorem Monotone.refl (database : EpochDatabase) : Monotone database database :=
  (Still.refl database).monotone

omit [Sha256] [OutputPorts] in
theorem Monotone.trans {first second third : EpochDatabase} (h : Monotone first second)
    (h' : Monotone second third) : Monotone first third := by
  constructor
  · intro s hs
    obtain ⟨t, ht, hid, hstep⟩ := h.sessions s hs
    obtain ⟨u, hu, hid', hstep'⟩ := h'.sessions t ht
    refine ⟨u, hu, hid'.trans hid, ?_⟩
    rcases hstep with hsame | ⟨hopen, hlater⟩ <;> rcases hstep' with hsame' | ⟨hopen', hlater'⟩
    · exact .inl (hsame'.trans hsame)
    · simp only [standing, Prod.mk.injEq] at hsame
      rw [hsame.1] at hopen'
      rw [hsame.2.1] at hlater'
      exact .inr ⟨hopen', hlater'⟩
    · simp only [standing, Prod.mk.injEq] at hsame'
      exact .inr ⟨hopen, hsame'.2.1 ▸ hlater⟩
    · exact .inr ⟨hopen, hlater.trans hlater'⟩
  · rintro ⟨s, hs, hterminal⟩
    obtain ⟨t, ht, -, hstep⟩ := h.sessions s hs
    have ht' : isTerminalSession t.state = true := by
      rcases hstep with hsame | ⟨hopen, -⟩
      · simp only [standing, Prod.mk.injEq] at hsame
        rw [hsame.1]
        exact hterminal
      · simp [hopen] at hterminal
    have hfirst := h.ledger ⟨s, hs, hterminal⟩
    have hsecond := h'.ledger ⟨t, ht, ht'⟩
    exact ⟨hsecond.1.trans hfirst.1, hsecond.2.trans hfirst.2⟩

/-- A request to reset the demo. -/
def Event.isReset : Event → Prop
  | .request (.resetDemo _) => True
  | _ => False

/-- The tasks after an event that leaves the session as it is: they are the
same, and one that has failed goes on failing. -/
theorem Tasks.still {server : Server} (h : Tasks server) (hreachable : Reachable left)
    (hstill : Still server.database left) {continuations : List Continuation}
    (halone : continuations.length ≤ 1)
    (hsame : ∀ c ∈ continuations, ∃ c₀ ∈ server.continuations, c.sessionId = c₀.sessionId ∧
      (c₀.stage = .failing → c.stage = .failing)) :
    Tasks ⟨left, continuations⟩ ∧ Monotone server.database left := by
  refine ⟨⟨hreachable, hstill.offered h.offered, halone, fun c hc => ?_⟩, hstill.monotone⟩
  obtain ⟨c₀, hc₀, hid, hstage⟩ := hsame c hc
  obtain ⟨s, hs, howner, hstate⟩ := h.owned c₀ hc₀
  refine ⟨s, hstill.sessions ▸ hs, howner.trans hid.symm, ?_⟩
  rcases hstate with hworking | ⟨hfailing, hterminal⟩
  · exact .inl hworking
  · exact .inr ⟨hstage hfailing, hterminal⟩

/-- The tasks after an event that moves the session on. -/
theorem Tasks.change {server : Server} (hreachable : Reachable left) {s s' : EpochSession}
    (hchange : Change server.database left s s') {continuations : List Continuation}
    (halone : continuations.length ≤ 1)
    (howned : ∀ c ∈ continuations, s'.sessionId = c.sessionId ∧
      (isWorkingSession s'.state = true ∨
        c.stage = .failing ∧ isTerminalSession s'.state = true)) :
    Tasks ⟨left, continuations⟩ ∧ Monotone server.database left := by
  refine ⟨⟨hreachable, hchange.offered, halone, fun c hc => ?_⟩, hchange.monotone⟩
  exact ⟨s', by simp [hchange.became], howned c hc⟩

/-- A session that is neither at work nor terminal has no task. -/
theorem Tasks.idle {server : Server} (h : Tasks server) {s : EpochSession}
    (hs : server.database.sessions = [s]) (hworking : isWorkingSession s.state = false)
    (hterminal : isTerminalSession s.state = false) : server.continuations = [] := by
  refine List.eq_nil_iff_forall_not_mem.mpr fun c hc => ?_
  obtain ⟨t, ht, -, hstate⟩ := h.owned c hc
  rw [hs, List.mem_singleton] at ht
  subst ht
  simp [hworking, hterminal] at hstate

theorem Tasks.request {server : Server} (h : Tasks server) {call : Call}
    (hasked : isRequest server call) (hkept : ¬(Event.request call).isReset)
    (hpublish : publish server.database call = some left) :
    Tasks ⟨left, server.continuations ++ started server.database call⟩ ∧
      Monotone server.database left := by
  have hreachable := h.reachable.publish hpublish
  obtain ⟨written, hwritten, -, rfl⟩ := publish_eq_some.mp hpublish
  have hsame : ∀ c ∈ server.continuations ++ [], ∃ c₀ ∈ server.continuations,
      c.sessionId = c₀.sessionId ∧ (c₀.stage = .failing → c.stage = .failing) :=
    fun c hc => ⟨c, by simpa using hc, rfl, id⟩
  have halone : (server.continuations ++ []).length ≤ 1 := by simpa using h.alone
  cases call with
  | registerRole registration =>
    simp only [Call.leaves, toOption_eq_some, Service.registerRole, bind_eq_ok,
      pure_eq_ok] at hwritten
    obtain ⟨-, -, -, -, rfl⟩ := hwritten
    exact h.still hreachable ⟨rfl, rfl, rfl, rfl⟩ halone hsame
  | recordCommitRace sessionId ports =>
    obtain ⟨_, _, rfl⟩ := recordCommitRace_writes (toOption_eq_some.mp hwritten)
    exact h.still hreachable ⟨rfl, rfl, rfl, rfl⟩ halone hsame
  | worldCommit input =>
    simp only [Call.leaves, toOption_eq_some, except_map_eq_ok] at hwritten
    obtain ⟨_, -, rfl⟩ := hwritten
    exact h.still hreachable ⟨rfl, rfl, rfl, rfl⟩ halone hsame
  | createSession request ports =>
    simp only [Call.leaves, Option.bind_eq_bind, Option.bind_eq_some_iff,
      toOption_eq_some] at hwritten
    obtain ⟨verified, -, hcreated⟩ := hwritten
    obtain ⟨hnone, hplans, s, hs, hid, hstate⟩ :=
      createSession_opens (Evidence.inv_reachable h.reachable) hcreated
    -- no session is open, and so nothing works for one
    have hidle : server.continuations = [] := by
      refine List.eq_nil_iff_forall_not_mem.mpr fun c hc => ?_
      obtain ⟨t, ht, -⟩ := h.owned c hc
      simp [hnone] at ht
    refine ⟨⟨hreachable, ?_, ?_, ?_⟩, ?_, ?_⟩
    · exact offered_of_none (by simp [EpochStore.stamp, hplans])
    · simp [hidle, started]
    · intro c hc
      rw [hidle, List.nil_append, started, List.mem_singleton] at hc
      subst hc
      exact ⟨s, by simp [EpochStore.stamp, hs], hid, .inl (by rw [hstate]; rfl)⟩
    · simp [hnone]
    · simp [hnone]
  | claimRefreshPlan sessionId request registration runtimeLabel timestamp assignmentId receiptId
      attemptId =>
    simp only [Call.leaves, Option.ite_none_right_eq_some, toOption_eq_some,
      except_map_eq_ok] at hwritten
    obtain ⟨-, out, hclaim, rfl⟩ := hwritten
    obtain ⟨s, s', hchange, hid, hblocked, hclaimed⟩ :=
      claim_change h.single h.offered (claimRefreshPlan_cases hclaim)
    -- a blocked session has no continuation, and the claim starts the only one
    have hidle := h.idle hchange.was (by simp [hblocked, isWorkingSession]) hchange.opened
    rw [hidle, List.nil_append]
    refine Tasks.change hreachable hchange.stamp ?_ ?_
    · unfold started
      dsimp only
      split <;> simp
    · intro c hc
      unfold started at hc
      dsimp only at hc
      split at hc
      · rename_i hout
        rw [hclaim] at hout
        obtain rfl := List.mem_singleton.mp hc
        have hstate := hclaimed ⟨_, _, _, _, _, congrArg Prod.snd (Except.ok.inj hout)⟩
        exact ⟨hchange.id.trans hid, .inl (by rw [hstate]; rfl)⟩
      · cases hc
  | commit sessionId expectedSessionRevision effectId timestamp =>
    simp only [Call.leaves, toOption_eq_some, except_map_eq_ok] at hwritten
    obtain ⟨out, hcommit, rfl⟩ := hwritten
    rcases commit_change h.single h.offered (EffectGate.commit_cases hcommit) with
      hsame' | ⟨s, s', hchange, hready, -⟩
    · have hstill : Still server.database (EpochStore.stamp out.1 server.database) := by
        rw [hsame']
        exact ⟨rfl, rfl, rfl, rfl⟩
      exact h.still hreachable hstill halone hsame
    · -- a release ends a session that no continuation works for
      have hidle := h.idle hchange.was (by simp [hready, isWorkingSession]) hchange.opened
      rw [hidle, List.nil_append]
      exact Tasks.change hreachable hchange.stamp (by simp [started]) (by simp [started])
  | resetDemo => exact absurd trivial hkept
  | _ => exact hasked.elim

theorem Tasks.work {server : Server} (h : Tasks server) {c : Continuation} {call : Call}
    {continuations : List Continuation} (hc : c ∈ server.continuations)
    (hadvances : c.Advances server.database call continuations)
    (hpublish : publish server.database call = some left) :
    Tasks ⟨left, continuations⟩ ∧ Monotone server.database left := by
  have hreachable := h.reachable.publish hpublish
  obtain ⟨written, hwritten, -, rfl⟩ := publish_eq_some.mp hpublish
  have hone {stage : Stage} (hstage : c.stage = .failing → stage = .failing) :
      ∀ c' ∈ [{ c with stage }], ∃ c₀ ∈ server.continuations, c'.sessionId = c₀.sessionId ∧
        (c₀.stage = .failing → c'.stage = .failing) := by
    intro c' hc'
    obtain rfl := List.mem_singleton.mp hc'
    exact ⟨c, hc, rfl, hstage⟩
  -- a task that has not failed is at work on its session
  have hworking (hstage : c.stage ≠ .failing) : ∀ s ∈ server.database.sessions,
      s.sessionId = c.sessionId → isWorkingSession s.state = true := by
    intro s hs _
    obtain ⟨t, ht, -, hstate⟩ := h.owned c hc
    rw [eq_singleton_of_mem h.single ht, List.mem_singleton] at hs
    subst hs
    rcases hstate with hworking | ⟨hfailing, -⟩
    · exact hworking
    · exact absurd hfailing hstage
  obtain ⟨owner, howner, hid, hstate⟩ := h.owned c hc
  have hsessions := eq_singleton_of_mem h.single howner
  cases hadvances with
  | collect stage initial =>
    obtain ⟨s, s', hchange, hcollecting⟩ :=
      collecting_change h.single h.offered (toOption_eq_some.mp hwritten)
    refine Tasks.change hreachable hchange.stamp (by simp) fun c' hc' => ?_
    obtain rfl := List.mem_singleton.mp hc'
    obtain rfl := List.singleton_inj.mp (hchange.was.symm.trans hsessions)
    exact ⟨hchange.id.trans hid, .inl (by rw [hcollecting]; rfl)⟩
  | capture stage refresh own =>
    obtain ⟨_, _, rfl⟩ := captureRefreshObservation_writes (toOption_eq_some.mp hwritten)
    exact h.still hreachable ⟨rfl, rfl, rfl, rfl⟩ (by simp) (hone (by simp [stage]))
  | observe stage own observed =>
    obtain ⟨_, _, rfl⟩ := writesRuns_observer observed hwritten
    exact h.still hreachable ⟨rfl, rfl, rfl, rfl⟩ (by simp) (hone id)
  | joined stage initial own outcome =>
    obtain ⟨_, _, hjoined⟩ := Option.some.inj hwritten ▸ writesRuns_join
    rw [hjoined] at hreachable ⊢
    exact h.still hreachable ⟨rfl, rfl, rfl, rfl⟩ (by simp) (hone (by simp [stage]))
  | unjoined stage initial own =>
    obtain ⟨_, _, hjoined⟩ := Option.some.inj hwritten ▸ writesRuns_join
    rw [hjoined] at hreachable ⊢
    exact h.still hreachable ⟨rfl, rfl, rfl, rfl⟩ (by simp) (hone (by simp))
  | close stage =>
    have hclosing : ∀ s ∈ server.database.sessions, s.sessionId = c.sessionId →
        isWorkingSession s.state = true ∨ isTerminalSession s.state = true := by
      intro s hs _
      rw [hsessions, List.mem_singleton] at hs
      subst hs
      exact hstate.imp id And.right
    rcases fail_change h.single h.offered hclosing (toOption_eq_some.mp hwritten) with
      rfl | ⟨s, s', hchange, hfailed⟩
    · exact h.still hreachable ⟨rfl, rfl, rfl, rfl⟩ (by simp) (hone (by simp))
    · refine Tasks.change hreachable hchange.stamp (by simp) fun c' hc' => ?_
      obtain rfl := List.mem_singleton.mp hc'
      obtain rfl := List.singleton_inj.mp (hchange.was.symm.trans hsessions)
      exact ⟨hchange.id.trans hid, .inr ⟨rfl, by rw [hfailed]; rfl⟩⟩
  | acceptInitial stage initial =>
    obtain ⟨s, s', hchange, -⟩ := accept_change h.single h.offered (hworking (by simp [stage]))
      (toOption_eq_some.mp hwritten)
    exact Tasks.change hreachable hchange.stamp (by simp) nofun
  | acceptRefresh stage claimed =>
    simp only [Call.leaves, Option.ite_none_right_eq_some, toOption_eq_some] at hwritten
    obtain ⟨s, s', hchange, -⟩ := accept_change h.single h.offered (hworking (by simp [stage]))
      hwritten.2
    exact Tasks.change hreachable hchange.stamp (by simp) nofun

/-- Every event but a reset keeps the tasks, and closed sessions closed. -/
theorem Tasks.serve {server next : Server} {event : Event} (h : Tasks server)
    (hkept : ¬event.isReset) (hserve : serve server event = some next) :
    Tasks next ∧ Monotone server.database next.database := by
  have hreplace {index : Nat} (hindex : event.index = some index)
      (continuations : List Continuation) : server.replace index continuations = continuations :=
    Server.replace_alone h.alone (serve_index hserve hindex) continuations
  have hstill {continuations : List Continuation} (halone : continuations.length ≤ 1)
      (hsame : ∀ c ∈ continuations, ∃ c₀ ∈ server.continuations, c.sessionId = c₀.sessionId ∧
        (c₀.stage = .failing → c.stage = .failing)) :=
    h.still h.reachable (.refl _) halone hsame
  cases serve_cases hserve with
  | request asked published => exact h.request asked hkept published
  | work found advances published =>
    rw [hreplace rfl]
    exact h.work found advances published
  | @resolve _ observation c found stage refresh resolved =>
    rw [hreplace rfl]
    refine hstill (by simp) fun c' hc' => ?_
    obtain rfl := List.mem_singleton.mp hc'
    exact ⟨c, found, rfl, by simp [stage]⟩
  | @fail _ c found =>
    rw [hreplace rfl]
    refine hstill (by simp) fun c' hc' => ?_
    obtain rfl := List.mem_singleton.mp hc'
    exact ⟨c, found, rfl, fun _ => rfl⟩
  | finish =>
    rw [hreplace rfl]
    exact hstill (by simp) nofun
  | restart published =>
    have hreachable := h.reachable.publish published
    obtain ⟨written, hwritten, -, rfl⟩ := publish_eq_some.mp published
    rcases recover_change h.single h.offered (toOption_eq_some.mp hwritten) with
      ⟨rfl, -⟩ | ⟨s, s', hchange, -⟩
    · exact h.still hreachable ⟨rfl, rfl, rfl, rfl⟩ (by simp) nofun
    · exact Tasks.change hreachable hchange.stamp (by simp) nofun
  | restartIdle => exact hstill (by simp) nofun

theorem tasks_emptyServer : Tasks emptyServer where
  reachable := ⟨[], rfl⟩
  offered := offered_of_none nofun
  alone := by simp [emptyServer]
  owned := nofun

theorem Tasks.run {server next : Server} {events : List Event} (h : Tasks server)
    (hkept : ∀ e ∈ events, ¬e.isReset) (hrun : run Service.serve server events = some next) :
    Tasks next ∧ Monotone server.database next.database := by
  induction events generalizing server with
  | nil =>
    rw [run_nil] at hrun
    exact hrun ▸ ⟨h, .refl _⟩
  | cons event rest ih =>
    obtain ⟨middle, hstep, hrest⟩ := run_cons.mp hrun
    obtain ⟨hmiddle, hfirst⟩ := h.serve (hkept event List.mem_cons_self) hstep
    obtain ⟨hnext, hlater⟩ := ih hmiddle (fun e he => hkept e (List.mem_cons_of_mem _ he)) hrest
    exact ⟨hnext, hfirst.trans hlater⟩

theorem auditGrows_serve {server next : Server} {event : Event} (hkept : ¬event.isReset)
    (hserve : serve server event = some next) : AuditGrows server.database next.database := by
  cases serve_cases hserve with
  | request asked published =>
    refine AuditGrows.publish (fun ids hreset => hkept ?_) published
    rw [hreset]
    exact trivial
  | work found advances published =>
    refine AuditGrows.publish (fun ids hreset => ?_) published
    subst hreset
    cases advances with
    | observe stage own observed => cases observed
  | restart published => exact AuditGrows.publish (by simp) published
  | resolve | fail | finish | restartIdle => exact .refl _

theorem auditGrows_run {server next : Server} {events : List Event}
    (hkept : ∀ e ∈ events, ¬e.isReset) (hrun : run serve server events = some next) :
    AuditGrows server.database next.database := by
  induction events generalizing server with
  | nil =>
    rw [run_nil] at hrun
    exact hrun ▸ .refl _
  | cons event rest ih =>
    obtain ⟨middle, hstep, hrest⟩ := run_cons.mp hrun
    exact (auditGrows_serve (hkept event List.mem_cons_self) hstep).trans
      (ih (fun e he => hkept e (List.mem_cons_of_mem _ he)) hrest)

/-- In a run without resets a terminal session is frozen, with its decisions,
its permits and its effects; a session's revision never decreases and grows with
every change of its state; and its audit records are numbered apart, each new
one above all earlier ones. -/
theorem sessionHistory_monotone {events later : List Event} {server after : Server}
    (hevents : ∀ e ∈ events ++ later, ¬e.isReset)
    (hrun : run serve emptyServer events = some server)
    (hlater : run serve server later = some after) :
    (∀ s ∈ server.database.sessions, ∃ s',
      after.database.sessions.filter (fun t => t.sessionId = s.sessionId) = [s'] ∧
        s.sessionRevision ≤ s'.sessionRevision ∧
        (s'.state ≠ s.state → s.sessionRevision < s'.sessionRevision) ∧
        (isTerminalSession s.state = true →
          s'.state = s.state ∧ s'.sessionRevision = s.sessionRevision ∧
          s'.activeDecisionCertificateIds = s.activeDecisionCertificateIds ∧
          after.database.permits.filter (fun p => p.sessionId = s.sessionId) =
            server.database.permits.filter (fun p => p.sessionId = s.sessionId) ∧
          after.database.effects.filter (fun e => e.sessionId = s.sessionId) =
            server.database.effects.filter (fun e => e.sessionId = s.sessionId))) ∧
    ∀ sessionId, (auditSeqs after.database sessionId).Nodup ∧
      ∃ new, (auditSeqs after.database sessionId).Perm
          (auditSeqs server.database sessionId ++ new) ∧
        ∀ earlier ∈ auditSeqs server.database sessionId, ∀ n ∈ new, earlier < n := by
  have hfirst : ∀ e ∈ events, ¬e.isReset := fun e he => hevents e (List.mem_append_left _ he)
  have hrest : ∀ e ∈ later, ¬e.isReset := fun e he => hevents e (List.mem_append_right _ he)
  obtain ⟨htasks, -⟩ := tasks_emptyServer.run hfirst hrun
  obtain ⟨hafter, hmonotone⟩ := htasks.run hrest hlater
  constructor
  · intro s hs
    obtain ⟨s', hs', hid, hstep⟩ := hmonotone.sessions s hs
    refine ⟨s', ?_, ?_⟩
    · rw [eq_singleton_of_mem hafter.single hs']
      simp [hid]
    · rcases hstep with hsame | ⟨hopen, hrevision⟩
      · simp only [standing, Prod.mk.injEq] at hsame
        refine ⟨by omega, fun hmoved => absurd hsame.1 hmoved, fun hterminal => ?_⟩
        obtain ⟨hpermits, heffects⟩ := hmonotone.ledger ⟨s, hs, hterminal⟩
        exact ⟨hsame.1, hsame.2.1, hsame.2.2, by rw [hpermits], by rw [heffects]⟩
      · exact ⟨by omega, fun _ => hrevision, fun hterminal => by simp [hopen] at hterminal⟩
  · intro sessionId
    have hempty : (auditSeqs emptyServer.database sessionId).Nodup := List.nodup_nil
    have hbefore := ((auditGrows_run hfirst hrun).seqs sessionId).nodup hempty
    have hgrows := (auditGrows_run hrest hlater).seqs sessionId
    refine ⟨hgrows.nodup hbefore, ?_⟩
    obtain ⟨new, hnew, -, habove⟩ := hgrows
    exact ⟨new, hnew, habove⟩

end Calls

namespace Sample

/-- A session is created, starts to collect, and is found in flight. -/
def openingEvents : List Event :=
  ROLES.map (fun role => .request (.registerRole (registration role))) ++
    [.request (.createSession ⟨.normalWorldV1, PerRole.ofFn agentId⟩ createPorts),
      .work 0 (.transitionToCollecting sessionId time (stamp time))]

def closingEvents : List Event :=
  [.restart later fun _ => ⟨⟨"diagnostic_1", by decide⟩, stamp later⟩]

theorem events_kept : ∀ e ∈ openingEvents ++ closingEvents, ¬e.isReset := by
  intro e he
  simp only [openingEvents, closingEvents, List.mem_append, List.mem_map, List.mem_cons,
    List.not_mem_nil, or_false] at he
  rcases he with (⟨_, -, rfl⟩ | rfl | rfl) | rfl <;> exact id

/-- The session is found in flight by a first restart, and left by a second one. -/
theorem closed : ((run serve emptyServer openingEvents).bind fun server =>
    (run serve server closingEvents).bind fun middle =>
      (run serve middle closingEvents).map fun after =>
        (server.database.sessions.map EpochSession.state,
          middle.database.sessions.map EpochSession.state,
          after.database.sessions.map EpochSession.state)) =
      some ([.COLLECTING], [.INTERRUPTED], [.INTERRUPTED]) := by
  unfold openingEvents
  rw [run_openingServer]
  decide +kernel

end Sample

open scoped Sample in
theorem sessionHistory_monotone_sample : ∃ server middle after,
    run serve emptyServer Sample.openingEvents = some server ∧
      run serve server Sample.closingEvents = some middle ∧
      run serve middle Sample.closingEvents = some after ∧
      middle.database.sessions.map EpochSession.state = [.INTERRUPTED] ∧
      (∀ s ∈ server.database.sessions, ∃ s',
        middle.database.sessions.filter (fun t => t.sessionId = s.sessionId) = [s'] ∧
          s.sessionRevision < s'.sessionRevision) ∧
      (∀ s ∈ middle.database.sessions, ∃ s',
        after.database.sessions.filter (fun t => t.sessionId = s.sessionId) = [s'] ∧
          s'.state = s.state ∧ s'.sessionRevision = s.sessionRevision ∧
          after.database.permits.filter (fun p => p.sessionId = s.sessionId) =
            middle.database.permits.filter (fun p => p.sessionId = s.sessionId)) ∧
      ∀ sessionId, (auditSeqs after.database sessionId).Nodup := by
  obtain ⟨server, hrun, h⟩ := Option.bind_eq_some_iff.mp Sample.closed
  obtain ⟨middle, hmiddle, h⟩ := Option.bind_eq_some_iff.mp h
  obtain ⟨after, hafter, h⟩ := Option.map_eq_some_iff.mp h
  simp only [Prod.mk.injEq] at h
  obtain ⟨hopen, hclosed, -⟩ := h
  have hlater : run serve server (Sample.closingEvents ++ Sample.closingEvents) = some after :=
    run_append.mpr ⟨middle, hmiddle, hafter⟩
  have hfirst := sessionHistory_monotone Sample.events_kept hrun hmiddle
  have hkept : ∀ e ∈ (Sample.openingEvents ++ Sample.closingEvents) ++ Sample.closingEvents,
      ¬e.isReset := by
    intro e he
    rcases List.mem_append.mp he with hmem | hmem
    · exact Sample.events_kept e hmem
    · exact Sample.events_kept e (List.mem_append_right _ hmem)
  have hsecond := sessionHistory_monotone hkept (run_append.mpr ⟨server, hrun, hmiddle⟩) hafter
  refine ⟨server, middle, after, hrun, hmiddle, hafter, hclosed, fun s hs => ?_, fun s hs => ?_,
    fun sessionId => (hsecond.2 sessionId).1⟩
  · obtain ⟨s', hs', -, hmoved, -⟩ := hfirst.1 s hs
    have hwas : s.state = .COLLECTING := by
      simpa [hopen] using List.mem_map_of_mem (f := EpochSession.state) hs
    have hmem : s' ∈ middle.database.sessions := (List.mem_filter.mp (hs' ▸ List.mem_cons_self)).1
    have hnow : s'.state = .INTERRUPTED := by
      simpa [hclosed] using List.mem_map_of_mem (f := EpochSession.state) hmem
    exact ⟨s', hs', hmoved (by rw [hwas, hnow]; decide)⟩
  · obtain ⟨s', hs', -, -, hfrozen⟩ := hsecond.1 s hs
    have hwas : s.state = .INTERRUPTED := by
      simpa [hclosed] using List.mem_map_of_mem (f := EpochSession.state) hs
    obtain ⟨hstate, hrevision, -, hpermits, -⟩ := hfrozen (by rw [hwas]; decide)
    exact ⟨s', hs', hstate, hrevision, hpermits⟩

end Service

end EpochGuard
