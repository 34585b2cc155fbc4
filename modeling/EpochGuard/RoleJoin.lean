import EpochGuard.OutputAcceptance

/-!
# The join of three Runs is all or nothing

`joinRoleRunObservations` with the store mutation that it runs in and the error
that it throws: three observations that match the store, and no change, or a
rejection of every sibling assignment that no decision has consumed.
-/

namespace EpochGuard

namespace RunObserver

open Checked

/-! ## The join through the store -/

/-- What the join throws: one of the rejections that it was given, or a
`RunAdapterError` of its own. -/
inductive JoinError where
  | rethrown (index : Nat) (reason : RunFailure)
  | raised (failure : RunFailure)
deriving DecidableEq

def joinError (settled : List Settled) (code : FailureCode) (message : String)
    (attempt : Option AgentAttempt) (rejectedProvenanceIndex : Option Nat) : JoinError :=
  let own := JoinError.raised (.adapter code message attempt)
  match rejectedProvenanceIndex with
  | none => own
  | some index =>
      match settled[index]? with
      | some (.rejected (.adapter code message attempt)) =>
          .rethrown index (.adapter code message attempt)
      | _ => own

section Join

variable [Sha256]

def joinAnswer (settled : List Settled) :
    JoinMutationOutcome → Except JoinError (PerRole TerminalRunObservation)
  | .joined observations => .ok observations
  | .failed code message attempt rejectedProvenanceIndex =>
      .error (joinError settled code message attempt rejectedProvenanceIndex)

/-- What the store publishes, with what the caller gets; nothing if the store
refuses to publish. -/
def joinPublished (database : EpochDatabase) (settled : List Settled)
    (scope : RoleRunJoinScope) :
    Option (EpochDatabase × Except JoinError (PerRole TerminalRunObservation)) :=
  let mutation : EpochStore.Mutation :=
    ⟨fun database => some (joinRoleRunObservations database settled scope).1⟩
  (mutation.apply database).map fun next =>
    (next, joinAnswer settled (joinRoleRunObservations database settled scope).2)

/-! ## What the answers say -/

/-- An observation with the stored attempt and the assignment of the scope that
it is evidence of. -/
structure Supported (database : EpochDatabase) (scope : RoleRunJoinScope)
    (o : TerminalRunObservation) (a : RunAssignment) : Prop where
  attempt : single? database.attempts (fun t => t.attemptId = o.attempt.attemptId) =
    some o.attempt
  completed : o.attempt.status = .COMPLETED
  session : o.attempt.sessionId = scope.sessionId ∧ o.attempt.actionHash = scope.actionHash
  observed : o.attempt.role = o.role ∧ o.attempt.agentId = o.agentId ∧
    o.attempt.runId = some o.runId ∧ o.attempt.assignmentId = o.assignmentId
  output : o.attempt.outputDigest = some (sha256Digest o.output)
  named : o.assignmentId ∈ scope.assignmentIds
  assignment : single? database.runAssignments (fun b => b.assignmentId = o.assignmentId) =
    some a
  bound : a.status = .BOUND ∧ a.boundRunId = some o.runId ∧
    a.consumedByDecisionCertificateId = none ∧ a.consumedAt = none
  owner : a.sessionId = scope.sessionId ∧ a.actionHash = scope.actionHash ∧
    a.role = o.role ∧ a.agentId = o.agentId

/-- Three supported observations in the order of the roles, of distinct agents,
Runs and assignments. -/
structure AllSupported (database : EpochDatabase) (scope : RoleRunJoinScope)
    (observations : PerRole TerminalRunObservation) : Prop where
  role : ∀ role, (observations.get role).role = role
  agents : (observations.map TerminalRunObservation.agentId).Distinct
  runs : (observations.map TerminalRunObservation.runId).Distinct
  assignments : (observations.map TerminalRunObservation.assignmentId).Distinct
  supported : ∀ role, ∃ assignment, Supported database scope (observations.get role) assignment

/-- An assignment that the scope names and that belongs to its session and
action. -/
def Sibling (scope : RoleRunJoinScope) (a : RunAssignment) : Prop :=
  a.assignmentId ∈ scope.assignmentIds ∧ a.sessionId = scope.sessionId ∧
    a.actionHash = scope.actionHash

/-- The siblings that were not consumed are rejected, and nothing else changes
but the revision. -/
structure SiblingsRejected (database next : EpochDatabase) (scope : RoleRunJoinScope) :
    Prop where
  assignments : List.Forall₂
    (fun a b => (Sibling scope a ∧ a.status ≠ .CONSUMED → b = { a with status := .REJECTED }) ∧
      (¬(Sibling scope a ∧ a.status ≠ .CONSUMED) → b = a))
    database.runAssignments next.runAssignments
  unchanged : next = { database with
    runAssignments := next.runAssignments
    snapshotRevision := database.snapshotRevision + 1 }

/-- A rejection that is thrown again is one of those supplied, with the terminal
attempt that the store holds for its position in the scope. -/
def Attributed (database : EpochDatabase) (settled : List Settled) (scope : RoleRunJoinScope)
    (error : JoinError) : Prop :=
  ∀ index reason, error = .rethrown index reason →
    settled[index]? = some (.rejected reason) ∧
      ∃ code message attempt, reason = .adapter code message (some attempt) ∧
        attempt ∈ database.attempts ∧
        single? database.attempts (fun a => a.attemptId = attempt.attemptId) = some attempt ∧
        isTerminalAttempt attempt.status = true ∧
        scope.assignmentIds[index]? = some attempt.assignmentId

/-! ## Acceptance of the observations -/

/-- Observations of different roles, agents and Runs. -/
def TerminalRunObservation.Apart (o o' : TerminalRunObservation) : Prop :=
  o.role ≠ o'.role ∧ o.agentId ≠ o'.agentId ∧ o.runId ≠ o'.runId

omit [Sha256] in
theorem TerminalRunObservation.Apart.symm {o o' : TerminalRunObservation} (h : o.Apart o') :
    o'.Apart o :=
  ⟨h.1.symm, h.2.1.symm, h.2.2.symm⟩

variable {database : EpochDatabase} {scope : RoleRunJoinScope}

omit [Sha256] in
theorem scopeAssignments_mem {ids : List OpaqueId} {assignments : List RunAssignment}
    (h : ids.mapM (fun assignmentId => do
      let assignment ← single? database.runAssignments fun a => a.assignmentId = assignmentId
      if assignment.sessionId = scope.sessionId ∧ assignment.actionHash = scope.actionHash then
        some assignment
      else none) = some assignments) {assignment : RunAssignment}
    (hmem : assignment ∈ assignments) :
    assignment.assignmentId ∈ ids ∧
      single? database.runAssignments (fun a => a.assignmentId = assignment.assignmentId) =
        some assignment ∧
      assignment.sessionId = scope.sessionId ∧ assignment.actionHash = scope.actionHash := by
  induction ids generalizing assignments with
  | nil =>
    simp only [List.mapM_nil, Option.pure_def, Option.some.injEq] at h
    subst h
    cases hmem
  | cons id ids ih =>
    simp only [List.mapM_cons, Option.pure_def, Option.bind_eq_bind, Option.bind_eq_some_iff,
      Option.some.injEq] at h
    obtain ⟨first, ⟨found, hfound, hscope⟩, rest, hrest, rfl⟩ := h
    split at hscope
    · rename_i howner
      cases hscope
      rcases List.mem_cons.mp hmem with rfl | hmem
      · have hid : assignment.assignmentId = id := by simpa using (single?_mem hfound).2
        exact ⟨hid ▸ List.mem_cons_self, by rw [hid]; exact hfound, howner⟩
      · obtain ⟨hnamed, hsingle, howner'⟩ := ih hrest hmem
        exact ⟨List.mem_cons_of_mem _ hnamed, hsingle, howner'⟩
    · cases hscope

/-- What one observation that matches its evidence shows. -/
theorem supported_of_matches {assignments : List RunAssignment}
    (hscope : scopeAssignments database scope = some assignments)
    {accepted : List TerminalRunObservation} {o : TerminalRunObservation}
    (h : matchesEvidence database scope assignments accepted o = true) :
    (∃ assignment, Supported database scope o assignment) ∧ ∀ o' ∈ accepted, o.Apart o' := by
  simp only [matchesEvidence, Bool.and_eq_true, decide_eq_true_eq, Option.any_eq_true,
    List.all_eq_true, bne_iff_ne, and_assoc] at h
  obtain ⟨hcompleted, hsession, haction, hid, ⟨assignment, hfound, has, hac, har, haa, hbound,
    hrun, hconsumer, hconsumed⟩, hattempt, hattemptRun, hagent, hrole, houtput, hothers⟩ := h
  have haid : assignment.assignmentId = o.assignmentId := by simpa using List.find?_some hfound
  obtain ⟨hnamed, hsingle, howner, hownerAction⟩ :=
    scopeAssignments_mem hscope (List.mem_of_find?_eq_some hfound)
  refine ⟨⟨assignment, ?_⟩, fun o' ho' => ?_⟩
  · exact {
      attempt := hattempt
      completed := hcompleted
      session := ⟨hsession, haction⟩
      observed := ⟨hrole, hagent, hattemptRun, hid.symm⟩
      output := houtput
      named := haid ▸ hnamed
      assignment := haid ▸ hsingle
      bound := ⟨hbound, hrun, hconsumer, hconsumed⟩
      owner := ⟨howner, hownerAction, har.trans hrole, haa.trans hagent⟩ }
  · obtain ⟨h1, h2, h3⟩ := hothers o' ho'
    exact ⟨h1.symm, h2.symm, h3.symm⟩

/-- The loop keeps that what is accepted is supported and pairwise apart. -/
theorem acceptObservations_supported {assignments : List RunAssignment}
    (hscope : scopeAssignments database scope = some assignments)
    {observations accepted result : List TerminalRunObservation}
    (hsupported : ∀ o ∈ accepted, ∃ assignment, Supported database scope o assignment)
    (hapart : accepted.Pairwise TerminalRunObservation.Apart)
    (h : acceptObservations database scope assignments accepted observations = .ok result) :
    (∀ o ∈ result, ∃ assignment, Supported database scope o assignment) ∧
      result.Pairwise TerminalRunObservation.Apart := by
  induction observations generalizing accepted with
  | nil =>
    cases h
    exact ⟨hsupported, hapart⟩
  | cons o rest ih =>
    simp only [acceptObservations, bind_eq_ok, require_eq_ok] at h
    obtain ⟨-, -, -, hmatches, hrest⟩ := h
    obtain ⟨hown, hothers⟩ := supported_of_matches hscope hmatches
    refine ih (fun o' ho' => ?_) (List.pairwise_cons.mpr ⟨hothers, hapart⟩) hrest
    rcases List.mem_cons.mp ho' with rfl | ho'
    · exact hown
    · exact hsupported o' ho'

/-- One accepted observation for each role, and they are apart. -/
theorem allSupported_of_found {accepted : List TerminalRunObservation}
    {observations : PerRole TerminalRunObservation}
    (hsupported : ∀ o ∈ accepted, ∃ assignment, Supported database scope o assignment)
    (hapart : accepted.Pairwise TerminalRunObservation.Apart)
    (h : (PerRole.ofFn fun role => accepted.find? fun o => o.role = role).all? =
      some observations) :
    AllSupported database scope observations := by
  have hfound : ∀ role, accepted.find? (fun o => o.role = role) = some (observations.get role) :=
    fun role => by simpa using PerRole.all?_eq_some.mp h role
  have hrole : ∀ role, (observations.get role).role = role := fun role => by
    simpa using List.find?_some (hfound role)
  have hmem : ∀ role, observations.get role ∈ accepted := fun role =>
    List.mem_of_find?_eq_some (hfound role)
  have hpairs : ∀ r r', r ≠ r' → (observations.get r).Apart (observations.get r') := by
    intro r r' hne
    have : Std.Symm TerminalRunObservation.Apart := ⟨fun _ _ => TerminalRunObservation.Apart.symm⟩
    refine hapart.forall (hmem r) (hmem r') ?_
    intro heq
    exact hne (by rw [← hrole r, heq, hrole r'])
  have hids : ∀ r r', r ≠ r' →
      (observations.get r).assignmentId ≠ (observations.get r').assignmentId := by
    -- the assignment of an observation has the role of the observation
    intro r r' hne heq
    obtain ⟨a, ha⟩ := hsupported _ (hmem r)
    obtain ⟨a', ha'⟩ := hsupported _ (hmem r')
    have hsame : a = a' := by
      have hsingle := ha.assignment
      rw [heq, ha'.assignment] at hsingle
      exact (Option.some.inj hsingle).symm
    exact (hpairs r r' hne).1 (by rw [← ha.owner.2.2.1, hsame, ha'.owner.2.2.1])
  exact {
    role := hrole
    agents := ⟨(hpairs .inventory .budget (by decide)).2.1,
      (hpairs .inventory .policy (by decide)).2.1, (hpairs .budget .policy (by decide)).2.1⟩
    runs := ⟨(hpairs .inventory .budget (by decide)).2.2,
      (hpairs .inventory .policy (by decide)).2.2, (hpairs .budget .policy (by decide)).2.2⟩
    assignments := ⟨hids .inventory .budget (by decide), hids .inventory .policy (by decide),
      hids .budget .policy (by decide)⟩
    supported := fun role => hsupported _ (hmem role) }

theorem joinOutcome_joined {settled : List Settled}
    {observations : PerRole TerminalRunObservation}
    (h : joinOutcome database settled scope = .joined observations) :
    AllSupported database scope observations := by
  unfold joinOutcome at h
  dsimp only at h
  split at h
  · cases h
  split at h
  · cases h
  split at h
  · cases h
  split at h
  · cases h
  rename_i assignments hscope
  split at h
  · cases h
  rename_i accepted haccepted
  split at h
  · rename_i found hfound
    cases h
    obtain ⟨hsupported, hapart⟩ :=
      acceptObservations_supported hscope (by simp) List.Pairwise.nil haccepted
    exact allSupported_of_found hsupported hapart hfound
  · cases h

/-! ## Rejection -/

theorem joinOutcome_index {settled : List Settled} {code : FailureCode} {message : String}
    {attempt : Option AgentAttempt} {index : Nat}
    (h : joinOutcome database settled scope = .failed code message attempt (some index)) :
    firstTerminalRejectionIndex settled database scope = some index := by
  unfold joinOutcome at h
  dsimp only at h
  repeat' split at h
  all_goals first | cases h | skip
  all_goals
    simp only [JoinMutationOutcome.failed.injEq] at h
    exact h.2.2.2

theorem attributed_joinError {settled : List Settled} {code : FailureCode} {message : String}
    {attempt : Option AgentAttempt} {index? : Option Nat}
    (h : joinOutcome database settled scope = .failed code message attempt index?) :
    Attributed database settled scope (joinError settled code message attempt index?) := by
  intro index reason herror
  cases index? with
  | none => cases herror
  | some i =>
    have hindex := joinOutcome_index h
    unfold firstTerminalRejectionIndex at hindex
    split at hindex
    · obtain ⟨⟨result, j⟩, hfound, rfl⟩ := Option.map_eq_some_iff.mp hindex
      have hat : settled[j]? = some result := by
        simpa using (List.mk_mem_zipIdx_iff_getElem? (i := j)).mp (List.mem_of_find?_eq_some hfound)
      have hproves := List.find?_some hfound
      unfold provesRejection at hproves
      dsimp only at hproves
      split at hproves
      · rename_i c m stored
        simp only [Bool.and_eq_true, decide_eq_true_eq, and_assoc] at hproves
        obtain ⟨-, hterminal, -, -, hplace, hstored, -⟩ := hproves
        simp only [joinError, hat, JoinError.rethrown.injEq] at herror
        obtain ⟨rfl, rfl⟩ := herror
        exact ⟨hat, c, m, stored, rfl, (single?_mem hstored).1, hstored, hterminal, hplace⟩
      · cases hproves
    · cases hindex

omit [Sha256] in
theorem siblingsRejected_rejectSiblings :
    SiblingsRejected database (EpochStore.stamp (rejectSiblings database scope) database)
      scope := by
  refine ⟨?_, rfl⟩
  show List.Forall₂ _ _ (modifyWhere _ _ _)
  rw [modifyWhere, List.forall₂_map_right_iff, List.forall₂_same]
  intro a _
  have hiff : (scope.assignmentIds.contains a.assignmentId && a.sessionId = scope.sessionId &&
      a.actionHash = scope.actionHash && a.status != .CONSUMED) = true ↔
      Sibling scope a ∧ a.status ≠ .CONSUMED := by
    simp [Sibling, and_assoc]
  by_cases hsibling : Sibling scope a ∧ a.status ≠ .CONSUMED
  · rw [if_pos (hiff.mpr hsibling)]
    exact ⟨fun _ => rfl, fun hnot => absurd hsibling hnot⟩
  · rw [if_neg fun htrue => hsibling (hiff.mp htrue)]
    exact ⟨fun hnot => absurd hnot hsibling, fun _ => rfl⟩

/-- The join is all or nothing. It answers one supported observation for each
role and changes nothing but the revision of the store, or it rejects every
sibling that is not consumed and leaves everything else as it was. What it
throws again is the error of an attempt in its scope. -/
theorem join_allOrNothing (database : EpochDatabase) (settled : List Settled)
    (scope : RoleRunJoinScope) (hparses : database.parses) :
    ∃ next answer, joinPublished database settled scope = some (next, answer) ∧
      match answer with
      | .ok observations =>
          next = { database with snapshotRevision := database.snapshotRevision + 1 } ∧
            AllSupported database scope observations
      | .error error =>
          SiblingsRejected database next scope ∧ Attributed database settled scope error := by
  cases houtcome : joinOutcome database settled scope with
  | joined observations =>
    have hjoin : joinRoleRunObservations database settled scope =
        (database, .joined observations) := by
      rw [joinRoleRunObservations, houtcome]
    refine ⟨EpochStore.stamp database database, .ok observations, ?_, rfl,
      joinOutcome_joined houtcome⟩
    have hstamped : (EpochStore.stamp database database).parses := hparses
    simp [joinPublished, EpochStore.Mutation.apply, hjoin, hstamped, joinAnswer]
  | failed code message attempt index? =>
    have hjoin : joinRoleRunObservations database settled scope =
        (rejectSiblings database scope, .failed code message attempt index?) := by
      rw [joinRoleRunObservations, houtcome]
    refine ⟨EpochStore.stamp (rejectSiblings database scope) database,
      .error (joinError settled code message attempt index?), ?_,
      siblingsRejected_rejectSiblings, attributed_joinError houtcome⟩
    have hstamped : (EpochStore.stamp (rejectSiblings database scope) database).parses := hparses
    simp [joinPublished, EpochStore.Mutation.apply, hjoin, hstamped, joinAnswer]

end Join

open Service.OutputSample in
theorem join_allOrNothing_sample :
    ∃ next answer, joinPublished observed (observations.toList.map .fulfilled) scope =
        some (next, answer) ∧
      match answer with
      | .ok observations =>
          next = { observed with snapshotRevision := observed.snapshotRevision + 1 } ∧
            AllSupported observed scope observations
      | .error error =>
          SiblingsRejected observed next scope ∧
            Attributed observed (observations.toList.map .fulfilled) scope error :=
  join_allOrNothing observed _ _ observed_reachable.parses

end RunObserver

end EpochGuard
