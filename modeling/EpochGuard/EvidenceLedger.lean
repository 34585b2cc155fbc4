import EpochGuard.Records
import Mathlib.Logic.Relation

/-!
# The evidence ledger

The part of the store that links decisions to their evidence: assignments,
attempts, receipts and decisions, with the decision that each session points to
for each role, and the plans, permits and effects that rest on the decisions.
Its steps are what the mutations of the service do to it, and its invariant is
what links the records in every ledger that steps can reach.
-/

namespace EpochGuard

open Checked Relation

/-- What a store says of observations: which were assigned and attempted, what
was received and decided, and what follows from it. `pointers` holds the active
decisions of the sessions. -/
structure Evidence where
  headSeq : Nat
  assignments : List RunAssignment
  attempts : List AgentAttempt
  receipts : List ObservationReceipt
  decisions : List DependencyCertificate
  plans : List RefreshPlan
  permits : List EffectPermit
  effects : List EffectRecord
  pointers : List (OpaqueId × PerRole (Option OpaqueId))

/-- What a session says of the evidence: the decision that it holds active for
each role. -/
def EpochSession.pointer (session : EpochSession) : OpaqueId × PerRole (Option OpaqueId) :=
  (session.sessionId, session.activeDecisionCertificateIds)

/-- What a store keeps of the evidence. -/
def EpochDatabase.evidence (database : EpochDatabase) : Evidence where
  headSeq := database.headSeq
  assignments := database.runAssignments
  attempts := database.attempts
  receipts := database.receipts
  decisions := database.decisions
  plans := database.refreshPlans
  permits := database.permits
  effects := database.effects
  pointers := database.sessions.map EpochSession.pointer

namespace Evidence

/-- Nothing has been observed. -/
def empty : Evidence := ⟨0, [], [], [], [], [], [], [], []⟩

/-- An assignment that a decision can still consume. -/
def Unused (a : RunAssignment) : Prop := a.status = .CREATED ∨ a.status = .BOUND

/-- No observation is under way. -/
def Idle (e : Evidence) : Prop := ∀ a ∈ e.assignments, ¬Unused a

theorem Unused.not_consumed {a : RunAssignment} (h : Unused a) : a.status ≠ .CONSUMED := by
  rcases h with h | h <;> simp [h]

/-! ## Steps -/

/-- A change of an assignment that keeps its identity and its decision. -/
structure AssignmentKept (a b : RunAssignment) : Prop where
  id : b.assignmentId = a.assignmentId
  receipt : b.receiptId = a.receiptId
  role : b.role = a.role
  unused : Unused b → Unused a
  consumedBy : b.consumedByDecisionCertificateId = a.consumedByDecisionCertificateId
  status : b.status = .CONSUMED ↔ a.status = .CONSUMED
  same : a.status = .CONSUMED → b = a

/-- A change of an attempt that keeps its assignment and its acceptance. -/
structure AttemptKept (a b : AgentAttempt) : Prop where
  assignment : b.assignmentId = a.assignmentId
  status : b.status = .ACCEPTED ↔ a.status = .ACCEPTED
  same : a.status = .ACCEPTED → b = a

theorem AssignmentKept.refl (a : RunAssignment) : AssignmentKept a a :=
  ⟨rfl, rfl, rfl, fun h => h, rfl, Iff.rfl, fun _ => rfl⟩

theorem AttemptKept.refl (a : AgentAttempt) : AttemptKept a a := ⟨rfl, Iff.rfl, fun _ => rfl⟩

/-- An assignment with the Run it is bound to afterwards is bound as before, or
to a Run that no other assignment has. -/
def BoundOnce (e : Evidence) (f : RunAssignment → RunAssignment) (a : RunAssignment) : Prop :=
  (f a).boundRunId = a.boundRunId ∨
    ∀ b ∈ e.assignments, b.assignmentId ≠ a.assignmentId →
      (f b).boundRunId = b.boundRunId ∧ b.boundRunId ≠ (f a).boundRunId

/-- The records of an attempt that is ready for its decision: assignment,
attempt and receipt name each other, the Run is the same on both sides, and
nothing was consumed yet. -/
structure Ready (e : Evidence) (a : RunAssignment) (t : AgentAttempt) (r : ObservationReceipt)
    (runId : OpaqueId) : Prop where
  assignment : single? e.assignments (fun b => b.assignmentId = a.assignmentId) = some a
  attempt : single? e.attempts (fun u => u.attemptId = t.attemptId) = some t
  owner : t.assignmentId = a.assignmentId
  receipt : r ∈ e.receipts
  receiptId : r.receiptId = a.receiptId
  receiptOwner : r.runAssignmentId = a.assignmentId
  unconsumed : a.status ≠ .CONSUMED
  bound : a.boundRunId = some runId
  sameRun : t.runId = some runId
  output : t.outputDigest ≠ none

/-- The decision that takes the place of the active one of a session's role. If
the role has none, it is the first. -/
structure Replaces (e : Evidence) (certificate : DependencyCertificate)
    (pointer : OpaqueId × PerRole (Option OpaqueId)) (existing : Option DependencyCertificate) :
    Prop where
  session : single? e.pointers (fun p => p.1 = certificate.sessionId) = some pointer
  pointed : existing.map DependencyCertificate.certificateId = pointer.2.get certificate.role
  found : ∀ d ∈ existing, single? e.decisions (fun c => c.certificateId = d.certificateId) = some d
  active : ∀ d ∈ existing, d.status = .ACTIVE ∧ d.sessionId = certificate.sessionId ∧
    d.role = certificate.role
  fresh : ∀ d ∈ e.decisions, d.certificateId ≠ certificate.certificateId
  status : certificate.status = .ACTIVE ∧ certificate.supersededByCertificateId = none

/-- A decision after a later one of its role has taken its place. -/
def supersede (certificate : DependencyCertificate) (d : DependencyCertificate) :
    DependencyCertificate :=
  { d with
    status := .SUPERSEDED, supersededByCertificateId := some certificate.certificateId }

/-- The assignment that a decision consumes is otherwise as it was. -/
structure Consumes (a consumed : RunAssignment) : Prop where
  id : consumed.assignmentId = a.assignmentId
  receipt : consumed.receiptId = a.receiptId
  run : consumed.boundRunId = a.boundRunId
  role : consumed.role = a.role

/-- The ledger after a decision. -/
def accept (e : Evidence) (a : RunAssignment) (t : AgentAttempt)
    (existing : Option DependencyCertificate) (certificate : DependencyCertificate)
    (pointer : OpaqueId × PerRole (Option OpaqueId)) (consumed : RunAssignment) : Evidence :=
  { e with
    assignments := modifyWhere (fun b => b.assignmentId = a.assignmentId) (fun _ => consumed)
      e.assignments
    attempts := modifyWhere (fun u => u.attemptId = t.attemptId)
      (fun _ => { t with status := .ACCEPTED }) e.attempts
    decisions := existing.elim e.decisions (fun d =>
      modifyWhere (fun c => c.certificateId = d.certificateId)
        (fun _ => supersede certificate d) e.decisions) ++ [certificate]
    pointers := modifyWhere (fun p => p.1 = certificate.sessionId)
      (fun _ => (pointer.1, pointer.2.set certificate.role (some certificate.certificateId)))
      e.pointers }

/-- A fresh assignment with its attempt. -/
structure Fresh (e : Evidence) (a : RunAssignment) (t : AgentAttempt) : Prop where
  assignment : ∀ b ∈ e.assignments, b.assignmentId ≠ a.assignmentId
  owner : t.assignmentId = a.assignmentId
  created : a.status = .CREATED
  unbound : a.consumedByDecisionCertificateId = none ∧ a.boundRunId = none
  attempt : t.status = .ASSIGNMENT_CREATED

/-- A change of a plan that does not reopen it. -/
def PlanKept (p q : RefreshPlan) : Prop :=
  q.sessionId = p.sessionId ∧
    (q = p ∨ q.status = .CLAIMED ∧ p.status = .CLAIMED ∨ q.status = .COMPLETED ∨
      q.status = .INVALIDATED)

/-- A permit that is consumed exactly if it was, under the same identifier. -/
def PermitKept (p q : EffectPermit) : Prop :=
  q.permitId = p.permitId ∧ (q.status = .CONSUMED ↔ p.status = .CONSUMED)

/-- The ledger after a release. -/
def release (e : Evidence) (effect : EffectRecord) : Evidence :=
  { e with
    effects := e.effects ++ [effect]
    permits := modifyWhere (fun p => p.permitId = effect.permitId)
      (fun p => { p with status := .CONSUMED, consumedAt := some effect.createdAt }) e.permits }

/-- What can happen to the evidence. Every publication of a store is at most one
of these. -/
inductive Step : Evidence → Evidence → Prop where
  | assign {e : Evidence} {a : RunAssignment} {t : AgentAttempt} (fresh : e.Fresh a t)
      (opened : e.pointers ≠ []) (first : e.plans = [] ∧ e.permits = [])
      (role : ∀ b ∈ e.assignments, b.role ≠ a.role) :
      Step e { e with assignments := e.assignments ++ [a], attempts := e.attempts ++ [t] }
  | claim {e : Evidence} {a : RunAssignment} {t : AgentAttempt} {plan claimed : RefreshPlan}
      (fresh : e.Fresh a t) (role : a.role = .budget)
      (available : e.plans = [plan] ∧ plan.status = .AVAILABLE)
      (claims : claimed.sessionId = plan.sessionId ∧ claimed.status = .CLAIMED) :
      Step e { e with
        assignments := e.assignments ++ [a], attempts := e.attempts ++ [t], plans := [claimed] }
  | observe {e : Evidence} {r : ObservationReceipt}
      (fresh : ∀ o ∈ e.receipts, o.receiptId ≠ r.receiptId ∧
        o.runAssignmentId ≠ r.runAssignmentId ∧ o.nonce ≠ r.nonce) :
      Step e { e with receipts := e.receipts ++ [r] }
  | update {e : Evidence} {f : RunAssignment → RunAssignment} {g : AgentAttempt → AgentAttempt}
      (assignment : ∀ a ∈ e.assignments, AssignmentKept a (f a) ∧ BoundOnce e f a)
      (attempt : ∀ t ∈ e.attempts, AttemptKept t (g t)) :
      Step e { e with assignments := e.assignments.map f, attempts := e.attempts.map g }
  | accept {e : Evidence} {a : RunAssignment} {t : AgentAttempt} {r : ObservationReceipt}
      {existing : Option DependencyCertificate} {certificate : DependencyCertificate}
      {pointer : OpaqueId × PerRole (Option OpaqueId)} {consumed : RunAssignment}
      (ready : e.Ready a t r certificate.runId)
      (replaces : e.Replaces certificate pointer existing)
      (assignment : certificate.runAssignmentId = a.assignmentId)
      (receipt : certificate.receiptId = r.receiptId)
      (kept : Consumes a consumed) (role : certificate.role = a.role)
      (status : consumed.status = .CONSUMED ∧
        consumed.consumedByDecisionCertificateId = some certificate.certificateId) :
      Step e (e.accept a t existing certificate pointer consumed)
  | openSession {e : Evidence} {sessionId : OpaqueId} {headSeq : Nat} (empty : e.pointers = [])
      (head : headSeq ≠ 0) :
      Step e { e with headSeq, pointers := [(sessionId, PerRole.const none)] }
  | settle {e : Evidence} {plans : List RefreshPlan} (same : plans.length = e.plans.length)
      (kept : ∀ q ∈ plans, ∃ p ∈ e.plans, PlanKept p q) : Step e { e with plans }
  | plan {e : Evidence} {plan : RefreshPlan} (idle : e.Idle) (unpermitted : e.permits = [])
      (session : ∃ p ∈ e.pointers, p.1 = plan.sessionId) :
      Step e { e with plans := e.plans ++ [plan] }
  | permit {e : Evidence} {permit : EffectPermit} (idle : e.Idle) (first : e.permits = [])
      (settled : ∀ p ∈ e.plans, p.status ≠ .AVAILABLE) (issued : permit.status = .ISSUED)
      (opened : e.pointers ≠ []) :
      Step e { e with permits := e.permits ++ [permit] }
  | revoke {e : Evidence} {permits : List EffectPermit}
      (same : permits.map EffectPermit.permitId = e.permits.map EffectPermit.permitId)
      (kept : ∀ q ∈ permits, ∃ p ∈ e.permits, PermitKept p q) : Step e { e with permits }
  | release {e : Evidence} {permit : EffectPermit} {effect : EffectRecord}
      (found : single? e.permits (fun p => p.permitId = effect.permitId) = some permit)
      (issued : permit.status = .ISSUED)
      (first : ∀ x ∈ e.effects, x.sessionId ≠ effect.sessionId) :
      Step e (e.release effect)
  | advance {e : Evidence} {headSeq : Nat} (later : e.headSeq ≤ headSeq) :
      Step e { e with headSeq }
  | reset {e : Evidence} : Step e empty

/-! ## The invariant -/

/-- A decision is followed by the one that superseded it. -/
def Follows (e : Evidence) (earlier later : OpaqueId) : Prop :=
  ∃ d ∈ e.decisions, d.certificateId = earlier ∧ d.status = .SUPERSEDED ∧
    d.supersededByCertificateId = some later

/-- A finite chain of decisions, each superseded by the next one. -/
def Leads (e : Evidence) : OpaqueId → OpaqueId → Prop := ReflTransGen e.Follows

/-- The records that a decision names: its consumed assignment, the accepted
attempt of its Run, and its receipt. -/
structure Backed (e : Evidence) (d : DependencyCertificate) (a : RunAssignment)
    (t : AgentAttempt) (r : ObservationReceipt) : Prop where
  assignment : a ∈ e.assignments
  assignmentId : a.assignmentId = d.runAssignmentId
  consumed : a.status = .CONSUMED
  consumedBy : a.consumedByDecisionCertificateId = some d.certificateId
  bound : a.boundRunId = some d.runId
  role : a.role = d.role
  attempt : t ∈ e.attempts
  attemptOf : t.assignmentId = a.assignmentId
  accepted : t.status = .ACCEPTED
  sameRun : t.runId = some d.runId
  output : t.outputDigest ≠ none
  receipt : r ∈ e.receipts
  receiptId : r.receiptId = d.receiptId
  receiptOwner : r.runAssignmentId = a.assignmentId

/-- The records behind the decisions. Identifiers are used once, an assignment
is consumed by one decision at most, and from every decision of a role its
successors lead to the active one. -/
structure Chained (e : Evidence) : Prop where
  opened : e.pointers ≠ [] → e.headSeq ≠ 0
  sessions : (e.pointers.map Prod.fst).Nodup
  assignments : (e.assignments.map RunAssignment.assignmentId).Nodup
  consumed : ∀ a ∈ e.assignments,
    a.status = .CONSUMED ↔ a.consumedByDecisionCertificateId ≠ none
  boundOnce : ∀ a ∈ e.assignments, ∀ b ∈ e.assignments, a.boundRunId ≠ none →
    a.boundRunId = b.boundRunId → a.assignmentId = b.assignmentId
  attempts : (e.attempts.map AgentAttempt.assignmentId).Nodup
  attemptOf : ∀ t ∈ e.attempts, ∃ a ∈ e.assignments, a.assignmentId = t.assignmentId ∧
    (t.status = .ACCEPTED → a.status = .CONSUMED)
  receipts : (e.receipts.map ObservationReceipt.receiptId).Nodup
  receiptOwners : (e.receipts.map ObservationReceipt.runAssignmentId).Nodup
  nonces : (e.receipts.map ObservationReceipt.nonce).Nodup
  decisions : (e.decisions.map DependencyCertificate.certificateId).Nodup
  lasts : ∀ d ∈ e.decisions, d.status = .ACTIVE → d.supersededByCertificateId = none
  backed : ∀ d ∈ e.decisions, ∃ a t r, e.Backed d a t r
  pointed : ∀ p ∈ e.pointers, ∀ role, ∀ id ∈ p.2.get role, ∃ d ∈ e.decisions,
    d.certificateId = id ∧ d.sessionId = p.1 ∧ d.role = role ∧ d.status = .ACTIVE
  active : ∀ d ∈ e.decisions, d.status = .ACTIVE → ∀ p ∈ e.pointers, p.1 = d.sessionId →
    p.2.get d.role = some d.certificateId
  chains : ∀ d ∈ e.decisions, ∃ p ∈ e.pointers, p.1 = d.sessionId ∧
    ∃ id ∈ p.2.get d.role, e.Leads d.certificateId id

/-- The plans, the permits and the effects that rest on the decisions. While a
plan is available, or once there is a permit, no observation is under way. -/
structure Gated (e : Evidence) : Prop where
  unopened : e.pointers = [] → e.assignments = [] ∧ e.plans = [] ∧ e.permits = []
  alone : e.pointers.length ≤ 1
  planned : ∀ p ∈ e.plans, ∃ q ∈ e.pointers, q.1 = p.sessionId
  unusedOnce : ∀ a ∈ e.assignments, ∀ b ∈ e.assignments, Unused a → Unused b → a.role = b.role →
    a.assignmentId = b.assignmentId
  initial : e.plans = [] → ∀ a ∈ e.assignments, ∀ b ∈ e.assignments, a.role = b.role →
    a.assignmentId = b.assignmentId
  refreshed : e.plans ≠ [] → ∀ a ∈ e.assignments, Unused a →
    a.role = .budget ∧ ∀ p ∈ e.plans, p.status ≠ .AVAILABLE
  permitted : e.permits ≠ [] → e.Idle ∧ ∀ p ∈ e.plans, p.status ≠ .AVAILABLE
  permits : (e.permits.map EffectPermit.permitId).Nodup
  released : ∀ x ∈ e.effects, ∃ p ∈ e.permits, p.permitId = x.permitId
  consumedPermits : ∀ p ∈ e.permits,
    p.status = .CONSUMED ↔ ∃ x ∈ e.effects, x.permitId = p.permitId
  effects : (e.effects.map EffectRecord.permitId).Nodup
  releasedOnce : (e.effects.map EffectRecord.sessionId).Nodup

/-- What holds of the evidence in every run. -/
structure Inv (e : Evidence) : Prop extends Chained e, Gated e

theorem inv_empty : empty.Inv := by
  constructor <;> constructor <;> simp [empty]

section

variable {e : Evidence}

theorem Chained.assignment_unique (h : e.Chained) {a b : RunAssignment} (ha : a ∈ e.assignments)
    (hb : b ∈ e.assignments) (hid : a.assignmentId = b.assignmentId) : a = b :=
  List.inj_on_of_nodup_map h.assignments ha hb hid

theorem Chained.decision_unique (h : e.Chained) {d d' : DependencyCertificate}
    (hd : d ∈ e.decisions) (hd' : d' ∈ e.decisions) (hid : d.certificateId = d'.certificateId) :
    d = d' :=
  List.inj_on_of_nodup_map h.decisions hd hd' hid

/-- An attempt that is accepted belongs to a consumed assignment. -/
theorem Chained.consumed_of_accepted (h : e.Chained) {a : RunAssignment} {t : AgentAttempt}
    (ha : a ∈ e.assignments) (ht : t ∈ e.attempts) (howner : t.assignmentId = a.assignmentId)
    (haccepted : t.status = .ACCEPTED) : a.status = .CONSUMED := by
  obtain ⟨b, hb, hid, hstatus⟩ := h.attemptOf t ht
  rw [h.assignment_unique ha hb (howner ▸ hid.symm)]
  exact hstatus haccepted

/-! ### Steps that leave the decisions alone -/

theorem chained_append (h : e.Chained) {a : RunAssignment} {t : AgentAttempt}
    (hfresh : e.Fresh a t) :
    Chained { e with assignments := e.assignments ++ [a], attempts := e.attempts ++ [t] } := by
  obtain ⟨fresh, owner, hstatus, ⟨hby, hrun⟩, hcreated⟩ := hfresh
  have hfresh : ∀ u ∈ e.attempts, u.assignmentId ≠ a.assignmentId := by
    intro u hu
    obtain ⟨b, hb, hid, -⟩ := h.attemptOf u hu
    exact hid ▸ fresh b hb
  refine { h with
    assignments := ?_, consumed := ?_, boundOnce := ?_, attempts := ?_, attemptOf := ?_,
    backed := ?_, active := h.active, chains := h.chains }
  · simp only [List.map_append, List.map_cons, List.map_nil, List.nodup_append]
    refine ⟨h.assignments, by simp, ?_⟩
    simpa using fresh
  · intro b hb
    rcases List.mem_append.mp hb with hb | hb
    · exact h.consumed b hb
    · obtain rfl := List.mem_singleton.mp hb
      simp [hstatus, hby]
  · intro b hb c hc hbound heq
    rcases List.mem_append.mp hb with hb | hb <;> rcases List.mem_append.mp hc with hc | hc
    · exact h.boundOnce b hb c hc hbound heq
    · obtain rfl := List.mem_singleton.mp hc
      exact absurd (heq.trans hrun) hbound
    · obtain rfl := List.mem_singleton.mp hb
      exact absurd hrun hbound
    · obtain rfl := List.mem_singleton.mp hb
      exact absurd hrun hbound
  · simp only [List.map_append, List.map_cons, List.map_nil, List.nodup_append]
    refine ⟨h.attempts, by simp, ?_⟩
    simpa [owner] using hfresh
  · intro u hu
    rcases List.mem_append.mp hu with hu | hu
    · obtain ⟨b, hb, hid, hconsumed⟩ := h.attemptOf u hu
      exact ⟨b, List.mem_append_left _ hb, hid, hconsumed⟩
    · obtain rfl := List.mem_singleton.mp hu
      exact ⟨a, by simp, owner.symm, fun hu => by simp [hcreated] at hu⟩
  · intro d hd
    obtain ⟨b, u, r, hbacked⟩ := h.backed d hd
    exact ⟨b, u, r, { hbacked with
      assignment := List.mem_append_left _ hbacked.assignment
      attempt := List.mem_append_left _ hbacked.attempt }⟩

theorem chained_observe (h : e.Chained) {r : ObservationReceipt}
    (fresh : ∀ o ∈ e.receipts, o.receiptId ≠ r.receiptId ∧
      o.runAssignmentId ≠ r.runAssignmentId ∧ o.nonce ≠ r.nonce) :
    Chained { e with receipts := e.receipts ++ [r] } := by
  refine { h with
    receipts := ?_, receiptOwners := ?_, nonces := ?_, backed := ?_, active := h.active,
    chains := h.chains }
  · simp only [List.map_append, List.map_cons, List.map_nil, List.nodup_append]
    refine ⟨h.receipts, by simp, ?_⟩
    simpa using fun o ho => (fresh o ho).1
  · simp only [List.map_append, List.map_cons, List.map_nil, List.nodup_append]
    refine ⟨h.receiptOwners, by simp, ?_⟩
    simpa using fun o ho => (fresh o ho).2.1
  · simp only [List.map_append, List.map_cons, List.map_nil, List.nodup_append]
    refine ⟨h.nonces, by simp, ?_⟩
    simpa using fun o ho => (fresh o ho).2.2
  · intro d hd
    obtain ⟨a, t, o, hbacked⟩ := h.backed d hd
    exact ⟨a, t, o, { hbacked with receipt := List.mem_append_left _ hbacked.receipt }⟩

theorem chained_update (h : e.Chained) {f : RunAssignment → RunAssignment}
    {g : AgentAttempt → AgentAttempt}
    (assignment : ∀ a ∈ e.assignments, AssignmentKept a (f a) ∧ BoundOnce e f a)
    (attempt : ∀ t ∈ e.attempts, AttemptKept t (g t)) :
    Chained { e with assignments := e.assignments.map f, attempts := e.attempts.map g } := by
  have hids : (e.assignments.map f).map RunAssignment.assignmentId =
      e.assignments.map RunAssignment.assignmentId := by
    rw [List.map_map]
    exact List.map_congr_left fun a ha => (assignment a ha).1.id
  have howners : (e.attempts.map g).map AgentAttempt.assignmentId =
      e.attempts.map AgentAttempt.assignmentId := by
    rw [List.map_map]
    exact List.map_congr_left fun t ht => (attempt t ht).assignment
  refine { h with
    assignments := hids ▸ h.assignments, consumed := ?_, boundOnce := ?_,
    attempts := howners ▸ h.attempts, attemptOf := ?_, backed := ?_, active := h.active,
    chains := h.chains }
  · intro b hb
    obtain ⟨a, ha, rfl⟩ := List.mem_map.mp hb
    rw [(assignment a ha).1.status, (assignment a ha).1.consumedBy]
    exact h.consumed a ha
  · intro b hb c hc hbound heq
    obtain ⟨a, ha, rfl⟩ := List.mem_map.mp hb
    obtain ⟨a', ha', rfl⟩ := List.mem_map.mp hc
    rw [(assignment a ha).1.id, (assignment a' ha').1.id]
    by_contra hne
    rcases (assignment a ha).2 with hsame | honly
    · rcases (assignment a' ha').2 with hsame' | honly'
      · exact hne (h.boundOnce a ha a' ha' (hsame ▸ hbound) (by rw [← hsame, heq, hsame']))
      · obtain ⟨hkept, hother⟩ := honly' a ha hne
        exact hother (hkept ▸ heq)
    · obtain ⟨hkept, hother⟩ := honly a' ha' (Ne.symm hne)
      exact hother (by rw [← hkept, heq])
  · intro u hu
    obtain ⟨t, ht, rfl⟩ := List.mem_map.mp hu
    obtain ⟨a, ha, hid, hconsumed⟩ := h.attemptOf t ht
    refine ⟨f a, List.mem_map_of_mem ha, ?_, ?_⟩
    · rw [(assignment a ha).1.id, (attempt t ht).assignment, hid]
    · intro haccepted
      exact (assignment a ha).1.status.mpr (hconsumed ((attempt t ht).status.mp haccepted))
  · intro d hd
    obtain ⟨a, t, r, hbacked⟩ := h.backed d hd
    -- what a decision rests on is consumed and accepted, so it stays as it is
    have ha := (assignment a hbacked.assignment).1.same hbacked.consumed
    have ht := (attempt t hbacked.attempt).same hbacked.accepted
    exact ⟨a, t, r, { hbacked with
      assignment := List.mem_map.mpr ⟨a, hbacked.assignment, ha⟩
      attempt := List.mem_map.mpr ⟨t, hbacked.attempt, ht⟩ }⟩

theorem chained_openSession (h : e.Chained) {sessionId : OpaqueId} {headSeq : Nat}
    (empty : e.pointers = []) (head : headSeq ≠ 0) :
    Chained { e with headSeq, pointers := [(sessionId, PerRole.const none)] } := by
  have hnone : e.decisions = [] := by
    rw [List.eq_nil_iff_forall_not_mem]
    intro d hd
    obtain ⟨p, hp, -⟩ := h.chains d hd
    simp [empty] at hp
  refine { h with
    opened := fun _ => head, sessions := by simp, backed := by simp [hnone],
    pointed := by simp, active := by simp [hnone], chains := by simp [hnone] }

/-! ### A decision -/

section Accept

variable {a consumed : RunAssignment} {t : AgentAttempt} {r : ObservationReceipt}
  {existing : Option DependencyCertificate} {certificate d : DependencyCertificate}
  {pointer : OpaqueId × PerRole (Option OpaqueId)}

/-- The decisions afterwards are the new one, those it leaves alone, and the
one that it supersedes. -/
theorem mem_accept_decisions (hfound : ∀ x ∈ existing, x ∈ e.decisions) :
    d ∈ (e.accept a t existing certificate pointer consumed).decisions ↔
      d = certificate ∨
        (d ∈ e.decisions ∧ ∀ x ∈ existing, d.certificateId ≠ x.certificateId) ∨
        ∃ x ∈ existing, d = supersede certificate x := by
  cases existing with
  | none => simp [accept, or_comm]
  | some x =>
    have hx : x ∈ e.decisions := hfound x rfl
    simp only [accept, Option.elim_some, List.mem_append, List.mem_singleton, mem_modifyWhere,
      Option.mem_def, Option.some.injEq, forall_eq', exists_eq_left', decide_eq_true_eq,
      decide_eq_false_iff_not]
    constructor
    · rintro ((⟨c, hc, hid, rfl⟩ | hd) | rfl)
      · exact .inr (.inr rfl)
      · exact .inr (.inl hd)
      · exact .inl rfl
    · rintro (rfl | hd | rfl)
      · exact .inr rfl
      · exact .inl (.inr hd)
      · exact .inl (.inl ⟨x, hx, rfl, rfl⟩)

theorem Replaces.found_mem (hreplaces : e.Replaces certificate pointer existing) :
    ∀ x ∈ existing, x ∈ e.decisions :=
  fun x hx => (single?_mem (hreplaces.found x hx)).1

/-- The pointers afterwards are those of the other sessions and the changed one. -/
theorem mem_accept_pointers (hreplaces : e.Replaces certificate pointer existing)
    {p : OpaqueId × PerRole (Option OpaqueId)} :
    p ∈ (e.accept a t existing certificate pointer consumed).pointers ↔
      p = (certificate.sessionId,
          pointer.2.set certificate.role (some certificate.certificateId)) ∨
        (p ∈ e.pointers ∧ p.1 ≠ certificate.sessionId) := by
  obtain ⟨hmem, hid⟩ := single?_mem hreplaces.session
  simp only [decide_eq_true_eq] at hid
  simp only [accept, mem_modifyWhere, decide_eq_true_eq, decide_eq_false_iff_not, hid]
  constructor
  · rintro (⟨q, -, -, rfl⟩ | hp)
    · exact .inl rfl
    · exact .inr hp
  · rintro (rfl | hp)
    · exact .inl ⟨pointer, hmem, hid, rfl⟩
    · exact .inr hp

/-- A pointer of another session, or one of another role, is as it was. -/
theorem accept_pointed (hreplaces : e.Replaces certificate pointer existing)
    {p : OpaqueId × PerRole (Option OpaqueId)} {role : Role} (hp : p ∈ e.pointers)
    (hother : p.1 ≠ certificate.sessionId ∨ role ≠ certificate.role) :
    ∃ q ∈ (e.accept a t existing certificate pointer consumed).pointers, q.1 = p.1 ∧
      q.2.get role = p.2.get role := by
  by_cases hsession : p.1 = certificate.sessionId
  · have hrole : role ≠ certificate.role := hother.resolve_left fun hne => hne hsession
    have hsame : p = pointer := single?_unique hreplaces.session hp (by simp [hsession])
    refine ⟨_, (mem_accept_pointers hreplaces).mpr (.inl rfl), hsession.symm, ?_⟩
    rw [hsame]
    exact PerRole.get_set_ne hrole
  · exact ⟨p, (mem_accept_pointers hreplaces).mpr (.inr ⟨hp, hsession⟩), rfl, rfl⟩

/-- The active decision of the session's role is the one that is superseded. -/
theorem superseded_of_active (h : e.Chained) (hreplaces : e.Replaces certificate pointer existing)
    (hd : d ∈ e.decisions) (hactive : d.status = .ACTIVE)
    (hsession : d.sessionId = certificate.sessionId) (hrole : d.role = certificate.role) :
    ∃ x ∈ existing, x.certificateId = d.certificateId := by
  obtain ⟨hmem, hid⟩ := single?_mem hreplaces.session
  simp only [decide_eq_true_eq] at hid
  have hpointer := h.active d hd hactive pointer hmem (hid.trans hsession.symm)
  rw [hrole, ← hreplaces.pointed] at hpointer
  simpa using hpointer

/-- A decision that was superseded stays, and is followed as before. -/
theorem follows_accept (h : e.Chained) (hreplaces : e.Replaces certificate pointer existing)
    {x y : OpaqueId} (hfollows : e.Follows x y) :
    (e.accept a t existing certificate pointer consumed).Follows x y := by
  obtain ⟨d, hd, hid, hstatus, hnext⟩ := hfollows
  refine ⟨d, (mem_accept_decisions hreplaces.found_mem).mpr (.inr (.inl ⟨hd, ?_⟩)), hid,
    hstatus, hnext⟩
  intro z hz heq
  have hsame := h.decision_unique hd (hreplaces.found_mem z hz) heq
  have hactive := (hreplaces.active z hz).1
  rw [← hsame, hstatus] at hactive
  cases hactive

theorem accept_chains (h : e.Chained) (hreplaces : e.Replaces certificate pointer existing)
    (hd : d ∈ e.decisions) :
    ∃ p ∈ (e.accept a t existing certificate pointer consumed).pointers, p.1 = d.sessionId ∧
      ∃ id ∈ p.2.get d.role,
        (e.accept a t existing certificate pointer consumed).Leads d.certificateId id := by
  obtain ⟨p, hp, hsession, id, hpointed, hleads⟩ := h.chains d hd
  have hkept : (e.accept a t existing certificate pointer consumed).Leads d.certificateId id :=
    ReflTransGen.mono (fun _ _ => follows_accept h hreplaces) _ _ hleads
  by_cases hplace : p.1 = certificate.sessionId ∧ d.role = certificate.role
  · obtain ⟨hsession', hrole⟩ := hplace
    have hsame : p = pointer := single?_unique hreplaces.session hp (by simp [hsession'])
    rw [hsame, hrole, ← hreplaces.pointed] at hpointed
    obtain ⟨x, hx, hxid⟩ := Option.mem_map.mp hpointed
    -- the chain ended at the decision that is now superseded: it gets one step longer
    have hlast : (e.accept a t existing certificate pointer consumed).Follows id
        certificate.certificateId :=
      ⟨supersede certificate x,
        (mem_accept_decisions hreplaces.found_mem).mpr (.inr (.inr ⟨x, hx, rfl⟩)), hxid, rfl, rfl⟩
    refine ⟨_, (mem_accept_pointers hreplaces).mpr (.inl rfl), hsession'.symm.trans hsession,
      certificate.certificateId, ?_, hkept.tail hlast⟩
    simp [hrole]
  · obtain ⟨q, hq, hqp, hget⟩ := accept_pointed hreplaces hp (not_and_or.mp hplace)
    exact ⟨q, hq, hqp.trans hsession, id, hget ▸ hpointed, hkept⟩

theorem accept_backed (h : e.Chained) (hready : e.Ready a t r certificate.runId)
    (hd : d ∈ e.decisions) :
    ∃ b u o, (e.accept a t existing certificate pointer consumed).Backed d b u o := by
  obtain ⟨b, u, o, hbacked⟩ := h.backed d hd
  obtain ⟨ha, -⟩ := single?_mem hready.assignment
  obtain ⟨ht, -⟩ := single?_mem hready.attempt
  refine ⟨b, u, o, { hbacked with
    assignment := mem_modifyWhere.mpr (.inr ⟨hbacked.assignment, ?_⟩)
    attempt := mem_modifyWhere.mpr (.inr ⟨hbacked.attempt, ?_⟩) }⟩
  · simp only [decide_eq_false_iff_not]
    intro hid
    have hsame := h.assignment_unique hbacked.assignment ha hid
    exact hready.unconsumed (hsame ▸ hbacked.consumed)
  · simp only [decide_eq_false_iff_not]
    intro hid
    have hsame : u = t := single?_unique hready.attempt hbacked.attempt (by simp [hid])
    exact hready.unconsumed
      (h.consumed_of_accepted ha ht hready.owner (hsame ▸ hbacked.accepted))

theorem Backed.congr {d' : DependencyCertificate} {b : RunAssignment} {u : AgentAttempt}
    {o : ObservationReceipt} (hbacked : e.Backed d b u o) (hid : d'.certificateId = d.certificateId)
    (hassignment : d'.runAssignmentId = d.runAssignmentId) (hrun : d'.runId = d.runId)
    (hrole : d'.role = d.role) (hreceipt : d'.receiptId = d.receiptId) : e.Backed d' b u o where
  assignment := hbacked.assignment
  assignmentId := hassignment ▸ hbacked.assignmentId
  consumed := hbacked.consumed
  consumedBy := hid ▸ hbacked.consumedBy
  bound := hrun ▸ hbacked.bound
  role := hrole ▸ hbacked.role
  attempt := hbacked.attempt
  attemptOf := hbacked.attemptOf
  accepted := hbacked.accepted
  sameRun := hrun ▸ hbacked.sameRun
  output := hbacked.output
  receipt := hbacked.receipt
  receiptId := hreceipt ▸ hbacked.receiptId
  receiptOwner := hbacked.receiptOwner

theorem accept_backed_new (hready : e.Ready a t r certificate.runId)
    (assignment : certificate.runAssignmentId = a.assignmentId)
    (receipt : certificate.receiptId = r.receiptId)
    (kept : Consumes a consumed) (role : certificate.role = a.role)
    (status : consumed.status = .CONSUMED ∧
      consumed.consumedByDecisionCertificateId = some certificate.certificateId) :
    (e.accept a t existing certificate pointer consumed).Backed certificate consumed
      { t with status := .ACCEPTED } r where
  assignment := mem_modifyWhere.mpr
    (.inl ⟨a, (single?_mem hready.assignment).1, by simp, rfl⟩)
  assignmentId := kept.id.trans assignment.symm
  consumed := status.1
  consumedBy := status.2
  bound := kept.run.trans hready.bound
  role := kept.role.trans role.symm
  attempt := mem_modifyWhere.mpr (.inl ⟨t, (single?_mem hready.attempt).1, by simp, rfl⟩)
  attemptOf := hready.owner.trans kept.id.symm
  accepted := rfl
  sameRun := hready.sameRun
  output := hready.output
  receipt := hready.receipt
  receiptId := receipt.symm
  receiptOwner := hready.receiptOwner.trans kept.id.symm

theorem chained_accept (h : e.Chained) (hready : e.Ready a t r certificate.runId)
    (hreplaces : e.Replaces certificate pointer existing)
    (assignment : certificate.runAssignmentId = a.assignmentId)
    (receipt : certificate.receiptId = r.receiptId)
    (kept : Consumes a consumed) (role : certificate.role = a.role)
    (status : consumed.status = .CONSUMED ∧
      consumed.consumedByDecisionCertificateId = some certificate.certificateId) :
    (e.accept a t existing certificate pointer consumed).Chained := by
  obtain ⟨ha, -⟩ := single?_mem hready.assignment
  obtain ⟨hpointer, hpid⟩ := single?_mem hreplaces.session
  simp only [decide_eq_true_eq] at hpid
  have hnew : certificate ∈ (e.accept a t existing certificate pointer consumed).decisions :=
    (mem_accept_decisions hreplaces.found_mem).mpr (.inl rfl)
  have hids : (e.accept a t existing certificate pointer consumed).assignments.map
      RunAssignment.assignmentId = e.assignments.map RunAssignment.assignmentId := by
    refine map_modifyWhere fun b hb hid => ?_
    simp only [decide_eq_true_eq] at hid
    rw [kept.id, hid]
  constructor
  case opened =>
    intro hne
    exact h.opened (List.ne_nil_of_mem hpointer)
  case sessions =>
    have hkept : (e.accept a t existing certificate pointer consumed).pointers.map Prod.fst =
        e.pointers.map Prod.fst := by
      refine map_modifyWhere fun p hp hid => ?_
      simp only [decide_eq_true_eq] at hid
      rw [hpid, hid]
    exact hkept ▸ h.sessions
  case assignments => exact hids ▸ h.assignments
  case consumed =>
    intro b hb
    rcases mem_modifyWhere.mp hb with ⟨-, -, -, rfl⟩ | ⟨hb, -⟩
    · simp [status]
    · exact h.consumed b hb
  case boundOnce =>
    -- the consumed assignment keeps its identifier and its Run
    have hold : ∀ b ∈ (e.accept a t existing certificate pointer consumed).assignments,
        ∃ c ∈ e.assignments, c.assignmentId = b.assignmentId ∧ c.boundRunId = b.boundRunId := by
      intro b hb
      rcases mem_modifyWhere.mp hb with ⟨-, -, -, rfl⟩ | ⟨hb, -⟩
      · exact ⟨a, ha, kept.id.symm, kept.run.symm⟩
      · exact ⟨b, hb, rfl, rfl⟩
    intro b hb b' hb' hbound heq
    obtain ⟨c, hc, hcid, hcrun⟩ := hold b hb
    obtain ⟨c', hc', hcid', hcrun'⟩ := hold b' hb'
    rw [← hcid, ← hcid']
    exact h.boundOnce c hc c' hc' (hcrun ▸ hbound) (by rw [hcrun, hcrun', heq])
  case attempts =>
    have hkept : (e.accept a t existing certificate pointer consumed).attempts.map
        AgentAttempt.assignmentId = e.attempts.map AgentAttempt.assignmentId := by
      refine map_modifyWhere fun u hu hid => ?_
      rw [single?_unique hready.attempt hu hid]
    exact hkept ▸ h.attempts
  case attemptOf =>
    intro u hu
    rcases mem_modifyWhere.mp hu with ⟨-, -, -, rfl⟩ | ⟨hu, -⟩
    · exact ⟨consumed, mem_modifyWhere.mpr (.inl ⟨a, ha, by simp, rfl⟩),
        kept.id.trans hready.owner.symm, fun _ => status.1⟩
    · obtain ⟨b, hb, hid, hconsumed⟩ := h.attemptOf u hu
      by_cases hsame : b.assignmentId = a.assignmentId
      · exact ⟨consumed, mem_modifyWhere.mpr (.inl ⟨a, ha, by simp, rfl⟩),
          kept.id.trans (hsame.symm.trans hid), fun _ => status.1⟩
      · exact ⟨b, mem_modifyWhere.mpr (.inr ⟨hb, by simp [hsame]⟩), hid, hconsumed⟩
  case receipts => exact h.receipts
  case receiptOwners => exact h.receiptOwners
  case nonces => exact h.nonces
  case decisions =>
    have hkept : ((e.accept a t existing certificate pointer consumed).decisions.map
        DependencyCertificate.certificateId) =
          e.decisions.map DependencyCertificate.certificateId ++ [certificate.certificateId] := by
      cases existing with
      | none => simp [accept]
      | some x =>
        simp only [accept, Option.elim_some, List.map_append, List.map_cons, List.map_nil]
        congr 1
        refine map_modifyWhere fun d hd hid => ?_
        simpa [supersede, eq_comm] using hid
    rw [hkept, List.nodup_append]
    refine ⟨h.decisions, by simp, ?_⟩
    simpa using hreplaces.fresh
  case lasts =>
    intro d hd hactive
    rcases (mem_accept_decisions hreplaces.found_mem).mp hd with rfl | ⟨hd, -⟩ | ⟨x, -, rfl⟩
    · exact hreplaces.status.2
    · exact h.lasts d hd hactive
    · cases hactive
  case backed =>
    intro d hd
    rcases (mem_accept_decisions hreplaces.found_mem).mp hd with rfl | ⟨hd, -⟩ | ⟨x, hx, rfl⟩
    · exact ⟨_, _, _, accept_backed_new hready assignment receipt kept role status⟩
    · exact accept_backed h hready hd
    · obtain ⟨b, u, o, hbacked⟩ := accept_backed h hready (hreplaces.found_mem x hx)
      exact ⟨b, u, o, hbacked.congr rfl rfl rfl rfl rfl⟩
  case pointed =>
    intro p hp role id hid
    rcases (mem_accept_pointers hreplaces).mp hp with rfl | ⟨hp, hne⟩
    · by_cases hrole : role = certificate.role
      · subst hrole
        simp only [PerRole.get_set_self, Option.mem_def, Option.some.injEq] at hid
        exact ⟨certificate, hnew, hid, rfl, rfl, hreplaces.status.1⟩
      · rw [PerRole.get_set_ne hrole] at hid
        obtain ⟨d, hd, hdid, hsession, hdrole, hactive⟩ := h.pointed pointer hpointer role id hid
        refine ⟨d, (mem_accept_decisions hreplaces.found_mem).mpr (.inr (.inl ⟨hd, ?_⟩)), hdid,
          hsession.trans hpid, hdrole, hactive⟩
        intro x hx heq
        rw [h.decision_unique hd (hreplaces.found_mem x hx) heq] at hdrole
        exact hrole (hdrole.symm.trans (hreplaces.active x hx).2.2)
    · obtain ⟨d, hd, hdid, hsession, hdrole, hactive⟩ := h.pointed p hp role id hid
      refine ⟨d, (mem_accept_decisions hreplaces.found_mem).mpr (.inr (.inl ⟨hd, ?_⟩)), hdid,
        hsession, hdrole, hactive⟩
      intro x hx heq
      rw [h.decision_unique hd (hreplaces.found_mem x hx) heq] at hsession
      exact hne (hsession.symm.trans (hreplaces.active x hx).2.1)
  case active =>
    intro d hd hactive p hp hsession
    rcases (mem_accept_decisions hreplaces.found_mem).mp hd with rfl | ⟨hd, hother⟩ | ⟨x, -, rfl⟩
    · rcases (mem_accept_pointers hreplaces).mp hp with rfl | ⟨-, hne⟩
      · exact PerRole.get_set_self _ _ _
      · exact absurd hsession hne
    · rcases (mem_accept_pointers hreplaces).mp hp with rfl | ⟨hp, -⟩
      · have hrole : d.role ≠ certificate.role := by
          intro hrole
          obtain ⟨x, hx, hid⟩ := superseded_of_active h hreplaces hd hactive hsession.symm hrole
          exact hother x hx hid.symm
        show (pointer.2.set certificate.role _).get d.role = _
        rw [PerRole.get_set_ne hrole]
        exact h.active d hd hactive pointer hpointer (hpid.trans hsession)
      · exact h.active d hd hactive p hp hsession
    · cases hactive
  case chains =>
    intro d hd
    rcases (mem_accept_decisions hreplaces.found_mem).mp hd with rfl | ⟨hd, -⟩ | ⟨x, hx, rfl⟩
    · exact ⟨_, (mem_accept_pointers hreplaces).mpr (.inl rfl), rfl, _,
        PerRole.get_set_self _ _ _, ReflTransGen.refl⟩
    · exact accept_chains h hreplaces hd
    · exact accept_chains (d := x) h hreplaces (hreplaces.found_mem x hx)

end Accept

/-! ### Plans, permits and effects -/

section Gating

theorem Chained.congr {e' : Evidence} (h : e.Chained) (headSeq : e'.headSeq = e.headSeq)
    (assignments : e'.assignments = e.assignments) (attempts : e'.attempts = e.attempts)
    (receipts : e'.receipts = e.receipts) (decisions : e'.decisions = e.decisions)
    (pointers : e'.pointers = e.pointers) : e'.Chained := by
  cases e
  cases e'
  subst headSeq assignments attempts receipts decisions pointers
  exact { h with
    backed := fun d hd => by
      obtain ⟨a, t, r, hbacked⟩ := h.backed d hd
      exact ⟨a, t, r, { hbacked with }⟩
    active := h.active
    chains := h.chains }

theorem Gated.congr {e' : Evidence} (h : e.Gated) (assignments : e'.assignments = e.assignments)
    (plans : e'.plans = e.plans) (permits : e'.permits = e.permits)
    (effects : e'.effects = e.effects) (pointers : e'.pointers = e.pointers) : e'.Gated := by
  cases e
  cases e'
  subst assignments plans permits effects pointers
  exact { h with permitted := h.permitted }

/-- A ledger with a permit has a session. -/
theorem Gated.pointers_of_permits (h : e.Gated) (hne : e.permits ≠ []) : e.pointers ≠ [] :=
  fun hnone => hne (h.unopened hnone).2.2

theorem Gated.effects_of_permits (h : e.Gated) (hnone : e.permits = []) : e.effects = [] := by
  rw [List.eq_nil_iff_forall_not_mem]
  intro x hx
  obtain ⟨p, hp, -⟩ := h.released x hx
  simp [hnone] at hp

theorem gated_assign (h : e.Gated) {a : RunAssignment} {t : AgentAttempt}
    (opened : e.pointers ≠ []) (first : e.plans = [] ∧ e.permits = [])
    (role : ∀ b ∈ e.assignments, b.role ≠ a.role) :
    Gated { e with assignments := e.assignments ++ [a], attempts := e.attempts ++ [t] } := by
  have hroles : ∀ b ∈ e.assignments ++ [a], ∀ c ∈ e.assignments ++ [a], b.role = c.role →
      b.assignmentId = c.assignmentId := by
    intro b hb c hc hrole
    rcases List.mem_append.mp hb with hold | hnew <;>
      rcases List.mem_append.mp hc with hold' | hnew'
    · exact h.initial first.1 b hold c hold' hrole
    · rw [List.mem_singleton.mp hnew'] at hrole
      exact absurd hrole (role b hold)
    · rw [List.mem_singleton.mp hnew] at hrole
      exact absurd hrole.symm (role c hold')
    · rw [List.mem_singleton.mp hnew, List.mem_singleton.mp hnew']
  exact { h with
    unopened := fun hnone => absurd hnone opened
    unusedOnce := fun b hb c hc _ _ => hroles b hb c hc
    initial := fun _ => hroles
    refreshed := fun hplans => absurd first.1 hplans
    permitted := fun hpermits => absurd first.2 hpermits }

theorem gated_claim (h : e.Gated) {a : RunAssignment} {t : AgentAttempt}
    {plan claimed : RefreshPlan} (role : a.role = .budget)
    (available : e.plans = [plan] ∧ plan.status = .AVAILABLE)
    (claims : claimed.sessionId = plan.sessionId ∧ claimed.status = .CLAIMED) :
    Gated { e with
      assignments := e.assignments ++ [a], attempts := e.attempts ++ [t], plans := [claimed] } := by
  have hmem : plan ∈ e.plans := by simp [available.1]
  -- a plan is available only while no observation is under way
  have hidle : e.Idle := by
    intro b hb hunused
    exact (h.refreshed (List.ne_nil_of_mem hmem) b hb hunused).2 plan hmem available.2
  have honly : ∀ b ∈ e.assignments ++ [a], Unused b → b = a := by
    intro b hb hunused
    rcases List.mem_append.mp hb with hb | hb
    · exact absurd hunused (hidle b hb)
    · exact List.mem_singleton.mp hb
  have hpermits : e.permits = [] := by
    by_contra hne
    exact (h.permitted hne).2 plan hmem available.2
  obtain ⟨q, hq, hof⟩ := h.planned plan hmem
  refine { h with
    unopened := fun hnone => absurd hnone (List.ne_nil_of_mem hq), planned := ?_,
    unusedOnce := ?_, initial := by simp, refreshed := ?_,
    permitted := fun hne => absurd hpermits hne }
  · intro p hp
    obtain rfl := List.mem_singleton.mp hp
    exact ⟨q, hq, hof.trans claims.1.symm⟩
  · intro b hb c hc hb' hc' _
    rw [honly b hb hb', honly c hc hc']
  · intro _ b hb hb'
    rw [honly b hb hb']
    refine ⟨role, ?_⟩
    intro p hp
    obtain rfl := List.mem_singleton.mp hp
    simp [claims.2]

/-- Records that change in place under their identifiers and roles, and are
unused only where they were. -/
theorem gated_replace (h : e.Gated) {assignments : List RunAssignment}
    {attempts : List AgentAttempt} {decisions : List DependencyCertificate}
    {pointers : List (OpaqueId × PerRole (Option OpaqueId))}
    (replaced : ∀ b ∈ assignments, ∃ a ∈ e.assignments,
      b.assignmentId = a.assignmentId ∧ b.role = a.role ∧ (Unused b → Unused a))
    (sessions : pointers.map Prod.fst = e.pointers.map Prod.fst) :
    Gated { e with assignments, attempts, decisions, pointers } := by
  have hnone : pointers = [] → e.pointers = [] := by
    intro hnil
    simpa [hnil] using sessions.symm
  -- no assignment becomes unused by the change
  have hidle : e.Idle → ∀ b ∈ assignments, ¬Unused b := by
    intro hidle b hb hunused
    obtain ⟨a, ha, -, -, hwas⟩ := replaced b hb
    exact hidle a ha (hwas hunused)
  refine { h with
    unopened := ?_, alone := ?_, planned := ?_, unusedOnce := ?_, initial := ?_, refreshed := ?_,
    permitted := ?_ }
  · intro hnil
    obtain ⟨hassignments, hplans, hpermits⟩ := h.unopened (hnone hnil)
    refine ⟨?_, hplans, hpermits⟩
    rw [List.eq_nil_iff_forall_not_mem]
    intro b hb
    obtain ⟨a, ha, -⟩ := replaced b hb
    simp [hassignments] at ha
  · have hlength := congrArg List.length sessions
    simp only [List.length_map] at hlength
    exact hlength ▸ h.alone
  · intro p hp
    obtain ⟨q, hq, hof⟩ := h.planned p hp
    have hmem : q.1 ∈ pointers.map Prod.fst := sessions ▸ List.mem_map_of_mem hq
    obtain ⟨q', hq', hid⟩ := List.mem_map.mp hmem
    exact ⟨q', hq', hid.trans hof⟩
  · intro b hb c hc hb' hc' hrole
    obtain ⟨a, ha, hid, harole, hwas⟩ := replaced b hb
    obtain ⟨a', ha', hid', harole', hwas'⟩ := replaced c hc
    rw [hid, hid']
    exact h.unusedOnce a ha a' ha' (hwas hb') (hwas' hc') (by rw [← harole, hrole, harole'])
  · intro hplans b hb c hc hrole
    obtain ⟨a, ha, hid, harole, -⟩ := replaced b hb
    obtain ⟨a', ha', hid', harole', -⟩ := replaced c hc
    rw [hid, hid']
    exact h.initial hplans a ha a' ha' (by rw [← harole, hrole, harole'])
  · intro hplans b hb hunused
    obtain ⟨a, ha, -, harole, hwas⟩ := replaced b hb
    rw [harole]
    exact h.refreshed hplans a ha (hwas hunused)
  · intro hpermits
    exact ⟨hidle (h.permitted hpermits).1, (h.permitted hpermits).2⟩

theorem gated_settle (h : e.Gated) {plans : List RefreshPlan}
    (same : plans.length = e.plans.length) (kept : ∀ q ∈ plans, ∃ p ∈ e.plans, PlanKept p q) :
    Gated { e with plans } := by
  have hnil : plans = [] ↔ e.plans = [] := by
    rw [← List.length_eq_zero_iff, ← List.length_eq_zero_iff, same]
  -- a plan that is available afterwards was so before
  have havailable : (∀ p ∈ e.plans, p.status ≠ .AVAILABLE) →
      ∀ q ∈ plans, q.status ≠ .AVAILABLE := by
    intro hnot q hq
    obtain ⟨p, hp, -, hsame | ⟨hclaimed, -⟩ | hcompleted | hinvalidated⟩ := kept q hq
    · exact hsame ▸ hnot p hp
    · simp [hclaimed]
    · simp [hcompleted]
    · simp [hinvalidated]
  refine { h with
    unopened := ?_, planned := ?_, initial := ?_, refreshed := ?_, permitted := ?_ }
  · intro hnone
    obtain ⟨hassignments, hplans, hpermits⟩ := h.unopened hnone
    exact ⟨hassignments, hnil.mpr hplans, hpermits⟩
  · intro q hq
    obtain ⟨p, hp, hof, -⟩ := kept q hq
    rw [hof]
    exact h.planned p hp
  · intro hplans
    exact h.initial (hnil.mp hplans)
  · intro hplans a ha hunused
    obtain ⟨hrole, hnot⟩ := h.refreshed (fun hold => hplans (hnil.mpr hold)) a ha hunused
    exact ⟨hrole, havailable hnot⟩
  · intro hpermits
    exact ⟨(h.permitted hpermits).1, havailable (h.permitted hpermits).2⟩

theorem gated_plan (h : e.Gated) {plan : RefreshPlan} (idle : e.Idle)
    (unpermitted : e.permits = []) (session : ∃ p ∈ e.pointers, p.1 = plan.sessionId) :
    Gated { e with plans := e.plans ++ [plan] } := by
  obtain ⟨q, hq, hof⟩ := session
  refine { h with
    unopened := fun hnone => absurd hnone (List.ne_nil_of_mem hq), planned := ?_,
    initial := by simp, refreshed := fun _ a ha hunused => absurd hunused (idle a ha),
    permitted := fun hne => absurd unpermitted hne }
  intro p hp
  rcases List.mem_append.mp hp with hp | hp
  · exact h.planned p hp
  · obtain rfl := List.mem_singleton.mp hp
    exact ⟨q, hq, hof⟩

theorem gated_permit (h : e.Gated) {permit : EffectPermit} (idle : e.Idle)
    (first : e.permits = []) (settled : ∀ p ∈ e.plans, p.status ≠ .AVAILABLE)
    (issued : permit.status = .ISSUED) (opened : e.pointers ≠ []) :
    Gated { e with permits := e.permits ++ [permit] } := by
  have heffects := h.effects_of_permits first
  refine { h with
    unopened := fun hnone => absurd hnone opened, permitted := fun _ => ⟨idle, settled⟩,
    permits := by simp [first], released := by simp [heffects], consumedPermits := ?_ }
  intro p hp
  obtain rfl : p = permit := by simpa [first] using hp
  simp [issued, heffects]

theorem gated_revoke (h : e.Gated) {permits : List EffectPermit}
    (same : permits.map EffectPermit.permitId = e.permits.map EffectPermit.permitId)
    (kept : ∀ q ∈ permits, ∃ p ∈ e.permits, PermitKept p q) : Gated { e with permits } := by
  have hnil : permits = [] ↔ e.permits = [] := by
    have hlength := congrArg List.length same
    simp only [List.length_map] at hlength
    rw [← List.length_eq_zero_iff, ← List.length_eq_zero_iff, hlength]
  refine { h with
    unopened := ?_, permitted := ?_, permits := same ▸ h.permits, released := ?_,
    consumedPermits := ?_ }
  · intro hnone
    obtain ⟨hassignments, hplans, hpermits⟩ := h.unopened hnone
    exact ⟨hassignments, hplans, hnil.mpr hpermits⟩
  · intro hne
    exact h.permitted fun hold => hne (hnil.mpr hold)
  · intro x hx
    obtain ⟨p, hp, hid⟩ := h.released x hx
    have hmem : p.permitId ∈ permits.map EffectPermit.permitId := same ▸ List.mem_map_of_mem hp
    obtain ⟨q, hq, hqid⟩ := List.mem_map.mp hmem
    exact ⟨q, hq, hqid.trans hid⟩
  · intro q hq
    obtain ⟨p, hp, hid, hstatus⟩ := kept q hq
    rw [hstatus, hid]
    exact h.consumedPermits p hp

theorem gated_release (h : e.Gated) {permit : EffectPermit} {effect : EffectRecord}
    (found : single? e.permits (fun p => p.permitId = effect.permitId) = some permit)
    (issued : permit.status = .ISSUED)
    (first : ∀ x ∈ e.effects, x.sessionId ≠ effect.sessionId) : (e.release effect).Gated := by
  obtain ⟨hpermit, hid⟩ := single?_mem found
  simp only [decide_eq_true_eq] at hid
  have hpermits : e.permits ≠ [] := List.ne_nil_of_mem hpermit
  have hids : (e.release effect).permits.map EffectPermit.permitId =
      e.permits.map EffectPermit.permitId := map_modifyWhere fun _ _ _ => rfl
  -- no effect names a permit that is still issued
  have hunnamed : ∀ x ∈ e.effects, x.permitId ≠ effect.permitId := by
    intro x hx hsame
    have hconsumed := (h.consumedPermits permit hpermit).mpr ⟨x, hx, hsame.trans hid.symm⟩
    rw [issued] at hconsumed
    cases hconsumed
  constructor
  case unopened => exact fun hnone => absurd hnone (h.pointers_of_permits hpermits)
  case alone => exact h.alone
  case planned => exact h.planned
  case unusedOnce => exact h.unusedOnce
  case initial => exact h.initial
  case refreshed => exact h.refreshed
  case permitted => exact fun _ => h.permitted hpermits
  case permits => exact hids ▸ h.permits
  case released =>
    intro x hx
    have hold : ∃ p ∈ e.permits, p.permitId = x.permitId := by
      rcases List.mem_append.mp hx with hx | hx
      · exact h.released x hx
      · obtain rfl := List.mem_singleton.mp hx
        exact ⟨permit, hpermit, hid⟩
    obtain ⟨p, hp, hpid⟩ := hold
    have hmem : p.permitId ∈ (e.release effect).permits.map EffectPermit.permitId :=
      hids ▸ List.mem_map_of_mem hp
    obtain ⟨q, hq, hqid⟩ := List.mem_map.mp hmem
    exact ⟨q, hq, hqid.trans hpid⟩
  case consumedPermits =>
    intro q hq
    rcases mem_modifyWhere.mp hq with ⟨p, hp, hmatch, rfl⟩ | ⟨hq, hmatch⟩
    · simp only [decide_eq_true_eq] at hmatch
      simp only [true_iff]
      exact ⟨effect, by simp [release], hmatch.symm⟩
    · simp only [decide_eq_false_iff_not] at hmatch
      rw [h.consumedPermits q hq]
      simp only [release, List.mem_append, List.mem_singleton]
      constructor
      · intro ⟨x, hx, hname⟩
        exact ⟨x, .inl hx, hname⟩
      · rintro ⟨x, hx | rfl, hname⟩
        · exact ⟨x, hx, hname⟩
        · exact absurd hname.symm hmatch
  case effects =>
    simp only [release, List.map_append, List.map_cons, List.map_nil, List.nodup_append]
    refine ⟨h.effects, by simp, ?_⟩
    simpa using hunnamed
  case releasedOnce =>
    simp only [release, List.map_append, List.map_cons, List.map_nil, List.nodup_append]
    refine ⟨h.releasedOnce, by simp, ?_⟩
    simpa using first

theorem gated_openSession (h : e.Gated) {sessionId : OpaqueId} {headSeq : Nat}
    (empty : e.pointers = []) :
    Gated { e with headSeq, pointers := [(sessionId, PerRole.const none)] } := by
  obtain ⟨-, hplans, -⟩ := h.unopened empty
  exact { h with
    unopened := by simp, alone := by simp, planned := by simp [hplans], permitted := h.permitted }

end Gating

/-! ## Runs -/

theorem inv_step {e' : Evidence} (h : e.Inv) (hstep : e.Step e') : e'.Inv := by
  have hchained := h.toChained
  have hgated := h.toGated
  cases hstep with
  | assign fresh opened first role =>
    exact ⟨chained_append hchained fresh, gated_assign hgated opened first role⟩
  | claim fresh role available claims =>
    exact ⟨(chained_append hchained fresh).congr rfl rfl rfl rfl rfl rfl,
      gated_claim hgated role available claims⟩
  | observe fresh =>
    exact ⟨chained_observe hchained fresh, hgated.congr rfl rfl rfl rfl rfl⟩
  | @update f g assignment attempt =>
    refine ⟨chained_update hchained assignment attempt, gated_replace hgated ?_ rfl⟩
    intro b hb
    obtain ⟨a, ha, rfl⟩ := List.mem_map.mp hb
    have hkept := (assignment a ha).1
    exact ⟨a, ha, hkept.id, hkept.role, hkept.unused⟩
  | @accept a t r existing certificate pointer consumed ready replaces assignment receipt kept role
      status =>
    refine ⟨chained_accept hchained ready replaces assignment receipt kept role status,
      gated_replace hgated ?_ ?_⟩
    · intro b hb
      rcases mem_modifyWhere.mp hb with ⟨-, -, -, rfl⟩ | ⟨hb, -⟩
      · refine ⟨a, (single?_mem ready.assignment).1, kept.id, kept.role, ?_⟩
        exact fun hunused => absurd status.1 hunused.not_consumed
      · exact ⟨b, hb, rfl, rfl, id⟩
    · obtain ⟨-, hid⟩ := single?_mem replaces.session
      simp only [decide_eq_true_eq] at hid
      refine map_modifyWhere fun p _ hmatch => ?_
      simp only [decide_eq_true_eq] at hmatch
      rw [hid, hmatch]
  | openSession empty head =>
    exact ⟨chained_openSession hchained empty head, gated_openSession hgated empty⟩
  | settle same kept =>
    exact ⟨hchained.congr rfl rfl rfl rfl rfl rfl, gated_settle hgated same kept⟩
  | plan idle unpermitted session =>
    exact ⟨hchained.congr rfl rfl rfl rfl rfl rfl, gated_plan hgated idle unpermitted session⟩
  | permit idle first settled issued opened =>
    exact ⟨hchained.congr rfl rfl rfl rfl rfl rfl,
      gated_permit hgated idle first settled issued opened⟩
  | revoke same kept =>
    exact ⟨hchained.congr rfl rfl rfl rfl rfl rfl, gated_revoke hgated same kept⟩
  | release found issued first =>
    exact ⟨hchained.congr rfl rfl rfl rfl rfl rfl, gated_release hgated found issued first⟩
  | advance later =>
    refine ⟨?_, hgated.congr rfl rfl rfl rfl rfl⟩
    -- the head only grows, so that what was observed before it stays so
    exact { hchained with
      opened := fun hne => Nat.pos_iff_ne_zero.mp
        (Nat.lt_of_lt_of_le (Nat.pos_of_ne_zero (hchained.opened hne)) later)
      backed := fun d hd => by
        obtain ⟨a, t, r, hbacked⟩ := hchained.backed d hd
        exact ⟨a, t, r, { hbacked with }⟩
      active := hchained.active
      chains := hchained.chains }
  | reset => exact inv_empty

/-- Steps, one after another. -/
def Steps : Evidence → Evidence → Prop := ReflTransGen Step

theorem inv_steps {e' : Evidence} (h : e.Inv) (hsteps : e.Steps e') : e'.Inv := by
  induction hsteps with
  | refl => exact h
  | tail _ hstep ih => exact inv_step ih hstep

end

end Evidence

end EpochGuard
