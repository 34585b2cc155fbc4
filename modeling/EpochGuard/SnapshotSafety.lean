import EpochGuard.Fixtures
import EpochGuard.SnapshotDecoder

/-!
# What an accepted snapshot means

The rules of the snapshot contract are about pairs of fields. Together they say
where the head lies in the intervals of the three receipts, that identifiers
are not shared, and that an effect is shown of a committed session only.
-/

namespace EpochGuard

namespace SnapshotContract

open Json

/-! ## Intervals, agents and identifiers -/

/-- The receipt is valid at a number: an open end is unbounded. -/
def ReceiptView.HoldsAt (receipt : ReceiptView) (n : ℤ) : Prop :=
  (receipt.validFromSeq : ℤ) ≤ n ∧ ∀ u ∈ receipt.validUntilSeq, n < (u : ℤ)

/-- Every agent has an active decision, and these are the three. -/
def Snapshot.Decides (snapshot : Snapshot) (ds : PerRole ActiveDecisionView) : Prop :=
  ∀ role, (snapshot.agents.get role).activeDecision = some (ds.get role)

/-- The witness is the receipt of the agent. -/
def WitnessView.Names (witness : WitnessView) (agent : AgentSnapshotView)
    (receipt : ReceiptView) : Prop :=
  witness.role = agent.role ∧ witness.receiptId = receipt.receiptId ∧
    witness.from = receipt.validFromSeq ∧ witness.until = receipt.validUntilSeq

/-- Two agents that share no identifier. -/
structure AgentSnapshotView.Exclusive (a b : AgentSnapshotView) : Prop where
  certificates : a.certificateIds.Disjoint b.certificateIds
  runs : a.runIds.Disjoint b.runIds
  receipts : a.receiptIds.Disjoint b.receiptIds
  assignments : a.assignmentIds.Disjoint b.assignmentIds
  attempts : a.attemptIds.Disjoint b.attemptIds

/-- What the operator relies on in a snapshot: a permitted or released action is
one that three current receipts allow, a refusal names its reason truly, and no
identifier is shown of two Agents. -/
structure Snapshot.Sound (snapshot : Snapshot) : Prop where
  releasable : AvailableAction.COMMIT ∈ snapshot.availableActions ∨
      snapshot.gate.state = .READY ∨ snapshot.gate.state = .RELEASED →
    (∃ ds, snapshot.Decides ds ∧ ∀ role,
      (ds.get role).receipt.HoldsAt snapshot.worldHead ∧ (ds.get role).verdict = .ALLOW) ∧
      snapshot.gate.permitId ≠ none
  noCut : snapshot.jointValidity.state = .NO_CUT →
    ∃ ds, snapshot.Decides ds ∧ (¬∃ n : ℤ, ∀ role, (ds.get role).receipt.HoldsAt n) ∧
      ∃ proof earliest latest, snapshot.jointValidity.noCutProof = some proof ∧
        proof.witness.1.Names (snapshot.agents.get earliest) (ds.get earliest).receipt ∧
        proof.witness.2.Names (snapshot.agents.get latest) (ds.get latest).receipt ∧
        ¬∃ n : ℤ, (ds.get earliest).receipt.HoldsAt n ∧ (ds.get latest).receipt.HoldsAt n
  historicalStale : snapshot.jointValidity.state = .HISTORICAL_STALE →
    ∃ ds, snapshot.Decides ds ∧ (∃ n : ℤ, ∀ role, (ds.get role).receipt.HoldsAt n) ∧
      ¬∀ role, (ds.get role).receipt.HoldsAt snapshot.worldHead
  owners : snapshot.sessionState = .BLOCKED_NO_CUT ∨
      snapshot.sessionState = .HISTORICAL_STALE ∨ snapshot.sessionState = .REOBSERVING →
    ∃ plan, snapshot.refreshPlan = some plan ∧ plan.agentIds.Nodup ∧
      ∀ agentId, agentId ∈ plan.agentIds ↔
        ∃ role, (snapshot.agents.get role).agentId = agentId ∧
          ∃ d, (snapshot.agents.get role).activeDecision = some d ∧
            ¬d.receipt.HoldsAt snapshot.worldHead
  exclusive : ∀ r r', r ≠ r' →
    (snapshot.agents.get r).Exclusive (snapshot.agents.get r')
  effect : snapshot.gate.effectId ≠ none ↔ snapshot.sessionState = .COMMITTED

variable {snapshot : Snapshot} {ds : PerRole ActiveDecisionView}

theorem receiptCoversWorldHead_iff {decision : ActiveDecisionView} :
    receiptCoversWorldHead snapshot decision = true ↔
      decision.receipt.HoldsAt snapshot.worldHead := by
  simp only [receiptCoversWorldHead, ReceiptView.HoldsAt, Bool.and_eq_true, decide_eq_true_eq,
    Nat.cast_le]
  cases decision.receipt.validUntilSeq <;> simp

/-! ## The decisions -/

theorem mem_decisions {d : ActiveDecisionView} :
    d ∈ decisions snapshot ↔ ∃ role, (snapshot.agents.get role).activeDecision = some d := by
  simp only [decisions, List.mem_filterMap, PerRole.mem_toList]
  constructor
  · rintro ⟨_, ⟨role, rfl⟩, hd⟩
    exact ⟨role, hd⟩
  · rintro ⟨role, hd⟩
    exact ⟨_, ⟨role, rfl⟩, hd⟩

theorem decides_of_length (h : (decisions snapshot).length = 3) :
    ∃ ds, snapshot.Decides ds := by
  obtain ⟨i, b, p⟩ : PerRole (Option ActiveDecisionView) :=
    snapshot.agents.map AgentSnapshotView.activeDecision
  cases hi : snapshot.agents.inventory.activeDecision <;>
    cases hb : snapshot.agents.budget.activeDecision <;>
    cases hp : snapshot.agents.policy.activeDecision <;>
    simp [decisions, PerRole.toList, hi, hb, hp] at h
  rename_i di db dp
  refine ⟨⟨di, db, dp⟩, fun role => ?_⟩
  cases role
  exacts [hi, hb, hp]

theorem activeDecisions?_eq_some :
    activeDecisions? snapshot = some ds ↔ snapshot.Decides ds := by
  simp [activeDecisions?, PerRole.all?_eq_some, Snapshot.Decides]

theorem countP_allow_of_decides (hds : snapshot.Decides ds) (h : allowDecisions snapshot = 3)
    (role : Role) : (ds.get role).verdict = .ALLOW := by
  have hlist : decisions snapshot = ds.toList := by
    have hi := hds .inventory
    have hb := hds .budget
    have hp := hds .policy
    simp only [PerRole.get] at hi hb hp
    simp [decisions, PerRole.toList, hi, hb, hp]
  rw [allowDecisions, hlist] at h
  have hlength : ds.toList.length = 3 := rfl
  have hall := List.countP_eq_length.mp (h.trans hlength.symm)
  simpa using hall _ (PerRole.mem_toList.mpr ⟨role, rfl⟩)

/-- Three decisions that allow, with the head in the interval of each. -/
theorem releasable_of_valid (hvalid : decisionsValidAtHead snapshot = true)
    (hallow : allowDecisions snapshot = 3) :
    ∃ ds, snapshot.Decides ds ∧ ∀ role,
      (ds.get role).receipt.HoldsAt snapshot.worldHead ∧ (ds.get role).verdict = .ALLOW := by
  simp only [decisionsValidAtHead, Bool.and_eq_true, decide_eq_true_eq, List.all_eq_true,
    receiptCoversWorldHead_iff] at hvalid
  obtain ⟨hlength, hcovers⟩ := hvalid
  obtain ⟨ds, hds⟩ := decides_of_length hlength
  refine ⟨ds, hds, fun role => ⟨?_, countP_allow_of_decides hds hallow role⟩⟩
  exact (hcovers _ (mem_decisions.mpr ⟨role, hds role⟩)).2

/-! ## What acceptance says of each group of rules -/

section Groups

variable [Sha256]

/-- No rule reports an issue, by groups. -/
structure Snapshot.Accepted (snapshot : Snapshot) : Prop where
  identities : agentIdentityIssues snapshot = []
  agents : ∀ role, ∃ i, agentIssues snapshot i (snapshot.agents.get role) = []
  rule : ∀ rule, authoritativeProjectionRule snapshot.sessionState = some rule →
    ruleIssues snapshot rule = [] ∧ rulePlanIssues snapshot rule = []
  gate : gateIssues snapshot = []
  jointValidity : jointValidityIssues snapshot = []
  plan : ∀ plan, snapshot.refreshPlan = some plan → planIssues snapshot plan = []
  refresh : refreshIssues snapshot = []
  actions : actionsIssues snapshot = []

theorem accepted_of_issues (h : addSnapshotInvariantIssues snapshot = []) :
    snapshot.Accepted := by
  simp only [addSnapshotInvariantIssues, List.append_eq_nil_iff, List.flatMap_eq_nil_iff,
    Option.mem_toList] at h
  obtain ⟨⟨⟨⟨⟨⟨⟨⟨⟨⟨⟨hidentities, -⟩, ⟨hinventory, hbudget⟩, hpolicy⟩, -⟩, hrule⟩, hgate⟩,
    hjoint⟩, hplan⟩, hrefresh⟩, hrulePlan⟩, -⟩, hactions⟩ := h
  refine ⟨hidentities, fun role => ?_, fun rule hr => ⟨hrule rule hr, hrulePlan rule hr⟩, hgate,
    hjoint, fun plan hp => hplan plan hp, hrefresh, hactions⟩
  cases role
  exacts [⟨0, hinventory⟩, ⟨1, hbudget⟩, ⟨2, hpolicy⟩]

/-! ### Identifiers -/

omit [Sha256] in
theorem mem_identityReferences {ids : AgentSnapshotView → List OpaqueId} {id : OpaqueId}
    {role : Role} :
    (id, role) ∈ identityReferences snapshot ids ↔ id ∈ ids (snapshot.agents.get role) := by
  simp only [identityReferences, List.mem_flatMap, mem_ROLES, true_and, List.mem_map,
    Prod.mk.injEq]
  constructor
  · rintro ⟨_, _, hid, rfl, rfl⟩
    exact hid
  · intro hid
    exact ⟨role, id, hid, rfl, rfl⟩

omit [Sha256] in
/-- Without a duplicate, an identifier belongs to one agent. -/
theorem owner_unique {references : List (OpaqueId × Role)}
    (h : duplicatedAcrossAgents references = false) {id : OpaqueId} {r r' : Role}
    (hr : (id, r) ∈ references) (hr' : (id, r') ∈ references) : r = r' := by
  have howner : ∀ role, (id, role) ∈ references →
      ∃ first, references.find? (fun first => first.1 = id) = some first ∧ first.2 = role := by
    intro role hmem
    obtain ⟨first, hfirst⟩ : ∃ first,
        references.find? (fun first => first.1 = id) = some first := by
      rw [← Option.isSome_iff_exists, List.find?_isSome]
      exact ⟨_, hmem, by simp⟩
    refine ⟨first, hfirst, ?_⟩
    simp only [duplicatedAcrossAgents, List.any_eq_false] at h
    simpa [hfirst] using h _ hmem
  obtain ⟨first, hfirst, rfl⟩ := howner r hr
  obtain ⟨first', hfirst', rfl⟩ := howner r' hr'
  rw [hfirst] at hfirst'
  cases hfirst'
  rfl

theorem Snapshot.Accepted.disjoint (h : snapshot.Accepted) {r r' : Role} (hne : r ≠ r')
    {name : String} {ids : AgentSnapshotView → List OpaqueId}
    (hns : (name, ids) ∈ identityNamespaces) :
    (ids (snapshot.agents.get r)).Disjoint (ids (snapshot.agents.get r')) := by
  intro id hr hr'
  have hall := h.identities
  simp only [agentIdentityIssues, validateUniqueSnapshotIdentityReferences,
    List.append_eq_nil_iff, List.flatMap_eq_nil_iff, issueIf_eq_nil] at hall
  exact hne (owner_unique (hall.2 _ hns) (mem_identityReferences.mpr hr)
    (mem_identityReferences.mpr hr'))

theorem Snapshot.Accepted.exclusive (h : snapshot.Accepted) {r r' : Role} (hne : r ≠ r') :
    (snapshot.agents.get r).Exclusive (snapshot.agents.get r') where
  certificates := h.disjoint hne (.head _)
  receipts := h.disjoint hne (.tail _ (.head _))
  attempts := h.disjoint hne (.tail _ (.tail _ (.head _)))
  assignments := h.disjoint hne (.tail _ (.tail _ (.tail _ (.head _))))
  runs := h.disjoint hne (.tail _ (.tail _ (.tail _ (.tail _ (.head _)))))

/-! ### The gate -/

theorem Snapshot.Accepted.ready (h : snapshot.Accepted)
    (hstate : snapshot.sessionState = .READY_AT_CURRENT_HEAD) :
    (∃ ds, snapshot.Decides ds ∧ ∀ role,
      (ds.get role).receipt.HoldsAt snapshot.worldHead ∧ (ds.get role).verdict = .ALLOW) ∧
      snapshot.gate.permitId ≠ none := by
  obtain ⟨hrule, -⟩ := h.rule _ (by rw [hstate, authoritativeProjectionRule])
  simp only [ruleIssues, List.append_eq_nil_iff, issueIf_eq_nil] at hrule
  obtain ⟨⟨⟨⟨-, hpermit⟩, -⟩, -⟩, hdecisions⟩ := hrule
  simp only [Bool.not_eq_false', Bool.and_eq_true, decide_eq_true_eq] at hdecisions
  refine ⟨releasable_of_valid hdecisions.1 hdecisions.2, ?_⟩
  intro hnone
  simp [hnone] at hpermit

theorem Snapshot.Accepted.released (h : snapshot.Accepted)
    (hgate : snapshot.gate.state = .RELEASED) :
    snapshot.sessionState = .COMMITTED ∧ snapshot.gate.effectId ≠ none ∧
    snapshot.gate.permitId ≠ none ∧ allowDecisions snapshot = 3 ∧
      decisionsValidAtHead snapshot = true := by
  have hall := h.gate
  simp only [gateIssues, hgate, if_true, List.append_eq_nil_iff, issueIf_eq_nil,
    Bool.or_eq_false_iff, decide_eq_false_iff_not, not_not, Bool.not_eq_false'] at hall
  obtain ⟨⟨⟨-, hreleased⟩, -⟩, -⟩ := hall
  obtain ⟨⟨⟨⟨⟨⟨⟨⟨-, heffect⟩, hpermit⟩, hstate⟩, -⟩, -⟩, hallow⟩, hvalid⟩, -⟩ := hreleased
  exact ⟨hstate, heffect, hpermit, hallow, hvalid⟩

theorem Snapshot.Accepted.state_of_ready (h : snapshot.Accepted)
    (hgate : snapshot.gate.state = .READY) :
    snapshot.sessionState = .READY_AT_CURRENT_HEAD := by
  have hall := h.gate
  simp only [gateIssues, hgate, List.append_eq_nil_iff, issueIf_eq_nil] at hall
  obtain ⟨⟨⟨⟨⟨⟨⟨hready, -⟩, -⟩, -⟩, -⟩, -⟩, -⟩, -⟩ := hall
  simpa using hready

theorem Snapshot.Accepted.state_of_commit (h : snapshot.Accepted)
    (hcommit : AvailableAction.COMMIT ∈ snapshot.availableActions) :
    snapshot.sessionState = .READY_AT_CURRENT_HEAD := by
  have hactions := h.actions
  simp only [actionsIssues, issueIf_eq_nil, Bool.not_eq_false'] at hactions
  have hoffered := (mem_of_sameIdSet hactions _).mp hcommit
  cases hrule : authoritativeProjectionRule snapshot.sessionState with
  | none => simp [hrule] at hoffered
  | some rule => exact commit_offered hrule (by simpa [hrule] using hoffered)

theorem Snapshot.Accepted.effect (h : snapshot.Accepted) :
    snapshot.gate.effectId ≠ none ↔ snapshot.sessionState = .COMMITTED := by
  constructor
  · intro heffect
    by_cases hgate : snapshot.gate.state = .RELEASED
    · exact (h.released hgate).1
    · have hall := h.gate
      simp only [gateIssues, hgate, if_false, List.append_eq_nil_iff, issueIf_eq_nil,
        Bool.or_eq_false_iff, decide_eq_false_iff_not, not_not] at hall
      obtain ⟨⟨⟨-, -, hnone⟩, -⟩, -⟩ := hall
      exact absurd hnone heffect
  · intro hstate hnone
    obtain ⟨hrule, -⟩ := h.rule _ (by rw [hstate, authoritativeProjectionRule])
    simp only [ruleIssues, List.append_eq_nil_iff, issueIf_eq_nil] at hrule
    obtain ⟨⟨⟨-, heffect⟩, -⟩, -⟩ := hrule
    simp [hnone] at heffect

/-! ### The intervals -/

omit [Sha256] in
/-- An agent whose receipt is the canonical entry with a property. -/
theorem canonicalEntry_cases {p : ReceiptView → Bool} {entry : ReceiptEntry}
    (h : canonicalEntry snapshot p = some entry) :
    ∃ role d, (snapshot.agents.get role).activeDecision = some d ∧
      entry = ⟨(snapshot.agents.get role).role, d.receipt⟩ ∧ p d.receipt = true := by
  have hmem := List.mem_of_mem_head? h
  rw [List.mem_insertionSort, List.mem_filter] at hmem
  obtain ⟨hentry, hp⟩ := hmem
  simp only [receiptEntries, List.mem_filterMap, PerRole.mem_toList, Option.map_eq_some_iff]
    at hentry
  obtain ⟨_, ⟨role, rfl⟩, d, hd, rfl⟩ := hentry
  exact ⟨role, d, hd, rfl, hp⟩

omit [Sha256] in
theorem witness_cases {p : ReceiptView → Bool} {witness : WitnessView}
    (hds : snapshot.Decides ds)
    (h : witnessAgrees (canonicalEntry snapshot p) witness = true) :
    ∃ role, witness.Names (snapshot.agents.get role) (ds.get role).receipt ∧
      p (ds.get role).receipt = true := by
  simp only [witnessAgrees, Option.any_eq_true, Bool.and_eq_true, decide_eq_true_eq] at h
  obtain ⟨entry, hentry, ⟨⟨hrole, hid⟩, hfrom⟩, huntil⟩ := h
  obtain ⟨role, d, hd, rfl, hp⟩ := canonicalEntry_cases hentry
  have hsame : d = ds.get role := Option.some.inj (hd.symm.trans (hds role))
  subst hsame
  exact ⟨role, ⟨hrole, hid, hfrom, huntil⟩, hp⟩

omit [Sha256] in
/-- Two intervals of which one ends before the other starts. -/
theorem disjoint_of_bounds {first second : ReceiptView} {lower upper : Nat}
    (hend : first.validUntilSeq = some upper) (hstart : second.validFromSeq = lower)
    (h : upper ≤ lower) : ¬∃ n : ℤ, first.HoldsAt n ∧ second.HoldsAt n := by
  rintro ⟨n, ⟨-, hbefore⟩, hafter, -⟩
  have hlt := hbefore upper hend
  omega

theorem Snapshot.Accepted.noCut (h : snapshot.Accepted)
    (hstate : snapshot.jointValidity.state = .NO_CUT) :
    ∃ ds, snapshot.Decides ds ∧ (¬∃ n : ℤ, ∀ role, (ds.get role).receipt.HoldsAt n) ∧
      ∃ proof earliest latest, snapshot.jointValidity.noCutProof = some proof ∧
        proof.witness.1.Names (snapshot.agents.get earliest) (ds.get earliest).receipt ∧
        proof.witness.2.Names (snapshot.agents.get latest) (ds.get latest).receipt ∧
        ¬∃ n : ℤ, (ds.get earliest).receipt.HoldsAt n ∧ (ds.get latest).receipt.HoldsAt n := by
  have hissues := h.jointValidity
  simp only [jointValidityIssues, hstate, issueIf_eq_nil, Bool.not_eq_false',
    Option.any_eq_true] at hissues
  obtain ⟨proof, hproof, hagrees⟩ := hissues
  simp only [noCutAgrees, Bool.and_eq_true, decide_eq_true_eq, and_assoc] at hagrees
  obtain ⟨-, -, hlower, hupper, hbounds, -, -, hearliest, hlatest⟩ := hagrees
  obtain ⟨ds, hactive, -⟩ := Option.map_eq_some_iff.mp hlower.symm
  have hds := activeDecisions?_eq_some.mp hactive
  obtain ⟨earliest, hnamed, hend⟩ := witness_cases hds hearliest
  obtain ⟨latest, hnamed', hstart⟩ := witness_cases hds hlatest
  simp only [Bool.and_eq_true, decide_eq_true_eq] at hend hstart
  have hdisjoint := disjoint_of_bounds (hend.2.trans hupper.symm)
    (Option.some.inj (hstart.trans hlower.symm)) hbounds
  refine ⟨ds, hds, ?_, proof, earliest, latest, hproof, hnamed, hnamed', hdisjoint⟩
  rintro ⟨n, hn⟩
  exact hdisjoint ⟨n, hn earliest, hn latest⟩

theorem Snapshot.Accepted.historicalStale (h : snapshot.Accepted)
    (hstate : snapshot.jointValidity.state = .HISTORICAL_STALE) :
    ∃ ds, snapshot.Decides ds ∧ (∃ n : ℤ, ∀ role, (ds.get role).receipt.HoldsAt n) ∧
      ¬∀ role, (ds.get role).receipt.HoldsAt snapshot.worldHead := by
  have hissues := h.jointValidity
  simp only [jointValidityIssues, hstate, issueIf_eq_nil, Bool.not_eq_false', boundsReconcile,
    Bool.and_eq_true, Option.any_eq_true, decide_eq_true_eq] at hissues
  obtain ⟨-, lower, hlower, upper, hupper, hlt, hstale⟩ := hissues
  obtain ⟨ds, hactive, rfl⟩ := Option.map_eq_some_iff.mp hlower
  obtain ⟨ds', hactive', rfl⟩ := Option.map_eq_some_iff.mp hupper
  cases hactive.symm.trans hactive'
  have hds := activeDecisions?_eq_some.mp hactive
  -- the bounds are the latest start and the earliest end, an open one after the head
  have hgreatest := (ds.map (·.receipt.validFromSeq)).greatest_isGreatest
  have hleast := (ds.map (·.receipt.validUntilSeq.getD (snapshot.worldHead + 1))).least_isLeast
  refine ⟨ds, hds, ⟨((ds.map (·.receipt.validFromSeq)).greatest : ℕ), fun role => ?_⟩,
    fun hall => ?_⟩
  · have hstart := hgreatest.2 ⟨role, rfl⟩
    have hstop := hleast.2 ⟨role, rfl⟩
    simp only [PerRole.get_map] at hstart hstop
    refine ⟨by exact_mod_cast hstart, fun u hu => ?_⟩
    rw [Option.mem_def] at hu
    rw [hu, Option.getD_some] at hstop
    exact_mod_cast hlt.trans_le hstop
  · obtain ⟨latest, hlatest⟩ := hgreatest.1
    obtain ⟨earliest, hearliest⟩ := hleast.1
    simp only [PerRole.get_map] at hlatest hearliest
    have hstart : (ds.get latest).receipt.validFromSeq ≤ snapshot.worldHead := by
      exact_mod_cast (hall latest).1
    have hstop : snapshot.worldHead <
        (ds.get earliest).receipt.validUntilSeq.getD (snapshot.worldHead + 1) := by
      cases hu : (ds.get earliest).receipt.validUntilSeq with
      | none => simp
      | some u => exact_mod_cast (hall earliest).2 u hu
    rw [hlatest] at hstart
    rw [hearliest] at hstop
    simp [hstart, hstop] at hstale

/-! ### The owners of a refresh -/

omit [Sha256] in
theorem mem_invalidAgentIds {agentId : OpaqueId} :
    agentId ∈ invalidAgentIds snapshot ↔
      ∃ role, (snapshot.agents.get role).agentId = agentId ∧
        ∃ d, (snapshot.agents.get role).activeDecision = some d ∧
          ¬d.receipt.HoldsAt snapshot.worldHead := by
  simp only [invalidAgentIds, JointValidity.sortIds, List.mem_insertionSort, agentIdsWith,
    List.mem_map, List.mem_filter, PerRole.mem_toList, Option.any_eq_true, Bool.not_eq_true',
    ← receiptCoversWorldHead_iff, Bool.not_eq_true]
  constructor
  · rintro ⟨_, ⟨⟨role, rfl⟩, d, hd, hmisses⟩, rfl⟩
    exact ⟨role, rfl, d, hd, hmisses⟩
  · rintro ⟨role, rfl, d, hd, hmisses⟩
    exact ⟨_, ⟨⟨role, rfl⟩, d, hd, hmisses⟩, rfl⟩

theorem Snapshot.Accepted.owners_same (h : snapshot.Accepted)
    (hstate : snapshot.sessionState = .BLOCKED_NO_CUT ∨
      snapshot.sessionState = .HISTORICAL_STALE ∨ snapshot.sessionState = .REOBSERVING) :
    ∃ plan, snapshot.refreshPlan = some plan ∧
      sameIdSet plan.agentIds (invalidAgentIds snapshot) = true := by
  have havailable : ∀ rule, authoritativeProjectionRule snapshot.sessionState = some rule →
      rule.refreshPlan = .AVAILABLE → ∃ plan, snapshot.refreshPlan = some plan ∧
        sameIdSet plan.agentIds (invalidAgentIds snapshot) = true := by
    intro rule hrule hplan
    have hissues := (h.rule rule hrule).2
    simp only [rulePlanIssues, hplan, issueIf_eq_nil, Bool.not_eq_false', Option.any_eq_true,
      Bool.and_eq_true] at hissues
    obtain ⟨plan, hsome, ⟨-, hsame⟩, -⟩ := hissues
    exact ⟨plan, hsome, hsame⟩
  rcases hstate with hstate | hstate | hstate
  · exact havailable _ (by rw [hstate, authoritativeProjectionRule]) rfl
  · exact havailable _ (by rw [hstate, authoritativeProjectionRule]) rfl
  · have hissues := h.refresh
    simp only [refreshIssues, hstate, List.append_eq_nil_iff, issueIf_eq_nil, decide_true,
      Bool.true_and, Bool.not_eq_false', Option.any_eq_true] at hissues
    obtain ⟨⟨⟨⟨⟨⟨plan, hsome, hcoherent⟩, -⟩, -⟩, -⟩, -⟩, -⟩ := hissues
    simp only [reobservingCoherent, Bool.and_eq_true] at hcoherent
    obtain ⟨⟨⟨⟨-, hsame⟩, -⟩, -⟩, -⟩ := hcoherent
    exact ⟨plan, hsome, hsame⟩

theorem Snapshot.Accepted.sound (h : snapshot.Accepted) : snapshot.Sound where
  releasable := by
    rintro (hcommit | hgate | hgate)
    · exact h.ready (h.state_of_commit hcommit)
    · exact h.ready (h.state_of_ready hgate)
    · obtain ⟨-, -, hpermit, hallow, hvalid⟩ := h.released hgate
      exact ⟨releasable_of_valid hvalid hallow, hpermit⟩
  noCut := h.noCut
  historicalStale := h.historicalStale
  owners := by
    intro hstate
    obtain ⟨plan, hplan, hsame⟩ := h.owners_same hstate
    refine ⟨plan, hplan, ?_, fun agentId => ?_⟩
    · simp only [sameIdSet, Bool.and_eq_true, decide_eq_true_eq] at hsame
      exact hsame.1.1.2
    · rw [mem_of_sameIdSet hsame, mem_invalidAgentIds]
  exclusive := fun _ _ hne => h.exclusive hne
  effect := h.effect

/-- Whatever JSON value the dashboard accepts is a sound snapshot: the checks of
the decoder, which read one field or one pair of fields at a time, together
imply all that the views rely on. -/
theorem decodeSnapshot_sound (value : Value) (snapshot : Snapshot)
    (h : decodeSnapshot value = some snapshot) : snapshot.Sound := by
  obtain ⟨-, hissues⟩ := Option.filter_eq_some_iff.mp h
  exact (accepted_of_issues (of_decide_eq_true hissues)).sound

end Groups

/-! ## A ready snapshot -/

namespace SnapshotSample

scoped instance : Sha256 := Sha256.standard

def time : Value := jstr "2026-08-29T12:00:00.000Z"

def digest : Value := jdigest ⟨List.replicate 64 'a', by decide⟩

def receipt (role : Role) : Value :=
  jobj [("receiptId", jstr ("receipt_" ++ role.name)), ("sourceRevision", jnat 0),
    ("observedAtSeq", jnat 1), ("validFromSeq", jnat 1), ("validUntilSeq", .null)]

def runtimeProof (role : Role) : Value :=
  jobj [("assignmentId", jstr ("assignment_" ++ role.name)), ("threadId", jstr "thread_1"),
    ("runtimeLabel", jstr "codex"), ("roleProfileVersion", jstr "role-profile-v1"),
    ("promptTemplateVersion", jstr "prompt-v1"), ("agentsMdDigest", digest),
    ("evidencePackRelativePath",
      jstr (".epochguard/sessions/session_1/" ++ role.name ++ "/assignment.json")),
    ("evidencePackHash", digest), ("runStartedAt", time), ("runCompletedAt", time),
    ("outputDigest", digest), ("usage", jobj [("inputTokens", jnat 12)])]

def agent (role : Role) : Value :=
  jobj [("role", jstr role.name), ("agentId", jstr ("agent_" ++ role.name)),
    ("agentNameAtAssignment", jstr role.name), ("runCount", jnat 1),
    ("activeDecision", jobj
      [("certificateId", jstr ("certificate_" ++ role.name)), ("runId", jstr ("run_" ++ role.name)),
        ("verdict", jstr "ALLOW"), ("factSummary", jstr "observed"),
        ("evidenceState", jstr "CURRENT"), ("receipt", receipt role),
        ("runtimeProof", runtimeProof role)]),
    ("inFlightAttempt", .null)]

def value : Value :=
  jobj [("schemaVersion", jnat 1), ("contractVersion", jstr CONTRACT_VERSION),
    ("contractDigest", jstr CONTRACT_DIGEST), ("snapshotRevision", jnat 20),
    ("sessionRevision", jnat 4), ("stateUpdatedAt", time), ("generatedAt", time),
    ("sessionId", jstr "session_1"), ("scenarioId", jstr "normal-world-v1"),
    ("coordinationMode", jstr "CONCURRENT"), ("sessionState", jstr "READY_AT_CURRENT_HEAD"),
    ("action", jobj [("type", jstr "PUBLISH_CAMPAIGN"),
      ("campaignId", jstr Fixtures.FIXTURE_ACTION.campaignId.val),
      ("requestedUnits", jnat Fixtures.FIXTURE_ACTION.requestedUnits),
      ("estimatedCostCents", jnat Fixtures.FIXTURE_ACTION.estimatedCostCents),
      ("market", jstr "SG")]),
    ("actionHash", jdigest (actionHash Fixtures.FIXTURE_ACTION)), ("worldHead", jnat 1),
    ("gate", jobj [("state", jstr "READY"), ("reasonCode", .null),
      ("effectsInSession", jnat 0), ("permitId", jstr "permit_1"), ("effectId", .null)]),
    ("metrics", jobj [("activeDecisions", jnat 3), ("requiredDecisions", jnat 3),
      ("allowDecisions", jnat 3), ("denyDecisions", jnat 0), ("reobservedAgents", jnat 0),
      ("totalAgents", jnat 3), ("rerunsAvoided", jnat 0), ("verificationLatencyMs", jnat 2)]),
    ("agents", .arr (ROLES.map agent)),
    ("jointValidity", jobj [("state", jstr "VALID_CURRENT"), ("lowerBound", jnat 1),
      ("upperBound", jnat 2), ("currentHeadCovered", .bool true), ("noCutProof", .null)]),
    ("refreshPlan", .null), ("availableActions", .arr [jstr "COMMIT"]),
    ("latestDiagnostics", .arr []), ("events", .arr [])]

/-- The value is accepted, and offers COMMIT. -/
theorem value_accepted : (decodeSnapshot value).any (fun snapshot =>
    snapshot.availableActions = [.COMMIT] ∧ snapshot.worldHead = 1) = true := by
  decide +kernel

def ready : Snapshot := (decodeSnapshot value).get (Option.isSome_of_any value_accepted)

theorem decode_value : decodeSnapshot value = some ready := (Option.some_get _).symm

theorem ready_offers : ready.availableActions = [.COMMIT] ∧ ready.worldHead = 1 :=
  Checked.get_of_any value_accepted

end SnapshotSample

open SnapshotSample in
theorem decodeSnapshot_sound_sample : ready.Sound ∧ ready.availableActions = [.COMMIT] :=
  ⟨decodeSnapshot_sound value ready decode_value, ready_offers.1⟩

end SnapshotContract

end EpochGuard
