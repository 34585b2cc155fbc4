import EpochGuard.DecisionParser
import Mathlib.Data.List.Dedup
import Mathlib.Data.NNRat.Defs

/-!
# Joint validity

`joint-validity-validator.ts`: the classification of the three active
decisions of a session by the validity intervals of the versions that their
receipts name.
-/

namespace EpochGuard

open Json Checked DecisionParser

/-- The failures of the validator, one for each of its checks. -/
inductive JointValidityValidationError where
  | unsafeHead
  | notUnique (label : String)
  | missingDecision
  | sharedDecision
  | decisionOrder
  | unboundDecision (error : DecisionNormalizationError)
  | lookupFailed (receiptId : OpaqueId)
  | unavailable (receiptId : OpaqueId)
  | otherResource (receiptId : OpaqueId)
  | otherRevision (receiptId : OpaqueId)
  | otherValue (receiptId : OpaqueId)
  | badValueHash (receiptId : OpaqueId)
  | endsBeyondHead
  | outsideInterval (receiptId : OpaqueId)
  | badEvidence (role : Role)
  | verdictMismatch (role : Role)
  | sharedReceipt
  | noInvalidOwner
  | noWitness
deriving DecidableEq

namespace JointValidityValidationError

/-- The reason that a failure reports. -/
def reasonCode : JointValidityValidationError → FailureCode
  | .unsafeHead | .lookupFailed _ | .unavailable _ | .otherRevision _ | .badValueHash _
  | .endsBeyondHead | .outsideInterval _ | .badEvidence _ | .noInvalidOwner | .noWitness =>
      .HISTORY_UNVERIFIABLE
  | .notUnique _ | .missingDecision | .sharedDecision | .decisionOrder | .verdictMismatch _
  | .sharedReceipt => .DECISION_INVALID
  | .otherResource _ | .otherValue _ => .BINDING_MISMATCH
  | .unboundDecision error => error.reasonCode

/-- The text of a failure. -/
def message : JointValidityValidationError → String
  | .unsafeHead => "World head cannot be represented safely with the H+1 open-interval fence"
  | .notUnique label => label ++ " must resolve to exactly one record"
  | .missingDecision => "Joint validity requires one active Decision for every frozen Role"
  | .sharedDecision => "Active Decision IDs must be distinct"
  | .decisionOrder => "Active Decisions must be ordered inventory, budget, policy"
  | .unboundDecision error => error.message
  | .lookupFailed receiptId => "World history lookup failed for Receipt " ++ receiptId.val
  | .unavailable receiptId => "World history is unavailable for Receipt " ++ receiptId.val
  | .otherResource receiptId =>
      "World history resource does not match Receipt " ++ receiptId.val
  | .otherRevision receiptId =>
      "World history revision does not match Receipt " ++ receiptId.val
  | .otherValue receiptId => "World history value does not match Receipt " ++ receiptId.val
  | .badValueHash receiptId =>
      "World history value hash is invalid for Receipt " ++ receiptId.val
  | .endsBeyondHead => "A closed Resource Version cannot end beyond the current World head"
  | .outsideInterval receiptId =>
      "Receipt " ++ receiptId.val ++ " is not inside its authoritative interval"
  | .badEvidence role => "Authoritative evidence is invalid for Role " ++ role.name
  | .verdictMismatch role =>
      "Role " ++ role.name ++ " verdict does not match the authoritative decision rule"
  | .sharedReceipt => "Active Decisions must bind three distinct Receipts"
  | .noInvalidOwner =>
      "A No-Cut result must have at least one invalid owner at the current head"
  | .noWitness => "Unable to construct a deterministic No-Cut witness"

/-- The role of a verdict that contradicts the World, the one failure that the
service tells apart (`AUTHORITATIVE_VERDICT_MISMATCH`). -/
def mismatchedRole : JointValidityValidationError → Option Role
  | .verdictMismatch role => some role
  | _ => none

end JointValidityValidationError

namespace JointValidity

/-- What the validator asks the World history for: the version that a receipt
names, and the head that the answer is read at. -/
structure ResourceVersionLookup where
  receiptId : OpaqueId
  source : Source
  entityKey : OpaqueId
  sourceRevision : Nat
  valueHash : Sha256Digest
  observedAtSeq : Nat
  validatedAtHead : Nat

/-- The answer of the history, with the resource that it is about. -/
structure ResourceVersionResolution where
  source : Source
  entityKey : OpaqueId
  resourceVersion : ResourceVersion

/-- The World-history index; it may throw, find nothing, or answer. -/
abbrev ResourceVersionResolver :=
  ResourceVersionLookup → Except String (Option ResourceVersionResolution)

/-- The identifiers and readings that the caller supplies. -/
structure Options where
  validationId : OpaqueId
  jointValidityCertificateId : OpaqueId
  noCutProofId : OpaqueId
  createdAt : Timestamp
  verificationLatencyMs : NNRat

/-- What a validation returns: its record, the certificate or the proof that it
made, and the Agents whose evidence the head has left behind. -/
structure Result where
  validationRecord : ValidationRecord
  jointValidityCertificate : Option JointValidityCertificate
  noCutProof : Option NoCutProof
  currentInvalidAgentIds : List OpaqueId

/-- The interval of one decision, with the records it was resolved from. An open
interval is read as ending right after the head. -/
structure ResolvedInterval where
  role : Role
  ownerAgentId : OpaqueId
  decision : DependencyCertificate
  receipt : ObservationReceipt
  version : ResourceVersion
  effectiveUntil : Nat

/-- The version of the decision is still current at the head. -/
def intervalCoversHead (interval : ResolvedInterval) (head : Nat) : Bool :=
  interval.version.validFromSeq ≤ head && interval.version.validUntilSeq.all (head < ·)

/-- `[...ids].sort(compareIds)` -/
def sortIds (ids : List OpaqueId) : List OpaqueId := ids.insertionSort OpaqueId.le

/-- A computation of the validator, which stops at its first failed check. -/
abbrev Validated := Except JointValidityValidationError

/-- A reference is to exactly one record. -/
def requireUnique {α : Type} (values : List α) (predicate : α → Bool) (label : String) :
    Validated α :=
  orStop (single? values predicate) (.notUnique label)

/-- The session, and its active decisions with their identifiers. -/
def activeDecisionTuple (database : EpochDatabase) (sessionId : OpaqueId) :
    Validated (EpochSession × PerRole OpaqueId × PerRole DependencyCertificate) := do
  let session ← requireUnique database.sessions (fun s => s.sessionId = sessionId)
    "EpochGuard Session"
  let ids ← orStop session.activeDecisionCertificateIds.all? .missingDecision
  require ids.Distinct .sharedDecision
  let decisions ← PerRole.mapRoles fun role => do
    let decision ← requireUnique database.decisions (fun d => d.certificateId = ids.get role)
      "Active Decision"
    require (decision.role = role) .decisionOrder
    return decision
  return (session, ids, decisions)

theorem activeDecisionTuple_eq_ok {database : EpochDatabase} {sessionId : OpaqueId}
    {session : EpochSession} {ids : PerRole OpaqueId} {decisions : PerRole DependencyCertificate} :
    activeDecisionTuple database sessionId = .ok (session, ids, decisions) ↔
      single? database.sessions (fun s => s.sessionId = sessionId) = some session ∧
      (∀ role, session.activeDecisionCertificateIds.get role = some (ids.get role)) ∧
      ids.Distinct ∧
      ∀ role, single? database.decisions (fun d => d.certificateId = ids.get role) =
          some (decisions.get role) ∧ (decisions.get role).role = role := by
  simp only [activeDecisionTuple, requireUnique, bind_eq_ok, orStop_eq_ok, require_eq_ok,
    PerRole.mapRoles_eq_ok, PerRole.all?_eq_some, pure_eq_ok, Prod.mk.injEq, exists_const]
  constructor
  · rintro ⟨_, hs, _, hids, hd, _, hdec, rfl, rfl, rfl⟩
    exact ⟨hs, hids, hd, fun role => by
      obtain ⟨d, hd, hrole, rfl⟩ := hdec role
      exact ⟨hd, hrole⟩⟩
  · rintro ⟨hs, hids, hd, hdec⟩
    exact ⟨_, hs, _, hids, hd, _, fun role => ⟨_, (hdec role).1, (hdec role).2, rfl⟩,
      rfl, rfl, rfl⟩

/-! ## Bounds -/

/-- The latest start of the three intervals. -/
def lowerBound (intervals : PerRole ResolvedInterval) : Nat :=
  (intervals.map fun i => i.version.validFromSeq).greatest

/-- The earliest end of the three intervals. -/
def upperBound (intervals : PerRole ResolvedInterval) : Nat :=
  (intervals.map ResolvedInterval.effectiveUntil).least

/-- The owners whose interval misses the head, in order and once each. -/
def currentInvalidAgentIds (intervals : PerRole ResolvedInterval) (head : Nat) :
    List OpaqueId :=
  sortIds ((intervals.toList.filter fun i => !intervalCoversHead i head).map
    ResolvedInterval.ownerAgentId).dedup

/-- The interval with a property whose receipt identifier is least. -/
def leastReceipt (intervals : PerRole ResolvedInterval) (p : ResolvedInterval → Bool) :
    Option ResolvedInterval :=
  ((intervals.toList.filter p).insertionSort
    fun i j => OpaqueId.le i.receipt.receiptId j.receipt.receiptId).head?

section Bounds

variable {intervals : PerRole ResolvedInterval}

theorem lowerBound_isGreatest (intervals : PerRole ResolvedInterval) :
    IsGreatest (Set.range fun role => (intervals.get role).version.validFromSeq)
      (lowerBound intervals) := by
  have h := (intervals.map fun i => i.version.validFromSeq).greatest_isGreatest
  simpa only [lowerBound, funext (PerRole.get_map _ intervals)] using h

theorem upperBound_isLeast (intervals : PerRole ResolvedInterval) :
    IsLeast (Set.range fun role => (intervals.get role).effectiveUntil)
      (upperBound intervals) := by
  have h := (intervals.map ResolvedInterval.effectiveUntil).least_isLeast
  simpa only [upperBound, funext (PerRole.get_map _ intervals)] using h

theorem mem_currentInvalidAgentIds {head : Nat} {agentId : OpaqueId} :
    agentId ∈ currentInvalidAgentIds intervals head ↔
      ∃ role, (intervals.get role).ownerAgentId = agentId ∧
        intervalCoversHead (intervals.get role) head = false := by
  simp only [currentInvalidAgentIds, sortIds, List.mem_insertionSort, List.mem_dedup,
    List.mem_map, List.mem_filter, Bool.not_eq_true', PerRole.mem_toList]
  constructor
  · rintro ⟨_, ⟨⟨role, rfl⟩, hcovers⟩, rfl⟩
    exact ⟨role, rfl, hcovers⟩
  · rintro ⟨role, rfl, hcovers⟩
    exact ⟨_, ⟨⟨role, rfl⟩, hcovers⟩, rfl⟩

/-- There is an interval with the property exactly when one is found. -/
theorem leastReceipt_cases (intervals : PerRole ResolvedInterval)
    (p : ResolvedInterval → Bool) :
    (leastReceipt intervals p = none ∧ ∀ role, p (intervals.get role) = false) ∨
      ∃ role, leastReceipt intervals p = some (intervals.get role) ∧
        p (intervals.get role) = true := by
  cases h : leastReceipt intervals p with
  | none =>
    refine .inl ⟨rfl, fun role => ?_⟩
    have hnil := List.head?_eq_none_iff.mp h
    by_contra hp
    have hmem : intervals.get role ∈ intervals.toList.filter p :=
      List.mem_filter.mpr ⟨PerRole.mem_toList.mpr ⟨role, rfl⟩, by simpa using hp⟩
    have hmem' := (List.mem_insertionSort
      fun i j => OpaqueId.le i.receipt.receiptId j.receipt.receiptId).mpr hmem
    simp [hnil] at hmem'
  | some interval =>
    have hmem := (List.mem_insertionSort _).mp (List.mem_of_mem_head? h)
    obtain ⟨hmem, hp⟩ := List.mem_filter.mp hmem
    obtain ⟨role, rfl⟩ := PerRole.mem_toList.mp hmem
    exact .inr ⟨role, rfl, hp⟩

end Bounds

/-! ## The validator -/

variable [Sha256]

/-- The hash of a set of receipts, whatever order they are given in. -/
def jointValidityDependencySetHash (receiptIds : List OpaqueId) : Sha256Digest :=
  sha256Digest (canonicalJson (.arr ((sortIds receiptIds).map fun i => jstr i.val)))

/-- The interval of one decision, from the version that the index answers. The
answer is checked against the receipt, and the decision's verdict against the
one that the version's value gives. -/
def resolveInterval (database : EpochDatabase) (session : EpochSession) (head : Nat)
    (resolver : ResourceVersionResolver) (decision : DependencyCertificate) :
    Validated ResolvedInterval := do
  let binding ← (resolveBoundDecision database session decision).mapError .unboundDecision
  let receipt := binding.receipt
  let lookup : ResourceVersionLookup :=
    { receiptId := receipt.receiptId
      source := receipt.source
      entityKey := receipt.entityKey
      sourceRevision := receipt.sourceRevision
      valueHash := receipt.valueHash
      observedAtSeq := receipt.observedAtSeq
      validatedAtHead := head }
  let answer ← (resolver lookup).mapError fun _ => .lookupFailed receipt.receiptId
  let candidate ← orStop answer (.unavailable receipt.receiptId)
  require (candidate.source = lookup.source ∧ candidate.entityKey = lookup.entityKey)
    (.otherResource receipt.receiptId)
  let version := candidate.resourceVersion
  require version.parses (.unavailable receipt.receiptId)
  require (version.sourceRevision = receipt.sourceRevision) (.otherRevision receipt.receiptId)
  require (version.valueHash = receipt.valueHash) (.otherValue receipt.receiptId)
  require version.Verified (.badValueHash receipt.receiptId)
  require (∀ u ∈ version.validUntilSeq, u ≤ head) .endsBeyondHead
  let effectiveUntil := version.validUntilSeq.getD (head + 1)
  require (version.validFromSeq ≤ receipt.observedAtSeq ∧
      receipt.observedAtSeq < effectiveUntil ∧ receipt.observedAtSeq ≤ head)
    (.outsideInterval receipt.receiptId)
  let authoritativeVerdict ← orStop (evaluateAuthoritativeVerdict decision.role
    session.action.toActionCanonicalFields version.value.val) (.badEvidence decision.role)
  require (decision.verdict = authoritativeVerdict) (.verdictMismatch decision.role)
  return { role := decision.role, ownerAgentId := decision.agentId, decision, receipt,
           version, effectiveUntil }

/-- The intervals of the three decisions, whose receipts must be distinct. -/
def resolveIntervals (database : EpochDatabase) (session : EpochSession)
    (decisions : PerRole DependencyCertificate) (head : Nat)
    (resolver : ResourceVersionResolver) : Validated (PerRole ResolvedInterval) := do
  let intervals ← PerRole.mapRoles fun role =>
    resolveInterval database session head resolver (decisions.get role)
  require (intervals.map fun i => i.receipt.receiptId).Distinct .sharedReceipt
  return intervals

/-- The outcome for the resolved intervals, with the records it builds.
Intervals that do not meet give a No-Cut with two receipts as its witnesses;
intervals that miss the head are stale; else the verdicts decide. -/
def classify (head : Nat) (session : EpochSession) (ids : PerRole OpaqueId)
    (decisions : PerRole DependencyCertificate) (intervals : PerRole ResolvedInterval)
    (options : Options) : Validated Result := do
  let dependencySetHash := jointValidityDependencySetHash
    (intervals.map fun i => i.receipt.receiptId).toList
  let lower := lowerBound intervals
  let upper := upperBound intervals
  let invalid := currentInvalidAgentIds intervals head
  let record : ValidationRecord :=
    { validationId := options.validationId
      sessionId := session.sessionId
      actionHash := session.actionHash
      baseSessionRevision := session.sessionRevision
      decisionCertificateIds := ids
      dependencySetHash
      validatedHead := head
      outcome := .NO_VALID_OBSERVED_WORLD_CUT
      lowerBound := some lower
      upperBound := some upper
      jointValidityCertificateId := none
      noCutProofId := none
      refreshPlanId := none
      verificationLatencyMs := options.verificationLatencyMs
      createdAt := options.createdAt }
  if upper ≤ lower then
    require (invalid ≠ []) .noInvalidOwner
    let earliestEnding ← orStop (leastReceipt intervals fun i => i.effectiveUntil = upper)
      .noWitness
    let latestStarting ← orStop
      (leastReceipt intervals fun i => i.version.validFromSeq = lower) .noWitness
    let proof : NoCutProof :=
      { proofId := options.noCutProofId
        validationId := options.validationId
        sessionId := session.sessionId
        actionHash := session.actionHash
        dependencySetHash
        decisionCertificateIds := ids
        validatedAtHead := head
        lowerBound := lower
        upperBound := upper
        latestStartingReceiptId := latestStarting.receipt.receiptId
        earliestEndingReceiptId := earliestEnding.receipt.receiptId
        conflictWitnessReceiptIds :=
          (earliestEnding.receipt.receiptId, latestStarting.receipt.receiptId)
        refreshAgentIds := invalid
        createdAt := options.createdAt }
    return { validationRecord := { record with noCutProofId := some options.noCutProofId }
             jointValidityCertificate := none
             noCutProof := some proof
             currentInvalidAgentIds := invalid }
  else if invalid ≠ [] then
    return { validationRecord := { record with outcome := .HISTORICAL_BUT_STALE_NOW }
             jointValidityCertificate := none
             noCutProof := none
             currentInvalidAgentIds := invalid }
  else
    let outcome : ValidationOutcome :=
      if decisions.toList.any (fun d => d.verdict = .DENY) then .CONSISTENT_DENY
      else .VALID_CURRENT_ALLOW
    let certificate : JointValidityCertificate :=
      { certificateId := options.jointValidityCertificateId
        validationId := options.validationId
        sessionId := session.sessionId
        actionHash := session.actionHash
        dependencySetHash
        validatedAtHead := head
        selectedCutSeq := head
        currentHeadCovered := true
        decisionCertificateIds := ids
        intervals := intervals.map fun i =>
          { receiptId := i.receipt.receiptId
            source := i.receipt.source
            sourceRevision := i.receipt.sourceRevision
            «from» := i.version.validFromSeq
            «until» := i.version.validUntilSeq }
        createdAt := options.createdAt }
    return { validationRecord :=
               { record with
                 outcome
                 jointValidityCertificateId := some options.jointValidityCertificateId }
             jointValidityCertificate := some certificate
             noCutProof := none
             currentInvalidAgentIds := invalid }

/-- `validateJointValidity` -/
def validateJointValidity (database : EpochDatabase) (sessionId : OpaqueId)
    (resolver : ResourceVersionResolver) (options : Options) : Validated Result := do
  let head := database.headSeq
  require (head < maxSafeInteger) .unsafeHead
  let (session, ids, decisions) ← activeDecisionTuple database sessionId
  let intervals ← resolveIntervals database session decisions head resolver
  classify head session ids decisions intervals options

/-- The index that the service hands to the validator. -/
def identityResolver (world : World) : ResourceVersionResolver := fun lookup => do
  let match' ← resolveResourceVersionByIdentity world lookup.source lookup.entityKey
    lookup.sourceRevision
  return match'.map fun version => ⟨lookup.source, lookup.entityKey, version⟩

/-! ## What the checks establish -/

/-- What is known of an interval that the validator has resolved: every check of
`resolveInterval` as a fact about the receipt and the version. -/
structure Resolves (database : EpochDatabase) (session : EpochSession) (head : Nat)
    (resolver : ResourceVersionResolver) (decision : DependencyCertificate)
    (interval : ResolvedInterval) : Prop where
  role_eq : interval.role = decision.role
  owner_eq : interval.ownerAgentId = decision.agentId
  decision_eq : interval.decision = decision
  bound : ∃ binding, resolveBoundDecision database session decision = .ok binding ∧
    binding.receipt = interval.receipt
  answered : ∃ lookup : ResourceVersionLookup, lookup.source = interval.receipt.source ∧
    lookup.entityKey = interval.receipt.entityKey ∧
    lookup.sourceRevision = interval.receipt.sourceRevision ∧
    resolver lookup =
      .ok (some ⟨interval.receipt.source, interval.receipt.entityKey, interval.version⟩)
  parses : interval.version.parses
  revision : interval.version.sourceRevision = interval.receipt.sourceRevision
  valueHash : interval.version.valueHash = interval.receipt.valueHash
  verified : interval.version.Verified
  until_le : ∀ u ∈ interval.version.validUntilSeq, u ≤ head
  effectiveUntil : interval.effectiveUntil = interval.version.validUntilSeq.getD (head + 1)
  observed : interval.version.validFromSeq ≤ interval.receipt.observedAtSeq ∧
    interval.receipt.observedAtSeq < interval.effectiveUntil ∧
    interval.receipt.observedAtSeq ≤ head
  verdict : evaluateAuthoritativeVerdict decision.role session.action.toActionCanonicalFields
    interval.version.value.val = some decision.verdict

theorem resolveInterval_cases {database : EpochDatabase} {session : EpochSession} {head : Nat}
    {resolver : ResourceVersionResolver} {decision : DependencyCertificate}
    {interval : ResolvedInterval}
    (h : resolveInterval database session head resolver decision = .ok interval) :
    Resolves database session head resolver decision interval := by
  simp only [resolveInterval, bind_eq_ok, mapError_eq_ok, orStop_eq_ok, require_eq_ok,
    pure_eq_ok] at h
  obtain ⟨binding, hbound, _, hanswer, ⟨source, entityKey, version⟩, rfl, -, hresource, -,
    hparses, -, hrevision, -, hvalue, -, hverified, -, huntil, -, hobserved, verdict, hverdict,
    -, rfl, rfl⟩ := h
  obtain ⟨rfl, rfl⟩ := hresource
  exact { role_eq := rfl, owner_eq := rfl, decision_eq := rfl, bound := ⟨binding, hbound, rfl⟩,
          answered := ⟨_, rfl, rfl, rfl, hanswer⟩, parses := hparses, revision := hrevision,
          valueHash := hvalue, verified := hverified, until_le := huntil,
          effectiveUntil := rfl, observed := hobserved, verdict := hverdict }

theorem resolveIntervals_cases {database : EpochDatabase} {session : EpochSession}
    {decisions : PerRole DependencyCertificate} {head : Nat}
    {resolver : ResourceVersionResolver} {intervals : PerRole ResolvedInterval}
    (h : resolveIntervals database session decisions head resolver = .ok intervals) :
    (∀ role, Resolves database session head resolver (decisions.get role)
      (intervals.get role)) ∧
      (intervals.map fun i => i.receipt.receiptId).Distinct := by
  simp only [resolveIntervals, bind_eq_ok, PerRole.mapRoles_eq_ok, require_eq_ok,
    pure_eq_ok] at h
  obtain ⟨_, hall, -, hdistinct, rfl⟩ := h
  exact ⟨fun role => resolveInterval_cases (hall role), hdistinct⟩

/-! ## Fenced intervals -/

/-- The interval of a version with an open end read as the sequence after the
head. -/
def fenced (head : Nat) (version : ResourceVersion) : HalfOpen :=
  version.interval.closeAt (head + 1)

section Fenced

variable {database : EpochDatabase} {session : EpochSession} {head : Nat}
  {resolver : ResourceVersionResolver} {decisions : PerRole DependencyCertificate}
  {intervals : PerRole ResolvedInterval}

theorem Resolves.mem_fenced {decision : DependencyCertificate} {interval : ResolvedInterval}
    (h : Resolves database session head resolver decision interval) {s : Nat} :
    s ∈ fenced head interval.version ↔
      interval.version.validFromSeq ≤ s ∧ s < interval.effectiveUntil := by
  simp [fenced, HalfOpen.closeAt, ResourceVersion.interval, h.effectiveUntil]

/-- No resolved interval is empty. -/
theorem Resolves.from_lt_until {decision : DependencyCertificate} {interval : ResolvedInterval}
    (h : Resolves database session head resolver decision interval) :
    interval.version.validFromSeq < interval.effectiveUntil :=
  h.observed.1.trans_lt h.observed.2.1

theorem Resolves.covers_head {decision : DependencyCertificate} {interval : ResolvedInterval}
    (h : Resolves database session head resolver decision interval) :
    intervalCoversHead interval head = true ↔ head ∈ fenced head interval.version := by
  rw [h.mem_fenced, h.effectiveUntil]
  cases huntil : interval.version.validUntilSeq <;> simp [intervalCoversHead, huntil]

/-- The version is in every fenced interval exactly between the bounds. -/
theorem forall_mem_fenced
    (h : ∀ role, Resolves database session head resolver (decisions.get role)
      (intervals.get role)) {s : Nat} :
    (∀ role, s ∈ fenced head (intervals.get role).version) ↔
      lowerBound intervals ≤ s ∧ s < upperBound intervals := by
  rw [← Common.forall_mem_iff (lowerBound_isGreatest intervals) (upperBound_isLeast intervals)]
  exact forall_congr' fun role => (h role).mem_fenced

theorem exists_mem_fenced
    (h : ∀ role, Resolves database session head resolver (decisions.get role)
      (intervals.get role)) :
    (∃ s, ∀ role, s ∈ fenced head (intervals.get role).version) ↔
      lowerBound intervals < upperBound intervals := by
  rw [← Common.exists_common_iff (lowerBound_isGreatest intervals)
    (upperBound_isLeast intervals)]
  exact exists_congr fun s => forall_congr' fun role => (h role).mem_fenced

theorem no_invalid_iff
    (h : ∀ role, Resolves database session head resolver (decisions.get role)
      (intervals.get role)) :
    currentInvalidAgentIds intervals head = [] ↔
      ∀ role, head ∈ fenced head (intervals.get role).version := by
  rw [List.eq_nil_iff_forall_not_mem]
  simp only [mem_currentInvalidAgentIds, not_exists, not_and, Bool.not_eq_false]
  constructor
  · exact fun hall role => (h role).covers_head.mp (hall _ role rfl)
  · exact fun hall _ role _ => (h role).covers_head.mpr (hall role)

end Fenced

/-! ## Classification -/

section Classification

variable {database : EpochDatabase} {session : EpochSession} {head : Nat}
  {resolver : ResourceVersionResolver} {decisions : PerRole DependencyCertificate}
  {intervals : PerRole ResolvedInterval}

/-- A No-Cut proof names two receipts whose intervals have no common point. -/
def Witnesses (intervals : PerRole ResolvedInterval) (head : Nat) (proof : NoCutProof) : Prop :=
  ∃ ending starting, ending ≠ starting ∧
    proof.conflictWitnessReceiptIds =
      ((intervals.get ending).receipt.receiptId, (intervals.get starting).receipt.receiptId) ∧
    ∀ s, s ∈ fenced head (intervals.get starting).version →
      s ∉ fenced head (intervals.get ending).version

/-- The three ways in which a classification ends. -/
theorem classify_cases (ids : PerRole OpaqueId) (options : Options)
    (h : ∀ role, Resolves database session head resolver (decisions.get role)
      (intervals.get role)) :
    ∃ result, classify head session ids decisions intervals options = .ok result ∧
      result.currentInvalidAgentIds = currentInvalidAgentIds intervals head ∧
      ((upperBound intervals ≤ lowerBound intervals ∧
          result.validationRecord.outcome = .NO_VALID_OBSERVED_WORLD_CUT ∧
          ∃ proof, result.noCutProof = some proof ∧ Witnesses intervals head proof) ∨
        (lowerBound intervals < upperBound intervals ∧
          currentInvalidAgentIds intervals head ≠ [] ∧
          result.validationRecord.outcome = .HISTORICAL_BUT_STALE_NOW ∧
          result.noCutProof = none) ∨
        (lowerBound intervals < upperBound intervals ∧
          currentInvalidAgentIds intervals head = [] ∧
          result.validationRecord.outcome =
            (if ∃ role, (decisions.get role).verdict = .DENY then .CONSISTENT_DENY
              else .VALID_CURRENT_ALLOW) ∧
          result.noCutProof = none)) := by
  by_cases hbounds : upperBound intervals ≤ lowerBound intervals
  · have hinvalid : currentInvalidAgentIds intervals head ≠ [] := by
      rw [Ne, no_invalid_iff h, forall_mem_fenced h]
      omega
    -- both ends of the gap are the end of some interval, so that a witness is found
    obtain ⟨ending, hfound, hending⟩ : ∃ role,
        leastReceipt intervals (fun i => i.effectiveUntil = upperBound intervals) =
          some (intervals.get role) ∧
        (intervals.get role).effectiveUntil = upperBound intervals := by
      rcases leastReceipt_cases intervals
        (fun i => i.effectiveUntil = upperBound intervals) with ⟨-, hnone⟩ | ⟨role, hr⟩
      · obtain ⟨role, hrole⟩ := (upperBound_isLeast intervals).1
        simpa [hrole] using hnone role
      · exact ⟨role, by simpa using hr⟩
    obtain ⟨starting, hfound', hstarting⟩ : ∃ role,
        leastReceipt intervals (fun i => i.version.validFromSeq = lowerBound intervals) =
          some (intervals.get role) ∧
        (intervals.get role).version.validFromSeq = lowerBound intervals := by
      rcases leastReceipt_cases intervals
        (fun i => i.version.validFromSeq = lowerBound intervals) with ⟨-, hnone⟩ | ⟨role, hr⟩
      · obtain ⟨role, hrole⟩ := (lowerBound_isGreatest intervals).1
        simpa [hrole] using hnone role
      · exact ⟨role, by simpa using hr⟩
    obtain ⟨hne, hdisjoint⟩ := Common.witnesses
      (fun role => (intervals.get role).version.validFromSeq)
      (fun role => (intervals.get role).effectiveUntil) hstarting hending
      (fun role => (h role).from_lt_until) hbounds
    obtain ⟨result, hrun⟩ : ∃ result,
        classify head session ids decisions intervals options = .ok result := by
      simp only [classify, hbounds, if_true, hfound, hfound', bind_eq_ok, require_eq_ok,
        orStop_eq_ok]
      exact ⟨_, (), hinvalid, _, rfl, _, rfl, rfl⟩
    refine ⟨result, hrun, ?_⟩
    simp only [classify, hbounds, if_true, hfound, hfound', bind_eq_ok, require_eq_ok,
      orStop_eq_ok, Option.some.injEq, pure_eq_ok] at hrun
    obtain ⟨-, -, _, rfl, _, rfl, rfl⟩ := hrun
    refine ⟨rfl, .inl ⟨hbounds, rfl, _, rfl, ending, starting, hne.symm, rfl, ?_⟩⟩
    intro s hs hs'
    exact hdisjoint s ((h starting).mem_fenced.mp hs).1 ((h ending).mem_fenced.mp hs').2
  · -- the intervals meet, and the head decides between the other two endings
    have hlt : lowerBound intervals < upperBound intervals := not_le.mp hbounds
    by_cases hinvalid : currentInvalidAgentIds intervals head = []
    · obtain ⟨result, hrun⟩ : ∃ result,
          classify head session ids decisions intervals options = .ok result := by
        simp only [classify, hbounds, if_false, hinvalid, ne_eq, not_true_eq_false]
        exact ⟨_, rfl⟩
      refine ⟨result, hrun, ?_⟩
      simp only [classify, hbounds, if_false, hinvalid, ne_eq, not_true_eq_false,
        pure_eq_ok] at hrun
      subst hrun
      have hany : decisions.toList.any (fun d => decide (d.verdict = .DENY)) =
          decide (∃ role, (decisions.get role).verdict = .DENY) := by
        rw [Bool.eq_iff_iff]
        simp only [List.any_eq_true, decide_eq_true_eq, PerRole.mem_toList]
        constructor
        · rintro ⟨_, ⟨role, rfl⟩, hd⟩
          exact ⟨role, hd⟩
        · rintro ⟨role, hd⟩
          exact ⟨_, ⟨role, rfl⟩, hd⟩
      exact ⟨hinvalid.symm, .inr (.inr ⟨hlt, hinvalid, by simp only [hany, decide_eq_true_eq],
        rfl⟩)⟩
    · obtain ⟨result, hrun⟩ : ∃ result,
          classify head session ids decisions intervals options = .ok result := by
        simp only [classify, hbounds, if_false, hinvalid, ne_eq, not_false_eq_true, if_true]
        exact ⟨_, rfl⟩
      refine ⟨result, hrun, ?_⟩
      simp only [classify, hbounds, if_false, hinvalid, ne_eq, not_false_eq_true, if_true,
        pure_eq_ok] at hrun
      subst hrun
      exact ⟨rfl, .inr (.inl ⟨hlt, hinvalid, rfl, rfl⟩)⟩

/-- The two guards on a No-Cut result. -/
def IsGuard (error : JointValidityValidationError) : Prop :=
  error = .noInvalidOwner ∨ error = .noWitness

omit [Sha256] in
theorem activeDecisionTuple_not_guard {sessionId : OpaqueId}
    {error : JointValidityValidationError}
    (h : activeDecisionTuple database sessionId = .error error) : ¬IsGuard error := by
  rintro (rfl | rfl) <;>
  · simp only [activeDecisionTuple, requireUnique, bind_eq_error, orStop_eq_error,
      require_eq_error, pure_ne_error, reduceCtorEq, and_false, exists_false, or_false,
      false_or] at h
    obtain ⟨session, -, ids, -, -, -, h⟩ := h
    obtain ⟨role, hrole⟩ := PerRole.mapRoles_eq_error h
    simp [bind_eq_error, orStop_eq_error, require_eq_error, map_eq_error] at hrole

theorem resolveIntervals_not_guard {error : JointValidityValidationError}
    (h : resolveIntervals database session decisions head resolver = .error error) :
    ¬IsGuard error := by
  rintro (rfl | rfl) <;>
  · simp only [resolveIntervals, bind_eq_error, require_eq_error, pure_ne_error, and_false,
      exists_false, or_false, reduceCtorEq] at h
    obtain ⟨role, hrole⟩ := PerRole.mapRoles_eq_error h
    simp [resolveInterval, bind_eq_error, require_eq_error, orStop_eq_error,
      mapError_eq_error, map_eq_error] at hrole

/-- A version that a receipt of a session's active decision names. -/
structure ActiveEvidence where
  decision : DependencyCertificate
  receipt : ObservationReceipt
  version : ResourceVersion

/-- The active decision of a role, its receipt, and the version that the
identity rule resolves the receipt to. -/
structure IsActiveEvidence (database : EpochDatabase) (session : EpochSession) (role : Role)
    (evidence : ActiveEvidence) : Prop where
  active : session.activeDecisionCertificateIds.get role = some evidence.decision.certificateId
  decision_mem : evidence.decision ∈ database.decisions
  decision_role : evidence.decision.role = role
  receipt_mem : evidence.receipt ∈ database.receipts
  names_receipt : evidence.receipt.receiptId = evidence.decision.receiptId
  identifies : Identifies database.toWorld evidence.receipt.source evidence.receipt.entityKey
    evidence.receipt.sourceRevision evidence.version

/-- The classification is sound and complete for the fenced intervals of the
authoritative versions: which of the four outcomes is recorded depends on
whether the intervals meet, whether the head is in all of them, and what the
versions say of the action. The two receipts of a No-Cut proof are disjoint
already, and neither guard on such a result can fail. -/
theorem validateJointValidity_classifies (database : EpochDatabase) (sessionId : OpaqueId)
    (options : Options) :
    (∀ result, validateJointValidity database sessionId (identityResolver database.toWorld)
        options = .ok result →
      ∃ session ∈ database.sessions, session.sessionId = sessionId ∧
      ∃ evidence : PerRole ActiveEvidence,
        (∀ role, IsActiveEvidence database session role (evidence.get role)) ∧
        (evidence.map fun e => e.receipt.receiptId).Distinct ∧
        let interval := fun role => fenced database.headSeq (evidence.get role).version
        let outcome := result.validationRecord.outcome
        (outcome = .NO_VALID_OBSERVED_WORLD_CUT ↔ ¬∃ s, ∀ role, s ∈ interval role) ∧
        (outcome = .HISTORICAL_BUT_STALE_NOW ↔
          (∃ s, ∀ role, s ∈ interval role) ∧ ¬∀ role, database.headSeq ∈ interval role) ∧
        (outcome = .CONSISTENT_DENY ∨ outcome = .VALID_CURRENT_ALLOW ↔
          ∀ role, database.headSeq ∈ interval role) ∧
        (outcome = .CONSISTENT_DENY ↔ (∀ role, database.headSeq ∈ interval role) ∧
          ∃ role, evaluateAuthoritativeVerdict role session.action.toActionCanonicalFields
            (evidence.get role).version.value.val = some .DENY) ∧
        (∀ agentId, agentId ∈ result.currentInvalidAgentIds ↔
          ∃ role, (evidence.get role).decision.agentId = agentId ∧
            database.headSeq ∉ interval role) ∧
        (outcome = .NO_VALID_OBSERVED_WORLD_CUT →
          ∃ proof, result.noCutProof = some proof ∧
          ∃ ending starting, ending ≠ starting ∧
            proof.conflictWitnessReceiptIds =
              ((evidence.get ending).receipt.receiptId,
                (evidence.get starting).receipt.receiptId) ∧
            proof.conflictWitnessReceiptIds.1 ≠ proof.conflictWitnessReceiptIds.2 ∧
            ∀ s, s ∈ interval starting → s ∉ interval ending)) ∧
    validateJointValidity database sessionId (identityResolver database.toWorld) options ≠
      .error .noInvalidOwner ∧
    validateJointValidity database sessionId (identityResolver database.toWorld) options ≠
      .error .noWitness := by
  -- both guards are errors of `classify`, which never fails on resolved intervals
  have hguard : ∀ error, validateJointValidity database sessionId
      (identityResolver database.toWorld) options = .error error → ¬IsGuard error := by
    intro error h
    simp only [validateJointValidity, bind_eq_error, require_eq_error] at h
    rcases h with ⟨-, rfl⟩ | ⟨-, -, h | ⟨⟨session, ids, decisions⟩, -, h⟩⟩
    · simp [IsGuard]
    · exact activeDecisionTuple_not_guard h
    · rcases h with h | ⟨intervals, hresolve, h⟩
      · exact resolveIntervals_not_guard h
      · obtain ⟨result, hok, -⟩ := classify_cases ids options
          (resolveIntervals_cases hresolve).1
        simp [hok] at h
  refine ⟨?_, fun h => hguard _ h (.inl rfl), fun h => hguard _ h (.inr rfl)⟩
  intro result h
  simp only [validateJointValidity, bind_eq_ok, require_eq_ok] at h
  obtain ⟨-, -, ⟨session, ids, decisions⟩, htuple, intervals, hresolve, hclassify⟩ := h
  obtain ⟨hsession, hactive, -, hdecisions⟩ := activeDecisionTuple_eq_ok.mp htuple
  obtain ⟨hintervals, hdistinct⟩ := resolveIntervals_cases hresolve
  obtain ⟨hmem, hid⟩ := single?_mem hsession
  refine ⟨session, hmem, by simpa using hid,
    intervals.map fun i => ⟨i.decision, i.receipt, i.version⟩, ?_, ?_⟩
  · -- what `resolveIntervals` has looked up for a role is its active evidence
    intro role
    rw [PerRole.get_map]
    have hrole := hintervals role
    obtain ⟨binding, hbound, hreceipt⟩ := hrole.bound
    obtain ⟨hdecision, hdrole⟩ := hdecisions role
    obtain ⟨hreceiptMem, hreceiptId⟩ := resolveBoundDecision_receipt hbound
    obtain ⟨lookup, hsource, hkey, hrevision, hanswer⟩ := hrole.answered
    obtain ⟨hdmem, hdid⟩ := single?_mem hdecision
    simp only [identityResolver, bind_eq_ok, pure_eq_ok, Option.map_eq_some_iff,
      ResourceVersionResolution.mk.injEq] at hanswer
    obtain ⟨_, hresolved, version, rfl, -, -, rfl⟩ := hanswer
    refine { active := ?_, decision_mem := ?_, decision_role := ?_, receipt_mem := ?_,
             names_receipt := ?_, identifies := ?_ }
    · simp only [decide_eq_true_eq] at hdid
      simp [hrole.decision_eq, hactive role, hdid]
    · simpa [hrole.decision_eq] using hdmem
    · simpa [hrole.decision_eq] using hdrole
    · exact hreceipt ▸ hreceiptMem
    · simp only [hrole.decision_eq]
      exact hreceipt ▸ hreceiptId
    · exact hsource ▸ hkey ▸ hrevision ▸
        resolveResourceVersionByIdentity_eq_some.mp hresolved
  · -- the three endings of `classify`, read as statements about the intervals
    have hcommon := exists_mem_fenced hintervals
    have hcovers := forall_mem_fenced hintervals (s := database.headSeq)
    have hinvalid := no_invalid_iff hintervals
    have hdeny : (∃ role, (decisions.get role).verdict = .DENY) ↔
        ∃ role, evaluateAuthoritativeVerdict role session.action.toActionCanonicalFields
          (intervals.get role).version.value.val = some .DENY := by
      refine exists_congr fun role => ?_
      have hverdict := (hintervals role).verdict
      rw [(hdecisions role).2] at hverdict
      simp [hverdict]
    refine ⟨hdistinct, ?_⟩
    simp only [PerRole.get_map]
    obtain ⟨_, hrun, hids, hcases⟩ := classify_cases ids options hintervals
    rw [hclassify] at hrun
    cases hrun
    have hagents : ∀ agentId, agentId ∈ result.currentInvalidAgentIds ↔
        ∃ role, (intervals.get role).decision.agentId = agentId ∧
          database.headSeq ∉ fenced database.headSeq (intervals.get role).version := by
      intro agentId
      rw [hids, mem_currentInvalidAgentIds]
      refine exists_congr fun role => and_congr ?_ ?_
      · rw [(hintervals role).owner_eq, (hintervals role).decision_eq]
      · rw [← (hintervals role).covers_head, Bool.not_eq_true]
    rcases hcases with ⟨hle, houtcome, proof, hproof, ending, starting, hne, hreceipts, hdisj⟩ |
      ⟨hlt, hstale, houtcome, -⟩ | ⟨hlt, hcurrent, houtcome, -⟩
    · have hnone : ¬∃ s, ∀ role, s ∈ fenced database.headSeq (intervals.get role).version := by
        rw [hcommon]
        omega
      have hhead : ¬∀ role, database.headSeq ∈
          fenced database.headSeq (intervals.get role).version := fun hall => hnone ⟨_, hall⟩
      refine ⟨by simp [houtcome, hnone], by simp [houtcome, hnone], by simp [houtcome, hhead],
        by simp [houtcome, hhead], hagents, fun _ => ⟨proof, hproof, ending, starting, hne,
          hreceipts, ?_, hdisj⟩⟩
      rw [hreceipts]
      simpa using hdistinct.ne hne
    · have hsome : ∃ s, ∀ role, s ∈ fenced database.headSeq (intervals.get role).version :=
        hcommon.mpr hlt
      have hhead : ¬∀ role, database.headSeq ∈
          fenced database.headSeq (intervals.get role).version := fun hall =>
        hstale (hinvalid.mpr hall)
      exact ⟨by simp [houtcome, hsome], by simp [houtcome, hsome, hhead],
        by simp [houtcome, hhead], by simp [houtcome, hhead], hagents, by simp [houtcome]⟩
    · have hhead := hinvalid.mp hcurrent
      have hsome : ∃ s, ∀ role, s ∈ fenced database.headSeq (intervals.get role).version :=
        ⟨_, hhead⟩
      simp only [hdeny] at houtcome
      by_cases hd : ∃ role, evaluateAuthoritativeVerdict role
        session.action.toActionCanonicalFields (intervals.get role).version.value.val = some .DENY
      · rw [if_pos hd] at houtcome
        exact ⟨by simp [houtcome, hsome], by simp [houtcome, hhead], by simp [houtcome, hhead],
          by simp [houtcome, hhead, hd], hagents, by simp [houtcome]⟩
      · rw [if_neg hd] at houtcome
        exact ⟨by simp [houtcome, hsome], by simp [houtcome, hhead], by simp [houtcome, hhead],
          by simp [houtcome, hd], hagents, by simp [houtcome]⟩

end Classification

end JointValidity

end EpochGuard
