import EpochGuard.PackStability

/-!
# The version of a receipt

A receipt names a version by its resource and its source revision. The issuer,
the validator and the gate look it up so (`world-ledger.ts`,
`receipt-issuer.ts`); the session view (`session-view-builder.ts`) and the
closure of a diagnostic (`safety-diagnostics.ts`) look for the revision and the
value hash in the whole history. The lookups agree unless another resource has a
version with the same revision and the same value.
-/

namespace EpochGuard

open Json Checked

/-! ## The lookups of the readers -/

namespace SessionView

/-- The one match of a lookup, or the failure of the projection. -/
def unique {α : Type} (values : List α) (p : α → Bool) (label : String) : Except String α :=
  orStop (single? values p)
    (label ++ " must resolve exactly once in the captured EpochStore snapshot.")

variable [Sha256]

def resolveReceiptVersion (database : EpochDatabase) (session : EpochSession)
    (receipt : ObservationReceipt) : Except String ResourceVersion := do
  let query ← unique database.roleQuerySpecs (fun q => q.queryHash = receipt.queryHash)
    "RoleQuerySpec"
  require (canonicalJson query.toJson = canonicalJson
        (buildRoleQuerySpec session.action.toActionCanonicalFields receipt.role).toJson ∧
      query.actionHash = session.actionHash ∧ query.role = receipt.role ∧
      query.source = receipt.source ∧ query.entityKey = receipt.entityKey)
    "Receipt query provenance does not match its frozen Role Query."
  let version ← unique database.resourceVersions
    (fun v => v.sourceRevision = receipt.sourceRevision && v.valueHash = receipt.valueHash)
    "ResourceVersion"
  require version.Verified "ResourceVersion value hash is inconsistent."
  require (version.validFromSeq ≤ receipt.observedAtSeq ∧
      receipt.observedAtSeq < version.validUntilSeq.getD (database.headSeq + 1) ∧
      receipt.observedAtSeq ≤ database.headSeq)
    "Receipt observation is outside its authoritative half-open interval."
  return version

end SessionView

namespace SafetyDiagnostics

variable [Sha256]

/-- The version that the closure of a diagnostic reads for a receipt. -/
def resolveDiagnosticVersion (database : EpochDatabase) (receipt : ObservationReceipt) :
    Checks ResourceVersion := do
  let unversioned :=
    chain "Diagnostic Receipt does not close over one authoritative ResourceVersion."
  let version ← orStop (receiptVersion database receipt) unversioned
  require (version.Verified ∧ version.validFromSeq ≤ receipt.observedAtSeq ∧
      receipt.observedAtSeq < version.validUntilSeq.getD (database.headSeq + 1) ∧
      receipt.observedAtSeq ≤ database.headSeq) unversioned
  return version

/-- The evidence of a decision is the stored decision and its stored receipt. -/
theorem resolveDecisionReceiptEvidence_records {database : EpochDatabase}
    {diagnostic : SafetyDiagnostic} {decisionId : OpaqueId} {expectedRole : Role}
    {evidence : ResolvedDiagnosticEvidence}
    (h : resolveDecisionReceiptEvidence database diagnostic decisionId expectedRole =
      .ok evidence) :
    evidence.decision ∈ database.decisions ∧ evidence.receipt ∈ database.receipts ∧
      evidence.decision.certificateId = decisionId ∧
      evidence.decision.receiptId = evidence.receipt.receiptId := by
  simp only [resolveDecisionReceiptEvidence, bind_eq_ok, orStop_eq_ok, require_eq_ok,
    pure_eq_ok] at h
  obtain ⟨decision, hdecision, -, -, assignment, -, attempt, -, -, -, receipt, hreceipt, -, -,
    session, -, query, -, registration, -, -, -, version, -, -, -, rfl⟩ := h
  obtain ⟨hstored, hid⟩ := single?_mem hdecision
  obtain ⟨hissued, howned⟩ := single?_mem hreceipt
  exact ⟨hstored, hissued, of_decide_eq_true hid, (of_decide_eq_true howned).symm⟩

/-- The closure of a decision reads the version of its receipt so. -/
theorem resolveDecisionReceiptEvidence_version {database : EpochDatabase}
    {diagnostic : SafetyDiagnostic} {decisionId : OpaqueId} {expectedRole : Role}
    {evidence : ResolvedDiagnosticEvidence}
    (h : resolveDecisionReceiptEvidence database diagnostic decisionId expectedRole =
      .ok evidence) :
    resolveDiagnosticVersion database evidence.receipt = .ok evidence.version := by
  simp only [resolveDecisionReceiptEvidence, bind_eq_ok, orStop_eq_ok, require_eq_ok,
    pure_eq_ok] at h
  obtain ⟨decision, -, -, -, assignment, -, attempt, -, -, -, receipt, -, -, -, session, -, query,
    -, registration, -, -, -, version, hversion, -, hinterval, rfl⟩ := h
  simp only [resolveDiagnosticVersion, bind_eq_ok, orStop_eq_ok, require_eq_ok, pure_eq_ok]
  exact ⟨version, hversion, (), hinterval, rfl⟩

end SafetyDiagnostics

namespace Service

open SessionView SafetyDiagnostics Runs

section Readers

variable [Sha256] {database : EpochDatabase} {receipt : ObservationReceipt}
  {version : ResourceVersion}

/-- All readers of a receipt find one version. -/
structure ReadersAgree (database : EpochDatabase) (receipt : ObservationReceipt)
    (version : ResourceVersion) : Prop where
  identity : resolveResourceVersionByIdentity database.toWorld receipt.source receipt.entityKey
    receipt.sourceRevision = .ok (some version)
  issuer : resolveReceiptResourceVersion database.toWorld receipt = .ok version
  view : ∃ session, sessionById database receipt.sessionId = .ok (some session) ∧
    resolveReceiptVersion database session receipt = .ok version
  diagnostics : resolveDiagnosticVersion database receipt = .ok version

/-- No version of another resource has the receipt's revision and value hash. -/
def Unambiguous (database : EpochDatabase) (receipt : ObservationReceipt) : Prop :=
  ∀ v ∈ database.resourceVersions, v.sourceRevision = receipt.sourceRevision →
    v.valueHash = receipt.valueHash →
    resourceIdFor receipt.source receipt.entityKey = some v.resourceId

/-- The lookup over the whole history. -/
def byRevisionAndHash (receipt : ObservationReceipt) (v : ResourceVersion) : Bool :=
  v.sourceRevision = receipt.sourceRevision && v.valueHash = receipt.valueHash

theorem single_byRevisionAndHash (h : Observes database.toWorld receipt version) :
    single? database.resourceVersions (byRevisionAndHash receipt) = some version ↔
      Unambiguous database receipt := by
  have hself : byRevisionAndHash receipt version = true := by
    simp [byRevisionAndHash, h.identified.revision, h.value]
  constructor
  · intro hsingle v hv hrevision hhash
    have hsame := single?_unique hsingle hv (by simp [byRevisionAndHash, hrevision, hhash])
    rw [hsame]
    exact h.identified.resource
  · intro hunambiguous
    -- every match is a version of the resource, of which there is one
    have honly : ∀ v ∈ database.resourceVersions, byRevisionAndHash receipt v = true →
        hasRevision version.resourceId.val receipt.sourceRevision v = true := by
      intro v hv hmatch
      simp only [byRevisionAndHash, Bool.and_eq_true, decide_eq_true_eq] at hmatch
      have hresource := hunambiguous v hv hmatch.1 hmatch.2
      rw [h.identified.resource, Option.some.injEq] at hresource
      simp [hasRevision, hmatch.1, hresource]
    rw [single?_eq_some]
    have hfilter : database.resourceVersions.filter (byRevisionAndHash receipt) =
        (database.resourceVersions.filter
          (hasRevision version.resourceId.val receipt.sourceRevision)).filter
          (byRevisionAndHash receipt) := by
      rw [List.filter_filter]
      refine List.filter_congr fun v hv => ?_
      cases hmatch : byRevisionAndHash receipt v
      · rfl
      · rw [honly v hv hmatch]
        rfl
    rw [hfilter, h.identified.only]
    simp [hself]

/-- The interval as the view and the diagnostics check it. -/
theorem interval_of_observes (h : Observes database.toWorld receipt version) :
    version.validFromSeq ≤ receipt.observedAtSeq ∧
      receipt.observedAtSeq < version.validUntilSeq.getD (database.headSeq + 1) ∧
      receipt.observedAtSeq ≤ database.headSeq := by
  have hobserved : receipt.observedAtSeq ≤ database.headSeq := h.observed
  refine ⟨h.start, ?_, hobserved⟩
  cases huntil : version.validUntilSeq with
  | none => exact Nat.lt_succ_of_le hobserved
  | some u => exact (h.stop u huntil).1

/-- The diagnostics read the version that the receipt was issued for, and only
where the receipt is unambiguous. -/
theorem resolveDiagnosticVersion_eq_ok {found : ResourceVersion}
    (h : Observes database.toWorld receipt version) :
    resolveDiagnosticVersion database receipt = .ok found ↔
      found = version ∧ Unambiguous database receipt := by
  simp only [resolveDiagnosticVersion, receiptVersion, bind_eq_ok, orStop_eq_ok, require_eq_ok,
    pure_eq_ok]
  constructor
  · rintro ⟨only, honly, -, -, rfl⟩
    -- the observed version is a match, so it is the only one
    have hself : version = only := by
      refine single?_unique honly h.identified.mem ?_
      simp [h.identified.revision, h.value]
    obtain rfl := hself
    exact ⟨rfl, (single_byRevisionAndHash h).mp honly⟩
  · rintro ⟨rfl, hunambiguous⟩
    exact ⟨found, (single_byRevisionAndHash h).mpr hunambiguous, (),
      ⟨h.identified.intact.2, interval_of_observes h⟩, rfl⟩

/-- What a receipt of a store was issued for. -/
structure IssuedFor (database : EpochDatabase) (receipt : ObservationReceipt)
    (session : EpochSession) (query : RoleQuerySpec) (version : ResourceVersion) : Prop where
  hasSession : sessionById database receipt.sessionId = .ok (some session)
  hasQuery : single? database.roleQuerySpecs (fun q => q.queryHash = receipt.queryHash) =
    some query
  asked : query = buildRoleQuerySpec session.action.toActionCanonicalFields receipt.role ∧
    query.actionHash = session.actionHash
  bound : query.role = receipt.role ∧ query.source = receipt.source ∧
    query.entityKey = receipt.entityKey
  observes : Observes database.toWorld receipt version

theorem issuedFor_of_sealed (hinv : database.evidence.Inv) (hsealed : Sealed database)
    (hrecorded : Recorded database) (hreceipt : receipt ∈ database.receipts) :
    ∃ session query version, IssuedFor database receipt session query version := by
  obtain ⟨built, hbuilt⟩ := hsealed receipt hreceipt
  obtain ⟨assignment, session, found, query, version, hpacked⟩ := writePack_eq_ok.mp hbuilt
  have hid : assignment.assignmentId = receipt.runAssignmentId := by
    simpa using List.find?_some hpacked.hasAssignment
  have hqueryHash : query.queryHash = assignment.queryHash := by
    simpa using List.find?_some hpacked.hasQuery
  have hbuild := hpacked.builds
  simp only [buildCanonicalEvidencePack, assertBindings, bind_eq_ok, require_eq_ok] at hbuild
  obtain ⟨-, hparses, -, -, -, ⟨-, -, -, hassignment, -, hrole, -, hcanonical, -, hbinding, -⟩,
    -⟩ := hbuild
  obtain ⟨-, howner, hsession, -, -, hreceiptRole, hreceiptQuery, hsource, hentity⟩ := hbinding
  -- an assignment has one receipt
  obtain rfl : found = receipt := by
    have hfound : found ∈ database.receipts := List.mem_of_find?_eq_some hpacked.hasReceipt
    exact List.inj_on_of_nodup_map hinv.receiptOwners hfound hreceipt (howner.trans hid)
  have hasked : query = buildRoleQuerySpec session.action.toActionCanonicalFields
      found.role := by
    rw [hreceiptRole]
    exact RoleQuerySpec.toJson_inj hcanonical
  refine ⟨session, query, version, ?_, ?_, ⟨hasked, ?_⟩, ⟨?_, hsource.symm, hentity.symm⟩,
    hpacked.observes⟩
  · rw [hsession]
    exact hpacked.hasSession
  · have hmem : query ∈ database.roleQuerySpecs := List.mem_of_find?_eq_some hpacked.hasQuery
    have hsingle := single?_of_nodup_key hrecorded.queries hmem
    rwa [hqueryHash, ← hreceiptQuery] at hsingle
  · have hstored := (sessionById_some hpacked.hasSession).1
    rw [hasked, buildRoleQuerySpec_actionHash, hrecorded.sessions session hstored]
    exact hparses.2.2.1.symm
  · exact hrole.1.symm.trans hreceiptRole.symm

/-- The readers agree exactly on the receipts whose revision and value no other
resource has. -/
theorem readersAgree_iff {session : EpochSession} {query : RoleQuerySpec}
    (h : IssuedFor database receipt session query version) :
    ReadersAgree database receipt version ↔ Unambiguous database receipt := by
  constructor
  · intro hagree
    exact ((resolveDiagnosticVersion_eq_ok h.observes).mp hagree.diagnostics).2
  · intro hunambiguous
    have hsingle := (single_byRevisionAndHash h.observes).mpr hunambiguous
    have hverified : version.Verified := h.observes.identified.intact.2
    have hinterval := interval_of_observes h.observes
    refine ⟨resolveResourceVersionByIdentity_eq_some.mpr h.observes.identified,
      resolveReceiptResourceVersion_eq_ok.mpr h.observes, ⟨session, h.hasSession, ?_⟩,
      (resolveDiagnosticVersion_eq_ok h.observes).mpr ⟨rfl, hunambiguous⟩⟩
    simp only [resolveReceiptVersion, unique, bind_eq_ok, orStop_eq_ok, require_eq_ok,
      pure_eq_ok]
    exact ⟨query, h.hasQuery, (), ⟨by rw [h.asked.1], h.asked.2, h.bound⟩, version, hsingle, (),
      hverified, (), hinterval, rfl⟩

/-- The evidence of a decision that a diagnostic relies on resolves only over an
unambiguous receipt, to the version the receipt was issued for. -/
theorem resolveDecisionReceiptEvidence_unambiguous {diagnostic : SafetyDiagnostic}
    {decisionId : OpaqueId} {role : Role} {evidence : ResolvedDiagnosticEvidence}
    (h : Observes database.toWorld evidence.receipt version)
    (hevidence : resolveDecisionReceiptEvidence database diagnostic decisionId role =
      .ok evidence) :
    evidence.version = version ∧ Unambiguous database evidence.receipt :=
  (resolveDiagnosticVersion_eq_ok h).mp (resolveDecisionReceiptEvidence_version hevidence)

end Readers

/-- Every issued receipt names one version for the issuer, the validator and the
gate; all readers find it exactly if the receipt is unambiguous. The closure of
a diagnostic that resolves the receipt found that version, and the receipt was
unambiguous. -/
theorem receipt_readersAgree [Sha256] [DecisionParser.OutputPorts] {database : EpochDatabase}
    (h : Reachable database) : ∀ receipt ∈ database.receipts, ∃ version,
      resolveResourceVersionByIdentity database.toWorld receipt.source receipt.entityKey
        receipt.sourceRevision = .ok (some version) ∧
      resolveReceiptResourceVersion database.toWorld receipt = .ok version ∧
      ((∃ found, ReadersAgree database receipt found) ↔ Unambiguous database receipt) ∧
      ∀ diagnostic decisionId role evidence,
        resolveDecisionReceiptEvidence database diagnostic decisionId role = .ok evidence →
        evidence.receipt = receipt →
          evidence.version = version ∧ Unambiguous database receipt := by
  intro receipt hreceipt
  obtain ⟨hsealed, hrecorded⟩ := sealed_reachable h
  obtain ⟨session, query, version, hissued⟩ :=
    issuedFor_of_sealed (Evidence.inv_reachable h) hsealed hrecorded hreceipt
  have hissuer := resolveReceiptResourceVersion_eq_ok.mpr hissued.observes
  refine ⟨version, resolveResourceVersionByIdentity_eq_some.mpr hissued.observes.identified,
    hissuer, ?_, ?_⟩
  · rw [← readersAgree_iff hissued]
    constructor
    · rintro ⟨found, hagree⟩
      have hsame : found = version := Except.ok.inj (hagree.issuer.symm.trans hissuer)
      exact hsame ▸ hagree
    · exact fun hagree => ⟨version, hagree⟩
  · rintro diagnostic decisionId role evidence hevidence rfl
    exact resolveDecisionReceiptEvidence_unambiguous hissued.observes hevidence

/-- A view shows a session's diagnostics only while the receipts behind the
validations they close over are unambiguous: for each role the validation's
decision rests on a stored receipt, which no other resource's version matches. -/
theorem latestSafetyDiagnosticViews_unambiguous [Sha256] [DecisionParser.OutputPorts]
    {database : EpochDatabase} {sessionId : OpaqueId} {limit : Int}
    {views : List SafetyDiagnosticView} (h : Reachable database)
    (hviews : latestSafetyDiagnosticViews database sessionId limit = .ok views) :
    ∀ diagnostic ∈ database.diagnostics, diagnostic.sessionId = sessionId →
      diagnostic.reasonCode ∈ closesValidation →
      ∃ validation ∈ database.validations,
        refsOfKind diagnostic .VALIDATION = [validation.validationId] ∧
        ∀ role, ∃ decision ∈ database.decisions, ∃ receipt ∈ database.receipts,
          decision.certificateId = validation.decisionCertificateIds.get role ∧
          decision.receiptId = receipt.receiptId ∧ Unambiguous database receipt := by
  intro diagnostic hstored hsession hreason
  obtain ⟨validation, hvalidation, hreference, closure, hclosure⟩ :=
    resolvesValidation_of_latestSafetyDiagnosticViews hviews hstored hsession hreason
  refine ⟨validation, hvalidation, hreference, fun role => ?_⟩
  have hevidence := evidence_of_closure hclosure role
  obtain ⟨hdecision, hreceipt, hid, howned⟩ := resolveDecisionReceiptEvidence_records hevidence
  obtain ⟨hsealed, hrecorded⟩ := sealed_reachable h
  obtain ⟨session, query, version, hissued⟩ :=
    issuedFor_of_sealed (Evidence.inv_reachable h) hsealed hrecorded hreceipt
  exact ⟨_, hdecision, _, hreceipt, hid, howned,
    (resolveDecisionReceiptEvidence_unambiguous hissued.observes hevidence).2⟩

/-! ## A resource with the value of another -/

section Twin

open EpochGuard.Service.Sample

/-- A commit to another resource, with the value and the revision of the
observed inventory. -/
def twinCommit : WorldLedger.WorldCommitInput where
  changes := [⟨"stock:twin", Fixtures.availableUnits 1, some (natNumber 10)⟩]
  reason := "another resource with the same stock"
  expectedSeq := none
  createdAt := some later

/-- The issuer resolves a receipt that neither the view nor the diagnostics
resolve. -/
def Unresolved (database : EpochDatabase) : Prop :=
  ∃ receipt ∈ database.receipts,
    (resolveReceiptResourceVersion database.toWorld receipt).toOption.isSome = true ∧
    (∀ session ∈ database.sessions,
      (resolveReceiptVersion database session receipt).toOption.isSome = false) ∧
    (resolveDiagnosticVersion database receipt).toOption.isSome = false

instance (database : EpochDatabase) : Decidable (Unresolved database) :=
  inferInstanceAs (Decidable (∃ receipt ∈ database.receipts, _))

theorem twin_unresolved : (run publish emptyEpochDatabase
    (openingCalls ++ [.worldCommit twinCommit])).any (fun db => decide (Unresolved db)) = true := by
  have hrest : (run publish (created .normalWorldV1)
      [.transitionToCollecting sessionId time (stamp time), .worldCommit twinCommit]).any
        (fun db => decide (Unresolved db)) = true := by
    decide +kernel
  unfold openingCalls
  rw [List.append_assoc, List.cons_append, run_opening]
  exact hrest

theorem receipt_unresolved_by_view : ∃ database, Reachable database ∧
    ∃ receipt ∈ database.receipts,
      (∃ version, resolveReceiptResourceVersion database.toWorld receipt = .ok version) ∧
      (∀ session ∈ database.sessions, ∀ version,
        resolveReceiptVersion database session receipt ≠ .ok version) ∧
      (∀ version, resolveDiagnosticVersion database receipt ≠ .ok version) ∧
      ¬∃ version, ReadersAgree database receipt version := by
  obtain ⟨database, hdatabase, hunresolved⟩ := (Option.any_eq_true _ _).mp twin_unresolved
  obtain ⟨receipt, hreceipt, hissuer, hview, hdiagnostics⟩ := of_decide_eq_true hunresolved
  have hdiagnostics' : ∀ version, resolveDiagnosticVersion database receipt ≠ .ok version := by
    intro version h
    simp [h, Except.toOption] at hdiagnostics
  refine ⟨database, ⟨_, hdatabase⟩, receipt, hreceipt, ?_, ?_, hdiagnostics', ?_⟩
  · obtain ⟨version, hversion⟩ := Option.isSome_iff_exists.mp hissuer
    exact ⟨version, toOption_eq_some.mp hversion⟩
  · intro session hsession version h
    have hnone := hview session hsession
    simp [h, Except.toOption] at hnone
  · rintro ⟨version, hagree⟩
    exact hdiagnostics' version hagree.diagnostics

theorem receipt_readersAgree_sample : Reachable database ∧
    ∀ receipt ∈ database.receipts, ∃ version,
      resolveReceiptResourceVersion database.toWorld receipt = .ok version ∧
        ((∃ found, ReadersAgree database receipt found) ↔ Unambiguous database receipt) := by
  refine ⟨reachable, fun receipt hreceipt => ?_⟩
  obtain ⟨version, -, hissuer, hiff, -⟩ := receipt_readersAgree reachable receipt hreceipt
  exact ⟨version, hissuer, hiff⟩

end Twin

end Service

end EpochGuard
