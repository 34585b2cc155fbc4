import EpochGuard.CallFrames
import EpochGuard.CanonicalHashes
import EpochGuard.EvidenceChain
import Mathlib.Data.List.Find

/-!
# Packs rebuilt from the store

A pack is hashed when its receipt is issued and written later, from the records
that are stored by then (`writePack` of `epochguard-service.ts`). No record that
a pack is built of changes in between, up to the end of an interval that a
commit closes, so the same bytes come out.
-/

namespace EpochGuard

open Json Checked

/-! ## What a pack is built of -/

/-- An assignment apart from its progress. -/
def RunAssignment.frozen (assignment : RunAssignment) : RunAssignment :=
  { assignment with
    status := .CREATED
    boundRunId := none
    consumedByDecisionCertificateId := none
    boundAt := none
    consumedAt := none }

theorem RunAssignment.frozen_fields {a b : RunAssignment} (h : b.frozen = a.frozen) :
    b.assignmentId = a.assignmentId ∧ b.sessionId = a.sessionId ∧ b.receiptId = a.receiptId ∧
      b.queryHash = a.queryHash ∧ b.evidencePackHash = a.evidencePackHash := by
  have hfield : ∀ {α : Type} (f : RunAssignment → α), f b.frozen = f a.frozen :=
    fun f => congrArg f h
  exact ⟨hfield RunAssignment.assignmentId, hfield RunAssignment.sessionId,
    hfield RunAssignment.receiptId, hfield RunAssignment.queryHash,
    hfield RunAssignment.evidencePackHash⟩

theorem WorldLedger.content_fields {v w : ResourceVersion} (h : content w = content v) :
    w.resourceId = v.resourceId ∧ w.sourceRevision = v.sourceRevision ∧ w.value = v.value ∧
      w.valueHash = v.valueHash := by
  have hfield : ∀ {α : Type} (f : ResourceVersion → α), f (content w) = f (content v) :=
    fun f => congrArg f h
  exact ⟨hfield ResourceVersion.resourceId, hfield ResourceVersion.sourceRevision,
    hfield ResourceVersion.value, hfield ResourceVersion.valueHash⟩

section Packs

variable [Sha256]

/-- Of its assignment a pack shows what never changes. -/
theorem buildCanonicalEvidencePack_frozen {action : ActionIntent} {query : RoleQuerySpec}
    {a b : RunAssignment} {receipt : ObservationReceipt} {version : ResourceVersion} {head : Nat}
    (h : b.frozen = a.frozen) :
    buildCanonicalEvidencePack ⟨action, query, b, receipt, version, head⟩ =
      buildCanonicalEvidencePack ⟨action, query, a, receipt, version, head⟩ := by
  have hfrozen : ∀ c : RunAssignment,
      buildCanonicalEvidencePack ⟨action, query, c, receipt, version, head⟩ =
        buildCanonicalEvidencePack ⟨action, query, c.frozen, receipt, version, head⟩ :=
    fun c => rfl
  rw [hfrozen b, hfrozen a, h]

/-- A receipt keeps its place in an interval that is closed after it. -/
structure Observes (world : World) (receipt : ObservationReceipt) (version : ResourceVersion) :
    Prop where
  identified : Identifies world receipt.source receipt.entityKey receipt.sourceRevision version
  value : version.valueHash = receipt.valueHash
  observed : receipt.observedAtSeq ≤ world.headSeq
  start : version.validFromSeq ≤ receipt.observedAtSeq
  stop : ∀ u ∈ version.validUntilSeq, receipt.observedAtSeq < u ∧ u ≤ world.headSeq

theorem resolveReceiptResourceVersion_eq_ok {world : World} {receipt : ObservationReceipt}
    {version : ResourceVersion} :
    resolveReceiptResourceVersion world receipt = .ok version ↔
      Observes world receipt version := by
  simp only [resolveReceiptResourceVersion, bind_eq_ok, require_eq_ok, orStop_eq_ok, pure_eq_ok]
  constructor
  · rintro ⟨-, hobserved, _, hresolved, v, rfl, -, hvalue, -, hstart, -, hstop, -, huntil, rfl⟩
    exact ⟨resolveResourceVersionByIdentity_eq_some.mp hresolved, hvalue, hobserved, hstart,
      fun u hu => ⟨hstop u hu, huntil u hu⟩⟩
  · intro h
    exact ⟨(), h.observed, some version, resolveResourceVersionByIdentity_eq_some.mpr h.identified,
      version, rfl, (), h.value, (), h.start, (), fun u hu => (h.stop u hu).1, (),
      fun u hu => (h.stop u hu).2, rfl⟩

/-- A pack shows the value of a version, and no end of it. -/
theorem buildCanonicalEvidencePack_later {action : ActionIntent} {query : RoleQuerySpec}
    {assignment : RunAssignment} {receipt : ObservationReceipt} {version later : ResourceVersion}
    {world world' : World} {built : BuiltCanonicalEvidencePack}
    (h : buildCanonicalEvidencePack
      ⟨action, query, assignment, receipt, version, world.headSeq⟩ = .ok built)
    (hlater : Observes world' receipt later)
    (hcontent : WorldLedger.content later = WorldLedger.content version)
    (hsafe : world'.headSeq ≤ maxSafeInteger) :
    buildCanonicalEvidencePack
      ⟨action, query, assignment, receipt, later, world'.headSeq⟩ = .ok built := by
  obtain ⟨hresource, hrevision, hvalue, hhash⟩ := WorldLedger.content_fields hcontent
  simp only [buildCanonicalEvidencePack, assertBindings, buildPayload, bind_eq_ok, require_eq_ok,
    orStop_eq_ok, pure_eq_ok, parseVerifiedResourceVersion_eq_ok, Option.bind_eq_bind,
    Option.bind_eq_some_iff, Option.pure_def, Option.some.injEq] at h ⊢
  obtain ⟨-, hparses, v, ⟨-, rfl⟩, -, ⟨-, -, -, hsession, -, hrole, -, hquery, -, hreceipt,
    resourceId, hresourceId, -, hversion, -, hinterval, -, hhorizon, path, hpath, hat⟩,
    payload, ⟨observed, hobserved, hpayload⟩, hbuilt⟩ := h
  refine ⟨(), hparses, later, ⟨hlater.identified.intact, rfl⟩, (), ⟨(), hsafe, (), hsession, (),
    hrole, (), hquery, (), hreceipt, resourceId, hresourceId, (), ?_, (), ?_, (), ?_, path, hpath,
    hat⟩, payload, ⟨observed, ?_, hpayload⟩, hbuilt⟩
  · exact ⟨hresource.trans hversion.1, hrevision.trans hversion.2.1, hhash.trans hversion.2.2⟩
  · refine ⟨hlater.observed, hlater.start, fun u hu => (hlater.stop u hu).1⟩
  · exact fun u hu => (hlater.stop u hu).2
  · rw [hvalue]
    exact hobserved

/-- A commit leaves every receipt its version, which it may close. -/
theorem Observes.commit {world world' : World} {input : WorldLedger.WorldCommitInput}
    {pending : List ResourceVersion} {receipt : ObservationReceipt} {version : ResourceVersion}
    (h : Observes world receipt version)
    (hstep : WorldLedger.CommitStep world input pending world') :
    Observes world' receipt (WorldLedger.settle pending world'.headSeq version) := by
  have hhead := hstep.headSeq
  have hobserved := h.observed
  have hmem := h.identified.mem
  have hrevision : version.sourceRevision = receipt.sourceRevision := h.identified.revision
  have hsettled : WorldLedger.settle pending world'.headSeq version = { version with
      validUntilSeq := (WorldLedger.settle pending world'.headSeq version).validUntilSeq } :=
    WorldLedger.settle_eq
  have hstop : ∀ u ∈ (WorldLedger.settle pending world'.headSeq version).validUntilSeq,
      receipt.observedAtSeq < u ∧ u ≤ world'.headSeq := by
    intro u hu
    unfold WorldLedger.settle at hu
    split at hu
    · obtain rfl : world'.headSeq = u := by simpa using hu
      omega
    · have := h.stop u hu
      omega
  have hstart : version.validFromSeq ≤ receipt.observedAtSeq := h.start
  constructor
  case identified =>
    constructor
    · rw [WorldLedger.settle_resourceId]
      exact h.identified.resource
    · rw [hsettled]
      exact hrevision
    · -- a new version of the resource has another revision
      have hpending : pending.filter
          (hasRevision version.resourceId.val receipt.sourceRevision) = [] := by
        refine List.filter_eq_nil_iff.mpr fun p hp hrev => ?_
        simp only [hasRevision, Bool.and_eq_true, decide_eq_true_eq, OpaqueId.val_inj] at hrev
        exact (hstep.fresh p hp).revision version hmem hrev.1.symm (hrevision.trans hrev.2.symm)
      have hold : (hasRevision version.resourceId.val receipt.sourceRevision ∘
          WorldLedger.settle pending world'.headSeq) =
          hasRevision version.resourceId.val receipt.sourceRevision := by
        funext v
        rw [Function.comp_apply, WorldLedger.settle_eq]
        rfl
      rw [WorldLedger.settle_resourceId, hstep.resourceVersions, List.filter_append, hpending,
        List.append_nil, List.filter_map, hold, h.identified.only, List.map_singleton]
    · exact h.identified.safe
    · refine ⟨?_, ?_⟩
      · intro u hu
        have := (hstop u hu).1
        rw [hsettled]
        show version.validFromSeq < u
        omega
      · rw [hsettled]
        exact h.identified.intact.2
  case value =>
    rw [hsettled]
    exact h.value
  case observed => omega
  case start =>
    rw [hsettled]
    exact hstart
  case stop => exact hstop

end Packs

namespace Service

open DecisionParser RunObserver Runs

section WritePack

variable [Sha256]

/-- `writePack`, up to the write: the pack of a stored assignment, rebuilt from
stored records and checked against the hash that was stored when it was issued. -/
def writePack (database : EpochDatabase) (assignmentId : OpaqueId) :
    Mutated BuiltCanonicalEvidencePack := do
  let assignment ← orStop
    (database.runAssignments.find? fun a => a.assignmentId = assignmentId)
    (.message "Evidence Pack Assignment is missing")
  let incomplete : ServiceError := .message "Evidence Pack authority records are incomplete"
  let session ← orStop (← sessionById database assignment.sessionId) incomplete
  let receipt ← orStop
    (database.receipts.find? fun r => r.receiptId = assignment.receiptId) incomplete
  let query ← orStop
    (database.roleQuerySpecs.find? fun q => q.queryHash = assignment.queryHash) incomplete
  let resourceVersion ←
    (resolveReceiptResourceVersion database.toWorld receipt).mapError .message
  let built ← (buildCanonicalEvidencePack
    ⟨session.action, query, assignment, receipt, resourceVersion, database.headSeq⟩).mapError
      .message
  require (assignment.evidencePackHash = built.evidencePackHash)
    (.message "Stored Evidence Pack hash does not match reconstruction")
  return built

/-- The records of an assignment as `writePack` looks them up, and the pack that
they make, with the hash that is stored. -/
structure Packed (database : EpochDatabase) (assignmentId : OpaqueId)
    (built : BuiltCanonicalEvidencePack) (assignment : RunAssignment) (session : EpochSession)
    (receipt : ObservationReceipt) (query : RoleQuerySpec) (version : ResourceVersion) :
    Prop where
  hasAssignment : database.runAssignments.find? (fun a => a.assignmentId = assignmentId) =
    some assignment
  hasSession : sessionById database assignment.sessionId = .ok (some session)
  hasReceipt : database.receipts.find? (fun r => r.receiptId = assignment.receiptId) =
    some receipt
  hasQuery : database.roleQuerySpecs.find? (fun q => q.queryHash = assignment.queryHash) =
    some query
  observes : Observes database.toWorld receipt version
  builds : buildCanonicalEvidencePack
    ⟨session.action, query, assignment, receipt, version, database.headSeq⟩ = .ok built
  hashed : assignment.evidencePackHash = built.evidencePackHash

theorem writePack_eq_ok {database : EpochDatabase} {assignmentId : OpaqueId}
    {built : BuiltCanonicalEvidencePack} :
    writePack database assignmentId = .ok built ↔
      ∃ assignment session receipt query version,
        Packed database assignmentId built assignment session receipt query version := by
  simp only [writePack, bind_eq_ok, orStop_eq_ok, mapError_eq_ok, require_eq_ok, pure_eq_ok,
    resolveReceiptResourceVersion_eq_ok]
  constructor
  · rintro ⟨assignment, hassignment, _, hsession, session, rfl, receipt, hreceipt, query, hquery,
      version, hversion, _, hbuilt, -, hhash, rfl⟩
    exact ⟨assignment, session, receipt, query, version,
      ⟨hassignment, hsession, hreceipt, hquery, hversion, hbuilt, hhash⟩⟩
  · rintro ⟨assignment, session, receipt, query, version, h⟩
    exact ⟨assignment, h.hasAssignment, _, h.hasSession, session, rfl, receipt, h.hasReceipt,
      query, h.hasQuery, version, h.observes, built, h.builds, (), h.hashed, rfl⟩

/-- The pack that is built when a receipt is issued. -/
def issuedPack (database : EpochDatabase) (action : ActionIntent) (assignment : RunAssignment)
    (querySpec : RoleQuerySpec) (nonce : String) (issuedAt : Timestamp) :
    Except String BuiltCanonicalEvidencePack := do
  let (issuedDatabase, issued) ←
    ReceiptIssuer.issue database { action, assignment, querySpec } nonce issuedAt
  buildCanonicalEvidencePack
    ⟨action, querySpec, assignment, issued.receipt, issued.resourceVersion,
      issuedDatabase.headSeq⟩

end WritePack

/-! ## Stores that keep the records of packs -/

/-- A change of an assignment that keeps what an issued pack shows of it. -/
def KeepsIssued (receipts : List ObservationReceipt) (a b : RunAssignment) : Prop :=
  b.assignmentId = a.assignmentId ∧
    ((∃ r ∈ receipts, r.receiptId = a.receiptId) → b.frozen = a.frozen)

/-- A change of a session that keeps its action. -/
def KeepsAction (s t : EpochSession) : Prop :=
  t.sessionId = s.sessionId ∧ t.action = s.action ∧ t.actionHash = s.actionHash

theorem keepsAction_refl (s : EpochSession) : KeepsAction s s := ⟨rfl, rfl, rfl⟩

theorem keepsAction_trans (r s t : EpochSession) (h : KeepsAction r s) (h' : KeepsAction s t) :
    KeepsAction r t :=
  ⟨h'.1.trans h.1, h'.2.1.trans h.2.1, h'.2.2.trans h.2.2⟩

/-- A change of an assignment that is only progress. -/
def Progress (a b : RunAssignment) : Prop := b.frozen = a.frozen

theorem progress_refl (a : RunAssignment) : Progress a a := rfl

theorem progress_trans (a b c : RunAssignment) (h : Progress a b) (h' : Progress b c) :
    Progress a c :=
  Eq.trans h' h

theorem Progress.keepsIssued {receipts : List ObservationReceipt} {a b : RunAssignment}
    (h : Progress a b) : KeepsIssued receipts a b :=
  ⟨(RunAssignment.frozen_fields h).1, fun _ => h⟩

section Retains

variable [Sha256] {database middle left : EpochDatabase}

/-- Queries are stored once, and sessions with the hash of their action. -/
structure Recorded (database : EpochDatabase) : Prop where
  queries : (database.roleQuerySpecs.map RoleQuerySpec.queryHash).Nodup
  sessions : ∀ s ∈ database.sessions, s.actionHash = s.action.actionHash

/-- Whatever a pack was built of is found again: assignments apart from their
progress, actions, receipts, questions, and the versions of the World apart from
their end. -/
structure Retains (database left : EpochDatabase) : Prop where
  assignments : ∀ id a,
    database.runAssignments.find? (fun b => b.assignmentId = id) = some a →
    (∃ r ∈ database.receipts, r.receiptId = a.receiptId) →
    ∃ b, left.runAssignments.find? (fun b => b.assignmentId = id) = some b ∧ b.frozen = a.frozen
  sessions : ∀ id s, sessionById database id = .ok (some s) →
    ∃ t, sessionById left id = .ok (some t) ∧ t.action = s.action
  recorded : Recorded database → Recorded left
  receipts : database.receipts <+: left.receipts
  queries : database.roleQuerySpecs <+: left.roleQuerySpecs
  versions : ∀ r v, Observes database.toWorld r v → ∃ w, Observes left.toWorld r w ∧
    WorldLedger.content w = WorldLedger.content v
  head : database.headSeq ≤ maxSafeInteger → left.headSeq ≤ maxSafeInteger

theorem Retains.trans (h : Retains database middle) (h' : Retains middle left) :
    Retains database left where
  assignments := by
    intro id a ha hreceipt
    obtain ⟨b, hb, hsame⟩ := h.assignments id a ha hreceipt
    obtain ⟨r, hr, hid⟩ := hreceipt
    have hreceiptId : b.receiptId = a.receiptId := (RunAssignment.frozen_fields hsame).2.2.1
    obtain ⟨c, hc, hsame'⟩ := h'.assignments id b hb
      ⟨r, h.receipts.subset hr, hid.trans hreceiptId.symm⟩
    exact ⟨c, hc, hsame'.trans hsame⟩
  sessions := by
    intro id s hs
    obtain ⟨t, ht, hsame⟩ := h.sessions id s hs
    obtain ⟨u, hu, hsame'⟩ := h'.sessions id t ht
    exact ⟨u, hu, hsame'.trans hsame⟩
  recorded := fun hrecorded => h'.recorded (h.recorded hrecorded)
  receipts := h.receipts.trans h'.receipts
  queries := h.queries.trans h'.queries
  versions := by
    intro r v hv
    obtain ⟨w, hw, hsame⟩ := h.versions r v hv
    obtain ⟨x, hx, hsame'⟩ := h'.versions r w hw
    exact ⟨x, hx, hsame'.trans hsame⟩
  head := fun hsafe => h'.head (h.head hsafe)

/-- Tables rewritten in place, then appended to. -/
theorem Retains.of_tables {kept : List RunAssignment}
    (hassignments : Rewrites (KeepsIssued database.receipts) database.runAssignments kept)
    (hkept : kept <+: left.runAssignments)
    (hsessions : Rewrites KeepsAction database.sessions left.sessions)
    (hreceipts : database.receipts <+: left.receipts)
    (hqueries : left.roleQuerySpecs = database.roleQuerySpecs)
    (hworld : left.toWorld = database.toWorld) : Retains database left where
  assignments := by
    intro id a ha hreceipt
    obtain ⟨f, rfl, hf⟩ := hassignments
    refine ⟨f a, hkept.find?_eq_some ?_, (hf a (List.mem_of_find?_eq_some ha)).2 hreceipt⟩
    rw [List.find?_map, Option.map_eq_some_iff]
    refine ⟨a, ?_, rfl⟩
    rw [← ha]
    refine List.find?_congr fun b hb => ?_
    rw [Function.comp_apply, (hf b hb).1]
  sessions := by
    intro id s hs
    simp only [sessionById, atMostOne_eq_ok, Option.toList_some] at hs ⊢
    obtain ⟨f, hfilter, hf⟩ := hsessions.filter (p := fun s => decide (s.sessionId = id))
      fun a b hab => by rw [hab.1]
    rw [hs] at hfilter hf
    exact ⟨f s, hfilter, (hf s List.mem_cons_self).2.1⟩
  recorded := by
    refine fun hrecorded => ⟨hqueries ▸ hrecorded.queries, fun t ht => ?_⟩
    obtain ⟨s, hs, -, haction, hhash⟩ := hsessions.of_mem ht
    rw [haction, hhash]
    exact hrecorded.sessions s hs
  receipts := hreceipts
  queries := hqueries ▸ List.prefix_rfl
  versions := fun _ v hv => ⟨v, hworld ▸ hv, rfl⟩
  head := fun hsafe => by rw [hworld]; exact hsafe

/-- Only assignments make progress, and sessions move. -/
theorem Retains.of_progress
    (hassignments : Rewrites Progress database.runAssignments left.runAssignments)
    (hsessions : Rewrites KeepsAction database.sessions left.sessions)
    (hreceipts : left.receipts = database.receipts)
    (hqueries : left.roleQuerySpecs = database.roleQuerySpecs)
    (hworld : left.toWorld = database.toWorld) : Retains database left :=
  .of_tables (hassignments.imp fun _ _ h => h.keepsIssued) List.prefix_rfl hsessions
    (hreceipts ▸ List.prefix_rfl) hqueries hworld

/-- Other tables are written. -/
theorem Retains.of_same (hassignments : left.runAssignments = database.runAssignments)
    (hsessions : left.sessions = database.sessions)
    (hreceipts : left.receipts = database.receipts)
    (hqueries : left.roleQuerySpecs = database.roleQuerySpecs)
    (hworld : left.toWorld = database.toWorld) : Retains database left :=
  .of_progress (Rewrites.of_eq progress_refl hassignments)
    (Rewrites.of_eq keepsAction_refl hsessions) hreceipts hqueries hworld

theorem Retains.refl (database : EpochDatabase) : Retains database database :=
  .of_same rfl rfl rfl rfl rfl

/-- A pack is rebuilt as long as its records are retained. -/
theorem writePack_of_retains (h : Retains database left) {id : OpaqueId}
    {built : BuiltCanonicalEvidencePack} (hpack : writePack database id = .ok built) :
    writePack left id = .ok built := by
  obtain ⟨a, s, r, q, v, hpacked⟩ := writePack_eq_ok.mp hpack
  have hreceipt : r ∈ database.receipts ∧ r.receiptId = a.receiptId :=
    ⟨List.mem_of_find?_eq_some hpacked.hasReceipt, by
      simpa using List.find?_some hpacked.hasReceipt⟩
  obtain ⟨b, hb, hsame⟩ := h.assignments id a hpacked.hasAssignment ⟨r, hreceipt⟩
  obtain ⟨-, hsession, hreceiptId, hqueryHash, hhash⟩ := RunAssignment.frozen_fields hsame
  obtain ⟨t, ht, haction⟩ := h.sessions _ s hpacked.hasSession
  obtain ⟨w, hw, hcontent⟩ := h.versions r v hpacked.observes
  have hsafe : database.headSeq ≤ maxSafeInteger := by
    have hbuilt := hpacked.builds
    simp only [buildCanonicalEvidencePack, assertBindings, bind_eq_ok, require_eq_ok] at hbuilt
    obtain ⟨-, -, -, -, -, ⟨-, hsafe, -⟩, -⟩ := hbuilt
    exact hsafe
  refine writePack_eq_ok.mpr ⟨b, t, r, q, w, hb, ?_, ?_, ?_, hw, ?_, ?_⟩
  · rw [hsession]
    exact ht
  · rw [hreceiptId]
    exact h.receipts.find?_eq_some hpacked.hasReceipt
  · rw [hqueryHash]
    exact h.queries.find?_eq_some hpacked.hasQuery
  · rw [haction, buildCanonicalEvidencePack_frozen hsame]
    exact buildCanonicalEvidencePack_later hpacked.builds hw hcontent (h.head hsafe)
  · rw [hhash]
    exact hpacked.hashed

/-- A store in which every receipt that is new has one of the packs, and the
packs are rebuilt. -/
structure Repacks (packs : List (OpaqueId × BuiltCanonicalEvidencePack))
    (database left : EpochDatabase) : Prop extends Retains database left where
  packed : ∀ p ∈ packs, writePack left p.1 = .ok p.2
  issued : ∀ r ∈ left.receipts, r ∈ database.receipts ∨ ∃ p ∈ packs, p.1 = r.runAssignmentId

theorem Repacks.of_receipts (h : Retains database left)
    (hreceipts : left.receipts = database.receipts) : Repacks [] database left where
  toRetains := h
  packed := fun _ hp => absurd hp List.not_mem_nil
  issued := fun _ hr => .inl (hreceipts ▸ hr)

theorem Repacks.trans {packs more : List (OpaqueId × BuiltCanonicalEvidencePack)}
    (h : Repacks packs database middle) (h' : Repacks more middle left) :
    Repacks (packs ++ more) database left where
  toRetains := h.toRetains.trans h'.toRetains
  packed := by
    intro p hp
    rcases List.mem_append.mp hp with hp | hp
    · exact writePack_of_retains h'.toRetains (h.packed p hp)
    · exact h'.packed p hp
  issued := by
    intro r hr
    rcases h'.issued r hr with hmiddle | ⟨p, hp, hid⟩
    · rcases h.issued r hmiddle with hold | ⟨p, hp, hid⟩
      · exact .inl hold
      · exact .inr ⟨p, List.mem_append_left _ hp, hid⟩
    · exact .inr ⟨p, List.mem_append_right _ hp, hid⟩

theorem Repacks.andThen {packs : List (OpaqueId × BuiltCanonicalEvidencePack)}
    (h : Repacks [] database middle) (h' : Repacks packs middle left) :
    Repacks packs database left :=
  h.trans h'

theorem Repacks.of_progress
    (hassignments : Rewrites Progress database.runAssignments left.runAssignments)
    (hsessions : Rewrites KeepsAction database.sessions left.sessions)
    (hreceipts : left.receipts = database.receipts)
    (hqueries : left.roleQuerySpecs = database.roleQuerySpecs)
    (hworld : left.toWorld = database.toWorld) : Repacks [] database left :=
  .of_receipts (.of_progress hassignments hsessions hreceipts hqueries hworld) hreceipts

theorem Repacks.of_same (hassignments : left.runAssignments = database.runAssignments)
    (hsessions : left.sessions = database.sessions)
    (hreceipts : left.receipts = database.receipts)
    (hqueries : left.roleQuerySpecs = database.roleQuerySpecs)
    (hworld : left.toWorld = database.toWorld) : Repacks [] database left :=
  .of_receipts (.of_same hassignments hsessions hreceipts hqueries hworld) hreceipts

theorem Repacks.refl (database : EpochDatabase) : Repacks [] database database :=
  .of_same rfl rfl rfl rfl rfl

end Retains

/-! ## What the calls write -/

section Calls

variable {database left : EpochDatabase} {session : EpochSession}

theorem progress_setAssignment {a b : RunAssignment} {id : OpaqueId}
    (hsingle : single? database.runAssignments (fun c => c.assignmentId = id) = some a)
    (h : Progress a b) :
    Rewrites Progress database.runAssignments (database.setAssignment b).runAssignments := by
  obtain ⟨-, -, honly⟩ := Evidence.only_assignment hsingle
  refine Rewrites.modifyWhere progress_refl fun c hc hid => ?_
  have hsame : b.assignmentId = a.assignmentId := (RunAssignment.frozen_fields h).1
  simp only [decide_eq_true_eq] at hid
  rw [honly c hc (hid.trans hsame)]
  exact h

/-- Whatever is stored under the identifier of a session has its action. -/
def SameAction (database : EpochDatabase) (session : EpochSession) : Prop :=
  ∀ s ∈ database.sessions, s.sessionId = session.sessionId →
    s.action = session.action ∧ s.actionHash = session.actionHash

theorem keepsAction_setSession {next : EpochSession} (hsame : SameAction database session)
    (h : KeepsAction session next) :
    Rewrites KeepsAction database.sessions (database.setSession next).sessions := by
  refine Rewrites.modifyWhere keepsAction_refl fun s hs hid => ?_
  simp only [decide_eq_true_eq] at hid
  obtain ⟨haction, hhash⟩ := hsame s hs (hid.trans h.1)
  exact ⟨hid.symm, h.2.1.trans haction.symm, h.2.2.trans hhash.symm⟩

theorem sameAction_setSession : SameAction (database.setSession session) session := by
  intro s hs hid
  rcases mem_modifyWhere.mp hs with ⟨-, -, -, rfl⟩ | ⟨-, hne⟩
  · exact ⟨rfl, rfl⟩
  · simp [hid] at hne

theorem sameAction_of_sessionById {id : OpaqueId}
    (h : sessionById database id = .ok (some session)) : SameAction database session :=
  fun s hs hid => (sessionById_some h).2.2 s hs hid ▸ ⟨rfl, rfl⟩

theorem sameAction_of_single {id : OpaqueId}
    (h : single? database.sessions (fun s => s.sessionId = id) = some session) :
    SameAction database session := by
  obtain ⟨-, hid⟩ := single?_mem h
  simp only [decide_eq_true_eq] at hid
  intro s hs heq
  exact single?_unique h hs (by simp [heq, hid]) ▸ ⟨rfl, rfl⟩

/-! ### The run observer -/

theorem progress_store {input : DispatchBindPollInput} {assignment assignment' : RunAssignment}
    {attempt attempt' : AgentAttempt} {out : AgentAttempt}
    (hrecords : requireRecords database input = .ok (assignment, attempt))
    (hstore : store database assignment' attempt' = .ok (left, out))
    (h : Progress assignment assignment') :
    Rewrites Progress database.runAssignments left.runAssignments := by
  obtain ⟨hleft, -⟩ := Prod.mk.inj (store_eq_ok.mp hstore).2
  rw [← hleft]
  exact progress_setAssignment (requireRecords_eq_ok.mp hrecords).1 h

section Observer

variable [Sha256] [OutputPorts]

theorem progress_observer {call : Call} {input : DispatchBindPollInput}
    (hinput : Continuation.observedInput call = some input)
    (h : call.leaves database = some left) :
    Rewrites Progress database.runAssignments left.runAssignments := by
  cases call with
  | transitionToDispatching input =>
    simp only [Call.leaves, toOption_eq_some, except_map_eq_ok, Prod.exists,
      RunObserver.transitionToDispatching, bind_eq_ok] at h
    obtain ⟨_, _, ⟨_, _, hrecords, -, -, -, -, -, -, hstore⟩, rfl⟩ := h
    exact progress_store hrecords hstore rfl
  | bindRunOnce input run boundAt =>
    simp only [Call.leaves, toOption_eq_some, except_map_eq_ok, Prod.exists,
      RunObserver.bindRunOnce, bind_eq_ok] at h
    obtain ⟨_, _, ⟨_, _, hrecords, -, -, -, -, _, -, hstore⟩, rfl⟩ := h
    exact progress_store hrecords hstore rfl
  | mirrorRun input agentId run =>
    simp only [Call.leaves, toOption_eq_some, except_map_eq_ok, Prod.exists,
      RunObserver.mirrorRun, bind_eq_ok] at h
    obtain ⟨_, _, ⟨_, -, -, -, _, -, _, _, hrecords, -, -, -, -, -, -, -, -, -, -, -, -, _, -,
      hstore⟩, rfl⟩ := h
    exact progress_store hrecords hstore rfl
  | failAttempt input status run =>
    simp only [Call.leaves, Option.ite_none_right_eq_some, toOption_eq_some, except_map_eq_ok,
      Prod.exists, RunObserver.failAttempt, bind_eq_ok] at h
    obtain ⟨-, _, _, ⟨_, _, hrecords, -, -, -, -, hstore⟩, rfl⟩ := h
    exact progress_store hrecords hstore rfl
  | rejectCompletedOutput input =>
    simp only [Call.leaves, toOption_eq_some, except_map_eq_ok, Prod.exists,
      RunObserver.rejectCompletedOutput, bind_eq_ok] at h
    obtain ⟨_, _, ⟨_, _, hrecords, -, -, hstore⟩, rfl⟩ := h
    exact progress_store hrecords hstore rfl
  | _ => cases hinput

omit [OutputPorts] in
theorem progress_join {settled : List Settled} {scope : RoleRunJoinScope} :
    Rewrites Progress database.runAssignments
      (joinRoleRunObservations database settled scope).1.runAssignments := by
  unfold joinRoleRunObservations
  split
  · exact Rewrites.of_eq progress_refl rfl
  · exact Rewrites.modifyWhere progress_refl fun _ _ _ => rfl

omit [OutputPorts] in
theorem WritesRuns.repacks (h : WritesRuns database left)
    (hassignments : Rewrites Progress database.runAssignments left.runAssignments) :
    Repacks [] database left := by
  obtain ⟨_, _, rfl⟩ := h
  exact .of_progress hassignments (Rewrites.of_eq keepsAction_refl rfl) rfl rfl rfl

omit [OutputPorts] in
theorem WritesAudit.repacks (h : WritesAudit database left) : Repacks [] database left := by
  obtain ⟨_, _, rfl⟩ := h
  exact .of_same rfl rfl rfl rfl rfl

omit [OutputPorts] in
theorem repacks_setSession {next : EpochSession} (hsame : SameAction database session)
    (h : KeepsAction session next) : Repacks [] database (database.setSession next) :=
  .of_progress (Rewrites.of_eq progress_refl rfl) (keepsAction_setSession hsame h) rfl rfl rfl

end Observer

/-! ### Failures -/

theorem progress_closeBoundRefresh {plan : RefreshPlan} {attempt : AgentAttempt}
    {assignment : RunAssignment} {terminalStatus : AttemptState} {preserved : Option Role}
    {closure : RefreshFailureClosure} {id : OpaqueId}
    (hsingle : single? database.runAssignments (fun c => c.assignmentId = id) = some assignment)
    (h : closeBoundRefresh database session plan attempt assignment terminalStatus preserved =
      .ok closure) :
    Rewrites Progress database.runAssignments closure.database.runAssignments := by
  have hrejected := progress_setAssignment (b := { assignment with status := .REJECTED })
    hsingle rfl
  unfold closeBoundRefresh at h
  dsimp only at h
  split at h
  · simp only [bind_eq_ok, pure_eq_ok] at h
    obtain ⟨-, -, rfl⟩ := h
    exact hrejected
  · split at h
    · simp only [bind_eq_ok, pure_eq_ok] at h
      obtain ⟨-, -, rfl⟩ := h
      exact hrejected
    · obtain rfl := pure_eq_ok.mp h
      exact hrejected

theorem progress_closeClaimedRefreshFailure {terminalStatus : AttemptState}
    {preserved : Option Role} {closure : RefreshFailureClosure}
    (h : closeClaimedRefreshFailure database session terminalStatus preserved = .ok closure) :
    Rewrites Progress database.runAssignments closure.database.runAssignments := by
  have hsame : Rewrites Progress database.runAssignments database.runAssignments :=
    Rewrites.of_eq progress_refl rfl
  unfold closeClaimedRefreshFailure at h
  dsimp only at h
  split at h
  · exact pure_eq_ok.mp h ▸ hsame
  · split at h
    · exact pure_eq_ok.mp h ▸ hsame
    · split at h
      · rename_i attempt assignment hattempt hassignment
        split at h
        · rw [hattempt, Option.bind_some] at hassignment
          exact progress_closeBoundRefresh hassignment h
        · exact pure_eq_ok.mp h ▸ hsame
      · exact pure_eq_ok.mp h ▸ hsame

variable [Sha256]

theorem repacks_closed (hsame : SameAction database session) {timestamp : Timestamp}
    {preserved : Option Role} {closure : RefreshFailureClosure}
    (hclosure : closeClaimedRefreshFailure database (failedSession session timestamp) .FAILED
      preserved = .ok closure)
    (hleft : WritesAudit (closure.database.setSession closure.closedSession) left) :
    Repacks [] database left := by
  have hassignments := progress_closeClaimedRefreshFailure hclosure
  have hwritten := failureWritten_of_closed hclosure hleft
  obtain ⟨_, _, _, hclosed⟩ := hwritten.closes
  obtain ⟨_, _, _, _, _, hwrites⟩ := hwritten.writes
  have hruns : left.runAssignments = closure.database.runAssignments := by
    obtain ⟨_, _, rfl⟩ := hleft
    rfl
  rw [← hruns] at hassignments
  have hsessions : Rewrites KeepsAction database.sessions
      (database.setSession closure.closedSession).sessions := keepsAction_setSession hsame
    (by rw [hclosed]; exact ⟨rfl, rfl, rfl⟩)
  rw [hwrites] at hassignments ⊢
  exact .of_progress hassignments hsessions rfl rfl rfl

theorem repacks_failSession {sessionId : OpaqueId} {error : ServiceError} {ports : FailPorts}
    (h : failSession database sessionId error ports = .ok left) : Repacks [] database left := by
  simp only [failSession, bind_eq_ok] at h
  obtain ⟨found, hfound, h⟩ := h
  cases found with
  | none => exact pure_eq_ok.mp h ▸ .refl _
  | some session =>
    dsimp only at h
    split at h
    · exact pure_eq_ok.mp h ▸ .refl _
    · simp only [bind_eq_ok, pure_eq_ok] at h
      obtain ⟨closure, hclosure, diagnosed, hdiagnosed, rfl⟩ := h
      obtain ⟨_, _, rfl⟩ := appendDiagnostic_writes hdiagnosed
      exact repacks_closed (sameAction_of_sessionById hfound) hclosure ⟨_, _, rfl⟩

/-! ### Outputs and validations -/

section Outputs

variable [OutputPorts]

theorem progress_normalizeAndConsumeDecision {attemptId : OpaqueId} {rawOutput : JsString}
    {options : DecisionNormalizationOptions} {result : DecisionNormalizationResult}
    (h : normalizeAndConsumeDecision database attemptId rawOutput options = .ok (left, result)) :
    Rewrites Progress database.runAssignments left.runAssignments := by
  obtain ⟨records, hconsumable, ⟨failure, artifact, -, -, rfl, -⟩ |
    ⟨envelope, existing, -, -, -, rfl, -⟩⟩ := normalizeAndConsumeDecision_cases h
  · exact progress_setAssignment (b := { records.assignment with status := .REJECTED })
      hconsumable.assignment rfl
  · have hconsumed := progress_setAssignment (b := { records.assignment with
        status := .CONSUMED
        consumedByDecisionCertificateId := some options.certificateId
        consumedAt := some options.createdAt }) hconsumable.assignment rfl
    cases existing <;> exact hconsumed

theorem progress_normalizeAll {ports : AcceptPorts} {index : Nat}
    {observations : List TerminalRunObservation} {results : List DecisionNormalizationResult}
    (h : normalizeAll database ports index observations = .ok (left, results)) :
    Rewrites Progress database.runAssignments left.runAssignments := by
  induction observations generalizing database index results with
  | nil =>
    obtain ⟨rfl, -⟩ := Prod.mk.inj (pure_eq_ok.mp h)
    exact Rewrites.of_eq progress_refl rfl
  | cons observation rest ih =>
    simp only [normalizeAll, bind_eq_ok, mapError_eq_ok, pure_eq_ok, Prod.exists,
      Prod.mk.injEq] at h
    obtain ⟨normalized, result, hfirst, final, results', hrest, rfl, -⟩ := h
    exact (progress_normalizeAndConsumeDecision hfirst).trans progress_trans (ih hrest)

theorem repacks_normalizeAll {ports : AcceptPorts} {index : Nat}
    {observations : List TerminalRunObservation} {results : List DecisionNormalizationResult}
    (h : normalizeAll database ports index observations = .ok (left, results)) :
    Repacks [] database left := by
  have hassignments := progress_normalizeAll h
  obtain ⟨⟨_, _, _, _, _, rfl⟩, hsessions⟩ := normalizeAll_written h
  exact .of_progress hassignments
    (hsessions.imp fun _ _ hp => ⟨hp.progress.1, hp.progress.2.2.2.1,
      hp.progress.2.2.2.2.1⟩) rfl rfl rfl

omit [OutputPorts] in
theorem repacks_validation {final : EpochSession} (hsame : SameAction database session)
    (h : ValidationWritten database session left final) : Repacks [] database left := by
  obtain ⟨_, _, _, _, _, _, _, hwrites⟩ := h.writes
  obtain ⟨_, _, _, _, _, -, hfinal⟩ := h.closes
  have hsessions : Rewrites KeepsAction database.sessions
      (database.setSession final).sessions := keepsAction_setSession hsame
    (by rw [hfinal]; exact ⟨rfl, rfl, rfl⟩)
  rw [hwrites]
  exact .of_progress (Rewrites.of_eq progress_refl rfl) hsessions rfl rfl rfl

theorem repacks_acceptAndValidate {sessionId : OpaqueId}
    {observations : List TerminalRunObservation} {refreshPlan : Option RefreshPlan}
    {ports : AcceptPorts}
    (h : acceptAndValidate database sessionId observations refreshPlan ports = .ok left) :
    Repacks [] database left := by
  simp only [acceptAndValidate, bind_eq_ok, orStop_eq_ok, Prod.exists] at h
  obtain ⟨-, -, -, -, normalized, results, hnormalized, found, hfound, session, rfl, h⟩ := h
  have hsame := sameAction_of_sessionById hfound
  refine (repacks_normalizeAll hnormalized).trans ?_
  split at h
  · simp only [closeMalformedOutput, bind_eq_ok, orStop_eq_ok] at h
    obtain ⟨attempt, -, closure, hclosure, hdiagnosed⟩ := h
    exact repacks_closed hsame hclosure (appendDiagnostic_writes hdiagnosed)
  · simp only [bind_eq_ok] at h
    obtain ⟨attempts, -, hpersist⟩ := h
    obtain ⟨final, hfinal⟩ := persistValidation_written hpersist
    refine Repacks.andThen ?_ (repacks_validation sameAction_setSession hfinal)
    exact repacks_setSession hsame ⟨rfl, rfl, rfl⟩

end Outputs

/-! ### Claims, releases and recovery -/

theorem repacks_claimRefreshPlan {world : EffectGate.WorldPort} {sessionId : OpaqueId}
    {request : RefreshPlanner.RefreshSessionRequest} {timestamp : Timestamp}
    {createArtifacts : EpochSession → RefreshPlan → Role → OpaqueId →
      Except String RefreshPlanner.RefreshClaimArtifacts}
    {out : EpochDatabase × RefreshPlanner.ClaimRefreshPlanResult}
    (h : RefreshPlanner.claimRefreshPlan database world sessionId request timestamp
      createArtifacts = .ok out) : Repacks [] database out.1 := by
  cases claimRefreshPlan_cases h with
  | stale found =>
    exact .of_progress (Rewrites.of_eq progress_refl rfl)
      (keepsAction_setSession (sameAction_of_single found) ⟨rfl, rfl, rfl⟩) rfl rfl rfl
  | claimed found =>
    have hassignments : Rewrites (KeepsIssued database.receipts) database.runAssignments
        database.runAssignments :=
      Rewrites.of_eq (fun a => (progress_refl a).keepsIssued) rfl
    refine .of_receipts (.of_tables hassignments (List.prefix_append _ _) ?_ List.prefix_rfl rfl
      rfl) rfl
    exact keepsAction_setSession (sameAction_of_single found) ⟨rfl, rfl, rfl⟩

theorem repacks_commitProtectedEffect {world : EffectGate.WorldPort}
    {sessionId effectId : OpaqueId} {expectedSessionRevision : Nat} {timestamp : Timestamp}
    {out : EpochDatabase × EffectGate.CommitProtectedEffectResult}
    (h : EffectGate.commitProtectedEffect database world sessionId expectedSessionRevision effectId
      timestamp = .ok out) : Repacks [] database out.1 := by
  have hsessions : ∀ (id : OpaqueId) (f : EpochSession → EpochSession),
      (∀ s, KeepsAction s (f s)) →
      Rewrites KeepsAction database.sessions
        (modifyWhere (fun s => s.sessionId = id) f database.sessions) :=
    fun id f hf => Rewrites.modifyWhere keepsAction_refl fun s _ _ => hf s
  cases EffectGate.commit_cases h with
  | existing => exact .refl _
  | race =>
    exact .of_progress (Rewrites.of_eq progress_refl rfl)
      (hsessions _ _ fun s => ⟨rfl, rfl, rfl⟩) rfl rfl rfl
  | created =>
    exact .of_progress (Rewrites.of_eq progress_refl rfl)
      (hsessions _ _ fun s => ⟨rfl, rfl, rfl⟩) rfl rfl rfl

omit [Sha256] in
theorem recoverAssignment_progress {assignment recovered : RunAssignment} {attempt : AgentAttempt}
    (h : recoverAssignment assignment attempt = .ok recovered) : Progress assignment recovered := by
  unfold recoverAssignment at h
  dsimp only at h
  split at h <;> simp only [bind_eq_ok, pure_eq_ok] at h <;> obtain ⟨-, -, rfl⟩ := h <;> rfl

omit [Sha256] in
theorem progress_recoverActiveAttempt {timestamp : Timestamp} {role : Role}
    (h : recoverActiveAttempt database session timestamp role = .ok left) :
    Rewrites Progress database.runAssignments left.runAssignments := by
  unfold recoverActiveAttempt at h
  split at h
  · exact pure_eq_ok.mp h ▸ Rewrites.of_eq progress_refl rfl
  · simp only [bind_eq_ok, orStop_eq_ok, require_eq_ok, pure_eq_ok] at h
    obtain ⟨attempt, -, -, -, assignment, hassignment, -, -, recovered, hrecovered, -, -,
      rfl⟩ := h
    exact progress_setAssignment hassignment (recoverAssignment_progress hrecovered)

theorem repacks_recoverInFlightSession {timestamp : Timestamp} {ids : RecoveryIds}
    (hsame : SameAction database session)
    (h : recoverInFlightSession database session timestamp ids = .ok left) :
    Repacks [] database left ∧ Rewrites KeepsAction database.sessions left.sessions := by
  obtain ⟨_, _, _, _, _, _, hwrites⟩ := (recoverInFlightSession_written h).writes
  have hassignments : Rewrites Progress database.runAssignments left.runAssignments := by
    simp only [recoverInFlightSession, bind_eq_ok, pure_eq_ok] at h
    obtain ⟨-, -, attempted, hattempted, -, -, planned, hplanned, permitted, hpermitted, diagnosed,
      hdiagnosed, rfl⟩ := h
    obtain ⟨⟨_, rfl⟩, -⟩ := recoverRefreshPlan_writes hplanned
    obtain ⟨⟨_, rfl⟩, -⟩ := recoverPermit_writes hpermitted
    obtain ⟨_, _, rfl⟩ := appendDiagnostic_writes hdiagnosed
    refine foldlM_induction (P := fun db => Rewrites Progress database.runAssignments
      db.runAssignments) ?_ (Rewrites.of_eq progress_refl rfl) hattempted
    exact fun before role after hbefore _ hstep =>
      hbefore.trans progress_trans (progress_recoverActiveAttempt hstep)
  have hsessions : Rewrites KeepsAction database.sessions
      (database.setSession (interruptedSession session timestamp)).sessions :=
    keepsAction_setSession hsame ⟨rfl, rfl, rfl⟩
  rw [hwrites] at hassignments ⊢
  exact ⟨.of_progress hassignments hsessions rfl rfl rfl, hsessions⟩

theorem repacks_recoverSessions (halone : database.sessions.length ≤ 1) {timestamp : Timestamp}
    {ids : OpaqueId → RecoveryIds} (h : recoverSessions database timestamp ids = .ok left) :
    Repacks [] database left := by
  refine (foldlM_induction (P := fun db => Repacks [] database db ∧
    Rewrites KeepsAction database.sessions db.sessions) ?_
    ⟨.refl _, Rewrites.of_eq keepsAction_refl rfl⟩ h).1
  intro before session after ⟨hrepacks, hsessions⟩ hmem hstep
  have hsame : SameAction before session := by
    intro s hs _
    obtain ⟨t, ht, hkept⟩ := hsessions.of_mem hs
    -- the store has one session
    have halone' := eq_singleton_of_mem halone (List.mem_of_mem_filter hmem)
    rw [halone', List.mem_singleton] at ht
    rw [hkept.2.1, hkept.2.2, ht]
    exact ⟨rfl, rfl⟩
  obtain ⟨hmore, hsessions'⟩ := repacks_recoverInFlightSession hsame hstep
  exact ⟨hrepacks.trans hmore, hsessions.trans keepsAction_trans hsessions'⟩

theorem repacks_worldCommit {world : World} {input : WorldLedger.WorldCommitInput}
    {record : WorldCommit}
    (h : WorldLedger.commit database.toWorld input = .ok (world, record)) :
    Repacks [] database { database with toWorld := world } := by
  obtain ⟨pending, hstep⟩ := WorldLedger.commit_cases h
  have hsame : Retains database database := .refl database
  exact .of_receipts { hsame with
    recorded := fun hrecorded => ⟨hrecorded.queries, hrecorded.sessions⟩
    versions := fun _ _ hv => ⟨_, hv.commit hstep, WorldLedger.content_settle⟩
    head := fun _ => hstep.head_safe } rfl

end Calls

/-! ## Issuing a receipt -/

section Issues

variable [Sha256] {database left : EpochDatabase}

/-- A receipt is issued for the query that is stored under its hash. -/
theorem issue_querySpec {input : IssueObservationInput} {nonce : String} {issuedAt : Timestamp}
    {out : EpochDatabase × IssuedObservation}
    (h : ReceiptIssuer.issue database input nonce issuedAt = .ok out) :
    input.assignment.queryHash = input.querySpec.queryHash ∧
      database.roleQuerySpecs.find? (fun q => q.queryHash = input.querySpec.queryHash) =
        some input.querySpec := by
  simp only [ReceiptIssuer.issue, bind_eq_ok, require_eq_ok] at h
  obtain ⟨-, -, -, -, -, -, -, hquery, -, -, stored, -, -, -, -, hsome, u, hforM, -⟩ := h
  refine ⟨hquery.2, ?_⟩
  have hsame := forM_eq_ok.mp hforM
  rw [← List.head?_filter]
  cases hfilter : database.roleQuerySpecs.filter
    (fun q => decide (q.queryHash = input.querySpec.queryHash)) with
  | nil => exact absurd hfilter hsome
  | cons q rest =>
    have hq := hsame q (hfilter ▸ List.mem_cons_self)
    rw [assertCanonicalEqual, require_eq_ok] at hq
    rw [List.head?_cons, RoleQuerySpec.toJson_inj hq]

/-- The version that an issuance reads is the one that its receipt names. -/
theorem observes_of_issuance {input : IssueObservationInput} {nonce : String}
    {issued : IssuedObservation} (h : Issuance database input nonce left issued) :
    Observes database.toWorld issued.receipt issued.resourceVersion := by
  obtain ⟨v, hv⟩ := h.resolved
  have hobserves := resolveReceiptResourceVersion_eq_ok.mp hv
  obtain ⟨resourceId, hresource, hcurrent⟩ := h.current
  simp only [resolveResourceVersionAt, bind_eq_ok, atMostOne_eq_ok,
    mapM_parseVerifiedResourceVersion_eq_ok] at hcurrent
  obtain ⟨-, -, found, hfound, -, rfl⟩ := hcurrent
  have hmem : issued.resourceVersion ∈ database.resourceVersions.filter
      (coversAt resourceId.val database.headSeq) := by simp [hfound]
  simp only [List.mem_filter, coversAt, Bool.and_eq_true, decide_eq_true_eq,
    OpaqueId.val_inj] at hmem
  obtain ⟨-, -, -, -, hsource, hentity⟩ := h.receipt
  have hnamed := hobserves.identified.resource
  rw [hsource, hentity, hresource, Option.some.injEq] at hnamed
  have hsame : issued.resourceVersion = v :=
    hobserves.identified.eq_of_mem hmem.1 (hmem.2.1.trans hnamed) h.version.1.symm
  exact hsame ▸ hobserves

/-- The pack of a receipt is rebuilt at once, and all earlier packs still are. -/
theorem issueAndPack_repacks {action : ActionIntent} {assignment : RunAssignment}
    {querySpec : RoleQuerySpec} {nonce : String} {issuedAt : Timestamp} {session : EpochSession}
    (hmem : assignment ∈ database.runAssignments)
    (hsession : sessionById database assignment.sessionId = .ok (some session))
    (haction : session.action = action)
    (h : issueAndPack database action assignment querySpec nonce issuedAt = .ok left) :
    left.sessions = database.sessions ∧ ∃ built,
      issuedPack database action assignment querySpec nonce issuedAt = .ok built ∧
      Repacks [(assignment.assignmentId, built)] database left := by
  simp only [issueAndPack, bind_eq_ok, pure_eq_ok, Prod.exists] at h
  obtain ⟨issuedDatabase, issued, hissue, built, hbuilt, rfl⟩ := h
  have hissued := ReceiptIssuer.issue_cases hissue
  obtain ⟨hqueryHash, hquery⟩ := issue_querySpec hissue
  have hobserves := observes_of_issuance hissued
  obtain rfl := hissued.left
  obtain ⟨a, ha⟩ := hissued.stored
  have hsame : assignment = a := single?_unique ha hmem (by simp)
  subst hsame
  have hfind : database.runAssignments.find? (fun b => b.assignmentId = assignment.assignmentId) =
      some assignment := by
    rw [← List.head?_filter, single?_eq_some.mp ha, List.head?_cons]
  obtain ⟨-, -, honly⟩ := Evidence.only_assignment ha
  have hretains : Retains database
      (EpochDatabase.setAssignment
        { database with receipts := database.receipts ++ [issued.receipt] }
        { assignment with evidencePackHash := built.evidencePackHash }) := by
    refine .of_tables (Rewrites.modifyWhere (fun a => ⟨rfl, fun _ => rfl⟩) ?_) List.prefix_rfl
      (Rewrites.of_eq keepsAction_refl rfl) (List.prefix_append _ _) rfl rfl
    intro c hc hid
    simp only [decide_eq_true_eq] at hid
    obtain rfl := honly c hc hid
    -- no receipt has been issued for the assignment before
    refine ⟨rfl, ?_⟩
    rintro ⟨r, hr, hr'⟩
    exact absurd hr' (hissued.fresh r hr).1
  have hpack : writePack
      (EpochDatabase.setAssignment
        { database with receipts := database.receipts ++ [issued.receipt] }
        { assignment with evidencePackHash := built.evidencePackHash })
      assignment.assignmentId = .ok built := by
    refine writePack_eq_ok.mpr ⟨{ assignment with evidencePackHash := built.evidencePackHash },
      session, issued.receipt, querySpec, issued.resourceVersion, ?_, ?_, ?_, ?_, ?_, ?_, rfl⟩
    · show (modifyWhere _ _ database.runAssignments).find? _ = _
      rw [modifyWhere, List.find?_map, Option.map_eq_some_iff]
      refine ⟨assignment, ?_, by simp⟩
      rw [← hfind]
      refine List.find?_congr fun b _ => ?_
      by_cases hid : b.assignmentId = assignment.assignmentId <;> simp [hid]
    · exact hsession
    · show (database.receipts ++ [issued.receipt]).find? _ = _
      have hnone : database.receipts.find? (fun r => r.receiptId = assignment.receiptId) = none :=
        List.find?_eq_none.mpr fun r hr => by simpa using (hissued.fresh r hr).1
      rw [List.find?_append, hnone, Option.none_or]
      simp [hissued.receipt.1]
    · show database.roleQuerySpecs.find? (fun q => decide (q.queryHash = assignment.queryHash)) = _
      rw [hqueryHash]
      exact hquery
    · exact hobserves
    · rw [haction]
      exact hbuilt
  refine ⟨rfl, built, ?_, hretains, ?_, ?_⟩
  · rw [issuedPack, hissue]
    exact hbuilt
  · intro p hp
    obtain rfl := List.mem_singleton.mp hp
    exact hpack
  · intro r hr
    rcases List.mem_append.mp hr with hold | hnew
    · exact .inl hold
    · obtain rfl := List.mem_singleton.mp hnew
      exact .inr ⟨_, List.mem_singleton_self _, hissued.receipt.2.1.symm⟩

/-! ## The packs that a call builds -/

/-- The pack of a capture, under the identifier of its assignment. -/
def capturePack (prepared : Prepared) (ports : CreateSessionPorts)
    (fixture : Fixtures.EpochGuardFixture) (verified : PerRole RoleAgentRegistration)
    (step : Fixtures.FixtureCaptureStep) :
    Except String (OpaqueId × BuiltCanonicalEvidencePack) := do
  let { database, session, .. } := prepared
  let role := step.role
  let ids := ports.captures.get role
  let assignment ← newAssignment session role (verified.get role) ports.runtimeLabel
    ports.timestamp ids.assignmentId ids.receiptId
  let attempt := initialAttemptForAssignment assignment ids.attemptId
  let named := { session with
    activeAttemptIds := session.activeAttemptIds.set role (some attempt.attemptId) }
  let appended := { database with
    runAssignments := database.runAssignments ++ [assignment]
    attempts := database.attempts ++ [attempt] }
  let built ← issuedPack (appended.setSession named) session.action assignment
    (fixture.querySpec role) ids.nonce ids.issuedAt
  return (assignment.assignmentId, built)

/-- The packs of the captures of a fixture. -/
def initialPacks (ports : CreateSessionPorts) (fixture : Fixtures.EpochGuardFixture)
    (verified : PerRole RoleAgentRegistration) :
    List Fixtures.FixtureInitialStep → Prepared → List (OpaqueId × BuiltCanonicalEvidencePack)
  | [], _ => []
  | step :: rest, prepared =>
      let built := match step with
        | .commit _ => []
        | .capture step => (capturePack prepared ports fixture verified step).toOption.toList
      match initialStep ports fixture verified prepared step with
      | .ok next => built ++ initialPacks ports fixture verified rest next
      | .error _ => built

/-- The session that `createSession` starts its captures with. -/
def startedSession (database : EpochDatabase) (request : CreateSessionRequest)
    (ports : CreateSessionPorts) : Except String Prepared := do
  let fixture := Fixtures.getEpochGuardFixture request.scenarioId
  let world ← Fixtures.initializeFixtureWorld database.toWorld fixture
  let action ← Fixtures.buildFixtureActionIntent request.scenarioId ports.sessionId ports.actionId
  let queried ← ROLES.foldlM (fun db role => storeQuerySpec db (fixture.querySpec role))
    { database with toWorld := world }
  let session := newSession request action ports.sessionId ports.timestamp
  return { database := { queried with sessions := queried.sessions ++ [session] }
           session
           packs := 0 }

def createSessionPacks (database : EpochDatabase) (request : CreateSessionRequest)
    (verified : PerRole RoleAgentRegistration) (ports : CreateSessionPorts) :
    List (OpaqueId × BuiltCanonicalEvidencePack) :=
  let fixture := Fixtures.getEpochGuardFixture request.scenarioId
  match startedSession database request ports with
  | .ok started => initialPacks ports fixture verified fixture.initialSteps started
  | .error _ => []

def refreshPack (database : EpochDatabase) (fixture : Fixtures.EpochGuardFixture)
    (assignmentId : OpaqueId) (nonce : String) (issuedAt : Timestamp) :
    Option (OpaqueId × BuiltCanonicalEvidencePack) := do
  let capture ← fixture.refreshCapture
  let assignment ← database.runAssignments.find? fun a => a.assignmentId = assignmentId
  let session ← (← (sessionById database assignment.sessionId).toOption)
  let built ← (issuedPack database session.action assignment (fixture.querySpec capture.role) nonce
    issuedAt).toOption
  return (assignment.assignmentId, built)

/-- The packs that a call builds when it issues receipts. -/
def packsIssued (database : EpochDatabase) : Call → List (OpaqueId × BuiltCanonicalEvidencePack)
  | .createSession request ports =>
      match verifyRequestedAgents database request with
      | .ok verified => createSessionPacks database request verified ports
      | .error _ => []
  | .captureRefreshObservation scenarioId assignmentId nonce issuedAt =>
      (refreshPack database (Fixtures.getEpochGuardFixture scenarioId) assignmentId nonce
        issuedAt).toList
  | _ => []

/-- A session in preparation, stored alone. -/
def Preparation (prepared : Prepared) : Prop :=
  ∃ s, prepared.database.sessions = [s] ∧ KeepsAction prepared.session s

theorem captureInitial_repacks {prepared next : Prepared} {ports : CreateSessionPorts}
    {fixture : Fixtures.EpochGuardFixture} {verified : PerRole RoleAgentRegistration}
    {step : Fixtures.FixtureCaptureStep} (hprepared : Preparation prepared)
    (h : captureInitial prepared ports fixture verified step = .ok next) :
    Preparation next ∧ Repacks (capturePack prepared ports fixture verified step).toOption.toList
      prepared.database next.database := by
  obtain ⟨s, hs, hkept⟩ := hprepared
  simp only [captureInitial, bind_eq_ok, require_eq_ok, pure_eq_ok] at h
  obtain ⟨-, -, assignment, hassignment, issued, hissued, rfl⟩ := h
  have hof : assignment.sessionId = prepared.session.sessionId := by
    simp only [newAssignment, bind_eq_ok, pure_eq_ok] at hassignment
    obtain ⟨-, -, rfl⟩ := hassignment
    rfl
  -- the store before the receipt: one more assignment, and the session names its attempt
  have hsame : SameAction prepared.database prepared.session := by
    intro t ht _
    rw [hs, List.mem_singleton] at ht
    rw [ht]
    exact ⟨hkept.2.1, hkept.2.2⟩
  have happended : ∀ named : EpochSession, KeepsAction prepared.session named →
      ∀ attempts : List AgentAttempt, Repacks [] prepared.database
        (EpochDatabase.setSession { prepared.database with
          runAssignments := prepared.database.runAssignments ++ [assignment], attempts }
          named) := by
    intro named hnamed attempts
    have hassignments : Rewrites (KeepsIssued prepared.database.receipts)
        prepared.database.runAssignments prepared.database.runAssignments :=
      Rewrites.of_eq (fun a => (progress_refl a).keepsIssued) rfl
    refine .of_receipts (.of_tables hassignments (List.prefix_append _ _) ?_ List.prefix_rfl rfl
      rfl) rfl
    exact keepsAction_setSession hsame hnamed
  have hstored : sessionById (EpochDatabase.setSession { prepared.database with
        runAssignments := prepared.database.runAssignments ++ [assignment]
        attempts := prepared.database.attempts ++ [initialAttemptForAssignment assignment
          (ports.captures.get step.role).attemptId] }
      { prepared.session with
        activeAttemptIds := prepared.session.activeAttemptIds.set step.role
          (some (ports.captures.get step.role).attemptId) }) assignment.sessionId =
      .ok (some { prepared.session with
        activeAttemptIds := prepared.session.activeAttemptIds.set step.role
          (some (ports.captures.get step.role).attemptId) }) := by
    simp [sessionById, EpochDatabase.setSession, modifyWhere, hs, hkept.1, hof, atMostOne]
  obtain ⟨hsessions, built, hbuilt, hrepacks⟩ := issueAndPack_repacks
    (List.mem_append_right _ (List.mem_singleton_self _)) hstored rfl hissued
  have hpack : capturePack prepared ports fixture verified step =
      .ok (assignment.assignmentId, built) := by
    simp only [capturePack, hassignment, bind_eq_ok, Except.ok.injEq, pure_eq_ok]
    exact ⟨_, rfl, built, hbuilt, rfl⟩
  refine ⟨⟨_, ?_, ⟨rfl, rfl, rfl⟩⟩, ?_⟩
  · rw [hsessions]
    simp [EpochDatabase.setSession, modifyWhere, hs, hkept.1, initialAttemptForAssignment]
  · rw [hpack]
    refine Repacks.andThen ?_ hrepacks
    refine happended _ ?_ _
    exact ⟨rfl, rfl, rfl⟩

theorem initialSteps_repacks {ports : CreateSessionPorts}
    {fixture : Fixtures.EpochGuardFixture} {verified : PerRole RoleAgentRegistration}
    {steps : List Fixtures.FixtureInitialStep} {prepared next : Prepared}
    (hprepared : Preparation prepared)
    (h : steps.foldlM (initialStep ports fixture verified) prepared = .ok next) :
    Repacks (initialPacks ports fixture verified steps prepared) prepared.database
      next.database := by
  induction steps generalizing prepared with
  | nil =>
    obtain rfl := pure_eq_ok.mp h
    exact .refl _
  | cons step rest ih =>
    rw [List.foldlM_cons, bind_eq_ok] at h
    obtain ⟨middle, hstep, hrest⟩ := h
    cases step with
    | commit step =>
      simp only [initialPacks, hstep]
      simp only [initialStep, Fixtures.applyFixtureCommit, bind_eq_ok, pure_eq_ok] at hstep
      obtain ⟨world, ⟨input, -, ⟨world', record⟩, hworld, rfl⟩, rfl⟩ := hstep
      have hmiddle : Preparation { prepared with
          database := { prepared.database with toWorld := world' } } := hprepared
      exact (repacks_worldCommit hworld).andThen (ih hmiddle hrest)
    | capture step =>
      simp only [initialPacks, hstep]
      obtain ⟨hmiddle, hrepacks⟩ := captureInitial_repacks hprepared hstep
      exact hrepacks.trans (ih hmiddle hrest)

/-- Every receipt of a store has a pack that can be rebuilt. -/
def Sealed (database : EpochDatabase) : Prop :=
  ∀ r ∈ database.receipts, ∃ built, writePack database r.runAssignmentId = .ok built

theorem Repacks.sealed {packs : List (OpaqueId × BuiltCanonicalEvidencePack)}
    (h : Repacks packs database left) (hsealed : Sealed database) : Sealed left := by
  intro r hr
  rcases h.issued r hr with hold | ⟨p, hp, hid⟩
  · obtain ⟨built, hbuilt⟩ := hsealed r hold
    exact ⟨built, writePack_of_retains h.toRetains hbuilt⟩
  · exact ⟨p.2, hid ▸ h.packed p hp⟩

/-- A store without a session has no pack. -/
theorem writePack_ne_ok (hnone : database.sessions = []) {id : OpaqueId}
    {built : BuiltCanonicalEvidencePack} : writePack database id ≠ .ok built := by
  intro h
  obtain ⟨_, _, _, _, _, hpacked⟩ := writePack_eq_ok.mp h
  exact absurd (sessionById_some hpacked.hasSession).1 (by simp [hnone])

/-- The queries of a fixture are stored once each. -/
theorem storeQuerySpecs_cases {start : EpochDatabase} {fixture : Fixtures.EpochGuardFixture}
    {roles : List Role} {queried : EpochDatabase}
    (h : roles.foldlM (fun db role => storeQuerySpec db (fixture.querySpec role)) start =
      .ok queried) :
    ∃ specs, queried = { start with roleQuerySpecs := specs } ∧ start.roleQuerySpecs <+: specs ∧
      ((start.roleQuerySpecs.map RoleQuerySpec.queryHash).Nodup →
        (specs.map RoleQuerySpec.queryHash).Nodup) := by
  refine foldlM_induction (P := fun db => ∃ specs, db = { start with roleQuerySpecs := specs } ∧
    start.roleQuerySpecs <+: specs ∧ ((start.roleQuerySpecs.map RoleQuerySpec.queryHash).Nodup →
      (specs.map RoleQuerySpec.queryHash).Nodup)) ?_ ⟨_, rfl, List.prefix_rfl, id⟩ h
  rintro before role after ⟨specs, rfl, hprefix, hnodup⟩ _ hstore
  unfold storeQuerySpec at hstore
  split at hstore
  · rename_i hfresh
    obtain rfl := pure_eq_ok.mp hstore
    refine ⟨_, rfl, hprefix.trans (List.prefix_append _ _), fun hstart => ?_⟩
    rw [List.map_append, List.map_singleton, List.nodup_append]
    refine ⟨hnodup hstart, List.nodup_singleton _, ?_⟩
    intro hash hhash other hother heq
    obtain ⟨q, hq, rfl⟩ := List.mem_map.mp hhash
    rw [List.mem_singleton] at hother
    exact List.filter_eq_nil_iff.mp hfresh q hq (by simp [heq, hother])
  · simp only [bind_eq_ok, pure_eq_ok] at hstore
    obtain ⟨-, -, rfl⟩ := hstore
    exact ⟨_, rfl, hprefix, hnodup⟩

/-- Each pack of a new session is rebuilt from the store that the creation
leaves. -/
theorem createSession_repacks (hnone : database.sessions = []) (hsealed : Sealed database)
    {request : CreateSessionRequest} {verified : PerRole RoleAgentRegistration}
    {ports : CreateSessionPorts}
    (h : createSession database request verified ports = .ok left) :
    Repacks (createSessionPacks database request verified ports) database left := by
  have hreceipts : database.receipts = [] := by
    refine List.eq_nil_iff_forall_not_mem.mpr fun r hr => ?_
    obtain ⟨built, hbuilt⟩ := hsealed r hr
    exact writePack_ne_ok hnone hbuilt
  unfold createSession at h
  split at h
  · simp at h
  · simp only [bind_eq_ok, require_eq_ok, mapError_eq_ok, pure_eq_ok] at h
    obtain ⟨-, ⟨-, -, hempty⟩, prepared, ⟨world, hworld, action, haction, queried, hqueried,
      hfold⟩, -, -, rfl⟩ := h
    have hqueries := storeQuerySpecs_cases hqueried
    have hstarted : startedSession database request ports = .ok
        { database := { queried with sessions := queried.sessions ++
            [newSession request action ports.sessionId ports.timestamp] }
          session := newSession request action ports.sessionId ports.timestamp
          packs := 0 } := by
      simp only [startedSession, bind_eq_ok, pure_eq_ok]
      exact ⟨world, hworld, action, haction, queried, hqueried, rfl⟩
    obtain ⟨specs, rfl, hprefix, hnodup⟩ := hqueries
    have hhead : world.headSeq ≤ maxSafeInteger := by
      simp only [Fixtures.initializeFixtureWorld, bind_eq_ok, pure_eq_ok] at hworld
      obtain ⟨-, -, rfl⟩ := hworld
      show (Fixtures.getEpochGuardFixture request.scenarioId).bootstrapHeadSeq ≤ maxSafeInteger
      cases request.scenarioId <;> decide
    -- nothing is stored yet that a pack could be built of
    have hopened : Retains database { database with
        toWorld := world
        roleQuerySpecs := specs
        sessions := database.sessions ++
          [newSession request action ports.sessionId ports.timestamp] } :=
      { assignments := by
          rintro _ _ _ ⟨r, hr, _⟩
          simp [hreceipts] at hr
        sessions := fun _ s hs => absurd (sessionById_some hs).1 (by simp [hnone])
        recorded := fun hrecorded => ⟨hnodup hrecorded.queries, fun s hs => by
          simp only [hnone, List.nil_append, List.mem_singleton] at hs
          rw [hs]
          rfl⟩
        receipts := List.prefix_rfl
        queries := hprefix
        versions := fun _ v hv => absurd hv.identified.mem (by simp [hempty])
        head := fun _ => hhead }
    have hprepared : Preparation
        { database := { database with
            toWorld := world
            roleQuerySpecs := specs
            sessions := database.sessions ++
              [newSession request action ports.sessionId ports.timestamp] }
          session := newSession request action ports.sessionId ports.timestamp
          packs := 0 } := ⟨_, by rw [hnone]; rfl, rfl, rfl, rfl⟩
    have hsteps := initialSteps_repacks hprepared hfold
    have hevent : Repacks [] prepared.database (appendEvent prepared.database prepared.session
        "SESSION_STATE" "DISPATCHING" [] ports.event) := .of_same rfl rfl rfl rfl rfl
    have hall := ((Repacks.of_receipts hopened rfl).andThen hsteps).trans hevent
    rw [List.append_nil] at hall
    simp only [createSessionPacks, hstarted]
    exact hall

/-- So is the pack of a refresh, and those of earlier receipts still are. -/
theorem captureRefreshObservation_repacks {fixture : Fixtures.EpochGuardFixture}
    {assignmentId : OpaqueId} {nonce : String} {issuedAt : Timestamp}
    (h : captureRefreshObservation database fixture assignmentId nonce issuedAt = .ok left) :
    Repacks (refreshPack database fixture assignmentId nonce issuedAt).toList database left := by
  simp only [captureRefreshObservation, bind_eq_ok, require_eq_ok, orStop_eq_ok,
    mapError_eq_ok] at h
  obtain ⟨capture, hcapture, -, -, assignment, hassignment, found, hfound, session, rfl, -, -,
    hissue⟩ := h
  obtain ⟨-, built, hbuilt, hrepacks⟩ := issueAndPack_repacks
    (List.mem_of_find?_eq_some hassignment) hfound rfl hissue
  have hpack : refreshPack database fixture assignmentId nonce issuedAt =
      some (assignment.assignmentId, built) := by
    simp [refreshPack, hcapture, hassignment, hfound, hbuilt, Except.toOption]
  rw [hpack]
  exact hrepacks

end Issues

/-! ## Runs of the service -/

section Runs

variable [Sha256] [OutputPorts] {database left : EpochDatabase}

omit [Sha256] [OutputPorts] in
theorem sessions_length (hinv : database.evidence.Inv) : database.sessions.length ≤ 1 := by
  simpa [EpochDatabase.evidence] using hinv.alone

/-- Every call but a reset issues packs that are rebuilt from what it leaves,
and keeps the earlier ones. -/
theorem repacks_leaves (hinv : database.evidence.Inv) (hsealed : Sealed database) {call : Call}
    (hreset : ∀ ids, call ≠ .resetDemo ids) (h : call.leaves database = some left) :
    Repacks (packsIssued database call) database left := by
  cases call with
  | registerRole registration =>
    simp only [Call.leaves, toOption_eq_some, registerRole, bind_eq_ok, pure_eq_ok] at h
    obtain ⟨-, -, -, -, rfl⟩ := h
    exact .of_same rfl rfl rfl rfl rfl
  | createSession request ports =>
    simp only [Call.leaves, Option.bind_eq_bind, Option.bind_eq_some_iff, toOption_eq_some] at h
    obtain ⟨verified, hverified, h⟩ := h
    -- a session is created on an untouched ledger only
    have hnone : database.sessions = [] := by
      by_contra hne
      have hcreate := h
      unfold createSession at hcreate
      split at hcreate
      · simp at hcreate
      · simp only [bind_eq_ok, require_eq_ok] at hcreate
        obtain ⟨-, ⟨hhead, -⟩, -⟩ := hcreate
        exact hinv.opened (by simpa [EpochDatabase.evidence] using hne) hhead
    simp only [packsIssued, hverified]
    exact createSession_repacks hnone hsealed h
  | transitionToCollecting sessionId timestamp event =>
    simp only [Call.leaves, toOption_eq_some, transitionToCollecting, bind_eq_ok, orStop_eq_ok,
      pure_eq_ok] at h
    obtain ⟨found, hfound, session, rfl, -, -, rfl⟩ := h
    refine .of_progress (Rewrites.of_eq progress_refl rfl) ?_ rfl rfl rfl
    exact keepsAction_setSession (sameAction_of_sessionById hfound) ⟨rfl, rfl, rfl⟩
  | transitionToDispatching | bindRunOnce | mirrorRun | failAttempt | rejectCompletedOutput =>
    exact (writesRuns_observer rfl h).repacks (progress_observer rfl h)
  | join settled scope =>
    obtain rfl := Option.some.inj h
    exact writesRuns_join.repacks progress_join
  | acceptInitial sessionId observations ports =>
    exact repacks_acceptAndValidate (toOption_eq_some.mp h)
  | acceptRefresh sessionId observation plan ports =>
    simp only [Call.leaves, Option.ite_none_right_eq_some, toOption_eq_some] at h
    exact repacks_acceptAndValidate h.2
  | claimRefreshPlan sessionId request registration runtimeLabel timestamp assignmentId receiptId
      attemptId =>
    simp only [Call.leaves, Option.ite_none_right_eq_some, toOption_eq_some,
      except_map_eq_ok] at h
    obtain ⟨-, out, hclaim, rfl⟩ := h
    exact repacks_claimRefreshPlan hclaim
  | captureRefreshObservation scenarioId assignmentId nonce issuedAt =>
    exact captureRefreshObservation_repacks (toOption_eq_some.mp h)
  | failSession sessionId error ports => exact repacks_failSession (toOption_eq_some.mp h)
  | commit sessionId expectedSessionRevision effectId timestamp =>
    simp only [Call.leaves, toOption_eq_some, except_map_eq_ok] at h
    obtain ⟨out, hcommit, rfl⟩ := h
    exact repacks_commitProtectedEffect hcommit
  | recordCommitRace sessionId ports =>
    exact (recordCommitRace_writes (toOption_eq_some.mp h)).repacks
  | recoverSessions timestamp ids =>
    exact repacks_recoverSessions (sessions_length hinv) (toOption_eq_some.mp h)
  | resetDemo ids => exact absurd rfl (hreset ids)
  | worldCommit input =>
    simp only [Call.leaves, toOption_eq_some, except_map_eq_ok, Prod.exists] at h
    obtain ⟨world, record, hcommit, rfl⟩ := h
    exact repacks_worldCommit hcommit

theorem repacks_publish (hinv : database.evidence.Inv) (hsealed : Sealed database) {call : Call}
    (hreset : ∀ ids, call ≠ .resetDemo ids) (h : publish database call = some left) :
    Repacks (packsIssued database call) database left := by
  obtain ⟨written, hwritten, -, rfl⟩ := publish_eq_some.mp h
  have hstamp : Repacks [] written (EpochStore.stamp written database) :=
    .of_same rfl rfl rfl rfl rfl
  have hall := (repacks_leaves hinv hsealed hreset hwritten).trans hstamp
  rwa [List.append_nil] at hall

/-- What holds of the records behind the packs of every reachable store. -/
theorem sealed_reachable (h : Reachable database) : Sealed database ∧ Recorded database := by
  refine (h.induction (P := fun db => db.evidence.Inv ∧ Sealed db ∧ Recorded db)
    ⟨Evidence.inv_empty, fun r hr => absurd hr List.not_mem_nil, List.nodup_nil,
      fun s hs => absurd hs List.not_mem_nil⟩ ?_).2
  intro before written call ⟨hinv, hsealed, hrecorded⟩ hwritten hparses
  have hafter : written.evidence.Inv :=
    Evidence.inv_steps hinv (Evidence.steps_leaves hinv hwritten)
  refine ⟨hafter, ?_⟩
  have hpublish : publish before call = some (EpochStore.stamp written before) :=
    publish_eq_some.mpr ⟨written, hwritten, hparses, rfl⟩
  by_cases hreset : ∃ ids, call = .resetDemo ids
  · obtain ⟨ids, rfl⟩ := hreset
    simp only [Call.leaves, toOption_eq_some, resetDemo] at hwritten
    split at hwritten
    · simp at hwritten
    · obtain rfl := pure_eq_ok.mp hwritten
      exact ⟨fun r hr => absurd hr List.not_mem_nil, List.nodup_nil,
        fun s hs => absurd hs List.not_mem_nil⟩
  · have hrepacks := repacks_publish hinv hsealed (fun ids heq => hreset ⟨ids, heq⟩) hpublish
    exact ⟨hrepacks.sealed hsealed, hrepacks.recorded hrecorded⟩

/-- What is rebuilt now is rebuilt after every run without a reset. -/
theorem writePack_run {calls : List Call} (h : Reachable database)
    (hreset : ∀ call ∈ calls, ∀ ids, call ≠ .resetDemo ids)
    (hrun : run publish database calls = some left) {id : OpaqueId}
    {built : BuiltCanonicalEvidencePack} (hpack : writePack database id = .ok built) :
    writePack left id = .ok built := by
  induction calls generalizing database with
  | nil =>
    obtain rfl := run_nil.mp hrun
    exact hpack
  | cons call calls ih =>
    obtain ⟨next, hnext, hrest⟩ := run_cons.mp hrun
    have hrepacks := repacks_publish (Evidence.inv_reachable h) (sealed_reachable h).1
      (hreset call List.mem_cons_self) hnext
    exact ih (h.publish hnext) (fun c hc => hreset c (List.mem_cons_of_mem _ hc)) hrest
      (writePack_of_retains hrepacks.toRetains hpack)

/-- The pack of a receipt is determined by what is stored. The one that is built
when the receipt is issued is the one that is rebuilt from the stored records
after any later run without a reset, and its hash is the stored one. -/
theorem evidencePack_stable (h : Reachable database) :
    (∀ receipt ∈ database.receipts, ∃ built, ∀ calls later,
      (∀ call ∈ calls, ∀ ids, call ≠ .resetDemo ids) → run publish database calls = some later →
      writePack later receipt.runAssignmentId = .ok built) ∧
    ∀ call next, publish database call = some next →
      ∀ receipt ∈ next.receipts, receipt ∉ database.receipts →
      ∃ built, (receipt.runAssignmentId, built) ∈ packsIssued database call ∧
        ∀ calls later, (∀ call ∈ calls, ∀ ids, call ≠ .resetDemo ids) →
          run publish next calls = some later →
          writePack later receipt.runAssignmentId = .ok built := by
  constructor
  · intro receipt hreceipt
    obtain ⟨built, hbuilt⟩ := (sealed_reachable h).1 receipt hreceipt
    exact ⟨built, fun calls later hreset hrun => writePack_run h hreset hrun hbuilt⟩
  · intro call next hnext receipt hreceipt hnew
    have hreset : ∀ ids, call ≠ .resetDemo ids := by
      rintro ids rfl
      obtain ⟨written, hwritten, -, rfl⟩ := publish_eq_some.mp hnext
      simp only [Call.leaves, toOption_eq_some, resetDemo] at hwritten
      split at hwritten
      · simp at hwritten
      · obtain rfl := pure_eq_ok.mp hwritten
        exact absurd hreceipt List.not_mem_nil
    have hrepacks := repacks_publish (Evidence.inv_reachable h) (sealed_reachable h).1 hreset hnext
    rcases hrepacks.issued receipt hreceipt with hold | ⟨p, hp, hid⟩
    · exact absurd hold hnew
    · have hpack : writePack next receipt.runAssignmentId = .ok p.2 := hid ▸ hrepacks.packed p hp
      exact ⟨p.2, hid ▸ hp, fun calls later hno hrun =>
        writePack_run (h.publish hnext) hno hrun hpack⟩

end Runs

/-! ### The packs of one session -/

namespace Sample

theorem reachable_registered : Reachable registered := ⟨_, run_registerRoles⟩

/-- The call that issues the receipts of the session. -/
def issuingCall : Call := .createSession ⟨.normalWorldV1, PerRole.ofFn agentId⟩ createPorts

theorem laterCalls_kept : ∀ call ∈ laterCalls, ∀ ids, call ≠ .resetDemo ids := by
  simp [laterCalls]

end Sample

open EpochGuard.Service.Sample in
theorem evidencePack_stable_sample :
    (∃ after, run publish database laterCalls = some after ∧
      after.headSeq = database.headSeq + 2 ∧
      ∀ receipt ∈ database.receipts, ∃ built,
        writePack database receipt.runAssignmentId = .ok built ∧
          writePack after receipt.runAssignmentId = .ok built) ∧
    ∀ receipt ∈ (created .normalWorldV1).receipts, ∃ built,
      (receipt.runAssignmentId, built) ∈ packsIssued registered issuingCall ∧
        ∀ calls after, (∀ call ∈ calls, ∀ ids, call ≠ .resetDemo ids) →
          run publish (created .normalWorldV1) calls = some after →
          writePack after receipt.runAssignmentId = .ok built := by
  constructor
  · have hcheck := database_releasable
    simp only [releasable, Bool.and_eq_true] at hcheck
    obtain ⟨after, hafter, hhead⟩ := (Option.any_eq_true _ _).mp hcheck.2
    refine ⟨after, hafter, of_decide_eq_true ((Bool.and_eq_true ..).mp hhead).1, ?_⟩
    intro receipt hreceipt
    obtain ⟨built, hbuilt⟩ := (evidencePack_stable reachable).1 receipt hreceipt
    refine ⟨built, hbuilt [] database ?_ (run_nil.mpr rfl),
      hbuilt laterCalls after laterCalls_kept hafter⟩
    exact fun call hcall => absurd hcall List.not_mem_nil
  · intro receipt hreceipt
    refine (evidencePack_stable reachable_registered).2 issuingCall _
      (publish_createSession .normalWorldV1) receipt hreceipt ?_
    exact List.not_mem_nil

end Service

end EpochGuard
