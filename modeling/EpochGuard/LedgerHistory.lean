import EpochGuard.WorldLedger

/-!
# The ledger's history

One commit is analysed once, by `commit_cases`. From it follow the
representation invariant of the ledger, and that the ledger holds the replay of
its successful commits. A stored value is the committed one but for own
`__proto__` properties, so that the ledger answers every lookup as the replay
does exactly when no commit wrote such a property.
-/

namespace EpochGuard

open Json Checked

namespace WorldLedger

/-! ## The versions of one resource -/

/-- The versions of a resource, in the order of the history. -/
def versionsOf (world : World) (resourceId : String) : List ResourceVersion :=
  world.resourceVersions.filter fun v => v.resourceId.val = resourceId

theorem mem_versionsOf {world : World} {resourceId : String} {v : ResourceVersion} :
    v ∈ versionsOf world resourceId ↔
      v ∈ world.resourceVersions ∧ v.resourceId.val = resourceId := by
  simp [versionsOf]

theorem filter_coversAt {world : World} {resourceId : String} {seq : Nat} :
    world.resourceVersions.filter (coversAt resourceId seq) =
      (versionsOf world resourceId).filter fun v => seq ∈ v.interval := by
  simp only [versionsOf, List.filter_filter]
  exact List.filter_congr fun v _ => by simp [coversAt, Bool.and_comm]

/-- A version that a commit with these new versions closes. -/
def closedBy (pending : List ResourceVersion) (version : ResourceVersion) : Bool :=
  version.validUntilSeq.isNone && (pending.map ResourceVersion.resourceId).contains
    version.resourceId

/-- A stored version after a commit at `nextSeq`. -/
def settle (pending : List ResourceVersion) (nextSeq : Nat) (version : ResourceVersion) :
    ResourceVersion :=
  if closedBy pending version then { version with validUntilSeq := some nextSeq } else version

@[simp] theorem settle_resourceId {pending : List ResourceVersion} {n : Nat}
    {v : ResourceVersion} : (settle pending n v).resourceId = v.resourceId := by
  unfold settle
  split <;> rfl

/-- Of a version, closing changes its end alone. -/
theorem settle_eq {pending : List ResourceVersion} {n : Nat} {v : ResourceVersion} :
    settle pending n v = { v with validUntilSeq := (settle pending n v).validUntilSeq } := by
  unfold settle
  split <;> rfl

/-- What does not read the end of a version is the same of closed versions. -/
theorem map_map_settle {α : Type} {f : ResourceVersion → α}
    (hf : ∀ v validUntilSeq, f { v with validUntilSeq } = f v) (pending : List ResourceVersion)
    (n : Nat) (versions : List ResourceVersion) :
    (versions.map (settle pending n)).map f = versions.map f := by
  rw [List.map_map]
  refine List.map_congr_left fun v _ => ?_
  rw [Function.comp_apply, settle_eq]
  exact hf v _

/-- A version of a changed resource, closed where it was open. -/
theorem interval_settle {world : World} {pending : List ResourceVersion}
    {p v : ResourceVersion} (hp : p ∈ pending) (hv : v ∈ versionsOf world p.resourceId.val)
    (n : Nat) :
    (settle pending n v).interval = v.interval.closeAt n := by
  have hres : v.resourceId = p.resourceId := OpaqueId.val_inj.mp (mem_versionsOf.mp hv).2
  have hmem : v.resourceId ∈ pending.map ResourceVersion.resourceId :=
    hres ▸ List.mem_map_of_mem hp
  unfold settle closedBy
  cases huntil : v.validUntilSeq with
  | none =>
    simp only [Option.isNone_none, Bool.true_and, List.contains_iff_mem, hmem, if_true]
    simp [ResourceVersion.interval, HalfOpen.closeAt, huntil]
  | some u => simp [ResourceVersion.interval, HalfOpen.closeAt, huntil]

variable [Sha256]

/-! ## What the ledger keeps of a value -/

/-- The value of a version, and the hash it was given. -/
def kept (version : ResourceVersion) : JsonValue × Sha256Digest :=
  (version.value, version.valueHash)

omit [Sha256] in
theorem kept_settle {pending : List ResourceVersion} {n : Nat} {v : ResourceVersion} :
    kept (settle pending n v) = kept v := by
  rw [settle_eq]
  rfl

/-- Of a committed value, the hash of the whole value and the parsed copy of it. -/
def keptOf (value : Value) : JsonValue × Sha256Digest :=
  (JsonValue.parse (Json.normalize value), sha256Digest (canonicalJson (Json.normalize value)))

/-- Of a value without `__proto__` properties the hash is found right. -/
theorem verified_of_plain {version : ResourceVersion} {value : Value}
    (hkept : kept version = keptOf value) (hplain : Plain value) :
    version.Verified ∧ version.value.val = Json.normalize value := by
  have hsame : dropProto (Json.normalize value) = Json.normalize value :=
    dropProto_of_plain _ ((plain_normalize value).mpr hplain)
  have hvalue : version.value.val = Json.normalize value :=
    (congrArg (fun k => k.1.val) hkept).trans hsame
  have hhash : version.valueHash = sha256Digest (canonicalJson (Json.normalize value)) :=
    congrArg Prod.snd hkept
  refine ⟨?_, hvalue⟩
  rw [ResourceVersion.Verified, hhash, hvalue]

/-! ## What one commit does -/

/-- What a new version records of the change it was made for. -/
structure Records (nextSeq : Nat) (change : WorldChangeInput) (version : ResourceVersion) :
    Prop where
  resourceId : version.resourceId.val = change.resourceId
  kept : kept version = keptOf change.value
  validFromSeq : version.validFromSeq = nextSeq
  validUntilSeq : version.validUntilSeq = none

/-- A new version is unlike every stored one. -/
structure Fresh (world : World) (version : ResourceVersion) : Prop where
  id : ∀ v ∈ world.resourceVersions, v.id ≠ version.id
  revision : ∀ v ∈ world.resourceVersions, v.resourceId = version.resourceId →
    v.sourceRevision ≠ version.sourceRevision

theorem admitChange_cases {world : World} {nextSeq : Nat} {known : List OpaqueId}
    {change : WorldChangeInput} {admitted : Admitted}
    (h : admitChange world nextSeq known change = .ok admitted) :
    Records nextSeq change admitted.version ∧ admitted.version.id ∉ known ∧
      (∀ v ∈ world.resourceVersions, v.resourceId = admitted.version.resourceId →
        v.sourceRevision ≠ admitted.version.sourceRevision) ∧
      world.resourceVersions.filter (isOpenFor change.resourceId) =
        admitted.previous.toList := by
  simp only [admitChange, openVersion, resolveResourceVersionByResourceRevision, bind_eq_ok,
    require_eq_ok, orStop_eq_ok, atMostOne_eq_ok, mapM_parseVerifiedResourceVersion_eq_ok,
    pure_eq_ok, OpaqueId.parse?_eq_some] at h
  obtain ⟨previous, ⟨_, hopen, -, rfl⟩, -, -, revision, -, existing, hrevision, -, hnone,
    id, -, resource, hresource, -, hid, rfl⟩ := h
  refine ⟨⟨hresource, rfl, rfl, rfl⟩, hid, ?_, hopen⟩
  intro v hv hsame heq
  have hmem : v ∈ world.resourceVersions.filter (hasRevision change.resourceId revision) := by
    simp [hasRevision, hv, hsame, hresource, heq]
  rw [hrevision, Option.isNone_iff_eq_none.mp hnone] at hmem
  simp at hmem

theorem admitChanges_cases {world : World} {nextSeq : Nat} {seen : List String}
    {known : List OpaqueId} {changes : List WorldChangeInput} {admitted : List Admitted}
    (h : admitChanges world nextSeq seen known changes = .ok admitted) :
    List.Forall₂ (Records nextSeq) changes (admitted.map Admitted.version) ∧
      ((changes.map WorldChangeInput.resourceId).Nodup ∧
        ∀ c ∈ changes, c.resourceId ∉ seen) ∧
      ((admitted.map fun a => a.version.id).Nodup ∧ ∀ a ∈ admitted, a.version.id ∉ known) ∧
      ∀ a ∈ admitted,
        (∀ v ∈ world.resourceVersions, v.resourceId = a.version.resourceId →
          v.sourceRevision ≠ a.version.sourceRevision) ∧
        world.resourceVersions.filter (isOpenFor a.version.resourceId.val) =
          a.previous.toList := by
  induction changes generalizing seen known admitted with
  | nil =>
    simp only [admitChanges, pure_eq_ok] at h
    subst h
    simp
  | cons change rest ih =>
    simp only [admitChanges, bind_eq_ok, require_eq_ok, pure_eq_ok] at h
    obtain ⟨-, hseen, a, ha, as, has, rfl⟩ := h
    obtain ⟨hrecords, hknown, hrevision, hopen⟩ := admitChange_cases ha
    obtain ⟨hall, ⟨hnodup, hnew⟩, ⟨hids, hidsNew⟩, hrest⟩ := ih has
    refine ⟨.cons hrecords hall, ⟨?_, ?_⟩, ⟨?_, ?_⟩, ?_⟩
    · refine List.nodup_cons.mpr ⟨?_, hnodup⟩
      intro hmem
      obtain ⟨c, hc, heq⟩ := List.mem_map.mp hmem
      exact hnew c hc (by simp [heq])
    · intro c hc
      rcases List.mem_cons.mp hc with rfl | hc
      · exact hseen
      · exact fun hmem => hnew c hc (List.mem_cons_of_mem _ hmem)
    · refine List.nodup_cons.mpr ⟨?_, hids⟩
      intro hmem
      obtain ⟨b, hb, heq⟩ := List.mem_map.mp hmem
      exact hidsNew b hb (by simp [heq])
    · intro b hb
      rcases List.mem_cons.mp hb with rfl | hb
      · exact hknown
      · exact fun hmem => hidsNew b hb (List.mem_cons_of_mem _ hmem)
    · intro b hb
      rcases List.mem_cons.mp hb with rfl | hb
      · exact ⟨hrevision, hrecords.resourceId ▸ hopen⟩
      · exact hrest b hb

/-- All that a successful commit does: the head moves by one, the open versions
of the changed resources end there, and one new version for each change begins.
-/
structure CommitStep (world : World) (input : WorldCommitInput)
    (pending : List ResourceVersion) (world' : World) : Prop where
  headSeq : world'.headSeq = world.headSeq + 1
  head_safe : world'.headSeq ≤ maxSafeInteger
  worldCommits : ∃ record : WorldCommit, record.seq = world'.headSeq ∧
    world'.worldCommits = world.worldCommits ++ [record]
  resourceVersions : world'.resourceVersions =
    world.resourceVersions.map (settle pending world'.headSeq) ++ pending
  records : List.Forall₂ (Records world'.headSeq) (input.changes.insertionSort byResource) pending
  changed : (input.changes.map WorldChangeInput.resourceId).Nodup
  ids : (pending.map ResourceVersion.id).Nodup
  fresh : ∀ p ∈ pending, Fresh world p

theorem commit_cases {world world' : World} {input : WorldCommitInput} {record : WorldCommit}
    (h : commit world input = .ok (world', record)) :
    ∃ pending, CommitStep world input pending world' := by
  simp only [commit, assertWorldHead, bind_eq_ok, require_eq_ok, orStop_eq_ok, pure_eq_ok,
    Prod.mk.injEq] at h
  obtain ⟨-, -, -, -, -, hsafe, -, -, -, -, admitted, hadmit, changes, -, -, -, createdAt, -,
    -, -, rfl, -⟩ := h
  obtain ⟨hrecords, ⟨hchanged, -⟩, ⟨hids, hknown⟩, hall⟩ := admitChanges_cases hadmit
  refine ⟨admitted.map Admitted.version,
    { headSeq := rfl, head_safe := hsafe, worldCommits := ⟨_, rfl, rfl⟩,
      resourceVersions := ?_, records := hrecords, changed := ?_, ids := ?_, fresh := ?_ }⟩
  · simp only [modifyWhere, List.append_cancel_right_eq]
    refine List.map_congr_left fun v hv => ?_
    have hcloses : closesVersion admitted v = closedBy (admitted.map Admitted.version) v := by
      rw [Bool.eq_iff_iff]
      simp only [closesVersion, closedBy, isOpenFor, List.any_eq_true, Bool.and_eq_true,
        decide_eq_true_eq, List.contains_iff_mem, List.mem_map, List.map_map, Function.comp]
      constructor
      · rintro ⟨a, ha, -, hres, hopen⟩
        exact ⟨hopen, a, ha, (OpaqueId.val_inj.mp hres).symm⟩
      · rintro ⟨hopen, a, ha, hres⟩
        refine ⟨a, ha, ?_, by rw [hres], hopen⟩
        -- the open version itself shows that one was found
        have hmem : v ∈ world.resourceVersions.filter (isOpenFor a.version.resourceId.val) := by
          simp [isOpenFor, hv, hres, Option.isNone_iff_eq_none.mp hopen]
        rw [(hall a ha).2] at hmem
        cases hprev : a.previous <;> simp [hprev] at hmem ⊢
    simp [settle, hcloses]
  · exact ((List.perm_insertionSort byResource input.changes).map _).nodup_iff.mp hchanged
  · simpa [List.map_map, Function.comp_def] using hids
  · intro p hp
    obtain ⟨a, ha, rfl⟩ := List.mem_map.mp hp
    exact ⟨fun v hv heq => hknown a ha (heq ▸ List.mem_map_of_mem hv), (hall a ha).1⟩

namespace CommitStep

variable {world world' : World} {input : WorldCommitInput} {pending : List ResourceVersion}

theorem record_of_mem (h : CommitStep world input pending world') :
    ∀ p ∈ pending, ∃ c ∈ input.changes, Records world'.headSeq c p := by
  intro p hp
  have hrecords := h.records
  have hex : ∃ c ∈ input.changes.insertionSort byResource, Records world'.headSeq c p := by
    generalize input.changes.insertionSort byResource = changes at hrecords
    clear h
    induction hrecords with
    | nil => simp at hp
    | cons hrec _ ih =>
      rcases List.mem_cons.mp hp with rfl | hp
      · exact ⟨_, by simp, hrec⟩
      · obtain ⟨c, hc, hrec⟩ := ih hp
        exact ⟨c, List.mem_cons_of_mem _ hc, hrec⟩
  simpa using hex

/-- The new versions of one resource keep, in order, its changed values. -/
theorem map_kept_filter (h : CommitStep world input pending world') (resourceId : String) :
    (pending.filter fun p => p.resourceId.val = resourceId).map kept =
      ((input.changes.insertionSort byResource).filter fun c => c.resourceId = resourceId).map
        fun c => keptOf c.value := by
  have hrecords := h.records
  generalize input.changes.insertionSort byResource = changes at hrecords
  clear h
  induction hrecords with
  | nil => rfl
  | @cons c p _ _ hrec _ ih =>
    by_cases hr : c.resourceId = resourceId
    · simp [hr, hrec.resourceId, hrec.kept, ih]
    · simp [hr, hrec.resourceId, ih]

theorem map_resourceId (h : CommitStep world input pending world') :
    (pending.map fun p => p.resourceId.val) =
      (input.changes.insertionSort byResource).map WorldChangeInput.resourceId := by
  have hrecords := h.records
  generalize input.changes.insertionSort byResource = changes at hrecords
  clear h
  induction hrecords with
  | nil => rfl
  | cons hrec _ ih => simp [hrec.resourceId, ih]

/-- A commit has one new version for each resource it changes. -/
theorem nodup_resources (h : CommitStep world input pending world') :
    (pending.map fun p => p.resourceId.val).Nodup := by
  rw [h.map_resourceId]
  exact ((List.perm_insertionSort byResource input.changes).map _).nodup_iff.mpr h.changed

end CommitStep

namespace CommitStep

variable {world world' : World} {input : WorldCommitInput} {pending : List ResourceVersion}

theorem versionsOf_eq (h : CommitStep world input pending world') (resourceId : String) :
    versionsOf world' resourceId =
      (versionsOf world resourceId).map (settle pending world'.headSeq) ++
        pending.filter fun p => p.resourceId.val = resourceId := by
  simp [versionsOf, h.resourceVersions, List.filter_map, Function.comp_def]

/-- A commit leaves the history of the other resources as it is. -/
theorem versionsOf_unchanged (h : CommitStep world input pending world') {resourceId : String}
    (hr : ∀ p ∈ pending, p.resourceId.val ≠ resourceId) :
    versionsOf world' resourceId = versionsOf world resourceId := by
  have hnone : (pending.filter fun p => p.resourceId.val = resourceId) = [] := by
    simpa [List.filter_eq_nil_iff] using hr
  have hsame : (versionsOf world resourceId).map (settle pending world'.headSeq) =
      versionsOf world resourceId := by
    conv_rhs => rw [← List.map_id (versionsOf world resourceId)]
    refine List.map_congr_left fun v hv => ?_
    have hclosed : closedBy pending v = false := by
      simp only [closedBy, Bool.and_eq_false_imp, List.contains_eq_mem, decide_eq_false_iff_not,
        List.mem_map, not_exists, not_and]
      intro _ p hp heq
      exact hr p hp (heq ▸ (mem_versionsOf.mp hv).2)
    simp [settle, hclosed]
  rw [h.versionsOf_eq, hnone, hsame, List.append_nil]

/-- A commit ends the history of a changed resource at its sequence, and
continues it with the new version. -/
theorem versionsOf_changed (h : CommitStep world input pending world') {p : ResourceVersion}
    (hp : p ∈ pending) :
    versionsOf world' p.resourceId.val =
      (versionsOf world p.resourceId.val).map (settle pending world'.headSeq) ++ [p] := by
  have hone : (pending.filter fun q => q.resourceId.val = p.resourceId.val) = [p] :=
    single?_eq_some.mp (single?_of_nodup_key h.nodup_resources hp)
  rw [h.versionsOf_eq, hone]

end CommitStep

/-! ## The representation invariant -/

/-- The history of every resource is a timeline that ends at or before the
head, and names its versions apart. -/
structure LedgerInv (world : World) : Prop where
  timeline : ∀ resourceId,
    HalfOpen.IsTimeline ((versionsOf world resourceId).map ResourceVersion.interval)
  from_le_head : ∀ v ∈ world.resourceVersions, v.validFromSeq ≤ world.headSeq
  until_le_head : ∀ v ∈ world.resourceVersions, ∀ u ∈ v.validUntilSeq, u ≤ world.headSeq
  revisions : (world.resourceVersions.map fun v => (v.resourceId, v.sourceRevision)).Nodup
  ids : (world.resourceVersions.map ResourceVersion.id).Nodup

theorem LedgerInv.commit {world world' : World} {input : WorldCommitInput}
    {pending : List ResourceVersion} (hinv : LedgerInv world)
    (h : CommitStep world input pending world') : LedgerInv world' where
  timeline := by
    intro resourceId
    by_cases hr : ∃ p ∈ pending, p.resourceId.val = resourceId
    · -- the resource gets a version, which starts where its last one is closed
      obtain ⟨p, hp, rfl⟩ := hr
      obtain ⟨c, -, hrec⟩ := h.record_of_mem p hp
      have hlast : p.interval = ⟨world'.headSeq, none⟩ := by
        simp [ResourceVersion.interval, hrec.validFromSeq, hrec.validUntilSeq]
      have hclosed : ((versionsOf world p.resourceId.val).map
          (settle pending world'.headSeq)).map ResourceVersion.interval =
          ((versionsOf world p.resourceId.val).map ResourceVersion.interval).map
            (HalfOpen.closeAt world'.headSeq) := by
        simp only [List.map_map]
        exact List.map_congr_left fun v hv => interval_settle hp hv _
      rw [h.versionsOf_changed hp, List.map_append, hclosed, List.map_singleton, hlast]
      refine (hinv.timeline _).append fun i hi => ?_
      obtain ⟨v, hv, rfl⟩ := List.mem_map.mp hi
      have := hinv.from_le_head v (mem_versionsOf.mp hv).1
      have := h.headSeq
      simp only [ResourceVersion.interval]
      omega
    · rw [h.versionsOf_unchanged fun p hp heq => hr ⟨p, hp, heq⟩]
      exact hinv.timeline resourceId
  from_le_head := by
    intro v hv
    rw [h.resourceVersions, List.mem_append, List.mem_map] at hv
    rcases hv with ⟨v, hv, rfl⟩ | hv
    · have := hinv.from_le_head v hv
      have := h.headSeq
      rw [settle_eq]
      simp only
      omega
    · obtain ⟨c, -, hrec⟩ := h.record_of_mem v hv
      exact hrec.validFromSeq.le
  until_le_head := by
    intro v hv u hu
    have hhead := h.headSeq
    rw [h.resourceVersions, List.mem_append, List.mem_map] at hv
    rcases hv with ⟨v, hv, rfl⟩ | hv
    · unfold settle at hu
      split at hu
      · simp only [Option.mem_def, Option.some.injEq] at hu
        omega
      · have := hinv.until_le_head v hv u hu
        omega
    · obtain ⟨c, -, hrec⟩ := h.record_of_mem v hv
      simp [hrec.validUntilSeq] at hu
  revisions := by
    have hkept := map_map_settle (f := fun v => (v.resourceId, v.sourceRevision))
      (fun _ _ => rfl) pending world'.headSeq world.resourceVersions
    -- a commit changes a resource once, under a revision that none of its versions has
    have hpending : (pending.map fun v => (v.resourceId, v.sourceRevision)).Nodup := by
      refine List.Nodup.of_map (fun k : OpaqueId × Nat => k.1.val) ?_
      simpa [List.map_map, Function.comp_def] using h.nodup_resources
    rw [h.resourceVersions, List.map_append, hkept, List.nodup_append']
    refine ⟨hinv.revisions, hpending, ?_⟩
    intro k hk hk'
    obtain ⟨v, hv, rfl⟩ := List.mem_map.mp hk
    obtain ⟨p, hp, heq⟩ := List.mem_map.mp hk'
    obtain ⟨hres, hrev⟩ := Prod.mk.injEq .. ▸ heq
    exact (h.fresh p hp).revision v hv hres.symm hrev.symm
  ids := by
    have hkept := map_map_settle (f := ResourceVersion.id) (fun _ _ => rfl) pending
      world'.headSeq world.resourceVersions
    rw [h.resourceVersions, List.map_append, hkept, List.nodup_append']
    refine ⟨hinv.ids, h.ids, ?_⟩
    intro k hk hk'
    obtain ⟨v, hv, rfl⟩ := List.mem_map.mp hk
    obtain ⟨p, hp, heq⟩ := List.mem_map.mp hk'
    exact (h.fresh p hp).id v hv heq.symm

/-! ## Lookups under the invariant -/

namespace LedgerInv

variable {world : World}

omit [Sha256] in
theorem parses (hinv : LedgerInv world) : ∀ v ∈ world.resourceVersions, v.parses := by
  intro v hv
  have hmem : v.interval ∈ (versionsOf world v.resourceId.val).map ResourceVersion.interval :=
    List.mem_map_of_mem (mem_versionsOf.mpr ⟨hv, rfl⟩)
  exact (hinv.timeline _).start_lt_stop _ hmem

omit [Sha256] in
/-- At most one version of a resource covers a sequence. -/
theorem length_covering (hinv : LedgerInv world) (resourceId : String) (seq : Nat) :
    ((versionsOf world resourceId).filter fun v => seq ∈ v.interval).length ≤ 1 := by
  refine (List.pairwise_map.mp (hinv.timeline resourceId).pairwise_disjoint)
    |>.length_filter_le_one fun v w hdisj hv => ?_
  simpa using hdisj seq (by simpa using hv)

/-- Lookup by sequence checks the version that covers the sequence. -/
theorem resolve_at (hinv : LedgerInv world) (resourceId : String) {seq : Nat}
    (hseq : seq ≤ maxSafeInteger) :
    resolveResourceVersionAt world resourceId seq =
      ((versionsOf world resourceId).filter fun v => seq ∈ v.interval).head?.mapM
        parseVerifiedResourceVersion := by
  have hmatch : atMostOne (world.resourceVersions.filter (coversAt resourceId seq))
      s!"Resource {resourceId} has overlapping versions at {seq}" =
      .ok ((versionsOf world resourceId).filter fun v => seq ∈ v.interval).head? := by
    rw [atMostOne_eq_ok, filter_coversAt]
    exact eq_toList_head? (hinv.length_covering resourceId seq)
  have hsafe : require (seq ≤ maxSafeInteger)
      "World sequence must be a non-negative safe integer" = .ok () := require_eq_ok.mpr hseq
  rw [resolveResourceVersionAt, hsafe, hmatch]
  rfl

end LedgerInv

/-! ## Replay of the commit log -/

/-- A successful commit: its sequence and what it changed. -/
structure LogEntry where
  seq : Nat
  changes : List WorldChangeInput

/-- The value that an entry gave the resource, if it changed it. -/
def LogEntry.written? (entry : LogEntry) (resourceId : String) : Option Value :=
  (entry.changes.find? fun c => c.resourceId = resourceId).map WorldChangeInput.value

/-- The value written by the last commit at or before `seq` that changed the
resource. -/
def valueAt (log : List LogEntry) (resourceId : String) (seq : Nat) : Option Value :=
  (log.filter fun e => e.seq ≤ seq).reverse.findSome? fun e => e.written? resourceId

omit [Sha256] in
theorem valueAt_append {log : List LogEntry} {entry : LogEntry} {resourceId : String}
    {seq : Nat} :
    valueAt (log ++ [entry]) resourceId seq =
      if entry.seq ≤ seq then (entry.written? resourceId).or (valueAt log resourceId seq)
      else valueAt log resourceId seq := by
  by_cases h : entry.seq ≤ seq
  · cases hw : entry.written? resourceId <;> simp [valueAt, h, hw]
  · simp [valueAt, h]

/-- Every resource has, at every sequence, what is kept of the value of the log. -/
def Replays (world : World) (log : List LogEntry) : Prop :=
  ∀ resourceId seq,
    ((versionsOf world resourceId).filter fun v => seq ∈ v.interval).map kept =
      ((valueAt log resourceId seq).map keptOf).toList

namespace CommitStep

variable {world world' : World} {input : WorldCommitInput} {pending : List ResourceVersion}

/-- The one change that a new version was made for is what the log finds. -/
theorem written_changed (h : CommitStep world input pending world') {p : ResourceVersion}
    (hp : p ∈ pending) (seq : Nat) :
    ((LogEntry.mk seq input.changes).written? p.resourceId.val).map keptOf = some (kept p) := by
  have hone : (pending.filter fun q => q.resourceId.val = p.resourceId.val) = [p] :=
    single?_eq_some.mp (single?_of_nodup_key h.nodup_resources hp)
  have hvalues := h.map_kept_filter p.resourceId.val
  rw [hone, List.map_singleton, eq_comm, List.map_eq_singleton_iff] at hvalues
  obtain ⟨c, hc, hvalue⟩ := hvalues
  have hperm := (List.perm_insertionSort byResource input.changes).filter
    fun c => c.resourceId = p.resourceId.val
  rw [hc, List.singleton_perm] at hperm
  simp [LogEntry.written?, ← List.head?_filter, ← hperm, hvalue]

theorem written_unchanged (h : CommitStep world input pending world') {resourceId : String}
    (hr : ∀ p ∈ pending, p.resourceId.val ≠ resourceId) {seq : Nat} :
    (LogEntry.mk seq input.changes).written? resourceId = none := by
  simp only [LogEntry.written?, Option.map_eq_none_iff, List.find?_eq_none, decide_eq_true_eq]
  rintro c hc rfl
  have hmem : c.resourceId ∈ pending.map fun p => p.resourceId.val := by
    rw [h.map_resourceId]
    exact List.mem_map_of_mem ((List.mem_insertionSort _).mpr hc)
  obtain ⟨p, hp, heq⟩ := List.mem_map.mp hmem
  exact hr p hp heq

/-- Up to the old head a commit changes no answer, but for the end of the
version that it closes. -/
theorem covering_old (h : CommitStep world input pending world') (resourceId : String)
    {seq : Nat} (hseq : seq < world'.headSeq) :
    ((versionsOf world' resourceId).filter fun v => seq ∈ v.interval) =
      ((versionsOf world resourceId).filter fun v => seq ∈ v.interval).map
        (settle pending world'.headSeq) := by
  have hnew : (pending.filter fun p => p.resourceId.val = resourceId).filter
      (fun v => seq ∈ v.interval) = [] := by
    simp only [List.filter_eq_nil_iff, List.mem_filter, decide_eq_true_eq, and_imp]
    intro p hp _ hmem
    obtain ⟨c, -, hrec⟩ := h.record_of_mem p hp
    have := hmem.1
    simp only [ResourceVersion.interval, hrec.validFromSeq] at this
    omega
  rw [h.versionsOf_eq, List.filter_append, hnew, List.append_nil, List.filter_map]
  refine congrArg _ (List.filter_congr fun v _ => ?_)
  simp only [Function.comp, settle]
  split
  · rename_i hclosed
    simp only [closedBy, Bool.and_eq_true, Option.isNone_iff_eq_none] at hclosed
    obtain ⟨hopen, -⟩ := hclosed
    simp [ResourceVersion.interval, hopen, HalfOpen.mem_def, hseq]
  · rfl

/-- From its sequence on, a changed resource has the new version. -/
theorem covering_new (hinv : LedgerInv world) (h : CommitStep world input pending world')
    {p : ResourceVersion} (hp : p ∈ pending) {seq : Nat} (hseq : world'.headSeq ≤ seq) :
    ((versionsOf world' p.resourceId.val).filter fun v => seq ∈ v.interval) = [p] := by
  obtain ⟨c, -, hrec⟩ := h.record_of_mem p hp
  have hold : ((versionsOf world p.resourceId.val).map (settle pending world'.headSeq)).filter
      (fun v => seq ∈ v.interval) = [] := by
    simp only [List.filter_eq_nil_iff, List.mem_map, decide_eq_true_eq]
    rintro _ ⟨v, hv, rfl⟩
    rw [interval_settle hp hv]
    refine HalfOpen.not_mem_closeAt (fun u hu => ?_) hseq
    have := hinv.until_le_head v (mem_versionsOf.mp hv).1 u hu
    have := h.headSeq
    omega
  have hcovers : seq ∈ p.interval := by
    simp [ResourceVersion.interval, hrec.validFromSeq, hrec.validUntilSeq, hseq]
  rw [h.versionsOf_changed hp, List.filter_append, hold]
  simp [hcovers]

/-- A commit keeps the ledger a replay of its log. -/
theorem replays (hinv : LedgerInv world) (h : CommitStep world input pending world')
    {log : List LogEntry} (hlog : Replays world log) :
    Replays world' (log ++ [⟨world'.headSeq, input.changes⟩]) := by
  intro resourceId seq
  rw [valueAt_append]
  by_cases hseq : world'.headSeq ≤ seq
  · rw [if_pos hseq]
    by_cases hr : ∃ p ∈ pending, p.resourceId.val = resourceId
    · obtain ⟨p, hp, rfl⟩ := hr
      have hwritten := h.written_changed hp world'.headSeq
      rw [covering_new hinv h hp hseq]
      obtain ⟨value, hv, hkept⟩ := Option.map_eq_some_iff.mp hwritten
      simp [hv, hkept]
    · have hr' : ∀ p ∈ pending, p.resourceId.val ≠ resourceId := fun p hp heq => hr ⟨p, hp, heq⟩
      rw [h.versionsOf_unchanged hr', h.written_unchanged hr']
      exact hlog resourceId seq
  · rw [if_neg hseq, h.covering_old resourceId (by omega), List.map_map]
    have hsame : (kept ∘ settle pending world'.headSeq) = kept := funext fun v => kept_settle
    rw [hsame]
    exact hlog resourceId seq

end CommitStep

/-! ## Runs of calls -/

/-- A ledger without history. -/
def emptyLedger (headSeq : SafeNat) : World := ⟨headSeq.val, [], []⟩

/-- The World after a call of `commit`. A call that throws does so before the
first assignment to the database. -/
def afterCall (world : World) (input : WorldCommitInput) : World :=
  match commit world input with
  | .ok (world', _) => world'
  | .error _ => world

def afterCalls (world : World) (inputs : List WorldCommitInput) : World :=
  inputs.foldl afterCall world

/-- The successful ones of a sequence of calls, in their order. -/
def commitLog (world : World) : List WorldCommitInput → List LogEntry
  | [] => []
  | input :: rest =>
      match commit world input with
      | .ok (world', _) => ⟨world'.headSeq, input.changes⟩ :: commitLog world' rest
      | .error _ => commitLog world rest

/-- What every successful commit keeps, a sequence of calls keeps. -/
theorem afterCalls_induction {P : World → List LogEntry → Prop}
    (hstep : ∀ {world log input pending world'}, CommitStep world input pending world' →
      P world log → P world' (log ++ [⟨world'.headSeq, input.changes⟩]))
    (inputs : List WorldCommitInput) {world : World} {log : List LogEntry} (h : P world log) :
    P (afterCalls world inputs) (log ++ commitLog world inputs) := by
  induction inputs generalizing world log with
  | nil => simpa [afterCalls, commitLog] using h
  | cons input rest ih =>
    cases hcommit : commit world input with
    | error e => simpa [afterCalls, afterCall, commitLog, hcommit] using ih h
    | ok result =>
      obtain ⟨world', record⟩ := result
      obtain ⟨pending, hpending⟩ := commit_cases hcommit
      simpa [afterCalls, afterCall, commitLog, hcommit] using ih (hstep hpending h)

omit [Sha256] in
theorem emptyLedger_inv (start : SafeNat) : LedgerInv (emptyLedger start) where
  timeline := fun _ => .nil
  from_le_head := by simp [emptyLedger]
  until_le_head := by simp [emptyLedger]
  revisions := .nil
  ids := .nil

/-- The log has, at the sequence of each entry, the values that the entry wrote. -/
structure Chronological (head : Nat) (log : List LogEntry) : Prop where
  seq_le : ∀ e ∈ log, e.seq ≤ head
  writes : ∀ e ∈ log, ∀ c ∈ e.changes, valueAt log c.resourceId e.seq = some c.value

omit [Sha256] in
theorem written?_of_mem {changes : List WorldChangeInput} {c : WorldChangeInput} {seq : Nat}
    (hnodup : (changes.map WorldChangeInput.resourceId).Nodup) (hc : c ∈ changes) :
    (LogEntry.mk seq changes).written? c.resourceId = some c.value := by
  have hone : (changes.filter fun d => d.resourceId = c.resourceId) = [c] :=
    single?_eq_some.mp (single?_of_nodup_key hnodup hc)
  simp [LogEntry.written?, ← List.head?_filter, hone]

omit [Sha256] in
theorem Chronological.append {head : Nat} {log : List LogEntry}
    {changes : List WorldChangeInput} (h : Chronological head log)
    (hnodup : (changes.map WorldChangeInput.resourceId).Nodup) :
    Chronological (head + 1) (log ++ [⟨head + 1, changes⟩]) where
  seq_le := by
    intro e he
    rcases List.mem_append.mp he with he | he
    · exact Nat.le_succ_of_le (h.seq_le e he)
    · rw [List.mem_singleton.mp he]
  writes := by
    intro e he c hc
    rw [valueAt_append]
    rcases List.mem_append.mp he with he | he
    · have hseq := h.seq_le e he
      rw [if_neg (by simp only; omega)]
      exact h.writes e he c hc
    · obtain rfl := List.mem_singleton.mp he
      rw [if_pos le_rfl, written?_of_mem hnodup hc, Option.some_or]

/-- A ledger that has an admissible head, keeps its invariant and holds the
replay of its log. -/
structure Faithful (world : World) (log : List LogEntry) : Prop where
  inv : LedgerInv world
  head_safe : world.headSeq ≤ maxSafeInteger
  chronological : Chronological world.headSeq log
  replays : Replays world log

theorem Faithful.commit {world world' : World} {log : List LogEntry} {input : WorldCommitInput}
    {pending : List ResourceVersion} (h : Faithful world log)
    (hstep : CommitStep world input pending world') :
    Faithful world' (log ++ [⟨world'.headSeq, input.changes⟩]) where
  inv := h.inv.commit hstep
  head_safe := hstep.head_safe
  chronological := by
    rw [hstep.headSeq]
    exact h.chronological.append hstep.changed
  replays := hstep.replays h.inv h.replays

theorem faithful_afterCalls (start : SafeNat) (inputs : List WorldCommitInput) :
    Faithful (afterCalls (emptyLedger start) inputs) (commitLog (emptyLedger start) inputs) := by
  have h : Faithful (emptyLedger start) [] :=
    ⟨emptyLedger_inv start, start.property, ⟨by simp, by simp⟩, fun _ _ => rfl⟩
  simpa using afterCalls_induction (fun hstep h => h.commit hstep) inputs h

/-- A version but for its end, which a later commit may set. -/
def content (version : ResourceVersion) : ResourceVersion := { version with validUntilSeq := none }

omit [Sha256] in
theorem content_settle {pending : List ResourceVersion} {n : Nat} {v : ResourceVersion} :
    content (settle pending n v) = content v := by
  rw [settle_eq]
  rfl

/-- Later calls change no answer up to the present head. -/
theorem covering_afterCalls {world : World} {log : List LogEntry} (h : Faithful world log)
    (more : List WorldCommitInput) (resourceId : String) {seq : Nat}
    (hseq : seq ≤ world.headSeq) :
    LedgerInv (afterCalls world more) ∧
      ((versionsOf (afterCalls world more) resourceId).filter fun v => seq ∈ v.interval).map
          content =
        ((versionsOf world resourceId).filter fun v => seq ∈ v.interval).map content := by
  let P : World → List LogEntry → Prop := fun world' _ =>
    LedgerInv world' ∧ world.headSeq ≤ world'.headSeq ∧
      ((versionsOf world' resourceId).filter fun v => seq ∈ v.interval).map content =
        ((versionsOf world resourceId).filter fun v => seq ∈ v.interval).map content
  have hrun : P (afterCalls world more) ([] ++ commitLog world more) := by
    refine afterCalls_induction ?_ more ⟨h.inv, le_rfl, rfl⟩
    rintro w log' input pending w' hstep ⟨hinv, hle, hsame⟩
    have hhead := hstep.headSeq
    refine ⟨hinv.commit hstep, by omega, ?_⟩
    have hcontent : (content ∘ settle pending w'.headSeq) = content :=
      funext fun v => content_settle
    rw [hstep.covering_old resourceId (by omega), List.map_map, hcontent, hsame]
  exact ⟨hrun.1, hrun.2.2⟩

/-- Whether a lookup refuses a version does not depend on its end. -/
theorem content_parseVerified {v w : ResourceVersion} (hv : v.parses) (hw : w.parses)
    (h : content v = content w) :
    content <$> parseVerifiedResourceVersion v = content <$> parseVerifiedResourceVersion w := by
  have hkept : kept v = kept w := by
    show kept (content v) = kept (content w)
    rw [h]
  have hverified : v.Verified ↔ w.Verified := by
    obtain ⟨hvalue, hhash⟩ := Prod.mk.inj hkept
    rw [ResourceVersion.Verified, ResourceVersion.Verified, hvalue, hhash]
  by_cases hw' : w.Verified
  · rw [parseVerifiedResourceVersion_eq_ok.mpr ⟨⟨hv, hverified.mpr hw'⟩, rfl⟩,
      parseVerifiedResourceVersion_eq_ok.mpr ⟨⟨hw, hw'⟩, rfl⟩]
    exact congrArg Except.ok h
  · have hv' : ¬v.Verified := fun h => hw' (hverified.mp h)
    simp [parseVerifiedResourceVersion, require, hv, hw, hv', hw']

theorem content_lookup {found other : Option ResourceVersion}
    (hfound : ∀ v ∈ found, v.parses) (hother : ∀ v ∈ other, v.parses)
    (h : found.map content = other.map content) :
    Option.map content <$> found.mapM parseVerifiedResourceVersion =
      Option.map content <$> other.mapM parseVerifiedResourceVersion := by
  cases found with
  | none =>
    rw [Option.map_none, eq_comm, Option.map_eq_none_iff] at h
    rw [h]
  | some v =>
    rw [Option.map_some, eq_comm, Option.map_eq_some_iff] at h
    obtain ⟨w, rfl, hsame⟩ := h
    have hone := content_parseVerified (hfound v rfl) (hother w rfl) hsame.symm
    simp only [Option.mapM_some]
    cases hv : parseVerifiedResourceVersion v <;> cases hw : parseVerifiedResourceVersion w <;>
      simp_all [Functor.map, Except.map]

/-! ## Faithful histories -/

/-- The history is a faithful replay of the commit log: what every lookup
answers, how the versions of a resource lie, and that later commits change no
answer. -/
structure FaithfulHistory (world : World) (log : List LogEntry) : Prop where
  answers : ∀ resourceId seq, seq ≤ world.headSeq →
    ∃ answer, resolveResourceVersionAt world resourceId seq = .ok answer ∧
      answer.map (fun v => v.value.val) = (valueAt log resourceId seq).map Json.normalize
  open_le_one : ∀ resourceId,
    ((versionsOf world resourceId).filter fun v => v.validUntilSeq.isNone).length ≤ 1
  increasing : ∀ resourceId,
    (versionsOf world resourceId).Pairwise fun v w => v.validFromSeq < w.validFromSeq
  abut : ∀ resourceId,
    ((versionsOf world resourceId).map ResourceVersion.interval).IsChain HalfOpen.Abuts
  until_le_head : ∀ v ∈ world.resourceVersions, ∀ u ∈ v.validUntilSeq, u ≤ world.headSeq
  revisions : ∀ resourceId sourceRevision,
    (world.resourceVersions.filter (hasRevision resourceId sourceRevision)).length ≤ 1
  lasting : ∀ more resourceId seq, seq ≤ world.headSeq →
    Option.map content <$> resolveResourceVersionAt (afterCalls world more) resourceId seq =
      Option.map content <$> resolveResourceVersionAt world resourceId seq

/-- Every successful commit wrote values without own `__proto__` properties. -/
def WritesPlain (log : List LogEntry) : Prop := ∀ e ∈ log, ∀ c ∈ e.changes, Plain c.value

namespace Faithful

variable {world : World} {log : List LogEntry}

/-- The version a lookup finds keeps the value of the log. -/
theorem kept_covering (h : Faithful world log) (resourceId : String) (seq : Nat) :
    ((versionsOf world resourceId).filter fun v => seq ∈ v.interval).head?.map kept =
      (valueAt log resourceId seq).map keptOf := by
  rw [← List.head?_map, h.replays resourceId seq]
  simp

omit [Sha256] in
theorem valueAt_plain (hplain : WritesPlain log) {resourceId : String} {seq : Nat} {value : Value}
    (h : valueAt log resourceId seq = some value) : Plain value := by
  obtain ⟨e, he, hwritten⟩ := List.exists_of_findSome?_eq_some h
  obtain ⟨c, hfound, rfl⟩ := Option.map_eq_some_iff.mp hwritten
  have hlog : e ∈ log := List.mem_of_mem_filter (List.mem_reverse.mp he)
  exact hplain e hlog c (List.mem_of_find?_eq_some hfound)

/-- Of a log of plain values every lookup finds what was written. -/
theorem answers (h : Faithful world log) (hplain : WritesPlain log) (resourceId : String)
    {seq : Nat} (hseq : seq ≤ world.headSeq) :
    ∃ answer, resolveResourceVersionAt world resourceId seq = .ok answer ∧
      answer.map (fun v => v.value.val) = (valueAt log resourceId seq).map Json.normalize := by
  rw [h.inv.resolve_at resourceId (hseq.trans h.head_safe)]
  have hkept := h.kept_covering resourceId seq
  cases hfound : ((versionsOf world resourceId).filter fun v => seq ∈ v.interval).head? with
  | none =>
    rw [hfound, Option.map_none, eq_comm, Option.map_eq_none_iff] at hkept
    exact ⟨none, rfl, by rw [hkept]; rfl⟩
  | some version =>
    rw [hfound, Option.map_some, eq_comm, Option.map_eq_some_iff] at hkept
    obtain ⟨value, hvalue, hkept⟩ := hkept
    obtain ⟨hverified, hsame⟩ := verified_of_plain hkept.symm (valueAt_plain hplain hvalue)
    have hmem : version ∈ world.resourceVersions :=
      (mem_versionsOf.mp (List.mem_of_mem_filter (List.mem_of_head? hfound))).1
    refine ⟨some version, ?_, by simp [hvalue, hsame]⟩
    rw [mapM_parseVerifiedResourceVersion_eq_ok]
    refine ⟨fun v hv => ?_, rfl⟩
    obtain rfl := Option.some.inj hv
    exact ⟨h.inv.parses _ hmem, hverified⟩

/-- A lookup that answers with the value of the log finds a plain one: a value
that is not is hashed as a whole and kept in part. -/
theorem plain_of_answer (h : Faithful world log) {resourceId : String} {seq : Nat}
    (hseq : seq ≤ world.headSeq) {value : Value}
    (hvalue : valueAt log resourceId seq = some value) {answer : Option ResourceVersion}
    (hanswer : resolveResourceVersionAt world resourceId seq = .ok answer)
    (hsame : answer.map (fun v => v.value.val) = some (Json.normalize value)) :
    Plain value := by
  rw [h.inv.resolve_at resourceId (hseq.trans h.head_safe)] at hanswer
  have hkept := h.kept_covering resourceId seq
  rw [hvalue, Option.map_some, Option.map_eq_some_iff] at hkept
  obtain ⟨version, hfound, hkept⟩ := hkept
  rw [hfound, mapM_parseVerifiedResourceVersion_eq_ok] at hanswer
  obtain ⟨-, rfl⟩ := hanswer
  have hdropped : dropProto (Json.normalize value) = version.value.val :=
    (congrArg (fun k => k.1.val) hkept).symm
  rw [Option.map_some, Option.some.injEq, ← hdropped, dropProto_eq_self, plain_normalize] at hsame
  exact hsame

/-- Where the history answers as the log does, the log wrote plain values. -/
theorem writesPlain (h : Faithful world log) (hhistory : FaithfulHistory world log) :
    WritesPlain log := by
  intro e he c hc
  have hseq := h.chronological.seq_le e he
  have hvalue := h.chronological.writes e he c hc
  obtain ⟨answer, hanswer, hsame⟩ := hhistory.answers c.resourceId e.seq hseq
  rw [hvalue] at hsame
  exact h.plain_of_answer hseq hvalue hanswer hsame

/-- How the versions lie, whatever was written. -/
theorem history (h : Faithful world log)
    (hanswers : ∀ resourceId seq, seq ≤ world.headSeq →
      ∃ answer, resolveResourceVersionAt world resourceId seq = .ok answer ∧
        answer.map (fun v => v.value.val) = (valueAt log resourceId seq).map Json.normalize) :
    FaithfulHistory world log where
  answers := hanswers
  open_le_one := by
    intro resourceId
    have htimeline := h.inv.timeline resourceId
    refine (List.pairwise_map.mp htimeline.pairwise_closed).length_filter_le_one ?_
    intro v w hclosed hopen
    simp [ResourceVersion.interval, Option.isNone_iff_eq_none.mp hopen] at hclosed
  increasing := by
    intro resourceId
    exact (List.pairwise_map (f := ResourceVersion.interval)).mp
      (h.inv.timeline resourceId).pairwise_start_lt
  abut := fun resourceId => (h.inv.timeline resourceId).isChain
  until_le_head := h.inv.until_le_head
  revisions := by
    intro resourceId sourceRevision
    refine (List.pairwise_map.mp h.inv.revisions).length_filter_le_one ?_
    intro v w hne hv
    simp only [hasRevision, Bool.and_eq_true, decide_eq_true_eq] at hv
    obtain ⟨rfl, rfl⟩ := hv
    simp only [hasRevision, Bool.and_eq_false_iff, decide_eq_false_iff_not]
    by_contra hcon
    simp only [not_or, not_not, OpaqueId.val_inj] at hcon
    exact hne (by rw [hcon.1, hcon.2])
  lasting := by
    intro more resourceId seq hseq
    obtain ⟨hinv, hsame⟩ := covering_afterCalls h more resourceId hseq
    have hsafe := hseq.trans h.head_safe
    rw [hinv.resolve_at resourceId hsafe, h.inv.resolve_at resourceId hsafe]
    have hheads := congrArg List.head? hsame
    rw [List.head?_map, List.head?_map] at hheads
    have hcovering : ∀ {w : World}, LedgerInv w → ∀ v ∈ ((versionsOf w resourceId).filter
        fun v => seq ∈ v.interval).head?, v.parses := by
      intro w hw v hv
      exact hw.parses v (mem_versionsOf.mp (List.mem_of_mem_filter (List.mem_of_mem_head? hv))).1
    exact content_lookup (hcovering hinv) (hcovering h.inv) hheads

end Faithful

/-- The ledger is a faithful replay of its commit log if and only if no
successful commit wrote a value with an own `__proto__` property. -/
theorem afterCalls_faithful_history (start : SafeNat) (inputs : List WorldCommitInput) :
    FaithfulHistory (afterCalls (emptyLedger start) inputs)
        (commitLog (emptyLedger start) inputs) ↔
      WritesPlain (commitLog (emptyLedger start) inputs) := by
  have h := faithful_afterCalls start inputs
  constructor
  · intro hhistory
    exact h.writesPlain hhistory
  · intro hplain
    exact h.history fun resourceId seq hseq => h.answers hplain resourceId hseq

/-- Restocks with the value that `JSON.parse` makes of an object whose one key is
`__proto__`. -/
def protoCommit : WorldCommitInput where
  changes := [{ resourceId := "inventory:sku", value := .obj [(protoKey, .bool true)],
                sourceRevision := none }]
  reason := "restock"
  expectedSeq := none
  createdAt := some ⟨"2026-01-01T00:00:00.000Z", 0⟩

end WorldLedger

namespace WorldLedger

attribute [local instance] Sha256.standard

/-- The commit succeeds, and the lookup at its own sequence then refuses the
version it made. -/
theorem protoCommit_unreadable :
    (afterCalls (emptyLedger ⟨0, by decide⟩) [protoCommit]).headSeq = 1 ∧
    resolveResourceVersionAt (afterCalls (emptyLedger ⟨0, by decide⟩) [protoCommit])
        "inventory:sku" 1 =
      .error "ResourceVersion valueHash does not match its canonical value" ∧
    ¬FaithfulHistory (afterCalls (emptyLedger ⟨0, by decide⟩) [protoCommit])
      (commitLog (emptyLedger ⟨0, by decide⟩) [protoCommit]) := by
  have hhead : (afterCalls (emptyLedger ⟨0, by decide⟩) [protoCommit]).headSeq = 1 := by
    decide +kernel
  have hrefused : (fun _ => ()) <$> resolveResourceVersionAt
      (afterCalls (emptyLedger ⟨0, by decide⟩) [protoCommit]) "inventory:sku" 1 =
      .error "ResourceVersion valueHash does not match its canonical value" := by
    decide +kernel
  generalize afterCalls (emptyLedger ⟨0, by decide⟩) [protoCommit] = world at *
  have hlookup := map_eq_error.mp hrefused
  refine ⟨hhead, hlookup, fun hhistory => ?_⟩
  obtain ⟨answer, hanswer, -⟩ := hhistory.answers "inventory:sku" 1 hhead.ge
  rw [hlookup] at hanswer
  cases hanswer

end WorldLedger

end EpochGuard
