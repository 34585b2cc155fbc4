import EpochGuard.Records
import EpochGuard.Lib.Interval

/-!
# The World ledger

`world-ledger.ts`: resource versions with half-open validity intervals, the
commit that closes the open versions of the changed resources and appends new
ones, and the two lookups, by World sequence and by source revision.
-/

namespace EpochGuard

open Json Checked

variable [Sha256]

namespace ResourceVersion

/-- The commits at which the version is current. -/
def interval (version : ResourceVersion) : HalfOpen :=
  ⟨version.validFromSeq, version.validUntilSeq⟩

/-- The value is the one that was hashed. -/
def Verified (version : ResourceVersion) : Prop :=
  version.valueHash = sha256Digest (canonicalJson version.value.val)

instance (version : ResourceVersion) : Decidable version.Verified :=
  inferInstanceAs (Decidable (_ = _))

end ResourceVersion

/-- Validates value integrity and returns a detached copy. -/
def parseVerifiedResourceVersion (version : ResourceVersion) :
    Except String ResourceVersion := do
  require version.parses "validUntilSeq must be greater than validFromSeq"
  let parsed := { version with value := JsonValue.parse version.value.val }
  require parsed.Verified "ResourceVersion valueHash does not match its canonical value"
  return parsed

@[simp] theorem parseVerifiedResourceVersion_eq_ok {version result : ResourceVersion} :
    parseVerifiedResourceVersion version = .ok result ↔
      (version.parses ∧ version.Verified) ∧ version = result := by
  simp [parseVerifiedResourceVersion, and_assoc]

@[simp] theorem mapM_parseVerifiedResourceVersion_eq_ok
    {match' result : Option ResourceVersion} :
    match'.mapM parseVerifiedResourceVersion = .ok result ↔
      (∀ v ∈ match', v.parses ∧ v.Verified) ∧ match' = result := by
  cases match' <;> simp [parseVerifiedResourceVersion, and_assoc]

/-- The identifier of a version names its resource and its revision. -/
def versionIdFor (resourceId : String) (sourceRevision validFromSeq : Nat)
    (valueHash : Sha256Digest) : List Char :=
  let digest := sha256Digest (canonicalJson (jobj [("resourceId", jstr resourceId),
    ("sourceRevision", jnat sourceRevision), ("validFromSeq", jnat validFromSeq),
    ("valueHash", jdigest valueHash)]))
  "rv_".toList ++ natNumeral validFromSeq ++ "_".toList ++ digest.hex

namespace WorldLedger

/-- The head of the World is the length of its log. -/
def assertWorldHead (world : World) : Except String Unit :=
  require (world.headSeq ≤ maxSafeInteger) "World head must be a non-negative safe integer"

/-- The version of a resource that no commit has closed yet. -/
def isOpenFor (resourceId : String) (version : ResourceVersion) : Bool :=
  version.resourceId.val = resourceId && version.validUntilSeq.isNone

/-- The one version of a resource whose interval has no end. -/
def openVersion (world : World) (resourceId : String) :
    Except String (Option ResourceVersion) := do
  let match' ← atMostOne (world.resourceVersions.filter (isOpenFor resourceId))
    s!"Resource {resourceId} has multiple open versions"
  match'.mapM parseVerifiedResourceVersion

end WorldLedger

open WorldLedger

/-- Maps the frozen query source and entity key to the authoritative resource. -/
def resourceIdFor (source : Source) (entityKey : OpaqueId) : Option OpaqueId :=
  OpaqueId.parse? (source.name ++ ":" ++ entityKey.val)

/-- A version of the resource that is valid at an integer World sequence. -/
def coversAt (resourceId : String) (seq : Nat) (version : ResourceVersion) : Bool :=
  version.resourceId.val = resourceId && seq ∈ version.interval

/-- Resolves the unique version valid at an integer World sequence. -/
def resolveResourceVersionAt (world : World) (resourceId : String) (seq : Nat) :
    Except String (Option ResourceVersion) := do
  require (seq ≤ maxSafeInteger) "World sequence must be a non-negative safe integer"
  let match' ← atMostOne (world.resourceVersions.filter (coversAt resourceId seq))
    s!"Resource {resourceId} has overlapping versions at {seq}"
  match'.mapM parseVerifiedResourceVersion

/-- A version of the resource with this revision. -/
def hasRevision (resourceId : String) (sourceRevision : Nat) (version : ResourceVersion) :
    Bool :=
  version.resourceId.val = resourceId && version.sourceRevision = sourceRevision

/-- Resolves the immutable version named by a Receipt's source revision. -/
def resolveResourceVersionByResourceRevision (world : World) (resourceId : String)
    (sourceRevision : Nat) : Except String (Option ResourceVersion) :=
  atMostOne (world.resourceVersions.filter (hasRevision resourceId sourceRevision))
    s!"Resource {resourceId} has duplicate source revision {sourceRevision}"

/-- The sole public ResourceVersion identity rule used by Receipts: source,
entity key and source revision. -/
def resolveResourceVersionByIdentity (world : World) (source : Source) (entityKey : OpaqueId)
    (sourceRevision : Nat) : Except String (Option ResourceVersion) := do
  require (sourceRevision ≤ maxSafeInteger)
    "Source revision must be a non-negative safe integer"
  let resourceId ← orStop (resourceIdFor source entityKey) "Invalid resource identifier"
  let match' ← resolveResourceVersionByResourceRevision world resourceId.val sourceRevision
  match'.mapM parseVerifiedResourceVersion

/-- A version that the identity rule names: the only stored one of its resource
and revision. -/
structure Identifies (world : World) (source : Source) (entityKey : OpaqueId)
    (sourceRevision : Nat) (version : ResourceVersion) : Prop where
  resource : resourceIdFor source entityKey = some version.resourceId
  revision : version.sourceRevision = sourceRevision
  only : world.resourceVersions.filter (hasRevision version.resourceId.val sourceRevision) =
    [version]
  safe : sourceRevision ≤ maxSafeInteger
  intact : version.parses ∧ version.Verified

/-- A version is found by its identity exactly if no other has it. -/
theorem resolveResourceVersionByIdentity_eq_some {world : World} {source : Source}
    {entityKey : OpaqueId} {sourceRevision : Nat} {version : ResourceVersion} :
    resolveResourceVersionByIdentity world source entityKey sourceRevision = .ok (some version) ↔
      Identifies world source entityKey sourceRevision version := by
  simp only [resolveResourceVersionByIdentity, resolveResourceVersionByResourceRevision,
    bind_eq_ok, require_eq_ok, orStop_eq_ok, atMostOne_eq_ok,
    mapM_parseVerifiedResourceVersion_eq_ok]
  constructor
  · rintro ⟨-, hsafe, resourceId, hresource, _, honly, hintact, rfl⟩
    have hmem : version ∈ world.resourceVersions.filter
        (hasRevision resourceId.val sourceRevision) := by simp [honly]
    simp only [hasRevision, List.mem_filter, Bool.and_eq_true, decide_eq_true_eq,
      OpaqueId.val_inj] at hmem
    obtain ⟨-, rfl, hrevision⟩ := hmem
    exact ⟨hresource, hrevision, honly, hsafe, hintact version rfl⟩
  · intro h
    exact ⟨(), h.safe, _, h.resource, some version, h.only, by simpa using h.intact, rfl⟩

namespace Identifies

variable {world : World} {source : Source} {entityKey : OpaqueId} {sourceRevision : Nat}
  {version : ResourceVersion}

theorem mem (h : Identifies world source entityKey sourceRevision version) :
    version ∈ world.resourceVersions := by
  have hmem : version ∈ world.resourceVersions.filter
      (hasRevision version.resourceId.val sourceRevision) := by simp [h.only]
  exact List.mem_of_mem_filter hmem

theorem eq_of_mem (h : Identifies world source entityKey sourceRevision version)
    {v : ResourceVersion} (hv : v ∈ world.resourceVersions)
    (hresource : v.resourceId = version.resourceId)
    (hrevision : v.sourceRevision = sourceRevision) : v = version := by
  have hmem : v ∈ world.resourceVersions.filter
      (hasRevision version.resourceId.val sourceRevision) := by
    simp [hasRevision, hv, hresource, hrevision]
  rw [h.only] at hmem
  simpa using hmem

end Identifies

namespace WorldLedger

/-! ## Commits -/

/-- A change names its resource by any text and its revision by any number. -/
structure WorldChangeInput where
  resourceId : String
  value : Value
  sourceRevision : Option JsNumber

/-- `createdAt` is the commit's or the clock's text, where `TimestampSchema`
accepts it. -/
structure WorldCommitInput where
  changes : List WorldChangeInput
  reason : String
  expectedSeq : Option JsNumber
  createdAt : Option Timestamp

/-- The order in which a commit takes its changes. -/
def byResource (left right : WorldChangeInput) : Prop :=
  leUnits (js left.resourceId) (js right.resourceId) = true

instance : DecidableRel byResource := fun a b =>
  inferInstanceAs (Decidable (leUnits (js a.resourceId) (js b.resourceId) = true))

/-- A new version, with the open version it replaces. -/
structure Admitted where
  version : ResourceVersion
  previous : Option ResourceVersion

/-- The checks one change passes, given the version ids known before it. The hash
and the identifier are taken of the cloned value, and the version keeps what the
schema makes of that value. -/
def admitChange (world : World) (nextSeq : Nat) (knownVersionIds : List OpaqueId)
    (change : WorldChangeInput) : Except String Admitted := do
  let resourceId := change.resourceId
  let previous ← openVersion world resourceId
  require (∀ open' ∈ previous, open'.validFromSeq < nextSeq)
    s!"Open version for {resourceId} starts at or after the next commit"
  let sourceRevision ← orStop ((change.sourceRevision.map JsNumber.safeNat?).getD (some nextSeq))
    "Source revision must be a non-negative safe integer"
  let existing ← resolveResourceVersionByResourceRevision world resourceId sourceRevision
  require (existing.isNone = true)
    s!"Resource {resourceId} already has source revision {sourceRevision}"
  let value := Json.normalize change.value
  let valueHash := sha256Digest (canonicalJson value)
  let id ← orStop (OpaqueId.ofChars? (versionIdFor resourceId sourceRevision nextSeq valueHash))
    "Invalid version identifier"
  let resource ← orStop (OpaqueId.parse? resourceId) "Invalid resource identifier"
  require (id ∉ knownVersionIds) ("Resource version ID collision: " ++ id.val)
  return { version := { id, resourceId := resource, sourceRevision,
                        value := JsonValue.parse value, valueHash,
                        validFromSeq := nextSeq, validUntilSeq := none }
           previous }

/-- The loop over the sorted changes, with the resources and the version ids
seen so far. -/
def admitChanges (world : World) (nextSeq : Nat) (resourceIds : List String)
    (knownVersionIds : List OpaqueId) :
    List WorldChangeInput → Except String (List Admitted)
  | [] => return []
  | change :: rest => do
      let resourceId := change.resourceId
      require (resourceId ∉ resourceIds)
        s!"World commit changes resource {resourceId} more than once"
      let admitted ← admitChange world nextSeq knownVersionIds change
      let admittedRest ← admitChanges world nextSeq (resourceId :: resourceIds)
        (admitted.version.id :: knownVersionIds) rest
      return admitted :: admittedRest

/-- A commit may name the head that it expects, and then stops at any other. -/
def checkExpectedSeq (expectedSeq : Option JsNumber) (nextSeq : Nat) : Except String Unit :=
  match expectedSeq with
  | none => return ()
  | some expected =>
      require (expected.safeNat? = some nextSeq)
        ("Expected World sequence " ++ String.ofList expected.numeral ++
          s!", received {nextSeq}")

/-- The commit record of the new versions. -/
def commitChange (world : World) (version : ResourceVersion) :
    Except String WorldCommitChange := do
  let previous ← openVersion world version.resourceId.val
  return { resourceId := version.resourceId
           previousVersionId := previous.map ResourceVersion.id
           nextVersionId := version.id }

/-- A stored version that the commit at `nextSeq` closes: one of the open
versions it found. -/
def closesVersion (admitted : List Admitted) (version : ResourceVersion) : Bool :=
  admitted.any fun a => a.previous.isSome && isOpenFor a.version.resourceId.val version

/-- A commit first constructs and validates every new record, then closes the
old versions at the same sequence. -/
def commit (world : World) (input : WorldCommitInput) : Except String (World × WorldCommit) := do
  assertWorldHead world
  require (input.changes ≠ []) "A World commit must change at least one resource"
  let nextSeq := world.headSeq + 1
  require (nextSeq ≤ maxSafeInteger) "World head cannot be incremented safely"
  checkExpectedSeq input.expectedSeq nextSeq
  require (∀ c ∈ world.worldCommits, c.seq ≠ nextSeq)
    s!"World commit sequence {nextSeq} already exists"
  let admitted ← admitChanges world nextSeq [] (world.resourceVersions.map ResourceVersion.id)
    (input.changes.insertionSort byResource)
  let changes ← (admitted.map Admitted.version).mapM (commitChange world)
  require (1 ≤ jsLength input.reason ∧ jsLength input.reason ≤ 1000) "Invalid commit reason"
  let createdAt ← orStop input.createdAt "Invalid commit time"
  require (∀ a ∈ admitted, ∀ v ∈ a.previous, v.validFromSeq < nextSeq)
    "validUntilSeq must be greater than validFromSeq"
  let record : WorldCommit := { seq := nextSeq, changes, reason := input.reason, createdAt }
  return ({ headSeq := nextSeq
            worldCommits := world.worldCommits ++ [record]
            resourceVersions :=
              modifyWhere (closesVersion admitted)
                (fun v => { v with validUntilSeq := some nextSeq }) world.resourceVersions
              ++ admitted.map Admitted.version }, record)

end WorldLedger

end EpochGuard
