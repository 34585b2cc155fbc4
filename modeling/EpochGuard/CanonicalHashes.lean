import EpochGuard.Fixtures
import EpochGuard.Lib.JsonEquality

/-!
# What the canonical hashes bind

The canonical text is a canonical form of JSON values, so that the hash of an
action, or of a role's query, stands for the fields it is computed from.
-/

namespace EpochGuard

open Json

/-! ## Records as values -/

/-- An object literal with distinct keys is well formed when its properties are. -/
theorem wellFormed_jobj {number : JsNumber → Prop} {entries : List (String × Value)}
    (hkeys : (entries.map Prod.fst).Nodup)
    (hvalues : ∀ e ∈ entries, WellFormed number e.2) : WellFormed number (jobj entries) := by
  rw [jobj, WellFormed]
  constructor
  · rw [List.map_map]
    have hmap : entries.map (Prod.fst ∘ fun e : String × Value => (js e.1, e.2)) =
        (entries.map Prod.fst).map js := by rw [List.map_map]; rfl
    rw [hmap]
    exact hkeys.map js_injective
  · clear hkeys
    induction entries with
    | nil => trivial
    | cons e entries ih =>
      rw [List.forall_mem_cons] at hvalues
      exact ⟨hvalues.1, ih hvalues.2⟩

/-- Objects with one normal form have one normal form of each property. -/
theorem normalize_jobj_eq {entries others : List (String × Value)}
    (h : Json.normalize (jobj entries) = Json.normalize (jobj others)) {k : String} {v : Value}
    (hv : (k, v) ∈ entries) : ∃ w, (k, w) ∈ others ∧ Json.normalize v = Json.normalize w := by
  rw [jobj, jobj, Json.normalize, Json.normalize, Value.obj.injEq, normalizeEntries_eq_map,
    normalizeEntries_eq_map, List.map_map, List.map_map] at h
  have hmem : (js k, Json.normalize v) ∈ (entries.map ((fun e : JsString × Value =>
      (e.1, Json.normalize e.2)) ∘ fun e : String × Value => (js e.1, e.2))).insertionSort leKey :=
    (List.mem_insertionSort leKey).mpr (List.mem_map.mpr ⟨(k, v), hv, rfl⟩)
  rw [h, List.mem_insertionSort] at hmem
  obtain ⟨⟨l, w⟩, hw, heq⟩ := List.mem_map.mp hmem
  simp only [Function.comp_apply, Prod.mk.injEq] at heq
  exact ⟨w, js_injective heq.1 ▸ hw, heq.2.symm⟩

theorem natNumeral_injective : Function.Injective natNumeral := by
  intro m n h
  have hm := Nat.ofDigitChars_toDigits (b := 10) (n := m) (by decide) (by decide)
  have hn := Nat.ofDigitChars_toDigits (b := 10) (n := n) (by decide) (by decide)
  unfold natNumeral at h
  rw [h] at hm
  exact hm.symm.trans hn

theorem normalize_jnat_inj {m n : Nat} (h : Json.normalize (jnat m) = Json.normalize (jnat n)) :
    m = n := by
  simp only [jnat, Json.normalize, Value.num.injEq] at h
  exact natNumeral_injective (congrArg JsNumber.numeral h)

theorem normalize_jstr_inj {s t : String} (h : Json.normalize (jstr s) = Json.normalize (jstr t)) :
    s = t := by
  simp only [jstr, Json.normalize, Value.str.injEq] at h
  exact js_injective h

theorem flatMap_charUnits_injective :
    Function.Injective fun cs : List Char => cs.flatMap charUnits := by
  intro cs ds h
  have hjs : js (String.ofList cs) = js (String.ofList ds) := by
    rw [js_eq_flatMap, js_eq_flatMap]
    simpa using h
  exact String.ofList_injective (js_injective hjs)

theorem normalize_jdigest_inj {d e : Sha256Digest}
    (h : Json.normalize (jdigest d) = Json.normalize (jdigest e)) : d = e := by
  simp only [jdigest, Json.normalize, Value.str.injEq] at h
  have hchars := flatMap_charUnits_injective h
  have hhex : d.hex = e.hex := List.append_cancel_left hchars
  cases d
  cases e
  dsimp only at hhex
  subst hhex
  rfl

/-! ## Actions and queries -/

theorem canonicalizeAction_inj {a b : ActionCanonicalFields} :
    canonicalizeAction a = canonicalizeAction b ↔ a = b := by
  have hwell : ∀ c : ActionCanonicalFields, WellFormed (fun _ => True) c.toJson := by
    intro c
    refine wellFormed_jobj (by simp) ?_
    intro e he
    simp only [List.mem_cons, List.not_mem_nil, or_false] at he
    rcases he with rfl | rfl | rfl | rfl | rfl | rfl <;> trivial
  constructor
  · intro h
    have hnormal := (canonicalJson_eq_iff_normalize (hwell a) (hwell b)).mp h
    obtain ⟨w, hw, hcampaign⟩ := normalize_jobj_eq hnormal (k := "campaignId")
      (v := jstr a.campaignId.val) (by simp)
    obtain ⟨x, hx, hunits⟩ := normalize_jobj_eq hnormal (k := "requestedUnits")
      (v := jnat a.requestedUnits) (by simp)
    obtain ⟨y, hy, hcost⟩ := normalize_jobj_eq hnormal (k := "estimatedCostCents")
      (v := jnat a.estimatedCostCents) (by simp)
    simp only [List.mem_cons, Prod.mk.injEq, String.reduceEq, false_and, false_or, true_and,
      List.not_mem_nil, or_false] at hw hx hy
    subst hw hx hy
    have hcampaign := normalize_jstr_inj hcampaign
    have hunits := normalize_jnat_inj hunits
    have hcost := normalize_jnat_inj hcost
    cases a
    cases b
    simp_all
  · rintro rfl
    rfl

theorem Role.name_injective : Function.Injective Role.name := by
  intro r s h
  cases r <;> cases s <;> first | rfl | exact absurd h (by decide)

theorem ActionProjection.wellFormed_toJson (projection : ActionProjection) :
    WellFormed (fun _ => True) projection.toJson := by
  cases projection <;>
  · refine wellFormed_jobj (by simp) ?_
    intro e he
    simp only [List.mem_cons, List.not_mem_nil, or_false] at he
    rcases he with rfl | rfl <;> trivial

/-- What a role sees of an action is in the text of its projection. -/
theorem ActionProjection.toJson_inj {p q : ActionProjection} (hrole : p.role = q.role)
    (h : Json.normalize p.toJson = Json.normalize q.toJson) : p = q := by
  cases p with
  | inventory c n =>
    cases q <;> simp only [ActionProjection.role, reduceCtorEq] at hrole
    obtain ⟨w, hw, hcampaign⟩ := normalize_jobj_eq h (k := "campaignId")
      (v := jstr c.val) (by simp)
    obtain ⟨x, hx, hunits⟩ := normalize_jobj_eq h (k := "requestedUnits") (v := jnat n) (by simp)
    simp only [List.mem_cons, Prod.mk.injEq, String.reduceEq, false_and, false_or, true_and,
      List.not_mem_nil, or_false] at hw hx
    subst hw hx
    rw [normalize_jnat_inj hunits, OpaqueId.val_inj.mp (normalize_jstr_inj hcampaign)]
  | budget c n =>
    cases q <;> simp only [ActionProjection.role, reduceCtorEq] at hrole
    obtain ⟨w, hw, hcampaign⟩ := normalize_jobj_eq h (k := "campaignId")
      (v := jstr c.val) (by simp)
    obtain ⟨x, hx, hcost⟩ := normalize_jobj_eq h (k := "estimatedCostCents")
      (v := jnat n) (by simp)
    simp only [List.mem_cons, Prod.mk.injEq, String.reduceEq, false_and, false_or, true_and,
      List.not_mem_nil, or_false] at hw hx
    subst hw hx
    rw [normalize_jnat_inj hcost, OpaqueId.val_inj.mp (normalize_jstr_inj hcampaign)]
  | policy c =>
    cases q <;> simp only [ActionProjection.role, reduceCtorEq] at hrole
    obtain ⟨w, hw, hcampaign⟩ := normalize_jobj_eq h (k := "campaignId")
      (v := jstr c.val) (by simp)
    simp only [List.mem_cons, Prod.mk.injEq, String.reduceEq, false_and, or_false, true_and,
      List.not_mem_nil] at hw
    subst hw
    rw [OpaqueId.val_inj.mp (normalize_jstr_inj hcampaign)]

/-- Queries whose fields have one normal form each agree. -/
theorem RoleQuerySpec.fields_inj {p q : RoleQuerySpec}
    (h : ∀ k v, (k, v) ∈ p.canonicalFields →
      ∃ w, (k, w) ∈ q.canonicalFields ∧ Json.normalize v = Json.normalize w) :
    p.role = q.role ∧ p.entityKey = q.entityKey ∧ p.actionHash = q.actionHash ∧
      p.actionProjection = q.actionProjection := by
  obtain ⟨v, hv, hrole⟩ := h "role" (jstr p.role.name) (by simp [RoleQuerySpec.canonicalFields])
  obtain ⟨w, hw, hentity⟩ := h "entityKey" (jstr p.entityKey.val)
    (by simp [RoleQuerySpec.canonicalFields])
  obtain ⟨x, hx, haction⟩ := h "actionHash" (jdigest p.actionHash)
    (by simp [RoleQuerySpec.canonicalFields])
  obtain ⟨y, hy, hprojection⟩ := h "actionProjection" p.actionProjection.toJson
    (by simp [RoleQuerySpec.canonicalFields])
  simp only [RoleQuerySpec.canonicalFields, List.mem_cons, Prod.mk.injEq, String.reduceEq,
    false_and, false_or, true_and, List.not_mem_nil, or_false] at hv hw hx hy
  subst hv hw hx hy
  have hrole : p.role = q.role := Role.name_injective (normalize_jstr_inj hrole)
  exact ⟨hrole, OpaqueId.val_inj.mp (normalize_jstr_inj hentity), normalize_jdigest_inj haction,
    ActionProjection.toJson_inj hrole hprojection⟩

theorem RoleQuerySpec.wellFormed_fields (spec : RoleQuerySpec) :
    ∀ e ∈ spec.canonicalFields, WellFormed (fun _ => True) e.2 := by
  intro e he
  simp only [RoleQuerySpec.canonicalFields, List.mem_cons, List.not_mem_nil, or_false] at he
  rcases he with rfl | rfl | rfl | rfl | rfl | rfl
  iterate 5 trivial
  exact spec.actionProjection.wellFormed_toJson

theorem canonicalizeRoleQuery_inj {p q : RoleQuerySpec} :
    canonicalizeRoleQuery p = canonicalizeRoleQuery q ↔ p.role = q.role ∧ p.source = q.source ∧
      p.entityKey = q.entityKey ∧ p.actionHash = q.actionHash ∧
      p.actionProjection = q.actionProjection := by
  have hwell : ∀ r : RoleQuerySpec, WellFormed (fun _ => True) (jobj r.canonicalFields) :=
    fun r => wellFormed_jobj (by simp [RoleQuerySpec.canonicalFields]) r.wellFormed_fields
  constructor
  · intro h
    have hnormal := (canonicalJson_eq_iff_normalize (hwell p) (hwell q)).mp h
    obtain ⟨hrole, hentity, haction, hprojection⟩ :=
      RoleQuerySpec.fields_inj fun k v hv => normalize_jobj_eq hnormal hv
    exact ⟨hrole, hrole, hentity, haction, hprojection⟩
  · rintro ⟨-, -, hentity, haction, hprojection⟩
    simp only [canonicalizeRoleQuery, RoleQuerySpec.canonicalFields, RoleQuerySpec.role,
      RoleQuerySpec.source, hentity, haction, hprojection]

/-- The whole text of a query names the query. -/
theorem RoleQuerySpec.toJson_inj {p q : RoleQuerySpec}
    (h : canonicalJson p.toJson = canonicalJson q.toJson) : p = q := by
  have hwell : ∀ r : RoleQuerySpec, WellFormed (fun _ => True) r.toJson := by
    intro r
    refine wellFormed_jobj (by simp [RoleQuerySpec.canonicalFields]) fun e he => ?_
    rcases List.mem_append.mp he with he | he
    · exact r.wellFormed_fields e he
    · obtain rfl := List.mem_singleton.mp he
      trivial
  have hnormal := (canonicalJson_eq_iff_normalize (hwell p) (hwell q)).mp h
  have hfields : ∀ k v, (k, v) ∈ p.canonicalFields →
      ∃ w, (k, w) ∈ q.canonicalFields ∧ Json.normalize v = Json.normalize w := by
    intro k v hv
    obtain ⟨w, hw, hsame⟩ := normalize_jobj_eq hnormal (List.mem_append_left _ hv)
    refine ⟨w, ?_, hsame⟩
    rcases List.mem_append.mp hw with hw | hw
    · exact hw
    · -- the key of the hash is no key of the other fields
      obtain ⟨rfl, -⟩ := Prod.mk.inj (List.mem_singleton.mp hw)
      simp [RoleQuerySpec.canonicalFields] at hv
  obtain ⟨-, hentity, haction, hprojection⟩ := RoleQuerySpec.fields_inj hfields
  obtain ⟨w, hw, hhash⟩ := normalize_jobj_eq hnormal (k := "queryHash")
    (v := jdigest p.queryHash) (by simp)
  simp only [RoleQuerySpec.canonicalFields, List.mem_append, List.mem_cons, Prod.mk.injEq,
    String.reduceEq, false_and, false_or, true_and, List.not_mem_nil, or_false] at hw
  subst hw
  have hhash := normalize_jdigest_inj hhash
  cases p
  cases q
  simp_all

section Hashes

variable [Sha256]

/-- `queryHash` -/
def queryHash (spec : RoleQuerySpec) : Sha256Digest := sha256Digest (canonicalizeRoleQuery spec)

/-- Texts without a hash collision have one digest each. -/
theorem sha256Digest_inj {S : Set JsString} (hsha : Set.InjOn Sha256.hexDigest S) {s t : JsString}
    (hs : s ∈ S) (ht : t ∈ S) : sha256Digest s = sha256Digest t ↔ s = t := by
  constructor
  · intro h
    exact hsha hs ht (congrArg Sha256Digest.hex h)
  · rintro rfl
    rfl

/-- The canonical text is a canonical form of JSON values, their numbers being
doubles that any conforming `Number::toString` writes: two values have one text
exactly when they are the same up to the order of object keys, and reading the
text gives the same value back. The hashes then stand for what they are computed
from as long as SHA-256 has no collision on the texts hashed. -/
theorem canonicalJson_binds (toText : Double → JsNumber) (htext : NumberToString toText)
    (S : Set JsString) (hsha : Set.InjOn Sha256.hexDigest S) :
    (∀ a b : Tree, a.DistinctKeys → b.DistinctKeys →
      (canonicalJson (a.written toText) = canonicalJson (b.written toText) ↔ a.Same b)) ∧
    (∀ a : Tree, a.DistinctKeys →
      ∃ b, Tree.jsonParse (canonicalJson (a.written toText)) = some b ∧ a.Same b) ∧
    (∀ a b : ActionCanonicalFields, canonicalizeAction a ∈ S → canonicalizeAction b ∈ S →
      (actionHash a = actionHash b ↔ a = b)) ∧
    (∀ p q : RoleQuerySpec, canonicalizeRoleQuery p ∈ S → canonicalizeRoleQuery q ∈ S →
      (queryHash p = queryHash q ↔ p.role = q.role ∧ p.source = q.source ∧
        p.entityKey = q.entityKey ∧ p.actionHash = q.actionHash ∧
        p.actionProjection = q.actionProjection)) ∧
    ∀ (a : ActionCanonicalFields) (role : Role),
      (buildRoleQuerySpec a role).queryHash = queryHash (buildRoleQuerySpec a role) := by
  refine ⟨?form, ?roundTrip, ?action, ?query, fun _ _ => rfl⟩
  case form =>
    intro a b ha hb
    exact Tree.canonicalJson_eq_iff_same htext ha hb
  case roundTrip =>
    intro a ha
    exact Tree.jsonParse_canonicalJson htext ha
  case action =>
    intro a b ha hb
    exact (sha256Digest_inj hsha ha hb).trans canonicalizeAction_inj
  case query =>
    intro p q hp hq
    exact (sha256Digest_inj hsha hp hq).trans canonicalizeRoleQuery_inj

end Hashes

/-- Another action on the campaign of the fixtures. -/
def OTHER_ACTION : ActionCanonicalFields :=
  { Fixtures.FIXTURE_ACTION with requestedUnits := 2 }

namespace CanonicalSample

/-- The number that the numeral `0.1` is read as. -/
def tenth : Double where
  negative := false
  significand := 7205759403792794
  exponent := -56
  fits := by decide
  normal := .inl (by decide)
  least := by decide
  greatest := by decide

/-- An object with a zero of one sign and an array, its properties in one order. -/
def left : Tree := .obj [(js "b", .num (Double.zero true)), (js "a", .arr [.num tenth, .null])]

/-- The same object in the other order, and with the other zero. -/
def right : Tree := .obj [(js "a", .arr [.num tenth, .null]), (js "b", .num (Double.zero false))]

end CanonicalSample

open CanonicalSample in
/-- Objects that differ in the order of their keys and in the sign of a zero have
one text, which reads back; two actions have distinct hashes. -/
theorem canonicalJson_binds_sample :
    ∃ toText, NumberToString toText ∧
      canonicalJson (left.written toText) = canonicalJson (right.written toText) ∧
      (∃ b, Tree.jsonParse (canonicalJson (left.written toText)) = some b ∧ left.Same b) ∧
      @actionHash Sha256.standard Fixtures.FIXTURE_ACTION ≠
        @actionHash Sha256.standard OTHER_ACTION := by
  let _ := Sha256.standard
  have hsha : Set.InjOn Sha256.hexDigest
      {canonicalizeAction Fixtures.FIXTURE_ACTION, canonicalizeAction OTHER_ACTION} := by
    have hne : Sha256.hexDigest (canonicalizeAction Fixtures.FIXTURE_ACTION) ≠
        Sha256.hexDigest (canonicalizeAction OTHER_ACTION) := by decide +kernel
    rintro s (rfl | rfl) t (rfl | rfl) h
    · rfl
    · exact absurd h hne
    · exact absurd h.symm hne
    · rfl
  obtain ⟨toText, htext⟩ := exists_numberToString
  obtain ⟨hform, hround, haction, -⟩ := canonicalJson_binds toText htext _ hsha
  have hleft : left.DistinctKeys := by
    simp [left, Tree.DistinctKeys, Tree.DistinctKeysEntries, Tree.DistinctKeysItems,
      js_injective.eq_iff]
  have hright : right.DistinctKeys := by
    simp [right, Tree.DistinctKeys, Tree.DistinctKeysEntries, Tree.DistinctKeysItems,
      js_injective.eq_iff]
  have hsame : left.Same right := by
    simp [left, right, Tree.Same, Tree.SameEntries, Tree.SameItems, js_injective.eq_iff,
      Double.value_zero]
  refine ⟨toText, htext, (hform left right hleft hright).mpr hsame, hround left hleft, ?_⟩
  intro hequal
  have hactions := (haction _ _ (.inl rfl) (.inr rfl)).mp hequal
  exact absurd hactions (by decide)

end EpochGuard
