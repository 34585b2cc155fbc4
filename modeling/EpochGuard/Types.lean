import EpochGuard.Lib.Checked
import EpochGuard.Lib.Json
import EpochGuard.Lib.Sha256
import Mathlib.Data.Fintype.Defs
import Mathlib.Data.NNRat.Defs
import Mathlib.Order.Bounds.Basic
import Mathlib.Algebra.Field.Rat

/-!
# The frozen contract: values and records

The data model of `types.ts`. A record's fields carry the constraints of its
schema where one field decides them (identifiers, digests, non-negative
integers, literals, tuples); the constraints between fields are the `parses`
predicates beside the records. Counters are natural numbers.
-/

namespace EpochGuard

open Json Checked

/-! ## Identifiers, digests and times -/

/-- The characters that an identifier may have after its first one. -/
def isIdChar (c : Char) : Bool :=
  c.isAlphanum || c == '.' || c == '_' || c == ':' || c == '-'

/-- `OpaqueIdSchema`: 1 to 256 characters of `[A-Za-z0-9._:-]`, the first one
a letter or a digit. -/
def isOpaqueIdText : List Char → Bool
  | [] => false
  | c :: cs => c.isAlphanum && cs.all isIdChar && cs.length < 256

/-- A text is an identifier when its characters are those of one. -/
def isOpaqueId (s : String) : Bool := isOpaqueIdText s.toList

/-- An identifier of a record. It carries the proof that its text passes
`OpaqueIdSchema`, so that no record can hold an identifier which the schema
refuses. -/
structure OpaqueId where
  val : String
  ok : isOpaqueId val = true
deriving DecidableEq

@[simp] theorem OpaqueId.val_inj {a b : OpaqueId} : a.val = b.val ↔ a = b := by
  cases a
  cases b
  simp

/-- The schema's parser: the identifier with this text, if the text is one. -/
def OpaqueId.parse? (s : String) : Option OpaqueId :=
  if h : isOpaqueId s = true then some ⟨s, h⟩ else none

/-- The identifier with these characters, if they are those of one. -/
def OpaqueId.ofChars? (cs : List Char) : Option OpaqueId :=
  if h : isOpaqueIdText cs = true then
    some ⟨String.ofList cs, by simpa [isOpaqueId] using h⟩
  else none

@[simp] theorem OpaqueId.parse?_val (i : OpaqueId) : OpaqueId.parse? i.val = some i := by
  simp [OpaqueId.parse?, i.ok]

theorem OpaqueId.parse?_eq_some {s : String} {i : OpaqueId} :
    OpaqueId.parse? s = some i ↔ i.val = s := by
  unfold OpaqueId.parse?
  split
  · rename_i h
    constructor
    · intro heq
      cases heq
      rfl
    · rintro rfl
      rfl
  · rename_i h
    simp only [reduceCtorEq, false_iff]
    rintro rfl
    exact h i.ok

/-- Identifiers in the order of JavaScript's `<`, which on their characters is
the order of Lean's strings. -/
def OpaqueId.le (a b : OpaqueId) : Prop := ¬ b.val < a.val

instance : DecidableRel OpaqueId.le := fun _ _ => inferInstanceAs (Decidable (¬ _))

/-- The lower-case hexadecimal digits, in which digests are written. -/
def isHexDigit (c : Char) : Bool := c.isDigit || ('a' ≤ c && c ≤ 'f')

/-- SHA-256 as `node:crypto` computes it, in lower-case hexadecimal, of the
UTF-8 bytes of a JavaScript string. -/
class Sha256 where
  hexDigest : JsString → List Char
  hexDigest_ok : ∀ s, (hexDigest s).length = 64 ∧ (hexDigest s).all isHexDigit = true

/-- The function of the standard. -/
@[reducible] def Sha256.standard : Sha256 where
  hexDigest := fun s => Sha256Spec.hexDigest (utf8Bytes s)
  hexDigest_ok := by
    intro s
    refine ⟨Sha256Spec.length_hex _, Sha256Spec.all_hex (fun n => ?_) _⟩
    unfold Sha256Spec.hexDigit
    split <;> decide

/-- A digest `sha256:<hex>`, by its hexadecimal digits. -/
structure Sha256Digest where
  hex : List Char
  ok : hex.length = 64 ∧ hex.all isHexDigit = true
deriving DecidableEq

/-- The characters of the digest. -/
def Sha256Digest.chars (digest : Sha256Digest) : List Char := "sha256:".toList ++ digest.hex

/-- The digest as it is stored and compared, with its prefix. -/
def Sha256Digest.val (digest : Sha256Digest) : String := String.ofList digest.chars

/-- The digest of a text; the two facts that `Sha256` asks of the function make
it well formed. -/
def sha256Digest [Sha256] (value : JsString) : Sha256Digest where
  hex := Sha256.hexDigest value
  ok := Sha256.hexDigest_ok value

/-- An ISO date-time with the instant `Date.parse` reads from it. -/
structure Timestamp where
  text : String
  millis : Int
deriving DecidableEq

/-! ## Enumerations -/

/-- The three roles, each of which one Agent plays in a session. -/
inductive Role where
  | inventory | budget | policy
deriving DecidableEq, Repr

/-- The sources carry the names of the roles. -/
abbrev Source := Role

/-- The roles in the order in which the source runs over them. -/
def ROLES : List Role := [.inventory, .budget, .policy]

instance : Fintype Role where
  elems := ⟨↑ROLES, by decide⟩
  complete := fun role => by cases role <;> decide

/-- The literal by which the contract names a role. -/
def Role.name : Role → String
  | .inventory => "inventory"
  | .budget => "budget"
  | .policy => "policy"

/-- What an Agent decides about the action from its own evidence. -/
inductive Verdict where
  | ALLOW | DENY
deriving DecidableEq, Repr

/-- The literal by which the contract names a verdict. -/
def Verdict.name : Verdict → String
  | .ALLOW => "ALLOW"
  | .DENY => "DENY"

/-- The two scenarios whose fixtures the service can load. -/
inductive ScenarioId where
  | normalWorldV1 | impossibleCollageV1
deriving DecidableEq, Repr

/-- The literal by which the contract names a scenario. -/
def ScenarioId.name : ScenarioId → String
  | .normalWorldV1 => "normal-world-v1"
  | .impossibleCollageV1 => "impossible-collage-v1"

/-- The states of a session. The last to be reached are those of
`isTerminalSession`; the other functions of the service say which state goes
over into which. -/
inductive SessionState where
  | CREATED | DISPATCHING | COLLECTING | VALIDATING | BLOCKED_NO_CUT | HISTORICAL_STALE
  | REOBSERVING | UNSTABLE_WORLD | CONSISTENT_DENY | READY_AT_CURRENT_HEAD | COMMITTING
  | COMMITTED | COMMIT_RACE | FAILED | INTERRUPTED
deriving DecidableEq, Repr

/-- The states of an attempt, from the creation of its assignment to the fate of
its output. -/
inductive AttemptState where
  | ASSIGNMENT_CREATED | DISPATCHING | QUEUED | RUNNING | COMPLETED | FAILED | INTERRUPTED
  | OUTPUT_REJECTED | ACCEPTED
deriving DecidableEq, Repr

/-- The states of an assignment; a consumed one has given a decision, a rejected
one never will. -/
inductive AssignmentState where
  | CREATED | BOUND | CONSUMED | REJECTED
deriving DecidableEq, Repr

/-- A decision is active until a refresh replaces it by the decision of a new
output. -/
inductive DecisionState where
  | ACTIVE | SUPERSEDED
deriving DecidableEq, Repr

/-- What the joint validation of the three decisions comes to. -/
inductive ValidationOutcome where
  | VALID_CURRENT_ALLOW | CONSISTENT_DENY | NO_VALID_OBSERVED_WORLD_CUT
  | HISTORICAL_BUT_STALE_NOW | FAILED
deriving DecidableEq, Repr

/-- A permit is issued with a validation that allows the action, and then used
up by the effect or withdrawn, never both. -/
inductive PermitState where
  | ISSUED | CONSUMED | REVOKED
deriving DecidableEq, Repr

/-- A plan can be claimed while it is available; the other states are what
became of it. -/
inductive RefreshPlanState where
  | AVAILABLE | CLAIMED | COMPLETED | INVALIDATED
deriving DecidableEq, Repr

/-- How the Runs of a session were started. -/
inductive CoordinationMode where
  | PENDING | CONCURRENT | SEQUENTIAL_FALLBACK
deriving DecidableEq, Repr

/-- The reasons that errors, diagnostics and rejections name. -/
inductive FailureCode where
  | ROLE_PROFILE_MISMATCH | AGENTS_BUSY | RUN_FAILED | RUN_TIMEOUT | OUTPUT_MALFORMED
  | BINDING_MISMATCH | DECISION_INVALID | ACTION_HASH_MISMATCH | QUERY_HASH_MISMATCH
  | HISTORY_UNVERIFIABLE | UNVERIFIABLE_SOURCE | UNCOMPARABLE_CLOCKS
  | NO_VALID_OBSERVED_WORLD_CUT | HISTORICAL_BUT_STALE_NOW | CONSISTENT_DENY
  | UNSTABLE_WORLD | COMMIT_RACE | ALREADY_REOBSERVING | STALE_VIEW | MISSING_ACTION_FIELDS
  | SESSION_NOT_FOUND | UNSUPPORTED_SCHEMA | PROJECTION_MISMATCH
deriving DecidableEq, Repr

/-- Whether a diagnostic reports a block that was to be expected, a fault or a
lost race. -/
inductive DiagnosticKind where
  | EXPECTED_BLOCK | SYSTEM_FAILURE | TRANSIENT_RACE
deriving DecidableEq, Repr

/-- The stage of a session at which a diagnostic was recorded. -/
inductive DiagnosticStage where
  | DISPATCH | RUN | PARSE | NORMALIZE | COMPOSE | VALIDATE | PLAN_REFRESH | ISSUE_PERMIT
  | COMMIT | EFFECT | PROJECTION
deriving DecidableEq, Repr

/-- What a diagnostic recommends to the user. -/
inductive RecommendedAction where
  | NONE | NEW_SESSION | REOBSERVE_INVALID
deriving DecidableEq, Repr

/-! ## One value for each role -/

/-- A record with one field for each role, in the order of `ROLES`. -/
structure PerRole (α : Type) where
  inventory : α
  budget : α
  policy : α
deriving DecidableEq

namespace PerRole

variable {α β : Type}

/-- The value of a role. -/
def get (v : PerRole α) : Role → α
  | .inventory => v.inventory
  | .budget => v.budget
  | .policy => v.policy

/-- The record with the value of one role replaced. -/
def set (v : PerRole α) (role : Role) (a : α) : PerRole α :=
  match role with
  | .inventory => { v with inventory := a }
  | .budget => { v with budget := a }
  | .policy => { v with policy := a }

/-- The same value for each role. -/
def const (a : α) : PerRole α := ⟨a, a, a⟩

/-- The record of a function on the roles. -/
def ofFn (f : Role → α) : PerRole α := ⟨f .inventory, f .budget, f .policy⟩

/-- The image of each role's value. -/
def map (f : α → β) (v : PerRole α) : PerRole β :=
  ⟨f v.inventory, f v.budget, f v.policy⟩

/-- The three values in the order of `ROLES`. -/
def toList (v : PerRole α) : List α := [v.inventory, v.budget, v.policy]

/-- `f` at every role in turn, stopping at the first failure. -/
def mapRoles {ε : Type} (f : Role → Except ε α) : Except ε (PerRole α) := do
  let i ← f .inventory
  let b ← f .budget
  let p ← f .policy
  return ⟨i, b, p⟩

/-- All three values, if none is missing. -/
def all? (v : PerRole (Option α)) : Option (PerRole α) :=
  match v.inventory, v.budget, v.policy with
  | some i, some b, some p => some ⟨i, b, p⟩
  | _, _, _ => none

@[simp] theorem get_set_self (v : PerRole α) (role : Role) (a : α) :
    (v.set role a).get role = a := by
  cases role <;> rfl

theorem get_set_ne {v : PerRole α} {role role' : Role} {a : α} (h : role' ≠ role) :
    (v.set role a).get role' = v.get role' := by
  cases role <;> cases role' <;> first | rfl | exact absurd rfl h

@[simp] theorem get_const (a : α) (role : Role) : (const a).get role = a := by
  cases role <;> rfl

@[simp] theorem get_ofFn (f : Role → α) (role : Role) : (ofFn f).get role = f role := by
  cases role <;> rfl

@[simp] theorem get_map (f : α → β) (v : PerRole α) (role : Role) :
    (v.map f).get role = f (v.get role) := by
  cases role <;> rfl

theorem ext_get {v w : PerRole α} (h : ∀ role, v.get role = w.get role) : v = w := by
  cases v
  cases w
  have hi := h .inventory
  have hb := h .budget
  have hp := h .policy
  simp only [get] at hi hb hp
  rw [hi, hb, hp]

/-- A pass over the roles succeeds exactly when it does at every role. -/
theorem mapRoles_eq_ok {ε : Type} {f : Role → Except ε α} {v : PerRole α} :
    mapRoles f = .ok v ↔ ∀ role, f role = .ok (v.get role) := by
  simp only [mapRoles, bind_eq_ok, pure_eq_ok]
  constructor
  · rintro ⟨i, hi, b, hb, p, hp, rfl⟩ role
    cases role <;> assumption
  · intro h
    exact ⟨_, h .inventory, _, h .budget, _, h .policy, rfl⟩

/-- A pass over the roles fails only as it does at some role. -/
theorem mapRoles_eq_error {ε : Type} {f : Role → Except ε α} {e : ε}
    (h : mapRoles f = .error e) : ∃ role, f role = .error e := by
  simp only [mapRoles, bind_eq_error, pure_ne_error, and_false, exists_false, or_false] at h
  rcases h with h | ⟨-, -, h | ⟨-, -, h⟩⟩
  exacts [⟨_, h⟩, ⟨_, h⟩, ⟨_, h⟩]

theorem stopsWith_mapRoles {ε : Type} {P : ε → Prop} {f : Role → Except ε α}
    (h : ∀ role, StopsWith P (f role)) : StopsWith P (mapRoles f) := by
  intro e he
  obtain ⟨role, hrole⟩ := mapRoles_eq_error he
  exact h role e hrole

theorem all?_eq_some {v : PerRole (Option α)} {w : PerRole α} :
    v.all? = some w ↔ ∀ role, v.get role = some (w.get role) := by
  obtain ⟨i, b, p⟩ := v
  obtain ⟨i', b', p'⟩ := w
  constructor
  · intro h role
    cases i <;> cases b <;> cases p <;> simp [all?] at h
    obtain ⟨rfl, rfl, rfl⟩ := h
    cases role <;> rfl
  · intro h
    have hi := h .inventory
    have hb := h .budget
    have hp := h .policy
    simp only [get] at hi hb hp
    subst hi hb hp
    rfl

theorem mem_toList {v : PerRole α} {a : α} : a ∈ v.toList ↔ ∃ role, v.get role = a := by
  simp only [toList, List.mem_cons, List.not_mem_nil, or_false]
  constructor
  · rintro (rfl | rfl | rfl)
    exacts [⟨.inventory, rfl⟩, ⟨.budget, rfl⟩, ⟨.policy, rfl⟩]
  · rintro ⟨role, rfl⟩
    cases role <;> simp [get]

/-- Three distinct values. -/
def Distinct (v : PerRole α) : Prop :=
  v.inventory ≠ v.budget ∧ v.inventory ≠ v.policy ∧ v.budget ≠ v.policy

instance [DecidableEq α] (v : PerRole α) : Decidable v.Distinct :=
  inferInstanceAs (Decidable (_ ∧ _))

theorem Distinct.ne {v : PerRole α} (h : v.Distinct) {r r' : Role} (hr : r ≠ r') :
    v.get r ≠ v.get r' := by
  obtain ⟨h1, h2, h3⟩ := h
  cases r <;> cases r' <;> simp_all [get, eq_comm]

/-- `Math.max(...values)` -/
def greatest (v : PerRole Nat) : Nat := max v.inventory (max v.budget v.policy)

/-- `Math.min(...values)` -/
def least (v : PerRole Nat) : Nat := min v.inventory (min v.budget v.policy)

theorem greatest_isGreatest (v : PerRole Nat) : IsGreatest (Set.range v.get) v.greatest := by
  constructor
  · by_cases hbp : v.budget ≤ v.policy
    · by_cases hip : v.inventory ≤ v.policy
      · exact ⟨.policy, by simp only [greatest, get]; omega⟩
      · exact ⟨.inventory, by simp only [greatest, get]; omega⟩
    · by_cases hib : v.inventory ≤ v.budget
      · exact ⟨.budget, by simp only [greatest, get]; omega⟩
      · exact ⟨.inventory, by simp only [greatest, get]; omega⟩
  · intro n hn
    obtain ⟨role, rfl⟩ := hn
    cases role <;> simp only [greatest, get] <;> omega

theorem least_isLeast (v : PerRole Nat) : IsLeast (Set.range v.get) v.least := by
  constructor
  · by_cases hbp : v.budget ≤ v.policy
    · by_cases hib : v.inventory ≤ v.budget
      · exact ⟨.inventory, by simp only [least, get]; omega⟩
      · exact ⟨.budget, by simp only [least, get]; omega⟩
    · by_cases hip : v.inventory ≤ v.policy
      · exact ⟨.inventory, by simp only [least, get]; omega⟩
      · exact ⟨.policy, by simp only [least, get]; omega⟩
  · intro n hn
    obtain ⟨role, rfl⟩ := hn
    cases role <;> simp only [least, get] <;> omega

end PerRole

@[simp] theorem mem_ROLES (role : Role) : role ∈ ROLES := by
  cases role <;> simp [ROLES]

end EpochGuard
