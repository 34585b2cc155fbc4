import EpochGuard.Lib.Json
import Mathlib.Data.Int.Basic
import Mathlib.Algebra.Ring.Int.Defs
import Mathlib.Algebra.GroupWithZero.Nat

/-!
# 32-bit integers in JavaScript

JavaScript's bitwise operators convert their operands, numbers, to 32 bits and
answer a signed integer, `>>>` an unsigned one. Sums are sums of doubles, which
are exact as long as they are safe integers. The word of an integer is what its
32 bits denote without a sign.
-/

namespace JsInt

/-- The 32 bits of an integer, of `ToInt32` and of `ToUint32`. -/
def bits (x : Int) : BitVec 32 := BitVec.ofInt 32 x

/-- `ToUint32` -/
def toWord (x : Int) : Nat := (bits x).toNat

def bitAnd (x y : Int) : Int := (bits x &&& bits y).toInt
def bitOr (x y : Int) : Int := (bits x ||| bits y).toInt
def bitXor (x y : Int) : Int := (bits x ^^^ bits y).toInt
def bitNot (x : Int) : Int := (~~~bits x).toInt

/-- `<<` and `>>>`, by a count below 32. -/
def shiftLeft (x : Int) (count : Nat) : Int := (bits x <<< count).toInt
def shiftRightUnsigned (x : Int) (count : Nat) : Int := (bits x >>> count).toNat

/-- A sum of two doubles that are integers, if it is a safe integer. -/
def exactAdd (x y : Int) : Option Int :=
  if (x + y).natAbs ≤ Json.maxSafeInteger then some (x + y) else none

/-- `first + ... `, from the left. -/
def exactSum (first : Int) (rest : List Int) : Option Int := rest.foldlM exactAdd first

/-! ## Words -/

section Words

variable {x y : Int} {n : Nat}

theorem toWord_lt (x : Int) : toWord x < 0x100000000 := (bits x).isLt

theorem toWord_toInt (b : BitVec 32) : toWord b.toInt = b.toNat := by
  simp [toWord, bits]

theorem toWord_natCast (h : n < 0x100000000) : toWord (n : Int) = n := by
  rw [toWord, bits, BitVec.ofInt_natCast, BitVec.toNat_ofNat]
  exact Nat.mod_eq_of_lt h

theorem toWord_bitAnd : toWord (bitAnd x y) = toWord x &&& toWord y := by
  rw [bitAnd, toWord_toInt, BitVec.toNat_and, toWord, toWord]

theorem toWord_bitOr : toWord (bitOr x y) = toWord x ||| toWord y := by
  rw [bitOr, toWord_toInt, BitVec.toNat_or, toWord, toWord]

theorem toWord_bitXor : toWord (bitXor x y) = toWord x ^^^ toWord y := by
  rw [bitXor, toWord_toInt, BitVec.toNat_xor, toWord, toWord]

theorem toWord_bitNot : toWord (bitNot x) = 0xffffffff - toWord x := by
  rw [bitNot, toWord_toInt, BitVec.toNat_not, toWord]

theorem toWord_shiftLeft : toWord (shiftLeft x n) = toWord x <<< n % 0x100000000 := by
  rw [shiftLeft, toWord_toInt, BitVec.toNat_shiftLeft, toWord]

theorem shiftRightUnsigned_eq : shiftRightUnsigned x n = ((toWord x >>> n : Nat) : Int) := by
  rw [shiftRightUnsigned, BitVec.toNat_ushiftRight, toWord]

theorem toWord_shiftRightUnsigned : toWord (shiftRightUnsigned x n) = toWord x >>> n := by
  rw [shiftRightUnsigned_eq, toWord_natCast]
  exact Nat.lt_of_le_of_lt (Nat.shiftRight_le _ _) (toWord_lt x)

theorem toWord_add : toWord (x + y) = (toWord x + toWord y) % 0x100000000 := by
  rw [toWord, bits, BitVec.ofInt_add, BitVec.toNat_add]
  rfl

theorem toWord_sum (xs : List Int) :
    toWord xs.sum = (xs.map toWord).sum % 0x100000000 := by
  induction xs with
  | nil => rfl
  | cons x xs ih => simp only [List.sum_cons, List.map_cons, toWord_add, ih, Nat.add_mod_mod]

end Words

/-! ## Exact sums -/

/-- A signed or an unsigned 32-bit integer. -/
def IsWord (x : Int) : Prop := -0x80000000 ≤ x ∧ x < 0x100000000

theorem isWord_toInt (b : BitVec 32) : IsWord b.toInt := by
  have hlow := BitVec.le_toInt b
  have hhigh := BitVec.toInt_lt (x := b)
  constructor <;> omega

theorem isWord_natCast {n : Nat} (h : n < 0x100000000) : IsWord (n : Int) := by
  constructor <;> omega

/-- Sums of fewer words than fill the safe integers are exact. -/
theorem exactSum_eq {first : Int} {rest : List Int} (hrest : ∀ x ∈ rest, IsWord x)
    (h : first.natAbs + 0x100000000 * rest.length ≤ Json.maxSafeInteger) :
    exactSum first rest = some (first + rest.sum) := by
  induction rest generalizing first with
  | nil => simp [exactSum]
  | cons x rest ih =>
    obtain ⟨hlow, hhigh⟩ := hrest x List.mem_cons_self
    have habs : (first + x).natAbs ≤ first.natAbs + 0x100000000 := by omega
    simp only [List.length_cons] at h
    have hadd : exactAdd first x = some (first + x) := by
      rw [exactAdd, if_pos (by omega)]
    have htail : exactSum (first + x) rest = some (first + x + rest.sum) :=
      ih (fun y hy => hrest y (List.mem_cons_of_mem _ hy)) (by omega)
    rw [exactSum, List.foldlM_cons, hadd]
    show exactSum (first + x) rest = _
    rw [htail, List.sum_cons, Int.add_assoc]

end JsInt
