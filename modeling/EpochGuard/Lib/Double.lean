import EpochGuard.Lib.Json
import Mathlib.Algebra.Order.Field.Rat
import Mathlib.Data.Int.Log
import Mathlib.Data.Nat.Factorization.Basic
import Mathlib.Data.Rat.Floor
import Mathlib.Tactic.Linarith
import Mathlib.Tactic.NormNum
import Mathlib.Tactic.Positivity
import Mathlib.Tactic.Ring

/-!
# Doubles and their texts

The finite numbers of IEEE 754 binary64, each of them a rational number, and the
two ways between a double and its decimal text: the double nearest to a text, as
`JSON.parse` reads a numeral, and what the language promises of the text that
`Number::toString` gives. The promise leaves a choice of digits open where
several shortest ones read back, so that it is a property of a function and not
one function.
-/

namespace Json

/-! ## Doubles -/

/-- A finite number of binary64, `significand * 2 ^ exponent` with a sign. The
significand uses all of its 53 bits unless the exponent is the least one, so that
only zero has two representations. -/
@[ext]
structure Double where
  negative : Bool
  significand : Nat
  exponent : Int
  fits : significand < 2 ^ 53
  normal : 2 ^ 52 ≤ significand ∨ exponent = -1074
  least : -1074 ≤ exponent
  greatest : exponent ≤ 971
deriving DecidableEq

namespace Double

def magnitude (x : Double) : ℚ := x.significand * 2 ^ x.exponent

def value (x : Double) : ℚ := if x.negative then -x.magnitude else x.magnitude

theorem value_eq_zero {x : Double} : x.value = 0 ↔ x.significand = 0 := by
  have hpow : (2 : ℚ) ^ x.exponent ≠ 0 := zpow_ne_zero _ (by norm_num)
  unfold value magnitude
  split <;> simp [hpow]

/-- The zero of a sign. -/
def zero (negative : Bool) : Double where
  negative := negative
  significand := 0
  exponent := -1074
  fits := by decide
  normal := .inr rfl
  least := le_rfl
  greatest := by decide

theorem value_zero (negative : Bool) : (zero negative).value = 0 :=
  value_eq_zero.mpr rfl

/-! ## Rounding -/

/-- The nearest natural number, and of two equally near ones the even one. -/
def roundHalfEven (r : ℚ) : Nat :=
  let n := ⌊r⌋₊
  if r - n < 1 / 2 then n
  else if 1 / 2 < r - n then n + 1
  else if n % 2 = 0 then n
  else n + 1

theorem roundHalfEven_natCast (n : Nat) : roundHalfEven n = n := by
  simp [roundHalfEven]

theorem roundHalfEven_le {r : ℚ} {n : Nat} (hr : 0 ≤ r) (h : r < n) : roundHalfEven r ≤ n := by
  have hfloor : ⌊r⌋₊ < n := (Nat.floor_lt hr).mpr h
  unfold roundHalfEven
  dsimp only
  split_ifs <;> omega

theorem le_roundHalfEven {r : ℚ} {n : Nat} (h : (n : ℚ) ≤ r) : n ≤ roundHalfEven r := by
  have hfloor : n ≤ ⌊r⌋₊ := Nat.le_floor h
  unfold roundHalfEven
  dsimp only
  split_ifs <;> omega

/-- The exponent at which a magnitude has 53 bits before its point, but for those
that are too small for it. -/
def scale (q : ℚ) : Int := max (Int.log 2 q - 52) (-1074)

theorem scaled_lt (q : ℚ) : q / 2 ^ scale q < (2 ^ 53 : Nat) := by
  have htwo : (1 : ℚ) ≤ 2 := by norm_num
  have hpos : (0 : ℚ) < 2 ^ scale q := zpow_pos (by norm_num) _
  have hlog : q < 2 ^ (Int.log 2 q + 1) := by
    exact_mod_cast Int.lt_zpow_succ_log_self (b := 2) (by decide) q
  rw [div_lt_iff₀ hpos]
  calc q < 2 ^ (Int.log 2 q + 1) := hlog
    _ ≤ 2 ^ (53 + scale q) := zpow_le_zpow_right₀ htwo (by unfold scale; omega)
    _ = (2 ^ 53 : Nat) * 2 ^ scale q := by
        rw [zpow_add₀ (by norm_num : (2 : ℚ) ≠ 0)]
        norm_num

theorem le_scaled {q : ℚ} (hq : 0 < q) (hscale : scale q ≠ -1074) :
    ((2 ^ 52 : Nat) : ℚ) ≤ q / 2 ^ scale q := by
  have hpos : (0 : ℚ) < 2 ^ scale q := zpow_pos (by norm_num) _
  have hlog : (2 : ℚ) ^ Int.log 2 q ≤ q := by
    exact_mod_cast Int.zpow_log_le_self (b := 2) (by decide) hq
  have heq : scale q = Int.log 2 q - 52 := by
    unfold scale at hscale ⊢
    omega
  rw [le_div_iff₀ hpos]
  calc ((2 ^ 52 : Nat) : ℚ) * 2 ^ scale q = 2 ^ (52 + scale q) := by
        rw [zpow_add₀ (by norm_num : (2 : ℚ) ≠ 0)]
        norm_num
    _ = 2 ^ Int.log 2 q := by rw [heq]; congr 1; omega
    _ ≤ q := hlog

/-- The double nearest to a magnitude, of a sign: nothing from the middle
between the largest double and the next power of two on, where it is `Infinity`. -/
def ofMagnitude (negative : Bool) (q : ℚ) : Option Double :=
  if hq : 0 < q then
    let significand := roundHalfEven (q / 2 ^ scale q)
    have hupper : significand ≤ 2 ^ 53 :=
      roundHalfEven_le (div_nonneg hq.le (zpow_nonneg (by norm_num) _)) (scaled_lt q)
    have hlower : 2 ^ 52 ≤ significand ∨ scale q = -1074 :=
      (em (scale q = -1074)).symm.imp (fun h => le_roundHalfEven (le_scaled hq h)) id
    have hleast : -1074 ≤ scale q := le_max_right _ _
    if hcarry : significand = 2 ^ 53 then
      -- rounding up has taken the significand one bit further
      if hgreatest : scale q + 1 ≤ 971 then
        some ⟨negative, 2 ^ 52, scale q + 1, by decide, .inl le_rfl, by omega, hgreatest⟩
      else none
    else if hgreatest : scale q ≤ 971 then
      some ⟨negative, significand, scale q, by omega, hlower, hleast, hgreatest⟩
    else none
  else some (zero negative)

theorem magnitude_pos {x : Double} (hx : x.significand ≠ 0) : 0 < x.magnitude :=
  mul_pos (by exact_mod_cast Nat.pos_of_ne_zero hx) (zpow_pos (by norm_num) _)

/-- The scale of a double is its exponent. -/
theorem scale_magnitude {x : Double} (hx : x.significand ≠ 0) :
    scale x.magnitude = x.exponent := by
  have hpow : (0 : ℚ) < 2 ^ x.exponent := zpow_pos (by norm_num) _
  have hpos := magnitude_pos hx
  have hbelow : Int.log 2 x.magnitude < 53 + x.exponent := by
    rw [← Int.lt_zpow_iff_log_lt (by decide) hpos]
    push_cast
    rw [zpow_add₀ (by norm_num : (2 : ℚ) ≠ 0)]
    refine mul_lt_mul_of_pos_right ?_ hpow
    exact_mod_cast x.fits
  unfold scale
  rcases x.normal with hnormal | hleast
  · have habove : 52 + x.exponent ≤ Int.log 2 x.magnitude := by
      rw [← Int.zpow_le_iff_le_log (by decide) hpos]
      push_cast
      rw [zpow_add₀ (by norm_num : (2 : ℚ) ≠ 0)]
      refine mul_le_mul_of_nonneg_right ?_ hpow.le
      exact_mod_cast hnormal
    have := x.least
    omega
  · omega

/-- A double is the one nearest to itself. -/
theorem ofMagnitude_magnitude {x : Double} (hx : x.significand ≠ 0) :
    ofMagnitude x.negative x.magnitude = some x := by
  have hpow : (2 : ℚ) ^ x.exponent ≠ 0 := zpow_ne_zero _ (by norm_num)
  have hpos := magnitude_pos hx
  have hscale := scale_magnitude hx
  have hround : roundHalfEven (x.magnitude / 2 ^ scale x.magnitude) = x.significand := by
    rw [hscale, magnitude, mul_div_assoc, div_self hpow, mul_one, roundHalfEven_natCast]
  have hfits := x.fits
  have hgreatest := x.greatest
  rw [hscale] at hround
  simp only [ofMagnitude, dif_pos hpos, hscale]
  rw [dif_neg (by omega), dif_pos hgreatest]
  exact congrArg some (Double.ext rfl hround rfl)

end Double

/-! ## Reading a numeral -/

/-- A numeral of the JSON grammar, taken apart. -/
structure Numeral where
  negative : Bool
  whole : List Char
  fraction : List Char
  exponent : Int
deriving DecidableEq

namespace Numeral

def digits? (ds : List Char) : Option Nat :=
  if ds ≠ [] ∧ ds.all Char.isDigit then some (Nat.ofDigitChars 10 ds 0) else none

/-- The exponent part, where there is one, up to the end of the numeral. -/
def scanExponent : List Char → Option Int
  | [] => some 0
  | c :: cs =>
      if c = 'e' ∨ c = 'E' then
        match cs with
        | '+' :: ds => (digits? ds).map fun n => (n : Int)
        | '-' :: ds => (digits? ds).map fun n => -(n : Int)
        | ds => (digits? ds).map fun n => (n : Int)
      else none

/-- The digits after the point, where there is one, and what follows them. -/
def scanFraction : List Char → Option (List Char × List Char)
  | '.' :: cs =>
      if cs.takeWhile Char.isDigit = [] then none
      else some (cs.takeWhile Char.isDigit, cs.dropWhile Char.isDigit)
  | cs => some ([], cs)

/-- A numeral without its sign; it may not start with a needless zero. -/
def scanMagnitude (negative : Bool) (cs : List Char) : Option Numeral :=
  let whole := cs.takeWhile Char.isDigit
  if whole = [] ∨ whole.head? = some '0' ∧ whole ≠ ['0'] then none
  else do
    let (fraction, rest) ← scanFraction (cs.dropWhile Char.isDigit)
    let exponent ← scanExponent rest
    return { negative, whole, fraction, exponent }

def scan : List Char → Option Numeral
  | '-' :: cs => scanMagnitude true cs
  | cs => scanMagnitude false cs

def magnitude (n : Numeral) : ℚ :=
  Nat.ofDigitChars 10 (n.whole ++ n.fraction) 0 * 10 ^ (n.exponent - n.fraction.length)

end Numeral

/-- The number that `JSON.parse` reads a numeral as: nothing where the grammar
does not allow the text, and where the number is `Infinity`. -/
def readDouble (cs : List Char) : Option Double :=
  (Numeral.scan cs).bind fun n => Double.ofMagnitude n.negative n.magnitude

example : readDouble "-0.0".toList = some (Double.zero true) := by decide +kernel
example : readDouble "9007199254740993".toList = readDouble "9007199254740992".toList := by
  decide +kernel
example : readDouble "01".toList = none := by decide +kernel

namespace Numeral

theorem span_digits {ds tail : List Char} (hds : ∀ c ∈ ds, c.isDigit = true)
    (htail : ∀ c ∈ tail.head?, c.isDigit = false) :
    (ds ++ tail).takeWhile Char.isDigit = ds ∧ (ds ++ tail).dropWhile Char.isDigit = tail := by
  induction ds with
  | nil =>
    cases tail with
    | nil => exact ⟨rfl, rfl⟩
    | cons c tail =>
      have hc := htail c rfl
      simp [hc]
  | cons d ds ih =>
    rw [List.forall_mem_cons] at hds
    have hrest := ih hds.2
    simp [hds.1, hrest.1, hrest.2]

/-- A numeral is scanned part by part. -/
theorem scanMagnitude_eq (negative : Bool) {whole tail fraction rest : List Char} {exponent : Int}
    (hwhole : ∀ c ∈ whole, c.isDigit = true) (hne : whole ≠ [])
    (hlead : whole.head? = some '0' → whole = ['0'])
    (htail : ∀ c ∈ tail.head?, c.isDigit = false)
    (hfraction : scanFraction tail = some (fraction, rest))
    (hexponent : scanExponent rest = some exponent) :
    scanMagnitude negative (whole ++ tail) = some ⟨negative, whole, fraction, exponent⟩ := by
  obtain ⟨htake, hdrop⟩ := span_digits hwhole htail
  have hok : ¬(whole = [] ∨ whole.head? = some '0' ∧ whole ≠ ['0']) := by
    rintro (hnil | ⟨hzero, hlong⟩)
    · exact hne hnil
    · exact hlong (hlead hzero)
  simp only [scanMagnitude, htake, hdrop, if_neg hok, hfraction, Option.bind_eq_bind,
    Option.bind_some, hexponent]
  rfl

theorem scanFraction_digits {fraction rest : List Char} (hne : fraction ≠ [])
    (hdigits : ∀ c ∈ fraction, c.isDigit = true) (hrest : ∀ c ∈ rest.head?, c.isDigit = false) :
    scanFraction ('.' :: (fraction ++ rest)) = some (fraction, rest) := by
  obtain ⟨htake, hdrop⟩ := span_digits hdigits hrest
  simp [scanFraction, htake, hdrop, hne]

theorem scan_eq_scanMagnitude {cs : List Char} {n : Numeral}
    (h : scanMagnitude false cs = some n) : scan cs = some n := by
  unfold scan
  split
  · -- a sign is no digit
    simp [scanMagnitude, Char.isDigit] at h
  · exact h

end Numeral

/-! ## Decimals -/

/-- A finite number other than zero in decimal: `point` is where the point of
the significant digits lies, counted from the first of them. -/
structure Decimal where
  negative : Bool
  significand : Nat
  point : Int
  ok : significand % 10 ≠ 0

namespace Decimal

def digits (d : Decimal) : List Char := Nat.toDigits 10 d.significand

/-- The number of significant digits. -/
def count (d : Decimal) : Nat := d.digits.length

def magnitude (d : Decimal) : ℚ := d.significand * 10 ^ (d.point - d.count)

/-- The exponent part of a text. -/
def exponentText (e : Int) : List Char :=
  'e' :: (if e < 0 then '-' else '+') :: Nat.toDigits 10 e.natAbs

/-- The text of the absolute value, as `Number::toString` lays it out. -/
def magnitudeText (d : Decimal) : List Char :=
  if d.count ≤ d.point ∧ d.point ≤ 21 then
    d.digits ++ List.replicate (d.point.toNat - d.count) '0'
  else if 0 < d.point ∧ d.point ≤ 21 then
    d.digits.take d.point.toNat ++ '.' :: d.digits.drop d.point.toNat
  else if -6 < d.point ∧ d.point ≤ 0 then
    '0' :: '.' :: List.replicate (-d.point).toNat '0' ++ d.digits
  else if d.count = 1 then d.digits ++ exponentText (d.point - 1)
  else d.digits.take 1 ++ '.' :: d.digits.drop 1 ++ exponentText (d.point - 1)

/-- The text of a decimal. -/
def text (d : Decimal) : List Char :=
  if d.negative then '-' :: d.magnitudeText else d.magnitudeText

example : text ⟨false, 5, -6, by decide⟩ = "5e-7".toList := by decide
example : text ⟨true, 125, 2, by decide⟩ = "-12.5".toList := by decide

theorem isDigit_of_mem_digits {d : Decimal} {c : Char} (hc : c ∈ d.digits) : c.isDigit = true :=
  Nat.isDigit_of_mem_toDigits (by decide) (by decide) hc

theorem digits_ne_nil (d : Decimal) : d.digits ≠ [] := Nat.toDigits_ne_nil

theorem ofDigitChars_digits (d : Decimal) : Nat.ofDigitChars 10 d.digits 0 = d.significand :=
  Nat.ofDigitChars_ten_toDigits

theorem significand_pos (d : Decimal) : 0 < d.significand := by
  have h := d.ok
  omega

theorem magnitude_pos (d : Decimal) : 0 < d.magnitude :=
  mul_pos (by exact_mod_cast d.significand_pos) (zpow_pos (by norm_num) _)

/-- The digits of a positive number do not start with a zero. -/
theorem head?_toDigits {n : Nat} (hn : 0 < n) : (Nat.toDigits 10 n).head? ≠ some '0' := by
  induction n using Nat.strong_induction_on with
  | _ n ih =>
    by_cases hsmall : n < 10
    · rw [Nat.toDigits_of_lt_base hsmall]
      intro hzero
      have hvalue := Nat.toNat_digitChar_sub_48_of_lt_ten hsmall
      rw [Option.some.inj hzero] at hvalue
      exact absurd hvalue.symm hn.ne'
    · have hrest := ih (n / 10) (by omega) (by omega)
      rw [Nat.toDigits_of_base_le (by decide) (by omega), List.head?_append]
      cases hhead : (Nat.toDigits 10 (n / 10)).head? with
      | none => exact absurd (List.head?_eq_none_iff.mp hhead) Nat.toDigits_ne_nil
      | some c =>
        rw [hhead] at hrest
        simpa using hrest

theorem head?_digits (d : Decimal) : d.digits.head? ≠ some '0' := head?_toDigits d.significand_pos

theorem scanExponent_exponentText (e : Int) :
    Numeral.scanExponent (exponentText e) = some e := by
  have hdigits : Numeral.digits? (Nat.toDigits 10 e.natAbs) = some e.natAbs := by
    have hall : (Nat.toDigits 10 e.natAbs).all Char.isDigit = true := by
      rw [List.all_eq_true]
      exact fun c hc => Nat.isDigit_of_mem_toDigits (by decide) (by decide) hc
    simp [Numeral.digits?, hall]
  unfold exponentText
  by_cases he : e < 0
  · simp [if_pos he, Numeral.scanExponent, hdigits, abs_of_neg he]
  · simp [if_neg he, Numeral.scanExponent, hdigits, abs_of_nonneg (Int.not_lt.mp he)]

theorem scanFraction_exponentText (e : Int) :
    Numeral.scanFraction (exponentText e) = some ([], exponentText e) := rfl

theorem head?_exponentText (e : Int) : ∀ c ∈ (exponentText e).head?, c.isDigit = false := by
  intro c hc
  obtain rfl := Option.some.inj hc
  decide

/-- The digits of a decimal, with the point among them, are not led by a zero. -/
theorem lead_take (d : Decimal) (k : Nat) : (d.digits.take k).head? ≠ some '0' := by
  rw [List.head?_take]
  split
  · simp
  · exact d.head?_digits

theorem isDigit_take {d : Decimal} {k : Nat} : ∀ c ∈ d.digits.take k, c.isDigit = true :=
  fun _ hc => isDigit_of_mem_digits (List.mem_of_mem_take hc)

theorem isDigit_drop {d : Decimal} {k : Nat} : ∀ c ∈ d.digits.drop k, c.isDigit = true :=
  fun _ hc => isDigit_of_mem_digits (List.mem_of_mem_drop hc)

theorem isDigit_zeros {n : Nat} : ∀ c ∈ List.replicate n '0', c.isDigit = true := by
  intro c hc
  rw [List.eq_of_mem_replicate hc]
  decide

theorem take_ne_nil {d : Decimal} {k : Nat} (hk : 0 < k) : d.digits.take k ≠ [] := by
  rw [ne_eq, List.take_eq_nil_iff, not_or]
  exact ⟨hk.ne', d.digits_ne_nil⟩

theorem drop_ne_nil {d : Decimal} {k : Nat} (hk : k < d.count) : d.digits.drop k ≠ [] := by
  rw [ne_eq, List.drop_eq_nil_iff]
  exact Nat.not_le.mpr hk

/-- The digits with the point after the first `k` of them, and an exponent. -/
theorem magnitude_split (d : Decimal) (negative : Bool) {k : Nat} (hk : k ≤ d.count)
    {exponent : Int} (hpoint : d.point = k + exponent) :
    (Numeral.mk negative (d.digits.take k) (d.digits.drop k) exponent).magnitude =
      d.magnitude := by
  have hlength : ((d.digits.drop k).length : Int) = d.count - k := by
    rw [List.length_drop, count]
    rw [count] at hk
    omega
  have hplace : exponent - (d.count - k) = d.point - d.count := by omega
  rw [Numeral.magnitude, magnitude, List.take_append_drop, ofDigitChars_digits, hlength, hplace]

/-- The text of a decimal is scanned as its magnitude. -/
theorem scan_magnitudeText (d : Decimal) (negative : Bool) :
    ∃ n, Numeral.scanMagnitude negative d.magnitudeText = some n ∧ n.negative = negative ∧
      n.magnitude = d.magnitude := by
  have hnever : ∀ {ds : List Char}, ds.head? ≠ some '0' → ds.head? = some '0' → ds = ['0'] :=
    fun h h' => absurd h' h
  have hnone : ∀ c ∈ ([] : List Char).head?, c.isDigit = false := by simp
  have hpointed : ∀ cs : List Char, ∀ c ∈ ('.' :: cs).head?, c.isDigit = false := by simp
  have hcount : 0 < d.count := List.length_pos_iff.mpr d.digits_ne_nil
  unfold magnitudeText
  split_ifs with hinteger hmiddle hsmall hone
  -- digits and zeros up to the point
  · refine ⟨⟨negative, d.digits ++ List.replicate (d.point.toNat - d.count) '0', [], 0⟩, ?_, rfl,
      ?_⟩
    · have hscan := @Numeral.scanMagnitude_eq negative
        (d.digits ++ List.replicate (d.point.toNat - d.count) '0') [] [] [] 0 ?_
        (by simp [d.digits_ne_nil]) ?_ hnone rfl rfl
      · rwa [List.append_nil] at hscan
      · exact List.forall_mem_append.mpr ⟨fun _ => isDigit_of_mem_digits, isDigit_zeros⟩
      · refine hnever ?_
        rw [List.head?_append]
        cases hhead : d.digits.head? with
        | none => exact absurd (List.head?_eq_none_iff.mp hhead) d.digits_ne_nil
        | some c =>
          rw [Option.some_or, ← hhead]
          exact d.head?_digits
    · have hpoint : d.point - d.count = ((d.point.toNat - d.count : Nat) : Int) := by omega
      rw [Numeral.magnitude, magnitude, hpoint]
      simp [Nat.ofDigitChars_append, ofDigitChars_digits, mul_comm]
  -- the point among the digits
  · have hk : d.point.toNat < d.count := by omega
    have hfraction := Numeral.scanFraction_digits (drop_ne_nil hk) isDigit_drop hnone
    rw [List.append_nil] at hfraction
    exact ⟨_, Numeral.scanMagnitude_eq negative isDigit_take (take_ne_nil (by omega))
      (hnever (d.lead_take _)) (hpointed _) hfraction rfl, rfl,
      magnitude_split d negative hk.le (by omega)⟩
  -- zeros between the point and the digits
  · have hall : ∀ c ∈ List.replicate (-d.point).toNat '0' ++ d.digits, c.isDigit = true :=
      List.forall_mem_append.mpr ⟨isDigit_zeros, fun _ => isDigit_of_mem_digits⟩
    have hfraction := Numeral.scanFraction_digits (by simp [d.digits_ne_nil]) hall hnone
    rw [List.append_nil] at hfraction
    refine ⟨_, @Numeral.scanMagnitude_eq negative ['0'] _ _ _ _ (by simp) (by simp) (fun _ => rfl)
      (hpointed _) hfraction rfl, rfl, ?_⟩
    have hlength : (((List.replicate (-d.point).toNat '0' ++ d.digits).length : Nat) : Int) =
        d.count - d.point := by
      rw [List.length_append, List.length_replicate, count]
      omega
    rw [Numeral.magnitude, magnitude, hlength]
    simp [Nat.ofDigitChars_append, ofDigitChars_digits, Nat.ofDigitChars_cons]
  -- one digit and an exponent
  · have hwhole : d.digits.take 1 = d.digits := by
      rw [List.take_eq_self_iff]
      exact hone.le
    have hscan := Numeral.scanMagnitude_eq negative isDigit_take
      (take_ne_nil (d := d) Nat.one_pos) (hnever (d.lead_take 1)) (head?_exponentText (d.point - 1))
      (scanFraction_exponentText _) (scanExponent_exponentText _)
    rw [hwhole] at hscan
    refine ⟨_, hscan, rfl, ?_⟩
    have hsplit := @magnitude_split d negative 1 hcount (d.point - 1) (by omega)
    rwa [hwhole, List.drop_eq_nil_iff.mpr hone.le] at hsplit
  -- the point after the first digit, and an exponent
  · have hfraction := Numeral.scanFraction_digits (drop_ne_nil (d := d) (k := 1) (by omega))
      isDigit_drop (head?_exponentText (d.point - 1))
    have hscan := Numeral.scanMagnitude_eq negative isDigit_take
      (take_ne_nil (d := d) Nat.one_pos) (hnever (d.lead_take 1)) (hpointed _) hfraction
      (scanExponent_exponentText _)
    exact ⟨_, by simpa using hscan, rfl, magnitude_split d negative hcount (by omega)⟩

/-- The double nearest to a decimal. -/
def toDouble (d : Decimal) : Option Double := Double.ofMagnitude d.negative d.magnitude

theorem readDouble_text (d : Decimal) : readDouble d.text = d.toDouble := by
  obtain ⟨n, hscan, hnegative, hmagnitude⟩ := d.scan_magnitudeText d.negative
  have htext : Numeral.scan d.text = some n := by
    cases hsign : d.negative with
    | true =>
      rw [hsign] at hscan
      rw [text, if_pos hsign]
      exact hscan
    | false =>
      rw [hsign] at hscan
      rw [text, if_neg (by simp [hsign])]
      exact Numeral.scan_eq_scanMagnitude hscan
  rw [readDouble, htext, Option.bind_some, hnegative, hmagnitude, toDouble]

end Decimal

/-! ## `Number::toString` -/

/-- What the language promises of `Number::toString`. Both zeros have the text of
zero. Any other number has the text of a decimal that is nearest to no other
double, and no decimal with fewer digits is. -/
structure NumberToString (toText : Double → JsNumber) : Prop where
  zero : ∀ x, x.value = 0 → (toText x).numeral = ['0']
  shortest : ∀ x, x.value ≠ 0 → ∃ d : Decimal, (toText x).numeral = d.text ∧
    d.toDouble = some x ∧ ∀ e : Decimal, e.toDouble = some x → d.count ≤ e.count

namespace Double

theorem magnitude_eq_abs (x : Double) : x.magnitude = |x.value| := by
  have hmagnitude : 0 ≤ x.magnitude :=
    mul_nonneg (Nat.cast_nonneg _) (zpow_nonneg (by norm_num) _)
  unfold value
  split
  · rw [abs_neg, abs_of_nonneg hmagnitude]
  · rw [abs_of_nonneg hmagnitude]

theorem negative_iff {x : Double} (hx : x.value ≠ 0) : x.negative = true ↔ x.value < 0 := by
  have hpos := magnitude_pos (mt value_eq_zero.mpr hx)
  unfold value
  split
  · simp [*]
  · simp [*, hpos.le]

/-- Numbers other than zero are told apart by their values. -/
theorem eq_of_value_eq {x y : Double} (hx : x.value ≠ 0) (h : x.value = y.value) : x = y := by
  have hy : y.value ≠ 0 := h ▸ hx
  have hnegative : x.negative = y.negative := by
    rw [Bool.eq_iff_iff, negative_iff hx, negative_iff hy, h]
  have hround := ofMagnitude_magnitude (mt value_eq_zero.mpr hx)
  rw [hnegative, magnitude_eq_abs, h, ← magnitude_eq_abs,
    ofMagnitude_magnitude (mt value_eq_zero.mpr hy)] at hround
  exact (Option.some.inj hround).symm

end Double

theorem readDouble_zero : readDouble ['0'] = some (Double.zero false) := by decide +kernel

theorem JsNumber.ext_numeral {n m : JsNumber} (h : n.numeral = m.numeral) : n = m := by
  cases n
  cases m
  dsimp only at h
  subst h
  rfl

namespace NumberToString

variable {toText : Double → JsNumber}

/-- The text of a number reads back as the number, whichever digits it has; that
of `-0` as `0`, which is the same number. -/
theorem readDouble_toText (h : NumberToString toText) (x : Double) :
    ∃ y, readDouble (toText x).numeral = some y ∧ x.value = y.value := by
  by_cases hx : x.value = 0
  · rw [h.zero x hx, hx]
    exact ⟨_, readDouble_zero, (Double.value_zero false).symm⟩
  · obtain ⟨d, htext, hdouble, -⟩ := h.shortest x hx
    rw [htext, d.readDouble_text, hdouble]
    exact ⟨x, rfl, rfl⟩

/-- Numbers have one text when they are numerically equal, and only then. -/
theorem toText_eq_iff (h : NumberToString toText) {x y : Double} :
    toText x = toText y ↔ x.value = y.value := by
  constructor
  · intro htext
    obtain ⟨a, ha, hxa⟩ := h.readDouble_toText x
    obtain ⟨b, hb, hyb⟩ := h.readDouble_toText y
    rw [htext, hb, Option.some.injEq] at ha
    rw [hxa, hyb, ha]
  · intro hvalue
    by_cases hx : x.value = 0
    · exact JsNumber.ext_numeral ((h.zero x hx).trans (h.zero y (hvalue ▸ hx)).symm)
    · rw [Double.eq_of_value_eq hx hvalue]

end NumberToString

/-! ## The promise can be kept -/

namespace Decimal

/-- Every multiple of a power of ten is a decimal. -/
theorem exists_magnitude {n : Nat} (hn : n ≠ 0) (negative : Bool) (place : Int) :
    ∃ d : Decimal, d.negative = negative ∧ d.magnitude = n * 10 ^ place := by
  obtain ⟨k, s, hs, rfl⟩ := Nat.exists_eq_pow_mul_and_not_dvd hn 10 (by decide)
  refine ⟨⟨negative, s, place + k + (Nat.toDigits 10 s).length, by omega⟩, rfl, ?_⟩
  have hten : (10 : ℚ) ≠ 0 := by norm_num
  have hplace : place + k + (Nat.toDigits 10 s).length - (Nat.toDigits 10 s).length =
      place + k := by omega
  simp only [magnitude, count, digits, hplace, zpow_add₀ hten, zpow_natCast]
  push_cast
  ring

/-- Every double is a decimal: powers of two are powers of ten over powers of five. -/
theorem exists_toDouble {x : Double} (hx : x.significand ≠ 0) :
    ∃ d : Decimal, d.toDouble = some x := by
  have hdecimal : ∃ (n : Nat) (place : Int), n ≠ 0 ∧ x.magnitude = n * 10 ^ place := by
    rcases Int.le_total 0 x.exponent with hexponent | hexponent
    · obtain ⟨k, hk⟩ := Int.eq_ofNat_of_zero_le hexponent
      refine ⟨x.significand * 2 ^ k, 0, by simp [hx], ?_⟩
      rw [Double.magnitude, hk]
      push_cast
      rw [zpow_natCast, mul_one]
    · obtain ⟨k, hk⟩ := Int.eq_ofNat_of_zero_le (Int.neg_nonneg_of_nonpos hexponent)
      refine ⟨x.significand * 5 ^ k, -k, by simp [hx], ?_⟩
      have hneg : x.exponent = -(k : Int) := by omega
      rw [Double.magnitude, hneg, zpow_neg, zpow_neg, zpow_natCast, zpow_natCast]
      push_cast
      rw [show (10 : ℚ) = 2 * 5 by norm_num, mul_pow]
      field_simp
  obtain ⟨n, place, hn, hmagnitude⟩ := hdecimal
  obtain ⟨d, hnegative, hd⟩ := exists_magnitude hn x.negative place
  refine ⟨d, ?_⟩
  rw [toDouble, hnegative, hd, ← hmagnitude]
  exact Double.ofMagnitude_magnitude hx

theorem isNumeralChar_of_isDigit {c : Char} (h : c.isDigit = true) : isNumeralChar c = true := by
  simp [isNumeralChar, h]

theorem all_toDigits (n : Nat) : (Nat.toDigits 10 n).all isNumeralChar = true := by
  rw [List.all_eq_true]
  intro c hc
  exact isNumeralChar_of_isDigit (Nat.isDigit_of_mem_toDigits (by decide) (by decide) hc)

theorem all_text (d : Decimal) : d.text.all isNumeralChar = true := by
  have htake : ∀ k, (d.digits.take k).all isNumeralChar = true := by
    intro k
    rw [List.all_eq_true]
    exact fun c hc => isNumeralChar_of_isDigit (isDigit_take c hc)
  have hdrop : ∀ k, (d.digits.drop k).all isNumeralChar = true := by
    intro k
    rw [List.all_eq_true]
    exact fun c hc => isNumeralChar_of_isDigit (isDigit_drop c hc)
  have hdigits : d.digits.all isNumeralChar = true := all_toDigits _
  have hexponent : ∀ e, (exponentText e).all isNumeralChar = true := by
    intro e
    rw [exponentText, List.all_cons, List.all_cons, all_toDigits]
    split <;> decide
  have hchars : isNumeralChar '0' = true ∧ isNumeralChar '.' = true ∧
      isNumeralChar '-' = true := by decide
  have hmagnitude : d.magnitudeText.all isNumeralChar = true := by
    unfold magnitudeText
    split_ifs <;>
      simp only [List.cons_append, List.all_append, List.all_cons, List.all_replicate, htake,
        hdrop, hdigits, hexponent] <;>
      simp [hchars]
  unfold text
  split
  · simp [hmagnitude, hchars]
  · exact hmagnitude

theorem text_ne_nil (d : Decimal) : d.text ≠ [] := by
  intro hnil
  obtain ⟨n, hscan, -⟩ := d.scan_magnitudeText d.negative
  unfold text at hnil
  split at hnil
  · cases hnil
  · rw [hnil] at hscan
    simp [Numeral.scanMagnitude] at hscan

/-- The number with the text of a decimal. -/
def toJsNumber (d : Decimal) : JsNumber := ⟨d.text, d.text_ne_nil, d.all_text⟩

end Decimal

/-- Of the decimals that are nearest to a double, one has the fewest digits. -/
theorem exists_shortest {x : Double} (hx : x.value ≠ 0) :
    ∃ d : Decimal, d.toDouble = some x ∧
      ∀ e : Decimal, e.toDouble = some x → d.count ≤ e.count := by
  classical
  have hsome : ∃ n, ∃ d : Decimal, d.toDouble = some x ∧ d.count = n := by
    obtain ⟨d, hd⟩ := Decimal.exists_toDouble (mt Double.value_eq_zero.mpr hx)
    exact ⟨d.count, d, hd, rfl⟩
  obtain ⟨d, hd, hcount⟩ := Nat.find_spec hsome
  refine ⟨d, hd, fun e he => ?_⟩
  rw [hcount]
  exact Nat.find_min' hsome ⟨e, he, rfl⟩

theorem exists_numberToString : ∃ toText, NumberToString toText := by
  have htext : ∀ x : Double, ∃ n : JsNumber, (x.value = 0 → n.numeral = ['0']) ∧
      (x.value ≠ 0 → ∃ d : Decimal, n.numeral = d.text ∧ d.toDouble = some x ∧
        ∀ e : Decimal, e.toDouble = some x → d.count ≤ e.count) := by
    intro x
    by_cases hx : x.value = 0
    · exact ⟨⟨['0'], by decide, by decide⟩, fun _ => rfl, fun h => absurd hx h⟩
    · obtain ⟨d, hd, hleast⟩ := exists_shortest hx
      exact ⟨d.toJsNumber, fun h => absurd h hx, fun _ => ⟨d, rfl, hd, hleast⟩⟩
  choose toText hzero hshortest using htext
  exact ⟨toText, hzero, hshortest⟩

end Json
