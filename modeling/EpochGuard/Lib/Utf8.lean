import EpochGuard.Lib.Json

/-!
# Decoding UTF-8

`Buffer.toString("utf8")`: the code units of the code points that the bytes
encode, and U+FFFD for every maximal part that is no encoding.
-/

namespace Json

/-- An encoding that is under way: how many bytes it still needs, the range of
the next one, and the bits so far. -/
structure Utf8State where
  needed : Nat
  lower : Nat
  upper : Nat
  bits : Nat

def replacementCharacter : UInt16 := 0xFFFD

/-- The code units of a code point. -/
def codePointUnits (n : Nat) : JsString :=
  if n < 0x10000 then [n.toUInt16]
  else [(0xD800 + (n - 0x10000) / 0x400).toUInt16, (0xDC00 + (n - 0x10000) % 0x400).toUInt16]

/-- A byte between two encodings: the code units it ends, or the encoding it starts. -/
def decodeLead (b : Nat) : JsString × Option Utf8State :=
  if b < 0x80 then ([b.toUInt16], none)
  else if 0xC2 ≤ b ∧ b ≤ 0xDF then ([], some ⟨1, 0x80, 0xBF, b - 0xC0⟩)
  else if 0xE0 ≤ b ∧ b ≤ 0xEF then
    ([], some ⟨2, if b = 0xE0 then 0xA0 else 0x80, if b = 0xED then 0x9F else 0xBF, b - 0xE0⟩)
  else if 0xF0 ≤ b ∧ b ≤ 0xF4 then
    ([], some ⟨3, if b = 0xF0 then 0x90 else 0x80, if b = 0xF4 then 0x8F else 0xBF, b - 0xF0⟩)
  else ([replacementCharacter], none)

def decodeFrom : Option Utf8State → List Nat → JsString
  | none, [] => []
  | some _, [] => [replacementCharacter]
  | none, b :: rest => (decodeLead b).1 ++ decodeFrom (decodeLead b).2 rest
  | some q, b :: rest =>
      if q.lower ≤ b ∧ b ≤ q.upper then
        if q.needed ≤ 1 then
          codePointUnits (q.bits * 0x40 + (b - 0x80)) ++ decodeFrom none rest
        else decodeFrom (some ⟨q.needed - 1, 0x80, 0xBF, q.bits * 0x40 + (b - 0x80)⟩) rest
      else replacementCharacter :: ((decodeLead b).1 ++ decodeFrom (decodeLead b).2 rest)

def decodeUtf8 (bytes : List Nat) : JsString := decodeFrom none bytes

/-- A code point that is no surrogate. -/
def IsScalar (n : Nat) : Prop := n < 0xD800 ∨ (0xDFFF < n ∧ n < 0x110000)

theorem decodeFrom_utf8Char {n : Nat} (h : IsScalar n) (rest : List Nat) :
    decodeFrom none (utf8Char n ++ rest) = codePointUnits n ++ decodeFrom none rest := by
  unfold IsScalar at h
  by_cases h1 : n < 0x80
  · have hsmall : n < 0x10000 := by omega
    simp [utf8Char, h1, decodeFrom, decodeLead, codePointUnits, hsmall]
  by_cases h2 : n < 0x800
  · have hfirst : ¬0xC0 + n / 0x40 < 0x80 := by omega
    have hlead : 0xC2 ≤ 0xC0 + n / 0x40 ∧ 0xC0 + n / 0x40 ≤ 0xDF := by omega
    have hnext : 0x80 ≤ 0x80 + n % 0x40 ∧ 0x80 + n % 0x40 ≤ 0xBF := by omega
    have hbits : (0xC0 + n / 0x40 - 0xC0) * 0x40 + (0x80 + n % 0x40 - 0x80) = n := by omega
    simp only [utf8Char, h1, h2, if_true, if_false, List.cons_append, List.nil_append, decodeFrom,
      decodeLead, hfirst, hlead, hnext, and_self, Nat.le_refl, hbits]
  by_cases h3 : n < 0x10000
  · have hfirst : ¬0xE0 + n / 0x1000 < 0x80 := by omega
    have hlead2 : ¬(0xC2 ≤ 0xE0 + n / 0x1000 ∧ 0xE0 + n / 0x1000 ≤ 0xDF) := by omega
    have hlead : 0xE0 ≤ 0xE0 + n / 0x1000 ∧ 0xE0 + n / 0x1000 ≤ 0xEF := by omega
    -- the second byte of U+0800 and of U+D7FF are at the ends of their ranges
    have hsecond : (if 0xE0 + n / 0x1000 = 0xE0 then 0xA0 else 0x80) ≤ 0x80 + n / 0x40 % 0x40 ∧
        0x80 + n / 0x40 % 0x40 ≤ (if 0xE0 + n / 0x1000 = 0xED then 0x9F else 0xBF) := by
      split_ifs <;> omega
    have hthird : 0x80 ≤ 0x80 + n % 0x40 ∧ 0x80 + n % 0x40 ≤ 0xBF := by omega
    have hbits : ((0xE0 + n / 0x1000 - 0xE0) * 0x40 + (0x80 + n / 0x40 % 0x40 - 0x80)) * 0x40 +
        (0x80 + n % 0x40 - 0x80) = n := by omega
    have hneeded : ¬2 ≤ 1 := by omega
    simp only [utf8Char, h1, h2, h3, if_true, if_false, List.cons_append, List.nil_append,
      decodeFrom, decodeLead, hfirst, hlead2, hlead, hsecond, hthird, and_self, hneeded,
      Nat.reduceSub, Nat.le_refl, hbits]
  · have hfirst : ¬0xF0 + n / 0x40000 < 0x80 := by omega
    have hlead2 : ¬(0xC2 ≤ 0xF0 + n / 0x40000 ∧ 0xF0 + n / 0x40000 ≤ 0xDF) := by omega
    have hlead3 : ¬(0xE0 ≤ 0xF0 + n / 0x40000 ∧ 0xF0 + n / 0x40000 ≤ 0xEF) := by omega
    have hlead : 0xF0 ≤ 0xF0 + n / 0x40000 ∧ 0xF0 + n / 0x40000 ≤ 0xF4 := by omega
    have hsecond : (if 0xF0 + n / 0x40000 = 0xF0 then 0x90 else 0x80) ≤
          0x80 + n / 0x1000 % 0x40 ∧
        0x80 + n / 0x1000 % 0x40 ≤ (if 0xF0 + n / 0x40000 = 0xF4 then 0x8F else 0xBF) := by
      split_ifs <;> omega
    have hthird : 0x80 ≤ 0x80 + n / 0x40 % 0x40 ∧ 0x80 + n / 0x40 % 0x40 ≤ 0xBF := by omega
    have hfourth : 0x80 ≤ 0x80 + n % 0x40 ∧ 0x80 + n % 0x40 ≤ 0xBF := by omega
    have hbits : (((0xF0 + n / 0x40000 - 0xF0) * 0x40 + (0x80 + n / 0x1000 % 0x40 - 0x80)) * 0x40 +
        (0x80 + n / 0x40 % 0x40 - 0x80)) * 0x40 + (0x80 + n % 0x40 - 0x80) = n := by omega
    have hneeded3 : ¬3 ≤ 1 := by omega
    have hneeded2 : ¬2 ≤ 1 := by omega
    simp only [utf8Char, h1, h2, h3, if_true, if_false, List.cons_append, List.nil_append,
      decodeFrom, decodeLead, hfirst, hlead2, hlead3, hlead, hsecond, hthird, hfourth, and_self,
      hneeded3, hneeded2, Nat.reduceSub, Nat.le_refl, hbits]

/-- `String.prototype.isWellFormed`: no surrogate stands alone. -/
def isWellFormed : JsString → Bool
  | [] => true
  | [u] => !(isHighSurrogate u || isLowSurrogate u)
  | u :: v :: rest =>
      if isHighSurrogate u && isLowSurrogate v then isWellFormed rest
      else !(isHighSurrogate u || isLowSurrogate u) && isWellFormed (v :: rest)

theorem isScalar_unit {u : UInt16} (h : (isHighSurrogate u || isLowSurrogate u) = false) :
    IsScalar u.toNat := by
  have hlt := u.toNat_lt
  simp only [isHighSurrogate, isLowSurrogate, Bool.or_eq_false_iff, Bool.and_eq_false_iff,
    decide_eq_false_iff_not, UInt16.le_iff_toNat_le, UInt16.reduceToNat] at h
  unfold IsScalar
  omega

theorem codePointUnits_unit (u : UInt16) : codePointUnits u.toNat = [u] := by
  have hlt : u.toNat < 0x10000 := u.toNat_lt
  rw [codePointUnits, if_pos hlt]
  simp

/-- The code point of a surrogate pair, and its code units. -/
theorem codePointUnits_pair {u v : UInt16} (hu : isHighSurrogate u = true)
    (hv : isLowSurrogate v = true) :
    IsScalar (0x10000 + (u.toNat - 0xD800) * 0x400 + (v.toNat - 0xDC00)) ∧
      codePointUnits (0x10000 + (u.toNat - 0xD800) * 0x400 + (v.toNat - 0xDC00)) = [u, v] := by
  simp only [isHighSurrogate, isLowSurrogate, Bool.and_eq_true, decide_eq_true_eq,
    UInt16.le_iff_toNat_le, UInt16.reduceToNat] at hu hv
  have hlarge : ¬0x10000 + (u.toNat - 0xD800) * 0x400 + (v.toNat - 0xDC00) < 0x10000 := by omega
  have hfirst : 0xD800 + (0x10000 + (u.toNat - 0xD800) * 0x400 + (v.toNat - 0xDC00) - 0x10000) /
      0x400 = u.toNat := by omega
  have hsecond : 0xDC00 + (0x10000 + (u.toNat - 0xD800) * 0x400 + (v.toNat - 0xDC00) - 0x10000) %
      0x400 = v.toNat := by omega
  constructor
  · unfold IsScalar
    omega
  · rw [codePointUnits, if_neg hlarge, hfirst, hsecond]
    simp

/-- Decoding reads back the encoding of a text without lone surrogates, whatever
follows it. -/
theorem decodeFrom_utf8Bytes {s : JsString} (h : isWellFormed s = true) (rest : List Nat) :
    decodeFrom none (utf8Bytes s ++ rest) = s ++ decodeFrom none rest := by
  induction s using utf8Bytes.induct with
  | case1 => rfl
  | case2 u =>
    simp only [isWellFormed, Bool.not_eq_eq_eq_not, Bool.not_true] at h
    simp only [utf8Bytes, h, Bool.false_eq_true, if_false]
    rw [decodeFrom_utf8Char (isScalar_unit h), codePointUnits_unit]
  | case3 u v t hpair ih =>
    simp only [isWellFormed, hpair, if_true] at h
    obtain ⟨hu, hv⟩ := Bool.and_eq_true_iff.mp hpair
    obtain ⟨hscalar, hunits⟩ := codePointUnits_pair hu hv
    rw [utf8Bytes, if_pos hpair, List.append_assoc, decodeFrom_utf8Char hscalar, hunits, ih h]
    rfl
  | case4 u v t hpair ih =>
    simp only [isWellFormed, hpair, Bool.false_eq_true, if_false, Bool.and_eq_true,
      Bool.not_eq_eq_eq_not, Bool.not_true] at h
    rw [utf8Bytes, if_neg hpair, if_neg (by simp [h.1]), List.append_assoc,
      decodeFrom_utf8Char (isScalar_unit h.1), codePointUnits_unit, ih h.2]
    rfl

theorem decodeUtf8_utf8Bytes {s : JsString} (h : isWellFormed s = true) :
    decodeUtf8 (utf8Bytes s) = s := by
  have hall := decodeFrom_utf8Bytes h []
  rwa [List.append_nil, decodeFrom, List.append_nil] at hall

end Json
