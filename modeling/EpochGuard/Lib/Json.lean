import Mathlib.Data.List.Sort
import Mathlib.Order.Lattice
import Mathlib.Algebra.Group.Nat.Defs

/-!
# JSON values and their canonical text

Values of JavaScript's JSON data type: strings are lists of UTF-16 code units,
and a finite number is represented by the text `Number::toString` gives it, so
that `+0` and `-0`, which print alike and compare equal, are one value.
-/

namespace Json

/-- A JavaScript string: its UTF-16 code units. -/
abbrev JsString := List UInt16

/-- The UTF-16 code units of one Unicode character. -/
def charUnits (c : Char) : JsString :=
  if c.toNat < 0x10000 then [c.toNat.toUInt16]
  else [(0xD800 + (c.toNat - 0x10000) / 0x400).toUInt16,
        (0xDC00 + (c.toNat - 0x10000) % 0x400).toUInt16]

/-- The JavaScript string with the characters of `s`. The code units of an ASCII
text are its bytes. -/
def js (s : String) : JsString :=
  let bytes := s.toByteArray.data.toList
  if bytes.all (· < 0x80) then bytes.map UInt8.toUInt16 else s.toList.flatMap charUnits

/-- An ASCII character is one code unit, its byte. -/
theorem charUnits_of_ascii {c : Char}
    (h : (String.utf8EncodeChar c).all (· < 0x80) = true) :
    (String.utf8EncodeChar c).map UInt8.toUInt16 = charUnits c := by
  have hbyte : ∀ n : Nat, 0x80 ≤ n → n < 0x100 → ¬ UInt8.ofNat n < 0x80 := by
    intro n hlow hhigh hlt
    rw [UInt8.lt_iff_toNat_lt, UInt8.toNat_ofNat_of_lt' (by simpa using hhigh)] at hlt
    exact absurd hlow (Nat.not_le.mpr hlt)
  have hval : c.val.toNat = c.toNat := rfl
  unfold String.utf8EncodeChar at h ⊢
  dsimp only at h ⊢
  rw [hval] at h ⊢
  by_cases hascii : c.toNat ≤ 0x7f
  · have hlt : c.toNat < 0x10000 := by omega
    rw [if_pos hascii, charUnits, if_pos hlt]
    simp only [List.map_cons, List.map_nil, List.cons.injEq, and_true]
    rw [← UInt16.toNat_inj]
    simp
    omega
  · -- a longer encoding starts with a byte above the ASCII ones
    exfalso
    have hlt := c.val.toNat_lt
    rw [hval] at hlt
    rw [if_neg hascii] at h
    split_ifs at h with h2 h3 <;>
      simp only [List.all_cons, Bool.and_eq_true, decide_eq_true_eq] at h <;>
      exact hbyte _ (by omega) (by omega) h.1

theorem flatMap_charUnits_of_ascii {cs : List Char}
    (h : (cs.flatMap String.utf8EncodeChar).all (· < 0x80) = true) :
    (cs.flatMap String.utf8EncodeChar).map UInt8.toUInt16 = cs.flatMap charUnits := by
  induction cs with
  | nil => rfl
  | cons c cs ih =>
    simp only [List.flatMap_cons, List.all_append, Bool.and_eq_true] at h
    simp only [List.flatMap_cons, List.map_append, ih h.2, charUnits_of_ascii h.1]

theorem js_eq_flatMap (s : String) : js s = s.toList.flatMap charUnits := by
  have hbytes : s.toByteArray.data.toList = s.toList.flatMap String.utf8EncodeChar := by
    rw [← String.utf8Encode_toList]
    simp [List.utf8Encode]
  simp only [js, hbytes]
  split
  · rename_i h
    exact flatMap_charUnits_of_ascii h
  · rfl

theorem toUInt16_inj {a b : Nat} (ha : a < 0x10000) (hb : b < 0x10000)
    (h : a.toUInt16 = b.toUInt16) : a = b := by
  have h' := congrArg UInt16.toNat h
  simp only [Nat.toUInt16, UInt16.toNat_ofNat'] at h'
  omega

/-- The code units of a character tell where it ends and which one it is. -/
theorem charUnits_append_inj {c d : Char} {xs ys : JsString}
    (h : charUnits c ++ xs = charUnits d ++ ys) : c = d ∧ xs = ys := by
  have hvalid : ∀ e : Char, e.toNat < 0xD800 ∨ 0xDFFF < e.toNat ∧ e.toNat < 0x110000 :=
    fun e => e.valid
  have hc := hvalid c
  have hd := hvalid d
  unfold charUnits at h
  split_ifs at h with h1 h2 h2 <;>
    simp only [List.cons_append, List.nil_append, List.cons.injEq] at h
  · have hunit := toUInt16_inj h1 h2 h.1
    exact ⟨Char.toNat_inj.mp hunit, h.2⟩
  · -- one side is a surrogate and the other is not
    have hunit := toUInt16_inj h1 (by omega) h.1
    omega
  · have hunit := toUInt16_inj (by omega) h2 h.1
    omega
  · obtain ⟨hhigh, hlow, hrest⟩ := h
    have hhigh := toUInt16_inj (by omega) (by omega) hhigh
    have hlow := toUInt16_inj (by omega) (by omega) hlow
    exact ⟨Char.toNat_inj.mp (by omega), hrest⟩

theorem js_injective : Function.Injective js := by
  intro s t h
  rw [js_eq_flatMap, js_eq_flatMap] at h
  rw [← String.toList_inj]
  generalize s.toList = cs at h ⊢
  generalize t.toList = ds at h ⊢
  have hne : ∀ c : Char, charUnits c ≠ [] := by
    intro c
    unfold charUnits
    split <;> simp
  induction cs generalizing ds with
  | nil =>
    cases ds with
    | nil => rfl
    | cons d ds => simp [List.flatMap_cons, hne] at h
  | cons c cs ih =>
    cases ds with
    | nil => simp [List.flatMap_cons, hne] at h
    | cons d ds =>
      simp only [List.flatMap_cons] at h
      obtain ⟨rfl, hrest⟩ := charUnits_append_inj h
      rw [ih ds hrest]

/-- The number of UTF-16 code units, JavaScript's `length`. -/
def jsLength (s : String) : Nat := (js s).length

/-- Characters that occur in the texts of finite numbers. -/
def isNumeralChar (c : Char) : Bool :=
  c.isDigit || c == '-' || c == '+' || c == '.' || c == 'e' || c == 'E'

/-- A finite number, given by its decimal text. -/
structure JsNumber where
  numeral : List Char
  nonempty : numeral ≠ []
  chars : numeral.all isNumeralChar = true
deriving DecidableEq

/-- The value of a list of decimal digits. -/
def digitsValue (ds : List Char) : Nat :=
  ds.foldl (fun n c => 10 * n + (c.toNat - '0'.toNat)) 0

/-- The largest integer up to which every integer is a distinct number. -/
def maxSafeInteger : Nat := 2 ^ 53 - 1

abbrev SafeNat := { n : Nat // n ≤ maxSafeInteger }

/-- The non-negative safe integer a number is, if it is one: the text of an
integer below `10 ^ 21` is its plain digits. -/
def JsNumber.safeNat? (n : JsNumber) : Option Nat :=
  if n.numeral.all Char.isDigit ∧ digitsValue n.numeral ≤ maxSafeInteger then
    some (digitsValue n.numeral)
  else none

/-- JSON values. An object is a list of its own properties in their order;
strings are sequences of code units, and may hold lone surrogates. -/
inductive Value where
  | null
  | bool (b : Bool)
  | num (n : JsNumber)
  | str (s : JsString)
  | arr (items : List Value)
  | obj (entries : List (JsString × Value))

/-! ## Text -/

/-- The four lower-case hexadecimal digits of a code unit. -/
def hex4 (u : UInt16) : JsString :=
  [u / 0x1000, u / 0x100 % 0x10, u / 0x10 % 0x10, u % 0x10].map fun d =>
    if d < 10 then 0x30 + d else 0x61 + (d - 10)

def isHighSurrogate (u : UInt16) : Bool := 0xD800 ≤ u && u ≤ 0xDBFF
def isLowSurrogate (u : UInt16) : Bool := 0xDC00 ≤ u && u ≤ 0xDFFF

/-- The bytes of a code point in UTF-8. -/
def utf8Char (n : Nat) : List Nat :=
  if n < 0x80 then [n]
  else if n < 0x800 then [0xC0 + n / 0x40, 0x80 + n % 0x40]
  else if n < 0x10000 then [0xE0 + n / 0x1000, 0x80 + n / 0x40 % 0x40, 0x80 + n % 0x40]
  else [0xF0 + n / 0x40000, 0x80 + n / 0x1000 % 0x40, 0x80 + n / 0x40 % 0x40, 0x80 + n % 0x40]

/-- The bytes of a string in UTF-8; a lone surrogate becomes U+FFFD. -/
def utf8Bytes : JsString → List Nat
  | [] => []
  | [u] => utf8Char (if isHighSurrogate u || isLowSurrogate u then 0xFFFD else u.toNat)
  | u :: v :: rest =>
      if isHighSurrogate u && isLowSurrogate v then
        utf8Char (0x10000 + (u.toNat - 0xD800) * 0x400 + (v.toNat - 0xDC00)) ++ utf8Bytes rest
      else
        utf8Char (if isHighSurrogate u || isLowSurrogate u then 0xFFFD else u.toNat) ++
          utf8Bytes (v :: rest)

/-- A code unit inside a JSON string literal (`QuoteJSONString`), apart from
the surrogates, which depend on their neighbours. -/
def quoteUnit (u : UInt16) : JsString :=
  if u = 0x08 then js "\\b"
  else if u = 0x09 then js "\\t"
  else if u = 0x0A then js "\\n"
  else if u = 0x0C then js "\\f"
  else if u = 0x0D then js "\\r"
  else if u = 0x22 then js "\\\""
  else if u = 0x5C then js "\\\\"
  else if u < 0x20 then js "\\u" ++ hex4 u
  else [u]

/-- The body of a string literal: surrogate pairs stand for themselves and a
lone surrogate is escaped. -/
def quoteBody : JsString → JsString
  | [] => []
  | [u] =>
      if isHighSurrogate u || isLowSurrogate u then js "\\u" ++ hex4 u else quoteUnit u
  | u :: v :: rest =>
      if isHighSurrogate u && isLowSurrogate v then u :: v :: quoteBody rest
      else if isHighSurrogate u || isLowSurrogate u then
        js "\\u" ++ hex4 u ++ quoteBody (v :: rest)
      else quoteUnit u ++ quoteBody (v :: rest)

/-- `JSON.stringify` of a string. -/
def quote (s : JsString) : JsString := js "\"" ++ quoteBody s ++ js "\""

/-- Code-unit order on strings, JavaScript's `<` and `<=`. -/
def leUnits : JsString → JsString → Bool
  | [], _ => true
  | _ :: _, [] => false
  | a :: as, b :: bs => a < b || (a == b && leUnits as bs)

theorem leUnits_total (a b : JsString) : leUnits a b = true ∨ leUnits b a = true := by
  induction a generalizing b with
  | nil => simp [leUnits]
  | cons x as ih =>
    cases b with
    | nil => simp [leUnits]
    | cons y bs =>
      rcases Nat.lt_trichotomy x.toNat y.toNat with h | h | h
      · simp [leUnits, UInt16.lt_iff_toNat_lt, h]
      · obtain rfl : x = y := UInt16.toNat_inj.mp h
        simpa [leUnits] using ih bs
      · simp [leUnits, UInt16.lt_iff_toNat_lt, h]

theorem leUnits_trans {a b c : JsString} (hab : leUnits a b = true) (hbc : leUnits b c = true) :
    leUnits a c = true := by
  induction a generalizing b c with
  | nil => simp [leUnits]
  | cons x as ih =>
    match b, c with
    | [], _ => simp [leUnits] at hab
    | _ :: _, [] => simp [leUnits] at hbc
    | y :: bs, z :: cs =>
      simp only [leUnits, Bool.or_eq_true, decide_eq_true_eq, Bool.and_eq_true, beq_iff_eq]
        at hab hbc ⊢
      rcases hab with hxy | ⟨rfl, hab⟩
      · rcases hbc with hyz | ⟨rfl, -⟩
        · exact .inl (UInt16.lt_trans hxy hyz)
        · exact .inl hxy
      · rcases hbc with hyz | ⟨rfl, hbc⟩
        · exact .inl hyz
        · exact .inr ⟨rfl, ih hab hbc⟩

/-- Keyed properties in key order. -/
def leKey {α : Type} (a b : JsString × α) : Prop := leUnits a.1 b.1 = true

instance {α : Type} : DecidableRel (leKey (α := α)) := fun a b =>
  inferInstanceAs (Decidable (leUnits a.1 b.1 = true))

instance {α : Type} : IsTrans (JsString × α) leKey := ⟨fun _ _ _ => leUnits_trans⟩
instance {α : Type} : Std.Total (leKey (α := α)) := ⟨fun a b => leUnits_total a.1 b.1⟩

/-- Texts joined by commas. -/
def joinComma : List JsString → JsString
  | [] => []
  | [t] => t
  | t :: u :: rest => t ++ js "," ++ joinComma (u :: rest)

mutual

/-- `canonicalJson`: object keys in code-unit order, no white space. -/
def canonicalJson : Value → JsString
  | .null => js "null"
  | .bool b => if b then js "true" else js "false"
  | .num n => n.numeral.flatMap charUnits
  | .str s => quote s
  | .arr items => js "[" ++ joinComma (canonicalItems items) ++ js "]"
  | .obj entries =>
      js "\x7b" ++ joinComma (((canonicalEntries entries).insertionSort leKey).map Prod.snd) ++
        js "\x7d"

def canonicalItems : List Value → List JsString
  | [] => []
  | v :: rest => canonicalJson v :: canonicalItems rest

/-- Each key with the text of its property. -/
def canonicalEntries : List (JsString × Value) → List (JsString × JsString)
  | [] => []
  | (k, v) :: rest =>
      (k, quote k ++ js ":" ++ canonicalJson v) :: canonicalEntries rest

end

mutual

/-- The value `JSON.parse` reads back from the canonical text: the same value
with the properties of every object in key order. -/
def normalize : Value → Value
  | .arr items => .arr (normalizeItems items)
  | .obj entries =>
      .obj ((normalizeEntries entries).insertionSort leKey)
  | .null => .null
  | .bool b => .bool b
  | .num n => .num n
  | .str s => .str s

def normalizeItems : List Value → List Value
  | [] => []
  | v :: rest => normalize v :: normalizeItems rest

def normalizeEntries : List (JsString × Value) → List (JsString × Value)
  | [] => []
  | (k, v) :: rest => (k, normalize v) :: normalizeEntries rest

end

theorem canonicalEntries_eq_map (entries : List (JsString × Value)) :
    canonicalEntries entries =
      entries.map fun e => (e.1, quote e.1 ++ js ":" ++ canonicalJson e.2) := by
  induction entries with
  | nil => rfl
  | cons e rest ih => simp [canonicalEntries, ih]

/-- The text of a sorted object is the text of the object. -/
theorem canonicalJson_sort (entries : List (JsString × Value)) :
    canonicalJson (.obj (entries.insertionSort leKey)) = canonicalJson (.obj entries) := by
  have hmap : (canonicalEntries entries).insertionSort leKey =
      canonicalEntries (entries.insertionSort leKey) := by
    simp only [canonicalEntries_eq_map]
    exact (List.map_insertionSort leKey leKey
      (fun e : JsString × Value => (e.1, quote e.1 ++ js ":" ++ canonicalJson e.2)) entries
      fun _ _ _ _ => Iff.rfl).symm
  have hsorted : (canonicalEntries (entries.insertionSort leKey)).insertionSort leKey =
      canonicalEntries (entries.insertionSort leKey) := by
    refine List.Pairwise.insertionSort_eq ?_
    rw [← hmap]
    exact List.pairwise_insertionSort leKey _
  simp only [canonicalJson, hsorted, hmap]

mutual

/-- Reading the canonical text back loses nothing that the text shows. -/
theorem canonicalJson_normalize : ∀ v : Value, canonicalJson (normalize v) = canonicalJson v
  | .null | .bool _ | .num _ | .str _ => by simp [normalize]
  | .arr items => by
    have ih := canonicalItems_normalize items
    simp [normalize, canonicalJson, ih]
  | .obj entries => by
    have ih := canonicalEntries_normalize entries
    rw [normalize, canonicalJson_sort]
    simp [canonicalJson, ih]

theorem canonicalItems_normalize :
    ∀ items : List Value, canonicalItems (normalizeItems items) = canonicalItems items
  | [] => by simp [normalizeItems]
  | v :: rest => by
    have hv := canonicalJson_normalize v
    have hrest := canonicalItems_normalize rest
    simp [normalizeItems, canonicalItems, hv, hrest]

theorem canonicalEntries_normalize : ∀ entries : List (JsString × Value),
    canonicalEntries (normalizeEntries entries) = canonicalEntries entries
  | [] => by simp [normalizeEntries]
  | (k, v) :: rest => by
    have hv := canonicalJson_normalize v
    have hrest := canonicalEntries_normalize rest
    simp [normalizeEntries, canonicalEntries, hv, hrest]

end

/-! ## Own `__proto__` properties -/

/-- The key whose assignment sets the prototype of an object instead of adding
a property to it. -/
def protoKey : JsString := js "__proto__"

mutual

/-- The copy of a value that adds the properties of every object one by one,
but for the key `__proto__`. -/
def dropProto : Value → Value
  | .arr items => .arr (dropProtoItems items)
  | .obj entries => .obj (dropProtoEntries entries)
  | .null => .null
  | .bool b => .bool b
  | .num n => .num n
  | .str s => .str s

def dropProtoItems : List Value → List Value
  | [] => []
  | v :: rest => dropProto v :: dropProtoItems rest

def dropProtoEntries : List (JsString × Value) → List (JsString × Value)
  | [] => []
  | (k, v) :: rest =>
      if k = protoKey then dropProtoEntries rest else (k, dropProto v) :: dropProtoEntries rest

end

mutual

/-- No object in the value has an own property `__proto__`. -/
def Plain : Value → Prop
  | .arr items => PlainItems items
  | .obj entries => PlainEntries entries
  | .null => True
  | .bool _ => True
  | .num _ => True
  | .str _ => True

def PlainItems : List Value → Prop
  | [] => True
  | v :: rest => Plain v ∧ PlainItems rest

def PlainEntries : List (JsString × Value) → Prop
  | [] => True
  | (k, v) :: rest => (k ≠ protoKey ∧ Plain v) ∧ PlainEntries rest

end

mutual

theorem plain_dropProto : ∀ v : Value, Plain (dropProto v)
  | .null | .bool _ | .num _ | .str _ => by simp [dropProto, Plain]
  | .arr items => by
    have ih := plainItems_dropProto items
    rwa [dropProto, Plain]
  | .obj entries => by
    have ih := plainEntries_dropProto entries
    rwa [dropProto, Plain]

theorem plainItems_dropProto : ∀ items : List Value, PlainItems (dropProtoItems items)
  | [] => by simp [dropProtoItems, PlainItems]
  | v :: rest => by
    have hv := plain_dropProto v
    have hrest := plainItems_dropProto rest
    exact ⟨hv, hrest⟩

theorem plainEntries_dropProto :
    ∀ entries : List (JsString × Value), PlainEntries (dropProtoEntries entries)
  | [] => by simp [dropProtoEntries, PlainEntries]
  | (k, v) :: rest => by
    have hv := plain_dropProto v
    have hrest := plainEntries_dropProto rest
    by_cases hkey : k = protoKey
    · rwa [dropProtoEntries, if_pos hkey]
    · rw [dropProtoEntries, if_neg hkey]
      exact ⟨⟨hkey, hv⟩, hrest⟩

end

mutual

/-- A copy leaves nothing out of a plain value. -/
theorem dropProto_of_plain : ∀ v : Value, Plain v → dropProto v = v
  | .null, _ | .bool _, _ | .num _, _ | .str _, _ => by simp [dropProto]
  | .arr items, h => by
    rw [Plain] at h
    rw [dropProto, dropProtoItems_of_plain items h]
  | .obj entries, h => by
    rw [Plain] at h
    rw [dropProto, dropProtoEntries_of_plain entries h]

theorem dropProtoItems_of_plain :
    ∀ items : List Value, PlainItems items → dropProtoItems items = items
  | [], _ => by simp [dropProtoItems]
  | v :: rest, h => by
    rw [PlainItems] at h
    rw [dropProtoItems, dropProto_of_plain v h.1, dropProtoItems_of_plain rest h.2]

theorem dropProtoEntries_of_plain : ∀ entries : List (JsString × Value),
    PlainEntries entries → dropProtoEntries entries = entries
  | [], _ => by simp [dropProtoEntries]
  | (k, v) :: rest, h => by
    rw [PlainEntries] at h
    rw [dropProtoEntries, if_neg h.1.1, dropProto_of_plain v h.1.2,
      dropProtoEntries_of_plain rest h.2]

end

theorem dropProto_eq_self {v : Value} : dropProto v = v ↔ Plain v := by
  constructor
  · intro h
    rw [← h]
    exact plain_dropProto v
  · exact dropProto_of_plain v

theorem plainEntries_iff {entries : List (JsString × Value)} :
    PlainEntries entries ↔ ∀ e ∈ entries, e.1 ≠ protoKey ∧ Plain e.2 := by
  induction entries with
  | nil => simp [PlainEntries]
  | cons e rest ih =>
    obtain ⟨k, v⟩ := e
    simp [PlainEntries, ih]

mutual

/-- Sorting the properties brings no `__proto__` in and takes none out. -/
theorem plain_normalize : ∀ v : Value, Plain (normalize v) ↔ Plain v
  | .null | .bool _ | .num _ | .str _ => by simp [normalize]
  | .arr items => by
    have ih := plainItems_normalize items
    rwa [normalize, Plain, Plain]
  | .obj entries => by
    have ih := plainEntries_normalize entries
    rw [normalize, Plain, Plain, ← ih, plainEntries_iff, plainEntries_iff]
    simp only [List.mem_insertionSort]

theorem plainItems_normalize :
    ∀ items : List Value, PlainItems (normalizeItems items) ↔ PlainItems items
  | [] => by simp [normalizeItems]
  | v :: rest => by
    have hv := plain_normalize v
    have hrest := plainItems_normalize rest
    rw [normalizeItems, PlainItems, PlainItems, hv, hrest]

theorem plainEntries_normalize : ∀ entries : List (JsString × Value),
    PlainEntries (normalizeEntries entries) ↔ PlainEntries entries
  | [] => by simp [normalizeEntries]
  | (k, v) :: rest => by
    have hv := plain_normalize v
    have hrest := plainEntries_normalize rest
    rw [normalizeEntries, PlainEntries, PlainEntries, hv, hrest]

end

end Json
