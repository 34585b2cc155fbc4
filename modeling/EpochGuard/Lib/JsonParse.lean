import EpochGuard.Lib.Json
import Mathlib.Data.List.TakeWhile

/-!
# Reading JSON

`JSON.parse` on the code units of a text, and that it reads the canonical text
of a value back as the value. How a numeral is read is a parameter.
-/

namespace Json

/-! ## The parser -/

def isSpace (u : UInt16) : Bool := u = 0x20 || u = 0x09 || u = 0x0A || u = 0x0D

def skipSpace (s : JsString) : JsString := s.dropWhile isSpace

/-- The value of a hexadecimal digit. -/
def hexValue? (u : UInt16) : Option UInt16 :=
  if 0x30 ≤ u ∧ u ≤ 0x39 then some (u - 0x30)
  else if 0x61 ≤ u ∧ u ≤ 0x66 then some (u - 0x61 + 10)
  else if 0x41 ≤ u ∧ u ≤ 0x46 then some (u - 0x41 + 10)
  else none

def hexUnit? (a b c d : UInt16) : Option UInt16 := do
  return (← hexValue? a) * 0x1000 + (← hexValue? b) * 0x100 + (← hexValue? c) * 0x10 +
    (← hexValue? d)

/-- The code unit of an escape with one letter. -/
def unescape? (u : UInt16) : Option UInt16 :=
  if u = 0x22 ∨ u = 0x5C ∨ u = 0x2F then some u
  else if u = 0x62 then some 0x08
  else if u = 0x66 then some 0x0C
  else if u = 0x6E then some 0x0A
  else if u = 0x72 then some 0x0D
  else if u = 0x74 then some 0x09
  else none

/-- The string up to the closing quotation mark, and what follows it. -/
def parseString : JsString → Option (JsString × JsString)
  | [] => none
  | 0x22 :: rest => some ([], rest)
  | 0x5C :: 0x75 :: a :: b :: c :: d :: rest => do
      let unit ← hexUnit? a b c d
      let (s, rest) ← parseString rest
      return (unit :: s, rest)
  | 0x5C :: e :: rest => do
      let unit ← unescape? e
      let (s, rest) ← parseString rest
      return (unit :: s, rest)
  | u :: rest => do
      if u < 0x20 ∨ u = 0x5C then none
      else
        let (s, rest) ← parseString rest
        return (u :: s, rest)

/-- Code units that occur in the text of a number. -/
def isNumeralUnit (u : UInt16) : Bool :=
  (0x30 ≤ u && u ≤ 0x39) || u = 0x2D || u = 0x2B || u = 0x2E || u = 0x65 || u = 0x45

/-- The properties of an object: the last one of a key is kept, in the place of
the first one. -/
def setProperty (entries : List (JsString × Value)) (e : JsString × Value) :
    List (JsString × Value) :=
  if entries.any fun f => f.1 = e.1 then entries.map fun f => if f.1 = e.1 then e else f
  else entries ++ [e]

def ownProperties (entries : List (JsString × Value)) : List (JsString × Value) :=
  entries.foldl setProperty []

section Parser

variable (readNumber : List Char → Option JsNumber)

mutual

/-- The value at the start of a text, and what follows it. The bound, which
`parse` takes from the length of the text, is never reached. -/
def parseValue : Nat → JsString → Option (Value × JsString)
  | 0, _ => none
  | fuel + 1, s =>
      match skipSpace s with
      | [] => none
      | 0x22 :: rest => (parseString rest).map fun r => (.str r.1, r.2)
      | 0x5B :: rest =>
          match skipSpace rest with
          | 0x5D :: rest => some (.arr [], rest)
          | rest => (parseItems fuel rest).map fun r => (.arr r.1, r.2)
      | 0x7B :: rest =>
          match skipSpace rest with
          | 0x7D :: rest => some (.obj [], rest)
          | rest => (parseEntries fuel rest).map fun r => (.obj (ownProperties r.1), r.2)
      | 0x6E :: 0x75 :: 0x6C :: 0x6C :: rest => some (.null, rest)
      | 0x74 :: 0x72 :: 0x75 :: 0x65 :: rest => some (.bool true, rest)
      | 0x66 :: 0x61 :: 0x6C :: 0x73 :: 0x65 :: rest => some (.bool false, rest)
      | u :: rest =>
          (readNumber (((u :: rest).takeWhile isNumeralUnit).map fun u => Char.ofNat u.toNat)).map
            fun n => (.num n, (u :: rest).dropWhile isNumeralUnit)

/-- The items up to the closing bracket. -/
def parseItems : Nat → JsString → Option (List Value × JsString)
  | 0, _ => none
  | fuel + 1, s => do
      let (item, rest) ← parseValue fuel s
      match skipSpace rest with
      | 0x2C :: rest => do
          let (items, rest) ← parseItems fuel rest
          return (item :: items, rest)
      | 0x5D :: rest => return ([item], rest)
      | _ => none

/-- The properties up to the closing brace. -/
def parseEntries : Nat → JsString → Option (List (JsString × Value) × JsString)
  | 0, _ => none
  | fuel + 1, s => do
      match skipSpace s with
      | 0x22 :: rest => do
          let (key, rest) ← parseString rest
          match skipSpace rest with
          | 0x3A :: rest => do
              let (value, rest) ← parseValue fuel rest
              match skipSpace rest with
              | 0x2C :: rest => do
                  let (entries, rest) ← parseEntries fuel rest
                  return ((key, value) :: entries, rest)
              | 0x7D :: rest => return ([(key, value)], rest)
              | _ => none
          | _ => none
      | _ => none

end

/-- `JSON.parse`: one value, with white space around it. -/
def parse (s : JsString) : Option Value :=
  (parseValue readNumber (s.length + 1) s).bind fun r =>
    if skipSpace r.2 = [] then some r.1 else none

end Parser

/-! ## Strings -/

theorem toNat_hexDigit {d : UInt16} (hd : d < 0x10) :
    hexValue? (if d < 10 then 0x30 + d else 0x61 + (d - 10)) = some d := by
  have hall : ∀ n : Fin 16, hexValue? (if UInt16.ofNat n < 10 then 0x30 + UInt16.ofNat n
      else 0x61 + (UInt16.ofNat n - 10)) = some (UInt16.ofNat n) := by decide
  rw [UInt16.lt_iff_toNat_lt] at hd
  have h := hall ⟨d.toNat, hd⟩
  simpa using h

/-- The four digits of a code unit read back as the code unit. -/
theorem hexUnit?_hex4 (u : UInt16) {a b c d : UInt16} (h : hex4 u = [a, b, c, d]) :
    hexUnit? a b c d = some u := by
  simp only [hex4, List.map_cons, List.map_nil, List.cons.injEq, and_true] at h
  obtain ⟨rfl, rfl, rfl, rfl⟩ := h
  have hu := u.toNat_lt
  have h3 : u / 0x1000 < 0x10 := by
    rw [UInt16.lt_iff_toNat_lt, UInt16.toNat_div]
    show u.toNat / 4096 < 16
    omega
  have hmod : ∀ v : UInt16, v % 0x10 < 0x10 := by
    intro v
    rw [UInt16.lt_iff_toNat_lt, UInt16.toNat_mod]
    exact Nat.mod_lt _ (by decide)
  simp only [hexUnit?, toNat_hexDigit h3, toNat_hexDigit (hmod _), Option.bind_eq_bind,
    Option.bind_some, Option.pure_def, Option.some.injEq]
  rw [← UInt16.toNat_inj]
  simp only [UInt16.toNat_add, UInt16.toNat_mul, UInt16.toNat_div, UInt16.toNat_mod]
  show (((u.toNat / 4096 * 4096 % 65536 + u.toNat / 256 % 16 * 256 % 65536) % 65536 +
    u.toNat / 16 % 16 * 16 % 65536) % 65536 + u.toNat % 16) % 65536 = u.toNat
  omega

/-- A quoted code unit reads back as the code unit. -/
theorem parseString_escape (u : UInt16) (rest : JsString) :
    parseString (js "\\u" ++ hex4 u ++ rest) =
      (parseString rest).map fun r => (u :: r.1, r.2) := by
  obtain ⟨a, b, c, d, hhex⟩ : ∃ a b c d, hex4 u = [a, b, c, d] := ⟨_, _, _, _, rfl⟩
  have hjs : js "\\u" = [0x5C, 0x75] := by decide
  rw [hhex, hjs]
  simp only [List.cons_append, List.nil_append, parseString, hexUnit?_hex4 u hhex,
    Option.bind_eq_bind, Option.bind_some, Option.pure_def]
  cases parseString rest <;> rfl

theorem parseString_plain {u : UInt16} (h : ¬u < 0x20) (hquote : u ≠ 0x22) (hback : u ≠ 0x5C)
    (rest : JsString) :
    parseString (u :: rest) = (parseString rest).map fun r => (u :: r.1, r.2) := by
  rw [parseString]
  · simp only [h, hback, or_self, if_false, Option.bind_eq_bind, Option.pure_def]
    cases parseString rest <;> rfl
  · exact hquote
  · intro _ _ _ _ _ heq _
    exact hback heq
  · intro _ _ heq _
    exact hback heq

theorem parseString_short {u e : UInt16} (hu : e ≠ 0x75) (h : unescape? e = some u)
    (rest : JsString) :
    parseString (0x5C :: e :: rest) = (parseString rest).map fun r => (u :: r.1, r.2) := by
  rw [parseString]
  · simp only [h, Option.bind_eq_bind, Option.bind_some, Option.pure_def]
    cases parseString rest <;> rfl
  · intro _ _ _ _ _ heq _
    exact hu heq

theorem parseString_quoteUnit (u : UInt16) (rest : JsString) :
    parseString (quoteUnit u ++ rest) = (parseString rest).map fun r => (u :: r.1, r.2) := by
  unfold quoteUnit
  have hjs : js "\\b" = [0x5C, 0x62] ∧ js "\\t" = [0x5C, 0x74] ∧ js "\\n" = [0x5C, 0x6E] ∧
      js "\\f" = [0x5C, 0x66] ∧ js "\\r" = [0x5C, 0x72] ∧ js "\\\"" = [0x5C, 0x22] ∧
      js "\\\\" = [0x5C, 0x5C] := by decide
  obtain ⟨hb, ht, hn, hf, hr, hq, hs⟩ := hjs
  split_ifs with h1 h2 h3 h4 h5 h6 h7 h8
  · subst h1
    rw [hb]
    exact parseString_short (by decide) (by decide) rest
  · subst h2
    rw [ht]
    exact parseString_short (by decide) (by decide) rest
  · subst h3
    rw [hn]
    exact parseString_short (by decide) (by decide) rest
  · subst h4
    rw [hf]
    exact parseString_short (by decide) (by decide) rest
  · subst h5
    rw [hr]
    exact parseString_short (by decide) (by decide) rest
  · subst h6
    rw [hq]
    exact parseString_short (by decide) (by decide) rest
  · subst h7
    rw [hs]
    exact parseString_short (by decide) (by decide) rest
  · exact parseString_escape u rest
  · exact parseString_plain h8 h6 h7 rest

theorem not_surrogate_small {u : UInt16} (h : isHighSurrogate u = true ∨ isLowSurrogate u = true) :
    ¬u < 0x20 ∧ u ≠ 0x22 ∧ u ≠ 0x5C := by
  have hlow : 0xD800 ≤ u := by
    simp only [isHighSurrogate, isLowSurrogate, Bool.and_eq_true, decide_eq_true_eq] at h
    rcases h with h | h
    · exact h.1
    · exact UInt16.le_trans (by decide) h.1
  rw [UInt16.le_iff_toNat_le] at hlow
  have hlow' : 0xD800 ≤ u.toNat := hlow
  refine ⟨fun hlt => ?_, ?_, ?_⟩
  · rw [UInt16.lt_iff_toNat_lt] at hlt
    have hlt' : u.toNat < 0x20 := hlt
    omega
  · rintro rfl
    exact absurd hlow' (by decide)
  · rintro rfl
    exact absurd hlow' (by decide)

/-- The body of a string literal reads back as the string. -/
theorem parseString_quoteBody (s rest : JsString) :
    parseString (quoteBody s ++ 0x22 :: rest) = some (s, rest) := by
  induction s using quoteBody.induct with
  | case1 => rfl
  | case2 u hsurrogate =>
    rw [quoteBody, if_pos hsurrogate, parseString_escape]
    rfl
  | case3 u hsurrogate =>
    rw [quoteBody, if_neg hsurrogate, parseString_quoteUnit]
    rfl
  | case4 u v rest' hpair ih =>
    have hboth := hpair
    rw [Bool.and_eq_true] at hboth
    obtain ⟨h1, h2, h3⟩ := not_surrogate_small (.inl hboth.1)
    obtain ⟨h1', h2', h3'⟩ := not_surrogate_small (.inr hboth.2)
    rw [quoteBody, if_pos hpair, List.cons_append, List.cons_append, parseString_plain h1 h2 h3,
      parseString_plain h1' h2' h3', ih]
    rfl
  | case5 u v rest' hpair hsurrogate ih =>
    rw [quoteBody, if_neg hpair, if_pos hsurrogate, List.append_assoc, parseString_escape, ih]
    rfl
  | case6 u v rest' hpair hsurrogate ih =>
    rw [quoteBody, if_neg hpair, if_neg hsurrogate, List.append_assoc, parseString_quoteUnit, ih]
    rfl

/-! ## Numbers -/

theorem numeralChar_toNat {c : Char} (h : isNumeralChar c = true) :
    (0x30 ≤ c.toNat ∧ c.toNat ≤ 0x39) ∨ c.toNat = 0x2D ∨ c.toNat = 0x2B ∨ c.toNat = 0x2E ∨
      c.toNat = 0x65 ∨ c.toNat = 0x45 := by
  simp only [isNumeralChar, Bool.or_eq_true, beq_iff_eq] at h
  rcases h with ((((h | rfl) | rfl) | rfl) | rfl) | rfl
  · simp only [Char.isDigit, Bool.and_eq_true, decide_eq_true_eq] at h
    exact .inl ⟨h.1, h.2⟩
  · exact .inr (.inl rfl)
  · exact .inr (.inr (.inl rfl))
  · exact .inr (.inr (.inr (.inl rfl)))
  · exact .inr (.inr (.inr (.inr (.inl rfl))))
  · exact .inr (.inr (.inr (.inr (.inr rfl))))

theorem charUnits_numeralChar {c : Char} (h : isNumeralChar c = true) :
    charUnits c = [c.toNat.toUInt16] ∧ isNumeralUnit c.toNat.toUInt16 = true ∧
      c.toNat.toUInt16.toNat = c.toNat := by
  have hnat := numeralChar_toNat h
  have hsmall : c.toNat < 0x10000 := by omega
  have hback : c.toNat.toUInt16.toNat = c.toNat := by
    simp only [Nat.toUInt16, UInt16.toNat_ofNat']
    omega
  refine ⟨by rw [charUnits, if_pos hsmall], ?_, hback⟩
  simp only [isNumeralUnit, Bool.or_eq_true, Bool.and_eq_true, decide_eq_true_eq,
    UInt16.le_iff_toNat_le, ← UInt16.toNat_inj, hback]
  show ((((((48 ≤ c.toNat ∧ c.toNat ≤ 57) ∨ c.toNat = 45) ∨ c.toNat = 43) ∨ c.toNat = 46) ∨
    c.toNat = 101) ∨ c.toNat = 69)
  omega

/-- The text of a numeral, unit by unit. -/
theorem numeral_units {cs : List Char} (h : cs.all isNumeralChar = true) :
    (cs.flatMap charUnits).all isNumeralUnit = true ∧
      (cs.flatMap charUnits).map (fun u => Char.ofNat u.toNat) = cs := by
  induction cs with
  | nil => exact ⟨rfl, rfl⟩
  | cons c cs ih =>
    rw [List.all_cons, Bool.and_eq_true] at h
    obtain ⟨hunits, hnumeral, hback⟩ := charUnits_numeralChar h.1
    obtain ⟨hall, hmap⟩ := ih h.2
    rw [List.flatMap_cons, hunits]
    refine ⟨?_, ?_⟩
    · rw [List.all_append, hall, Bool.and_true]
      simpa using hnumeral
    · rw [List.map_append, hmap, List.map_singleton, hback, Char.ofNat_toNat]
      rfl

/-! ## The canonical text -/

/-- No numeral goes on into the text. -/
def NumeralEnds (rest : JsString) : Prop := ∀ u ∈ rest.head?, isNumeralUnit u = false

theorem takeWhile_numeral {s rest : JsString} (hs : s.all isNumeralUnit = true)
    (hrest : NumeralEnds rest) : (s ++ rest).takeWhile isNumeralUnit = s ∧
      (s ++ rest).dropWhile isNumeralUnit = rest := by
  have hall := List.all_eq_true.mp hs
  cases rest with
  | nil =>
    rw [List.append_nil]
    exact ⟨List.takeWhile_eq_self_iff.mpr hall, List.dropWhile_eq_nil_iff.mpr hall⟩
  | cons u rest =>
    have hu : isNumeralUnit u = false := hrest u rfl
    have hne : ¬isNumeralUnit u = true := by rw [hu]; decide
    rw [List.takeWhile_append_of_pos hall, List.dropWhile_append_of_pos hall,
      List.takeWhile_cons_of_neg hne, List.dropWhile_cons_of_neg hne, List.append_nil]
    exact ⟨rfl, rfl⟩

/-- A canonical text starts with a unit that is no white space and closes no
array. -/
theorem canonicalJson_head (v : Value) :
    ∃ u t, canonicalJson v = u :: t ∧ isSpace u = false ∧ u ≠ 0x5D := by
  cases v with
  | null => exact ⟨_, _, rfl, by decide, by decide⟩
  | bool b => cases b <;> exact ⟨_, _, rfl, by decide, by decide⟩
  | num n =>
    obtain ⟨c, cs, hcs⟩ := List.exists_cons_of_ne_nil n.nonempty
    have hchars := n.chars
    rw [hcs, List.all_cons, Bool.and_eq_true] at hchars
    obtain ⟨hunits, hnumeral, -⟩ := charUnits_numeralChar hchars.1
    refine ⟨c.toNat.toUInt16, cs.flatMap charUnits, ?_, ?_, ?_⟩
    · rw [canonicalJson, hcs, List.flatMap_cons, hunits]
      rfl
    · by_contra hspace
      simp only [isSpace, Bool.not_eq_false, Bool.or_eq_true, decide_eq_true_eq] at hspace
      rcases hspace with ((hspace | hspace) | hspace) | hspace <;> rw [hspace] at hnumeral <;>
        exact absurd hnumeral (by decide)
    · intro hclose
      rw [hclose] at hnumeral
      exact absurd hnumeral (by decide)
  | str s => exact ⟨_, _, rfl, by decide, by decide⟩
  | arr items => exact ⟨_, _, rfl, by decide, by decide⟩
  | obj entries => exact ⟨_, _, rfl, by decide, by decide⟩

theorem skipSpace_canonicalJson (v : Value) (rest : JsString) :
    skipSpace (canonicalJson v ++ rest) = canonicalJson v ++ rest := by
  obtain ⟨u, t, htext, hspace, -⟩ := canonicalJson_head v
  rw [htext, List.cons_append, skipSpace, List.dropWhile_cons_of_neg (by rw [hspace]; decide)]

mutual

/-- No object has a key twice, and the numbers satisfy `number`. -/
def WellFormed (number : JsNumber → Prop) : Value → Prop
  | .num n => number n
  | .arr items => WellFormedItems number items
  | .obj entries => (entries.map Prod.fst).Nodup ∧ WellFormedEntries number entries
  | .null => True
  | .bool _ => True
  | .str _ => True

def WellFormedItems (number : JsNumber → Prop) : List Value → Prop
  | [] => True
  | v :: rest => WellFormed number v ∧ WellFormedItems number rest

def WellFormedEntries (number : JsNumber → Prop) : List (JsString × Value) → Prop
  | [] => True
  | (_, v) :: rest => WellFormed number v ∧ WellFormedEntries number rest

end

section RoundTrip

variable (readNumber : List Char → Option JsNumber)

/-- The canonical text of the value reads back, whatever follows it. -/
def ReadsBack (v : Value) : Prop :=
  ∀ fuel rest, (canonicalJson v).length < fuel → NumeralEnds rest →
    parseValue readNumber fuel (canonicalJson v ++ rest) = some (normalize v, rest)

theorem canonicalItems_eq_map (items : List Value) :
    canonicalItems items = items.map canonicalJson := by
  induction items with
  | nil => rfl
  | cons v rest ih => simp [canonicalItems, ih]

theorem normalizeItems_eq_map (items : List Value) :
    normalizeItems items = items.map normalize := by
  induction items with
  | nil => rfl
  | cons v rest ih => simp [normalizeItems, ih]

theorem normalizeEntries_eq_map (entries : List (JsString × Value)) :
    normalizeEntries entries = entries.map fun e => (e.1, normalize e.2) := by
  induction entries with
  | nil => rfl
  | cons e rest ih => simp [normalizeEntries, ih]

theorem joinComma_cons (t : JsString) {ts : List JsString} (h : ts ≠ []) :
    joinComma (t :: ts) = t ++ 0x2C :: joinComma ts := by
  obtain ⟨u, us, rfl⟩ := List.exists_cons_of_ne_nil h
  have hcomma : js "," = [0x2C] := by decide
  rw [joinComma, hcomma, List.append_assoc]
  rfl

theorem numeralEnds_cons {u : UInt16} (h : isNumeralUnit u = false) (rest : JsString) :
    NumeralEnds (u :: rest) := by
  intro v hv
  obtain rfl : u = v := by simpa using hv
  exact h

/-- The items of an array read back, one after the other. -/
theorem parseItems_canonical {items : List Value} (hne : items ≠ [])
    (hitems : ∀ v ∈ items, ReadsBack readNumber v) {fuel : Nat}
    (hfuel : (joinComma (items.map canonicalJson)).length + 1 < fuel) (rest : JsString) :
    parseItems readNumber fuel (joinComma (items.map canonicalJson) ++ 0x5D :: rest) =
      some (items.map normalize, rest) := by
  induction items generalizing fuel with
  | nil => exact absurd rfl hne
  | cons v items ih =>
    obtain ⟨fuel, rfl⟩ : ∃ f, fuel = f + 1 := ⟨fuel - 1, by omega⟩
    have hv := hitems v (List.mem_cons_self ..)
    by_cases hlast : items = []
    · subst hlast
      simp only [List.map_cons, List.map_nil, joinComma] at hfuel ⊢
      have hread := hv fuel (0x5D :: rest) (by omega) (numeralEnds_cons (by decide) rest)
      rw [parseItems, hread]
      rfl
    · have htexts : items.map canonicalJson ≠ [] := by simpa using hlast
      rw [List.map_cons, joinComma_cons _ htexts] at hfuel ⊢
      simp only [List.length_append, List.length_cons] at hfuel
      have hread := hv fuel (0x2C :: (joinComma (items.map canonicalJson) ++ 0x5D :: rest))
        (by omega) (numeralEnds_cons (by decide) _)
      have hrest : (joinComma (items.map canonicalJson)).length + 1 < fuel := by omega
      have hitems' := ih hlast (fun w hw => hitems w (List.mem_cons_of_mem _ hw)) hrest
      rw [List.append_assoc, List.cons_append, parseItems, hread]
      simp only [Option.bind_eq_bind, Option.bind_some]
      show (parseItems readNumber fuel _).bind _ = _
      rw [hitems']
      rfl

/-- The text of a property. -/
def entryText (e : JsString × Value) : JsString := quote e.1 ++ js ":" ++ canonicalJson e.2

theorem parseEntries_canonical {entries : List (JsString × Value)} (hne : entries ≠ [])
    (hentries : ∀ e ∈ entries, ReadsBack readNumber e.2) {fuel : Nat}
    (hfuel : (joinComma (entries.map entryText)).length + 1 < fuel) (rest : JsString) :
    parseEntries readNumber fuel (joinComma (entries.map entryText) ++ 0x7D :: rest) =
      some (entries.map fun e => (e.1, normalize e.2), rest) := by
  have htext : ∀ (e : JsString × Value) (tail : JsString), entryText e ++ tail =
      0x22 :: (quoteBody e.1 ++ 0x22 :: 0x3A :: (canonicalJson e.2 ++ tail)) := by
    intro e tail
    have hq : js "\"" = [0x22] := by decide
    have hc : js ":" = [0x3A] := by decide
    simp [entryText, quote, hq, hc]
  have hlength : ∀ e : JsString × Value, (canonicalJson e.2).length + 2 ≤ (entryText e).length := by
    intro e
    have h := congrArg List.length (htext e [])
    simp only [List.append_nil, List.length_cons, List.length_append] at h
    omega
  induction entries generalizing fuel with
  | nil => exact absurd rfl hne
  | cons e entries ih =>
    obtain ⟨fuel, rfl⟩ : ∃ f, fuel = f + 1 := ⟨fuel - 1, by omega⟩
    have he := hentries e (List.mem_cons_self ..)
    have hle := hlength e
    by_cases hlast : entries = []
    · subst hlast
      simp only [List.map_cons, List.map_nil, joinComma] at hfuel ⊢
      have hread := he fuel (0x7D :: rest) (by omega) (numeralEnds_cons (by decide) rest)
      rw [htext, parseEntries]
      show ((parseString (quoteBody e.1 ++ 0x22 :: 0x3A :: _)).bind _) = _
      rw [parseString_quoteBody]
      show ((parseValue readNumber fuel (canonicalJson e.2 ++ 0x7D :: rest)).bind _) = _
      rw [hread]
      rfl
    · have htexts : entries.map entryText ≠ [] := by simpa using hlast
      rw [List.map_cons, joinComma_cons _ htexts] at hfuel ⊢
      simp only [List.length_append, List.length_cons] at hfuel
      have hread := he fuel (0x2C :: (joinComma (entries.map entryText) ++ 0x7D :: rest))
        (by omega) (numeralEnds_cons (by decide) _)
      have hrest : (joinComma (entries.map entryText)).length + 1 < fuel := by omega
      have hentries' := ih hlast (fun w hw => hentries w (List.mem_cons_of_mem _ hw)) hrest
      rw [List.append_assoc, List.cons_append, htext, parseEntries]
      show ((parseString (quoteBody e.1 ++ 0x22 :: 0x3A :: _)).bind _) = _
      rw [parseString_quoteBody]
      show ((parseValue readNumber fuel (canonicalJson e.2 ++ 0x2C :: _)).bind _) = _
      rw [hread]
      show ((parseEntries readNumber fuel _).bind _) = _
      rw [hentries']
      rfl

/-- Properties with distinct keys are all kept. -/
theorem ownProperties_eq {entries : List (JsString × Value)}
    (h : (entries.map Prod.fst).Nodup) : ownProperties entries = entries := by
  have hfold : ∀ done todo : List (JsString × Value), ((done ++ todo).map Prod.fst).Nodup →
      todo.foldl setProperty done = done ++ todo := by
    intro done todo
    induction todo generalizing done with
    | nil => simp
    | cons e todo ih =>
      intro hnodup
      have hnew : done.any (fun f => f.1 = e.1) = false := by
        rw [List.any_eq_false]
        intro f hf heq
        rw [List.map_append, List.nodup_append] at hnodup
        exact hnodup.2.2 f.1 (List.mem_map_of_mem hf) e.1
          (List.mem_map_of_mem (List.mem_cons_self ..)) (by simpa using heq)
      have hassoc : done ++ e :: todo = done ++ [e] ++ todo := by simp
      rw [List.foldl_cons, setProperty, hnew, if_neg (by decide), ih, hassoc]
      rwa [← hassoc]
  exact hfold [] entries h

theorem readsBack_num {n : JsNumber} (hread : readNumber n.numeral = some n) :
    ReadsBack readNumber (.num n) := by
  intro fuel rest hfuel hrest
  obtain ⟨fuel, rfl⟩ : ∃ f, fuel = f + 1 := ⟨fuel - 1, by omega⟩
  obtain ⟨hunits, hmap⟩ := numeral_units n.chars
  obtain ⟨htake, hdrop⟩ := takeWhile_numeral hunits hrest
  obtain ⟨u, t, htext, -, -⟩ := canonicalJson_head (.num n)
  have hhead : isNumeralUnit u = true := by
    rw [canonicalJson] at htext
    rw [htext, List.all_cons, Bool.and_eq_true] at hunits
    exact hunits.1
  have hskip := skipSpace_canonicalJson (.num n) rest
  rw [canonicalJson] at htext hskip ⊢
  rw [parseValue.eq_def]
  simp only [hskip]
  rw [← htake] at hmap
  rw [htext, List.cons_append] at htake hdrop hmap ⊢
  split
  case h_1 heq => exact absurd heq (by simp)
  case h_8 heq =>
    rw [← heq, hmap, hread, hdrop]
    rfl
  all_goals
    rename_i heq
    obtain ⟨rfl, -⟩ := List.cons.inj heq
    exact absurd hhead (by decide)

theorem readsBack_arr {items : List Value} (hitems : ∀ v ∈ items, ReadsBack readNumber v) :
    ReadsBack readNumber (.arr items) := by
  intro fuel rest hfuel _
  obtain ⟨fuel, rfl⟩ : ∃ f, fuel = f + 1 := ⟨fuel - 1, by omega⟩
  have hopen : js "[" = [0x5B] := by decide
  have hclose : js "]" = [0x5D] := by decide
  have htext : canonicalJson (.arr items) ++ rest =
      0x5B :: (joinComma (items.map canonicalJson) ++ 0x5D :: rest) := by
    rw [canonicalJson, canonicalItems_eq_map, hopen, hclose]
    simp
  have hlength : (joinComma (items.map canonicalJson)).length + 2 =
      (canonicalJson (.arr items)).length := by
    rw [canonicalJson, canonicalItems_eq_map, hopen, hclose]
    simp
  have hskip := skipSpace_canonicalJson (.arr items) rest
  rw [htext] at hskip ⊢
  rw [normalize, normalizeItems_eq_map, parseValue.eq_def]
  simp only [hskip]
  cases items with
  | nil => rfl
  | cons v items =>
    -- the first item neither starts with white space nor closes the array
    have hroom : (joinComma ((v :: items).map canonicalJson)).length + 1 < fuel := by omega
    have hread := parseItems_canonical readNumber (List.cons_ne_nil v items) hitems hroom rest
    obtain ⟨u, t, hu, hspace, hne⟩ := canonicalJson_head v
    obtain ⟨t', ht'⟩ : ∃ t', joinComma ((v :: items).map canonicalJson) = u :: t' := by
      cases items with
      | nil => exact ⟨t, hu⟩
      | cons w items =>
        rw [List.map_cons, joinComma_cons _ (by simp), hu]
        exact ⟨_, rfl⟩
    rw [ht'] at hread ⊢
    have hskip' : skipSpace (u :: t' ++ 0x5D :: rest) = u :: t' ++ 0x5D :: rest := by
      rw [List.cons_append, skipSpace, List.dropWhile_cons_of_neg (by rw [hspace]; decide)]
    rw [hskip']
    split
    · rename_i heq
      exact absurd (List.cons.inj heq).1 hne
    · rw [hread]
      rfl

theorem readsBack_obj {entries : List (JsString × Value)}
    (hnodup : (entries.map Prod.fst).Nodup)
    (hentries : ∀ e ∈ entries, ReadsBack readNumber e.2) :
    ReadsBack readNumber (.obj entries) := by
  intro fuel rest hfuel _
  obtain ⟨fuel, rfl⟩ : ∃ f, fuel = f + 1 := ⟨fuel - 1, by omega⟩
  have hopen : js "\x7b" = [0x7B] := by decide
  have hclose : js "\x7d" = [0x7D] := by decide
  -- the text shows the properties in key order
  have hsorted : ((canonicalEntries entries).insertionSort leKey).map Prod.snd =
      (entries.insertionSort leKey).map entryText := by
    have hsort := List.map_insertionSort leKey leKey
      (fun e : JsString × Value => (e.1, entryText e)) entries fun _ _ _ _ => Iff.rfl
    have hsnd := congrArg (List.map Prod.snd) hsort
    rw [List.map_map] at hsnd
    rw [canonicalEntries_eq_map]
    exact hsnd.symm
  have hnormal : (normalizeEntries entries).insertionSort leKey =
      (entries.insertionSort leKey).map fun e => (e.1, normalize e.2) := by
    rw [normalizeEntries_eq_map]
    exact (List.map_insertionSort leKey leKey
      (fun e : JsString × Value => (e.1, normalize e.2)) entries fun _ _ _ _ => Iff.rfl).symm
  have hperm := List.perm_insertionSort leKey entries
  have hnodup' : ((entries.insertionSort leKey).map Prod.fst).Nodup :=
    (hperm.map Prod.fst).nodup_iff.mpr hnodup
  have hreads : ∀ e ∈ entries.insertionSort leKey, ReadsBack readNumber e.2 :=
    fun e he => hentries e (hperm.mem_iff.mp he)
  have htext : canonicalJson (.obj entries) ++ rest =
      0x7B :: (joinComma ((entries.insertionSort leKey).map entryText) ++ 0x7D :: rest) := by
    rw [canonicalJson, hsorted, hopen, hclose]
    simp
  have hlength : (joinComma ((entries.insertionSort leKey).map entryText)).length + 2 =
      (canonicalJson (.obj entries)).length := by
    rw [canonicalJson, hsorted, hopen, hclose]
    simp
  have hskip := skipSpace_canonicalJson (.obj entries) rest
  rw [htext] at hskip ⊢
  rw [normalize, hnormal, parseValue.eq_def]
  simp only [hskip]
  generalize entries.insertionSort leKey = sorted at *
  cases sorted with
  | nil => rfl
  | cons e sorted =>
    have hroom : (joinComma ((e :: sorted).map entryText)).length + 1 < fuel := by omega
    have hread := parseEntries_canonical readNumber (List.cons_ne_nil e sorted) hreads hroom rest
    have hquote : js "\"" = [0x22] := by decide
    obtain ⟨t, ht⟩ : ∃ t, joinComma ((e :: sorted).map entryText) = 0x22 :: t := by
      cases sorted with
      | nil => exact ⟨_, rfl⟩
      | cons f sorted =>
        rw [List.map_cons, joinComma_cons _ (by simp), entryText, quote, hquote]
        exact ⟨_, rfl⟩
    rw [ht] at hread ⊢
    have hown : ownProperties ((e :: sorted).map fun e => (e.1, normalize e.2)) =
        (e :: sorted).map fun e => (e.1, normalize e.2) :=
      ownProperties_eq (by simpa [List.map_map, Function.comp_def] using hnodup')
    have hskip' : skipSpace (0x22 :: t ++ 0x7D :: rest) = 0x22 :: t ++ 0x7D :: rest := rfl
    rw [hskip']
    split
    · rename_i heq
      exact absurd (List.cons.inj heq).1 (by decide)
    · rw [hread]
      simp only [Option.map_some, hown]

theorem readsBack_str (s : JsString) : ReadsBack readNumber (.str s) := by
  intro fuel rest hfuel _
  obtain ⟨fuel, rfl⟩ : ∃ f, fuel = f + 1 := ⟨fuel - 1, by omega⟩
  have hquote : js "\"" = [0x22] := by decide
  have htext : canonicalJson (.str s) ++ rest = 0x22 :: (quoteBody s ++ 0x22 :: rest) := by
    rw [canonicalJson, quote, hquote]
    simp
  rw [htext, parseValue.eq_def]
  show ((parseString (quoteBody s ++ 0x22 :: rest)).map _) = _
  rw [parseString_quoteBody]
  rfl

variable {number : JsNumber → Prop}

mutual

theorem readsBack (hread : ∀ n, number n → readNumber n.numeral = some n) :
    ∀ v : Value, WellFormed number v → ReadsBack readNumber v
  | .null, _ => by
    intro fuel rest hfuel _
    obtain ⟨fuel, rfl⟩ : ∃ f, fuel = f + 1 := ⟨fuel - 1, by omega⟩
    rfl
  | .bool b, _ => by
    intro fuel rest hfuel _
    obtain ⟨fuel, rfl⟩ : ∃ f, fuel = f + 1 := ⟨fuel - 1, by omega⟩
    cases b <;> rfl
  | .str s, _ => readsBack_str readNumber s
  | .num n, h => readsBack_num readNumber (hread n (by rwa [WellFormed] at h))
  | .arr items, h => readsBack_arr readNumber (readsBack_items hread items (by
      rwa [WellFormed] at h))
  | .obj entries, h => by
    rw [WellFormed] at h
    exact readsBack_obj readNumber h.1 (readsBack_entries hread entries h.2)

theorem readsBack_items (hread : ∀ n, number n → readNumber n.numeral = some n) :
    ∀ items : List Value, WellFormedItems number items →
      ∀ v ∈ items, ReadsBack readNumber v
  | [], _ => fun _ hv => absurd hv List.not_mem_nil
  | v :: rest, h => by
    rw [WellFormedItems] at h
    have hv := readsBack hread v h.1
    have hrest := readsBack_items hread rest h.2
    exact List.forall_mem_cons.mpr ⟨hv, hrest⟩

theorem readsBack_entries (hread : ∀ n, number n → readNumber n.numeral = some n) :
    ∀ entries : List (JsString × Value), WellFormedEntries number entries →
      ∀ e ∈ entries, ReadsBack readNumber e.2
  | [], _ => fun _ he => absurd he List.not_mem_nil
  | (k, v) :: rest, h => by
    rw [WellFormedEntries] at h
    have hv := readsBack hread v h.1
    have hrest := readsBack_entries hread rest h.2
    exact List.forall_mem_cons.mpr ⟨hv, hrest⟩

end

/-- The canonical text of a value reads back as the value with the properties of
every object in key order. -/
theorem parse_canonicalJson (hread : ∀ n, number n → readNumber n.numeral = some n) {v : Value}
    (hv : WellFormed number v) : parse readNumber (canonicalJson v) = some (normalize v) := by
  have h := readsBack readNumber hread v hv ((canonicalJson v).length + 1) []
    (Nat.lt_succ_self _) (fun _ hu => absurd hu (by simp))
  rw [List.append_nil] at h
  rw [parse, h]
  rfl

end RoundTrip

end Json
