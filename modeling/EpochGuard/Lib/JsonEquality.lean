import EpochGuard.Lib.Double
import EpochGuard.Lib.JsonParse
import Mathlib.Data.List.Perm.Subperm

/-!
# Equality of JSON values

Two values are the same when they differ in the order of object keys alone, their
numbers being compared as numbers. The canonical text decides it, whatever
conforming function writes the numbers, and reading the canonical text gives the
same value back.
-/

namespace Json

/-! ## The canonical text and the normal form -/

/-- Takes a numeral as it stands. -/
def readNumeral (cs : List Char) : Option JsNumber :=
  if h : cs ≠ [] ∧ cs.all isNumeralChar = true then some ⟨cs, h.1, h.2⟩ else none

theorem readNumeral_numeral (n : JsNumber) : readNumeral n.numeral = some n := by
  rw [readNumeral, dif_pos ⟨n.nonempty, n.chars⟩]

theorem canonicalJson_eq_iff_normalize {number : JsNumber → Prop} {v w : Value}
    (hv : WellFormed number v) (hw : WellFormed number w) :
    canonicalJson v = canonicalJson w ↔ normalize v = normalize w := by
  constructor
  · intro h
    have hread := parse_canonicalJson readNumeral (fun n _ => readNumeral_numeral n) hv
    rw [h, parse_canonicalJson readNumeral (fun n _ => readNumeral_numeral n) hw] at hread
    exact (Option.some.inj hread).symm
  · intro h
    rw [← canonicalJson_normalize v, h, canonicalJson_normalize]

theorem leUnits_antisymm {a b : JsString} (hab : leUnits a b = true) (hba : leUnits b a = true) :
    a = b := by
  induction a generalizing b with
  | nil =>
    cases b with
    | nil => rfl
    | cons y bs => simp [leUnits] at hba
  | cons x as ih =>
    cases b with
    | nil => simp [leUnits] at hab
    | cons y bs =>
      simp only [leUnits, Bool.or_eq_true, decide_eq_true_eq, Bool.and_eq_true, beq_iff_eq]
        at hab hba
      rcases hab with hlt | ⟨rfl, hab⟩
      · rcases hba with hlt' | ⟨rfl, -⟩
        · exact absurd (UInt16.lt_trans hlt hlt') (UInt16.lt_irrefl _)
        · exact absurd hlt (UInt16.lt_irrefl _)
      · rcases hba with hlt | ⟨-, hba⟩
        · exact absurd hlt (UInt16.lt_irrefl _)
        · rw [ih hab hba]

/-- Properties with distinct keys have one order by key. -/
theorem insertionSort_eq_of_perm {α : Type} {es fs : List (JsString × α)}
    (hperm : es.Perm fs) (hnodup : (es.map Prod.fst).Nodup) :
    es.insertionSort leKey = fs.insertionSort leKey := by
  have hes := List.perm_insertionSort leKey es
  have hfs := List.perm_insertionSort leKey fs
  refine List.Perm.eq_of_pairwise ?_ (List.pairwise_insertionSort leKey es)
    (List.pairwise_insertionSort leKey fs) ((hes.trans hperm).trans hfs.symm)
  intro e f he hf hef hfe
  have hkey : e.1 = f.1 := leUnits_antisymm hef hfe
  exact List.inj_on_of_nodup_map hnodup (hes.mem_iff.mp he)
    (hperm.mem_iff.mpr (hfs.mem_iff.mp hf)) hkey

/-! ## Values in memory -/

/-- A JSON value whose numbers are doubles. -/
inductive Tree where
  | null
  | bool (b : Bool)
  | num (x : Double)
  | str (s : JsString)
  | arr (items : List Tree)
  | obj (entries : List (JsString × Tree))

namespace Tree

mutual

/-- No object has a key twice. -/
def DistinctKeys : Tree → Prop
  | .arr items => DistinctKeysItems items
  | .obj entries => (entries.map Prod.fst).Nodup ∧ DistinctKeysEntries entries
  | .null => True
  | .bool _ => True
  | .num _ => True
  | .str _ => True

def DistinctKeysItems : List Tree → Prop
  | [] => True
  | a :: rest => DistinctKeys a ∧ DistinctKeysItems rest

def DistinctKeysEntries : List (JsString × Tree) → Prop
  | [] => True
  | (_, a) :: rest => DistinctKeys a ∧ DistinctKeysEntries rest

end

mutual

/-- Equal up to the order of object keys, with numbers compared by their value,
so that the two zeros are the same. -/
def Same : Tree → Tree → Prop
  | .null, b => b = .null
  | .bool c, b => b = .bool c
  | .num x, b => ∃ y, b = .num y ∧ x.value = y.value
  | .str s, b => b = .str s
  | .arr items, b => ∃ others, b = .arr others ∧ SameItems items others
  | .obj entries, b =>
      ∃ others, b = .obj others ∧ entries.length = others.length ∧ SameEntries entries others

def SameItems : List Tree → List Tree → Prop
  | [], bs => bs = []
  | a :: rest, bs => ∃ b bs', bs = b :: bs' ∧ Same a b ∧ SameItems rest bs'

/-- Every property is one of the other object's. -/
def SameEntries : List (JsString × Tree) → List (JsString × Tree) → Prop
  | [], _ => True
  | (k, a) :: rest, others => (∃ b, (k, b) ∈ others ∧ Same a b) ∧ SameEntries rest others

end

mutual

/-- The value with its numbers as a text would have them. -/
def written (toText : Double → JsNumber) : Tree → Value
  | .null => .null
  | .bool b => .bool b
  | .num x => .num (toText x)
  | .str s => .str s
  | .arr items => .arr (writtenItems toText items)
  | .obj entries => .obj (writtenEntries toText entries)

def writtenItems (toText : Double → JsNumber) : List Tree → List Value
  | [] => []
  | a :: rest => written toText a :: writtenItems toText rest

def writtenEntries (toText : Double → JsNumber) :
    List (JsString × Tree) → List (JsString × Value)
  | [] => []
  | (k, a) :: rest => (k, written toText a) :: writtenEntries toText rest

end

mutual

/-- Reads the numerals of a text's value. -/
def read : Value → Option Tree
  | .null => some .null
  | .bool b => some (.bool b)
  | .num n => (readDouble n.numeral).map .num
  | .str s => some (.str s)
  | .arr items => (readItems items).map .arr
  | .obj entries => (readEntries entries).map .obj

def readItems : List Value → Option (List Tree)
  | [] => some []
  | v :: rest => (read v).bind fun a => (readItems rest).map fun as => a :: as

def readEntries : List (JsString × Value) → Option (List (JsString × Tree))
  | [] => some []
  | (k, v) :: rest => (read v).bind fun a => (readEntries rest).map fun as => (k, a) :: as

end

/-- `JSON.parse`: nothing for a text that it refuses, and for one with a number
that is out of range. -/
def jsonParse (s : JsString) : Option Tree := (parse readNumeral s).bind read

variable {toText : Double → JsNumber}

theorem writtenEntries_eq_map (entries : List (JsString × Tree)) :
    writtenEntries toText entries = entries.map fun e => (e.1, written toText e.2) := by
  induction entries with
  | nil => rfl
  | cons e rest ih => simp [writtenEntries, ih]

/-- The normal form of an object's properties, one by one. -/
theorem normalizeEntries_written (entries : List (JsString × Tree)) :
    normalizeEntries (writtenEntries toText entries) =
      entries.map fun e => (e.1, normalize (written toText e.2)) := by
  rw [normalizeEntries_eq_map, writtenEntries_eq_map, List.map_map]
  rfl

mutual

theorem wellFormed_written : ∀ {a : Tree}, a.DistinctKeys →
    WellFormed (fun _ => True) (a.written toText)
  | .null, _ | .bool _, _ | .num _, _ | .str _, _ => by simp [written, WellFormed]
  | .arr items, h => by
    rw [DistinctKeys] at h
    rw [written, WellFormed]
    exact wellFormed_writtenItems h
  | .obj entries, h => by
    rw [DistinctKeys] at h
    rw [written, WellFormed]
    refine ⟨?_, wellFormed_writtenEntries h.2⟩
    rw [writtenEntries_eq_map, List.map_map]
    exact h.1

theorem wellFormed_writtenItems : ∀ {items : List Tree}, DistinctKeysItems items →
    WellFormedItems (fun _ => True) (writtenItems toText items)
  | [], _ => trivial
  | a :: rest, h => by
    rw [DistinctKeysItems] at h
    have ha := wellFormed_written h.1
    have hrest := wellFormed_writtenItems h.2
    exact ⟨ha, hrest⟩

theorem wellFormed_writtenEntries : ∀ {entries : List (JsString × Tree)},
    DistinctKeysEntries entries →
    WellFormedEntries (fun _ => True) (writtenEntries toText entries)
  | [], _ => trivial
  | (k, a) :: rest, h => by
    rw [DistinctKeysEntries] at h
    have ha := wellFormed_written h.1
    have hrest := wellFormed_writtenEntries h.2
    exact ⟨ha, hrest⟩

end

mutual

/-- The same values have the same normal form. -/
theorem normalize_eq_of_same (htext : NumberToString toText) : ∀ {a b : Tree}, a.DistinctKeys →
    a.Same b → normalize (a.written toText) = normalize (b.written toText)
  | .null, b, _, h => by
    rw [Same] at h
    rw [h]
  | .bool _, b, _, h => by
    rw [Same] at h
    rw [h]
  | .str _, b, _, h => by
    rw [Same] at h
    rw [h]
  | .num x, b, _, h => by
    rw [Same] at h
    obtain ⟨y, rfl, hvalue⟩ := h
    rw [written, written, htext.toText_eq_iff.mpr hvalue]
  | .arr items, b, hkeys, h => by
    rw [Same] at h
    obtain ⟨others, rfl, hsame⟩ := h
    rw [DistinctKeys] at hkeys
    rw [written, written, normalize, normalize, normalizeItems_eq_of_same htext hkeys hsame]
  | .obj entries, b, hkeys, h => by
    rw [Same] at h
    obtain ⟨others, rfl, hlength, hsame⟩ := h
    rw [DistinctKeys] at hkeys
    have hsub := normalizeEntries_subset_of_same htext hkeys.2 hsame
    rw [written, written, normalize, normalize]
    have hnodup : ((normalizeEntries (writtenEntries toText entries)).map Prod.fst).Nodup := by
      rw [normalizeEntries_written, List.map_map]
      exact hkeys.1
    refine congrArg Value.obj (insertionSort_eq_of_perm ?_ hnodup)
    refine (List.Nodup.subperm hnodup.of_map hsub).perm_of_length_le ?_
    rw [normalizeEntries_written, normalizeEntries_written, List.length_map, List.length_map]
    exact hlength.ge

theorem normalizeItems_eq_of_same (htext : NumberToString toText) : ∀ {as bs : List Tree},
    DistinctKeysItems as → SameItems as bs →
    normalizeItems (writtenItems toText as) = normalizeItems (writtenItems toText bs)
  | [], bs, _, h => by
    rw [SameItems] at h
    rw [h]
  | a :: as, bs, hkeys, h => by
    rw [SameItems] at h
    obtain ⟨b, bs, rfl, hsame, hrest⟩ := h
    rw [DistinctKeysItems] at hkeys
    rw [writtenItems, writtenItems, normalizeItems, normalizeItems,
      normalize_eq_of_same htext hkeys.1 hsame, normalizeItems_eq_of_same htext hkeys.2 hrest]

theorem normalizeEntries_subset_of_same (htext : NumberToString toText) :
    ∀ {es fs : List (JsString × Tree)}, DistinctKeysEntries es → SameEntries es fs →
      normalizeEntries (writtenEntries toText es) ⊆ normalizeEntries (writtenEntries toText fs)
  | [], _, _, _ => by
    rw [writtenEntries, normalizeEntries]
    exact List.nil_subset _
  | (k, a) :: es, fs, hkeys, h => by
    rw [SameEntries] at h
    obtain ⟨⟨b, hmem, hsame⟩, hrest⟩ := h
    rw [DistinctKeysEntries] at hkeys
    rw [writtenEntries, normalizeEntries, List.cons_subset]
    refine ⟨?_, normalizeEntries_subset_of_same htext hkeys.2 hrest⟩
    rw [normalize_eq_of_same htext hkeys.1 hsame, normalizeEntries_written]
    exact List.mem_map_of_mem
      (f := fun e : JsString × Tree => (e.1, normalize (e.2.written toText))) hmem

end

mutual

/-- Values with one normal form are the same. -/
theorem same_of_normalize_eq (htext : NumberToString toText) : ∀ {a b : Tree},
    normalize (a.written toText) = normalize (b.written toText) → a.Same b
  | .null, b, h => by cases b <;> simp_all [written, normalize, Same]
  | .bool _, b, h => by cases b <;> simp_all [written, normalize, Same]
  | .str _, b, h => by cases b <;> simp_all [written, normalize, Same]
  | .num x, b, h => by
    cases b <;> simp only [written, normalize, reduceCtorEq, Value.num.injEq] at h
    rename_i y
    exact ⟨y, rfl, htext.toText_eq_iff.mp h⟩
  | .arr items, b, h => by
    cases b <;> simp only [written, normalize, reduceCtorEq, Value.arr.injEq] at h
    exact ⟨_, rfl, sameItems_of_normalize_eq htext h⟩
  | .obj entries, b, h => by
    cases b <;> simp only [written, normalize, reduceCtorEq, Value.obj.injEq] at h
    rename_i others
    have hperm : (normalizeEntries (writtenEntries toText entries)).Perm
        (normalizeEntries (writtenEntries toText others)) :=
      (List.perm_insertionSort leKey _).symm.trans (h ▸ List.perm_insertionSort leKey _)
    refine ⟨others, rfl, ?_, sameEntries_of_normalize_subset htext hperm.subset⟩
    have hlength := hperm.length_eq
    rwa [normalizeEntries_written, normalizeEntries_written, List.length_map,
      List.length_map] at hlength

theorem sameItems_of_normalize_eq (htext : NumberToString toText) : ∀ {as bs : List Tree},
    normalizeItems (writtenItems toText as) = normalizeItems (writtenItems toText bs) →
      SameItems as bs
  | [], bs, h => by
    cases bs with
    | nil => simp [SameItems]
    | cons b bs => simp [writtenItems, normalizeItems] at h
  | a :: as, bs, h => by
    cases bs with
    | nil => simp [writtenItems, normalizeItems] at h
    | cons b bs =>
      rw [writtenItems, writtenItems, normalizeItems, normalizeItems, List.cons.injEq] at h
      exact ⟨b, bs, rfl, same_of_normalize_eq htext h.1, sameItems_of_normalize_eq htext h.2⟩

theorem sameEntries_of_normalize_subset (htext : NumberToString toText) :
    ∀ {es fs : List (JsString × Tree)},
    normalizeEntries (writtenEntries toText es) ⊆ normalizeEntries (writtenEntries toText fs) →
      SameEntries es fs
  | [], _, _ => by simp [SameEntries]
  | (k, a) :: es, fs, h => by
    rw [writtenEntries, normalizeEntries, List.cons_subset] at h
    have hmem := h.1
    rw [normalizeEntries_written, List.mem_map] at hmem
    obtain ⟨⟨l, b⟩, hb, heq⟩ := hmem
    rw [Prod.mk.injEq] at heq
    obtain ⟨rfl, hnormal⟩ := heq
    exact ⟨⟨b, hb, same_of_normalize_eq htext hnormal.symm⟩,
      sameEntries_of_normalize_subset htext h.2⟩

end

/-! ## Reading the canonical text -/

/-- Properties that read back one by one read back together. -/
theorem readEntries_map {es : List (JsString × Tree)} {text : Tree → Value}
    (h : ∀ e ∈ es, ∃ b, read (text e.2) = some b ∧ e.2.Same b) :
    ∃ bs, readEntries (es.map fun e => (e.1, text e.2)) = some bs ∧ bs.length = es.length ∧
      ∀ e ∈ es, ∃ b, (e.1, b) ∈ bs ∧ e.2.Same b := by
  induction es with
  | nil => exact ⟨[], rfl, rfl, by simp⟩
  | cons e es ih =>
    rw [List.forall_mem_cons] at h
    obtain ⟨b, hread, hsame⟩ := h.1
    obtain ⟨bs, hreads, hlength, hall⟩ := ih h.2
    refine ⟨(e.1, b) :: bs, ?_, by simp [hlength], ?_⟩
    · simp [readEntries, hread, hreads]
    · rw [List.forall_mem_cons]
      refine ⟨⟨b, List.mem_cons_self, hsame⟩, fun f hf => ?_⟩
      obtain ⟨c, hc, hsame⟩ := hall f hf
      exact ⟨c, List.mem_cons_of_mem _ hc, hsame⟩

theorem sameEntries_of_forall {es fs : List (JsString × Tree)}
    (h : ∀ e ∈ es, ∃ b, (e.1, b) ∈ fs ∧ e.2.Same b) : SameEntries es fs := by
  induction es with
  | nil => simp [SameEntries]
  | cons e es ih =>
    rw [List.forall_mem_cons] at h
    exact ⟨h.1, ih h.2⟩

mutual

/-- The normal form of a value is read as the same value. -/
theorem read_normalize (htext : NumberToString toText) : ∀ a : Tree,
    ∃ b, read (normalize (a.written toText)) = some b ∧ a.Same b
  | .null => ⟨.null, rfl, rfl⟩
  | .bool c => ⟨.bool c, rfl, rfl⟩
  | .str s => ⟨.str s, rfl, rfl⟩
  | .num x => by
    obtain ⟨y, hread, hvalue⟩ := htext.readDouble_toText x
    exact ⟨.num y, by simp [written, normalize, read, hread], y, rfl, hvalue⟩
  | .arr items => by
    obtain ⟨bs, hread, hsame⟩ := readItems_normalize htext items
    exact ⟨.arr bs, by simp [written, normalize, read, hread], bs, rfl, hsame⟩
  | .obj entries => by
    have hsorted : (entries.map fun e : JsString × Tree =>
          (e.1, normalize (e.2.written toText))).insertionSort leKey =
        (entries.insertionSort leKey).map fun e => (e.1, normalize (e.2.written toText)) :=
      (List.map_insertionSort leKey leKey
        (fun e : JsString × Tree => (e.1, normalize (e.2.written toText))) entries
        fun _ _ _ _ => Iff.rfl).symm
    have hall := read_normalizeEntries htext entries
    obtain ⟨bs, hread, hlength, hsame⟩ := @readEntries_map (entries.insertionSort leKey)
      (fun a => normalize (a.written toText))
      fun e he => hall e ((List.mem_insertionSort leKey).mp he)
    refine ⟨.obj bs, ?_, bs, rfl, ?_, sameEntries_of_forall fun e he => ?_⟩
    · rw [written, normalize, normalizeEntries_written, hsorted, read, hread]
      rfl
    · rw [hlength, List.length_insertionSort]
    · exact hsame e ((List.mem_insertionSort leKey).mpr he)

theorem readItems_normalize (htext : NumberToString toText) : ∀ items : List Tree,
    ∃ bs, readItems (normalizeItems (writtenItems toText items)) = some bs ∧ SameItems items bs
  | [] => ⟨[], rfl, rfl⟩
  | a :: rest => by
    obtain ⟨b, hread, hsame⟩ := read_normalize htext a
    obtain ⟨bs, hreads, hsames⟩ := readItems_normalize htext rest
    exact ⟨b :: bs, by simp [writtenItems, normalizeItems, readItems, hread, hreads],
      b, bs, rfl, hsame, hsames⟩

theorem read_normalizeEntries (htext : NumberToString toText) :
    ∀ entries : List (JsString × Tree), ∀ e ∈ entries,
      ∃ b, read (normalize (e.2.written toText)) = some b ∧ e.2.Same b
  | [], _, he => absurd he List.not_mem_nil
  | (k, a) :: rest, e, he => by
    rcases List.mem_cons.mp he with rfl | he
    · exact read_normalize htext a
    · exact read_normalizeEntries htext rest e he

end

/-- The canonical text decides whether two values are the same. -/
theorem canonicalJson_eq_iff_same (htext : NumberToString toText) {a b : Tree}
    (ha : a.DistinctKeys) (hb : b.DistinctKeys) :
    canonicalJson (a.written toText) = canonicalJson (b.written toText) ↔ a.Same b := by
  rw [canonicalJson_eq_iff_normalize (wellFormed_written ha) (wellFormed_written hb)]
  exact ⟨same_of_normalize_eq htext, normalize_eq_of_same htext ha⟩

/-- The canonical text of a value is read as the same value. -/
theorem jsonParse_canonicalJson (htext : NumberToString toText) {a : Tree}
    (ha : a.DistinctKeys) :
    ∃ b, jsonParse (canonicalJson (a.written toText)) = some b ∧ a.Same b := by
  obtain ⟨b, hread, hsame⟩ := read_normalize htext a
  refine ⟨b, ?_, hsame⟩
  rw [jsonParse, parse_canonicalJson readNumeral (fun n _ => readNumeral_numeral n)
    (wellFormed_written ha), Option.bind_some, hread]

end Tree

end Json
