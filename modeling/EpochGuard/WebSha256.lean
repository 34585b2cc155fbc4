import EpochGuard.Lib.JsInt
import EpochGuard.Types
import Mathlib.Data.Nat.Bitwise

/-!
# The SHA-256 of the dashboard

`sha256Text` of `contracts.ts`, written by hand over JavaScript's numbers, and
that it is SHA-256. The function stops where a sum of words is no safe integer;
the length arithmetic is on the lengths themselves.
-/

namespace EpochGuard

namespace WebSha256

open Json JsInt

/-! ## The source -/

/-- The table of the round constants, as the file has it. -/
def SHA256_ROUND : List Int :=
  [0x428a2f98, 0x71374491, 0xb5c0fbcf, 0xe9b5dba5, 0x3956c25b, 0x59f111f1, 0x923f82a4,
   0xab1c5ed5, 0xd807aa98, 0x12835b01, 0x243185be, 0x550c7dc3, 0x72be5d74, 0x80deb1fe,
   0x9bdc06a7, 0xc19bf174, 0xe49b69c1, 0xefbe4786, 0x0fc19dc6, 0x240ca1cc, 0x2de92c6f,
   0x4a7484aa, 0x5cb0a9dc, 0x76f988da, 0x983e5152, 0xa831c66d, 0xb00327c8, 0xbf597fc7,
   0xc6e00bf3, 0xd5a79147, 0x06ca6351, 0x14292967, 0x27b70a85, 0x2e1b2138, 0x4d2c6dfc,
   0x53380d13, 0x650a7354, 0x766a0abb, 0x81c2c92e, 0x92722c85, 0xa2bfe8a1, 0xa81a664b,
   0xc24b8b70, 0xc76c51a3, 0xd192e819, 0xd6990624, 0xf40e3585, 0x106aa070, 0x19a4c116,
   0x1e376c08, 0x2748774c, 0x34b0bcb5, 0x391c0cb3, 0x4ed8aa4a, 0x5b9cca4f, 0x682e6ff3,
   0x748f82ee, 0x78a5636f, 0x84c87814, 0x8cc70208, 0x90befffa, 0xa4506ceb, 0xbef9a3f7,
   0xc67178f2]

/-- The array `state`, or the variables `a` to `h`. -/
structure Variables where
  a : Int
  b : Int
  c : Int
  d : Int
  e : Int
  f : Int
  g : Int
  h : Int
deriving DecidableEq

/-- The words that the hash starts from. -/
def SHA256_INITIAL : Variables :=
  ⟨0x6a09e667, 0xbb67ae85, 0x3c6ef372, 0xa54ff53a, 0x510e527f, 0x9b05688c, 0x1f83d9ab,
   0x5be0cd19⟩

/-- A word turned to the right, with the shifts of the language. -/
def rotateRight (value : Int) (count : Nat) : Int :=
  bitOr (shiftRightUnsigned value count) (shiftLeft value (32 - count))

/-- `(first + … ) >>> 0` -/
def wrappedSum (first : Int) (rest : List Int) : Option Int :=
  (exactSum first rest).map (shiftRightUnsigned · 0)

/-- The word that the schedule computes for an index. -/
def scheduleWord (words : List Int) (index : Nat) : Option Int :=
  let prior15 := words.getD (index - 15) 0
  let prior2 := words.getD (index - 2) 0
  let sigma0 := bitXor (bitXor (rotateRight prior15 7) (rotateRight prior15 18))
    (shiftRightUnsigned prior15 3)
  let sigma1 := bitXor (bitXor (rotateRight prior2 17) (rotateRight prior2 19))
    (shiftRightUnsigned prior2 10)
  wrappedSum (words.getD (index - 16) 0) [sigma0, words.getD (index - 7) 0, sigma1]

/-- `words[index] = …` -/
def extended (words : List Int) (index : Nat) : Option (List Int) :=
  (scheduleWord words index).map fun word => words ++ [word]

/-- `view.getUint32(offset)` -/
def getUint32 (view : List Nat) (offset : Nat) : Nat :=
  ((view.getD offset 0 * 256 + view.getD (offset + 1) 0) * 256 + view.getD (offset + 2) 0) * 256 +
    view.getD (offset + 3) 0

/-- The words of one block: those of the message, and then the scheduled ones in
the order of their indices. -/
def blockWords (view : List Nat) (offset : Nat) : Option (List Int) :=
  (List.range' 16 48).foldlM extended
    ((List.range 16).map fun index => (getUint32 view (offset + index * 4) : Int))

/-- One pass of the inner loop. -/
def round (v : Variables) (constant word : Int) : Option Variables := do
  let upper := bitXor (bitXor (rotateRight v.e 6) (rotateRight v.e 11)) (rotateRight v.e 25)
  let choice := bitXor (bitAnd v.e v.f) (bitAnd (bitNot v.e) v.g)
  let temporary1 ← wrappedSum v.h [upper, choice, constant, word]
  let lower := bitXor (bitXor (rotateRight v.a 2) (rotateRight v.a 13)) (rotateRight v.a 22)
  let majority := bitXor (bitXor (bitAnd v.a v.b) (bitAnd v.a v.c)) (bitAnd v.b v.c)
  let temporary2 ← wrappedSum lower [majority]
  let e ← wrappedSum v.d [temporary1]
  let a ← wrappedSum temporary1 [temporary2]
  return ⟨a, v.a, v.b, v.c, e, v.e, v.f, v.g⟩

/-- The block at an offset is added to the state. Sums are those of the
language, brought back to 32 bits by a shift; one that was not exact would be
`none`. -/
def block (view : List Nat) (state : Variables) (offset : Nat) : Option Variables := do
  let words ← blockWords view offset
  let next ← (List.range 64).foldlM
    (fun v index => round v (SHA256_ROUND.getD index 0) (words.getD index 0)) state
  return ⟨← wrappedSum state.a [next.a], ← wrappedSum state.b [next.b],
    ← wrappedSum state.c [next.c], ← wrappedSum state.d [next.d],
    ← wrappedSum state.e [next.e], ← wrappedSum state.f [next.f],
    ← wrappedSum state.g [next.g], ← wrappedSum state.h [next.h]⟩

/-- `view.setUint32(offset, value)` -/
def setUint32 (view : List Nat) (offset value : Nat) : List Nat :=
  view.take offset ++ [value / 0x1000000 % 256, value / 0x10000 % 256, value / 0x100 % 256,
    value % 256] ++ view.drop (offset + 4)

/-- `Math.ceil((length + 9) / 64) * 64` -/
def paddedLength (length : Nat) : Nat := (length + 9 + 63) / 64 * 64

/-- The bytes of the text with the padding and the length behind them. -/
def padded (bytes : List Nat) : List Nat :=
  let zeros := List.replicate (paddedLength bytes.length - bytes.length) 0
  let marked := (bytes ++ zeros).set bytes.length 0x80
  let bitLength := bytes.length * 8
  setUint32 (setUint32 marked (paddedLength bytes.length - 8) (bitLength / 0x100000000))
    (paddedLength bytes.length - 4) (bitLength % 0x100000000)

/-- `word.toString(16).padStart(8, "0")` -/
def hexText (word : Int) : List Char :=
  let digits := (if word < 0 then ['-'] else []) ++ Nat.toDigits 16 word.natAbs
  List.replicate (8 - digits.length) '0' ++ digits

def Variables.hex (v : Variables) : List Char :=
  hexText v.a ++ hexText v.b ++ hexText v.c ++ hexText v.d ++ hexText v.e ++ hexText v.f ++
    hexText v.g ++ hexText v.h

/-- `sha256Text` -/
def sha256Text (value : JsString) : Option String := do
  let bytes := utf8Bytes value
  let offsets := (List.range (paddedLength bytes.length / 64)).map (64 * ·)
  let state ← offsets.foldlM (block (padded bytes)) SHA256_INITIAL
  return String.ofList ("sha256:".toList ++ state.hex)

/-! ## Words -/

open Sha256Spec (word rotr Hash Window)

theorem word_lt (n : Nat) : word n < 0x100000000 := Nat.mod_lt _ (by decide)

theorem word_of_lt {n : Nat} (h : n < 0x100000000) : word n = n := Nat.mod_eq_of_lt h

theorem word_or (a b : Nat) : word (a ||| b) = word a ||| word b := by
  have h := Nat.or_mod_two_pow (a := a) (b := b) (n := 32)
  exact h

theorem toWord_rotateRight (x : Int) (count : Nat) :
    toWord (rotateRight x count) = rotr count (toWord x) := by
  have hshift : toWord x >>> count < 0x100000000 :=
    Nat.lt_of_le_of_lt (Nat.shiftRight_le _ _) (toWord_lt x)
  rw [rotateRight, toWord_bitOr, toWord_shiftRightUnsigned, toWord_shiftLeft, rotr, word_or,
    word_of_lt hshift]
  rfl

/-- A sum of words, wrapped, is the word of the sum. -/
theorem wrappedSum_eq {first : Int} {rest : List Int} (hfirst : IsWord first)
    (hrest : ∀ x ∈ rest, IsWord x) (hlength : rest.length ≤ 8) :
    wrappedSum first rest = some ((word (toWord first + (rest.map toWord).sum) : Nat) : Int) := by
  have hsmall : first.natAbs + 0x100000000 * rest.length ≤ maxSafeInteger := by
    obtain ⟨hlow, hhigh⟩ := hfirst
    have hmax : maxSafeInteger = 0x1fffffffffffff := rfl
    omega
  rw [wrappedSum, exactSum_eq hrest hsmall, Option.map_some, shiftRightUnsigned_eq,
    Nat.shiftRight_zero, toWord_add, toWord_sum]
  simp only [word, Nat.add_mod_mod]

theorem isWord_bitXor (x y : Int) : IsWord (bitXor x y) := isWord_toInt _

/-! ## The schedule -/

/-- The words of the schedule, from the next one of a window on. -/
def scheduled (w : Window) (n : Nat) : Nat := (Window.next^[n] w).w0

/-- The words of a window, without a sign in their 32 bits. -/
structure Small (w : Window) : Prop where
  w0 : w.w0 < 0x100000000
  w1 : w.w1 < 0x100000000
  w2 : w.w2 < 0x100000000
  w3 : w.w3 < 0x100000000
  w4 : w.w4 < 0x100000000
  w5 : w.w5 < 0x100000000
  w6 : w.w6 < 0x100000000
  w7 : w.w7 < 0x100000000
  w8 : w.w8 < 0x100000000
  w9 : w.w9 < 0x100000000
  w10 : w.w10 < 0x100000000
  w11 : w.w11 < 0x100000000
  w12 : w.w12 < 0x100000000
  w13 : w.w13 < 0x100000000
  w14 : w.w14 < 0x100000000
  w15 : w.w15 < 0x100000000

theorem Small.next {w : Window} (h : Small w) : Small w.next :=
  ⟨h.w1, h.w2, h.w3, h.w4, h.w5, h.w6, h.w7, h.w8, h.w9, h.w10, h.w11, h.w12, h.w13, h.w14,
    h.w15, word_lt _⟩

theorem Small.iterate {w : Window} (h : Small w) (n : Nat) : Small (Window.next^[n] w) := by
  induction n with
  | zero => exact h
  | succ n ih =>
    rw [Function.iterate_succ_apply']
    exact ih.next

theorem scheduled_lt {w : Window} (h : Small w) (n : Nat) : scheduled w n < 0x100000000 :=
  (h.iterate n).w0

theorem scheduled_add (w : Window) (n k : Nat) :
    scheduled (Window.next^[n] w) k = scheduled w (n + k) := by
  rw [scheduled, scheduled, ← Function.iterate_add_apply, Nat.add_comm]

/-- Each word of the schedule from the earlier ones. -/
theorem scheduled_step (w : Window) (n : Nat) :
    scheduled w (n + 16) =
      word (Sha256Spec.smallSigma1 (scheduled w (n + 14)) + scheduled w (n + 9) +
        Sha256Spec.smallSigma0 (scheduled w (n + 1)) + scheduled w n) := by
  have h16 := scheduled_add w n 16
  have h14 := scheduled_add w n 14
  have h9 := scheduled_add w n 9
  have h1 := scheduled_add w n 1
  rw [← h16, ← h14, ← h9, ← h1]
  rfl

/-- The array holds the first words of the schedule. -/
def heldWords (w : Window) (n : Nat) : List Int :=
  (List.range n).map fun i => (scheduled w i : Int)

theorem heldWords_getD {w : Window} {n i : Nat} (h : i < n) :
    (heldWords w n).getD i 0 = scheduled w i := by
  simp [heldWords, List.getD_eq_getElem?_getD, h]

theorem heldWords_succ (w : Window) (n : Nat) :
    heldWords w (n + 1) = heldWords w n ++ [(scheduled w n : Int)] := by
  simp [heldWords, List.range_succ]

theorem scheduleWord_eq {w : Window} (hw : Small w) (n : Nat) :
    scheduleWord (heldWords w (n + 16)) (n + 16) = some (scheduled w (n + 16) : Int) := by
  have hlt := scheduled_lt hw
  have e15 : n + 16 - 15 = n + 1 := by omega
  have e2 : n + 16 - 2 = n + 14 := by omega
  have e16 : n + 16 - 16 = n := by omega
  have e7 : n + 16 - 7 = n + 9 := by omega
  simp only [scheduleWord, e15, e2, e16, e7, heldWords_getD (show n + 1 < n + 16 by omega),
    heldWords_getD (show n + 14 < n + 16 by omega), heldWords_getD (show n < n + 16 by omega),
    heldWords_getD (show n + 9 < n + 16 by omega)]
  rw [wrappedSum_eq (isWord_natCast (hlt _)) ?_ (by simp), scheduled_step]
  · simp only [List.map_cons, List.map_nil, List.sum_cons, List.sum_nil, toWord_bitXor,
      toWord_rotateRight, toWord_shiftRightUnsigned, toWord_natCast (hlt _),
      Sha256Spec.smallSigma0, Sha256Spec.smallSigma1]
    refine congrArg (fun n : Nat => some ((word n : Nat) : Int)) ?_
    omega
  · intro x hx
    simp only [List.mem_cons, List.not_mem_nil, or_false] at hx
    rcases hx with rfl | rfl | rfl
    exacts [isWord_bitXor _ _, isWord_natCast (hlt _), isWord_bitXor _ _]

/-- The words that the message has in a block. -/
def windowAt (ws : Nat → Nat) : Window :=
  ⟨ws 0, ws 1, ws 2, ws 3, ws 4, ws 5, ws 6, ws 7, ws 8, ws 9, ws 10, ws 11, ws 12, ws 13, ws 14,
    ws 15⟩

theorem heldWords_windowAt (ws : Nat → Nat) :
    heldWords (windowAt ws) 16 = (List.range 16).map fun index => (ws index : Int) := rfl

theorem small_windowAt {ws : Nat → Nat} (h : ∀ i, ws i < 0x100000000) : Small (windowAt ws) :=
  ⟨h 0, h 1, h 2, h 3, h 4, h 5, h 6, h 7, h 8, h 9, h 10, h 11, h 12, h 13, h 14, h 15⟩

theorem schedule_fold {w : Window} (hw : Small w) (n : Nat) :
    (List.range' 16 n).foldlM extended (heldWords w 16) = some (heldWords w (n + 16)) := by
  induction n with
  | zero => rfl
  | succ n ih =>
    have hindex : 16 + 1 * n = n + 16 := by omega
    have hnext : extended (heldWords w (n + 16)) (n + 16) =
        some (heldWords w (n + 1 + 16)) := by
      rw [extended, scheduleWord_eq hw, Option.map_some, ← heldWords_succ, Nat.add_right_comm]
    rw [List.range'_concat, List.foldlM_append, ih, hindex]
    simp only [Option.bind_eq_bind, Option.bind_some, List.foldlM_cons, List.foldlM_nil, hnext,
      Option.pure_def]

/-! ## The rounds -/

/-- The variables that hold the words of a hash value. -/
def ofHash (s : Hash) : Variables := ⟨s.a, s.b, s.c, s.d, s.e, s.f, s.g, s.h⟩

structure Words (s : Hash) : Prop where
  a : s.a < 0x100000000
  b : s.b < 0x100000000
  c : s.c < 0x100000000
  d : s.d < 0x100000000
  e : s.e < 0x100000000
  f : s.f < 0x100000000
  g : s.g < 0x100000000
  h : s.h < 0x100000000

theorem Words.round {s : Hash} (hs : Words s) (k w : Nat) : Words (Sha256Spec.round s k w) :=
  ⟨word_lt _, hs.a, hs.b, hs.c, word_lt _, hs.e, hs.f, hs.g⟩

theorem wrappedSum_pair {m n : Nat} (hm : m < 0x100000000) (hn : n < 0x100000000) :
    wrappedSum (m : Int) [(n : Int)] = some (word (m + n) : Int) := by
  rw [wrappedSum_eq (isWord_natCast hm) (by simpa using isWord_natCast hn) (by simp)]
  simp [toWord_natCast hm, toWord_natCast hn]

theorem word_add_word_left (m n : Nat) : word (word m + n) = word (m + n) := by
  simp [word]

theorem word_add_word_right (m n : Nat) : word (m + word n) = word (m + n) := by
  simp [word]

theorem round_eq {s : Hash} (hs : Words s) {k w : Nat} (hk : k < 0x100000000)
    (hw : w < 0x100000000) :
    round (ofHash s) k w = some (ofHash (Sha256Spec.round s k w)) := by
  have htemporary1 : wrappedSum (s.h : Int)
      [bitXor (bitXor (rotateRight s.e 6) (rotateRight s.e 11)) (rotateRight s.e 25),
        bitXor (bitAnd s.e s.f) (bitAnd (bitNot s.e) s.g), (k : Int), (w : Int)] =
      some (word (s.h + Sha256Spec.bigSigma1 s.e + Sha256Spec.Ch s.e s.f s.g + k + w) : Int) := by
    rw [wrappedSum_eq (isWord_natCast hs.h) ?_ (by simp)]
    · simp only [List.map_cons, List.map_nil, List.sum_cons, List.sum_nil, toWord_bitXor,
        toWord_bitAnd, toWord_bitNot, toWord_rotateRight, toWord_natCast hs.e,
        toWord_natCast hs.f, toWord_natCast hs.g, toWord_natCast hs.h, toWord_natCast hk,
        toWord_natCast hw, Sha256Spec.bigSigma1, Sha256Spec.Ch]
      refine congrArg (fun n : Nat => some ((word n : Nat) : Int)) ?_
      omega
    · intro x hx
      simp only [List.mem_cons, List.not_mem_nil, or_false] at hx
      rcases hx with rfl | rfl | rfl | rfl
      exacts [isWord_bitXor _ _, isWord_bitXor _ _, isWord_natCast hk, isWord_natCast hw]
  have htemporary2 : wrappedSum
      (bitXor (bitXor (rotateRight s.a 2) (rotateRight s.a 13)) (rotateRight s.a 22))
      [bitXor (bitXor (bitAnd s.a s.b) (bitAnd s.a s.c)) (bitAnd s.b s.c)] =
      some (word (Sha256Spec.bigSigma0 s.a + Sha256Spec.Maj s.a s.b s.c) : Int) := by
    rw [wrappedSum_eq (isWord_bitXor _ _) (by simpa using isWord_bitXor _ _) (by simp)]
    simp only [List.map_cons, List.map_nil, List.sum_cons, List.sum_nil, toWord_bitXor,
      toWord_bitAnd, toWord_rotateRight, toWord_natCast hs.a, toWord_natCast hs.b,
      toWord_natCast hs.c, Sha256Spec.bigSigma0, Sha256Spec.Maj, Nat.add_zero]
  simp only [round, ofHash, htemporary1, htemporary2, Option.bind_eq_bind, Option.bind_some,
    wrappedSum_pair hs.d (word_lt _), wrappedSum_pair (word_lt _) (word_lt _),
    word_add_word_left, word_add_word_right, Option.pure_def, Sha256Spec.round]

theorem sha256_round_eq : SHA256_ROUND = Sha256Spec.K.map (Nat.cast : Nat → Int) := by decide

theorem round_constant_lt (i : Nat) : Sha256Spec.K.getD i 0 < 0x100000000 := by
  have hall : ∀ k ∈ Sha256Spec.K, k < 0x100000000 := by decide
  rw [List.getD_eq_getElem?_getD]
  cases hi : Sha256Spec.K[i]? with
  | none => decide
  | some k => exact hall k (List.mem_of_getElem? hi)

theorem sha256_round_getD (i : Nat) :
    SHA256_ROUND.getD i 0 = ((Sha256Spec.K.getD i 0 : Nat) : Int) := by
  rw [sha256_round_eq, List.getD_eq_getElem?_getD, List.getD_eq_getElem?_getD,
    List.getElem?_map]
  cases Sha256Spec.K[i]? <;> rfl

/-- The rounds of the standard by index, over the words of the schedule. -/
theorem rounds_eq_foldl (ks : List Nat) (w : Window) (s : Hash) :
    Sha256Spec.rounds ks w s =
      (List.range ks.length).foldl
        (fun s i => Sha256Spec.round s (ks.getD i 0) (scheduled w i)) s := by
  induction ks generalizing w s with
  | nil => rfl
  | cons k ks ih =>
    rw [Sha256Spec.rounds, ih, List.length_cons, List.range_succ_eq_map, List.foldl_cons,
      List.foldl_map]
    rfl

theorem rounds_eq_foldl_range (w : Window) (s : Hash) :
    Sha256Spec.rounds Sha256Spec.K w s =
      (List.range 64).foldl
        (fun s i => Sha256Spec.round s (Sha256Spec.K.getD i 0) (scheduled w i)) s := by
  have hlength : Sha256Spec.K.length = 64 := rfl
  rw [rounds_eq_foldl, hlength]

theorem rounds_fold {w : Window} (hw : Small w) {words : List Int} {s : Hash} (hs : Words s)
    (n : Nat) (hwords : ∀ i < n, words.getD i 0 = scheduled w i) :
    (List.range n).foldlM
        (fun v index => round v (SHA256_ROUND.getD index 0) (words.getD index 0)) (ofHash s) =
      some (ofHash ((List.range n).foldl
        (fun s i => Sha256Spec.round s (Sha256Spec.K.getD i 0) (scheduled w i)) s)) ∧
    Words ((List.range n).foldl
      (fun s i => Sha256Spec.round s (Sha256Spec.K.getD i 0) (scheduled w i)) s) := by
  induction n with
  | zero => exact ⟨rfl, hs⟩
  | succ n ih =>
    obtain ⟨heq, hsmall⟩ := ih fun i hi => hwords i (by omega)
    rw [List.range_succ, List.foldlM_append, List.foldl_append, heq]
    refine ⟨?_, hsmall.round _ _⟩
    simp only [Option.bind_eq_bind, Option.bind_some, List.foldlM_cons, List.foldlM_nil,
      List.foldl_cons, List.foldl_nil, sha256_round_getD, hwords n (Nat.lt_succ_self n),
      round_eq hsmall (round_constant_lt n) (scheduled_lt hw n), Option.pure_def]

/-! ## The blocks -/

theorem Words.compress (s : Hash) (w : Window) : Words (Sha256Spec.compress s w) :=
  ⟨word_lt _, word_lt _, word_lt _, word_lt _, word_lt _, word_lt _, word_lt _, word_lt _⟩

/-- The words that a view has in a block. -/
def viewWindow (view : List Nat) (offset : Nat) : Window :=
  windowAt fun index => getUint32 view (offset + index * 4)

theorem blockWords_eq {view : List Nat} (hview : ∀ i, getUint32 view i < 0x100000000)
    (offset : Nat) : blockWords view offset = some (heldWords (viewWindow view offset) 64) := by
  have hw : Small (viewWindow view offset) := small_windowAt fun _ => hview _
  have hfold := schedule_fold hw 48
  have hsum : 48 + 16 = 64 := rfl
  rw [hsum, viewWindow, heldWords_windowAt] at hfold
  exact hfold

theorem compress_eq (s : Hash) (w : Window) {t : Hash}
    (h : Sha256Spec.rounds Sha256Spec.K w s = t) :
    Sha256Spec.compress s w = ⟨word (s.a + t.a), word (s.b + t.b), word (s.c + t.c),
      word (s.d + t.d), word (s.e + t.e), word (s.f + t.f), word (s.g + t.g),
      word (s.h + t.h)⟩ := by
  rw [Sha256Spec.compress, h]

/-- The rounds over the words of a block. -/
theorem rounds_block {view : List Nat} (hview : ∀ i, getUint32 view i < 0x100000000) {s : Hash}
    (hs : Words s) (offset : Nat) :
    ∃ t, Sha256Spec.rounds Sha256Spec.K (viewWindow view offset) s = t ∧ Words t ∧
      (List.range 64).foldlM
        (fun v index => round v (SHA256_ROUND.getD index 0)
          ((heldWords (viewWindow view offset) 64).getD index 0)) (ofHash s) =
        some (ofHash t) := by
  have hw : Small (viewWindow view offset) := small_windowAt fun _ => hview _
  obtain ⟨hrounds, hsmall⟩ := rounds_fold hw hs 64 fun i hi => heldWords_getD hi
  rw [← rounds_eq_foldl_range] at hrounds hsmall
  exact ⟨_, rfl, hsmall, hrounds⟩

/-- One block. -/
theorem block_eq {view : List Nat} (hview : ∀ i, getUint32 view i < 0x100000000) {s : Hash}
    (hs : Words s) (offset : Nat) :
    block view (ofHash s) offset =
      some (ofHash (Sha256Spec.compress s (viewWindow view offset))) := by
  obtain ⟨t, ht, hsmall, hrounds⟩ := rounds_block hview hs offset
  rw [block, blockWords_eq hview, Option.bind_eq_bind, Option.bind_some, hrounds,
    compress_eq s _ ht]
  simp only [ofHash, Option.bind_eq_bind, Option.bind_some, wrappedSum_pair hs.a hsmall.a,
    wrappedSum_pair hs.b hsmall.b, wrappedSum_pair hs.c hsmall.c, wrappedSum_pair hs.d hsmall.d,
    wrappedSum_pair hs.e hsmall.e, wrappedSum_pair hs.f hsmall.f, wrappedSum_pair hs.g hsmall.g,
    wrappedSum_pair hs.h hsmall.h, Option.pure_def]

theorem blocks_fold {view : List Nat} (hview : ∀ i, getUint32 view i < 0x100000000)
    (offsets : List Nat) {s : Hash} (hs : Words s) :
    offsets.foldlM (block view) (ofHash s) =
      some (ofHash (offsets.foldl
        (fun s offset => Sha256Spec.compress s (viewWindow view offset)) s)) := by
  induction offsets generalizing s with
  | nil => rfl
  | cons offset offsets ih =>
    rw [List.foldlM_cons, block_eq hview hs, List.foldl_cons]
    exact ih (Words.compress _ _)

/-! ## The message -/

theorem getUint32_drop (view : List Nat) (n offset : Nat) :
    getUint32 (view.drop n) offset = getUint32 view (n + offset) := by
  simp only [getUint32, List.getD_eq_getElem?_getD, List.getElem?_drop, Nat.add_assoc]

theorem getUint32_lt {view : List Nat} (h : ∀ b ∈ view, b < 256) (offset : Nat) :
    getUint32 view offset < 0x100000000 := by
  have hbyte : ∀ i, view.getD i 0 < 256 := by
    intro i
    rw [List.getD_eq_getElem?_getD]
    cases hi : view[i]? with
    | none => decide
    | some b => exact h b (List.mem_of_getElem? hi)
  have h0 := hbyte offset
  have h1 := hbyte (offset + 1)
  have h2 := hbyte (offset + 2)
  have h3 := hbyte (offset + 3)
  simp only [getUint32]
  omega

/-- The words of a view, four bytes at a time. -/
theorem words_eq (view : List Nat) (k : Nat) (h : 4 * k ≤ view.length) :
    Sha256Spec.words view =
      (List.range k).map (fun i => getUint32 view (i * 4)) ++
        Sha256Spec.words (view.drop (4 * k)) := by
  induction k generalizing view with
  | zero => rfl
  | succ k ih =>
    match view, h with
    | b0 :: b1 :: b2 :: b3 :: rest, h =>
      have hrest := ih rest (by simp only [List.length_cons] at h; omega)
      have hdrop : (b0 :: b1 :: b2 :: b3 :: rest).drop (4 * (k + 1)) = rest.drop (4 * k) := rfl
      have hshift : ∀ i, getUint32 (b0 :: b1 :: b2 :: b3 :: rest) ((i + 1) * 4) =
          getUint32 rest (i * 4) := by
        intro i
        have hindex : (i + 1) * 4 = 4 + i * 4 := by omega
        rw [hindex, ← getUint32_drop]
        rfl
      rw [Sha256Spec.words, hrest, hdrop, List.range_succ_eq_map, List.map_cons, List.map_map]
      simp only [Function.comp_def, Nat.succ_eq_add_one, hshift, List.cons_append]
      rfl
    | [_, _, _], h => simp only [List.length_cons, List.length_nil] at h; omega
    | [_, _], h => simp only [List.length_cons, List.length_nil] at h; omega
    | [_], h => simp only [List.length_cons, List.length_nil] at h; omega
    | [], h => simp only [List.length_nil] at h; omega

theorem blocks_cons (w0 w1 w2 w3 w4 w5 w6 w7 w8 w9 w10 w11 w12 w13 w14 w15 : Nat)
    (rest : List Nat) (s : Hash) :
    Sha256Spec.blocks (w0 :: w1 :: w2 :: w3 :: w4 :: w5 :: w6 :: w7 :: w8 :: w9 :: w10 :: w11 ::
        w12 :: w13 :: w14 :: w15 :: rest) s =
      Sha256Spec.blocks rest (Sha256Spec.compress s
        ⟨w0, w1, w2, w3, w4, w5, w6, w7, w8, w9, w10, w11, w12, w13, w14, w15⟩) := by
  -- the block is named before the recursion is unfolded, or the kernel would compress it
  generalize hw : (⟨w0, w1, w2, w3, w4, w5, w6, w7, w8, w9, w10, w11, w12, w13, w14, w15⟩ :
    Window) = w
  generalize ht : Sha256Spec.compress s w = t
  conv => lhs; delta Sha256Spec.blocks
  conv => lhs; whnf
  rw [hw, ht]
  delta Sha256Spec.blocks
  rfl

theorem blocks_append (ws : Nat → Nat) (rest : List Nat) (s : Hash) :
    Sha256Spec.blocks ((List.range 16).map ws ++ rest) s =
      Sha256Spec.blocks rest (Sha256Spec.compress s (windowAt ws)) := by
  have hrange : List.range 16 = [0, 1, 2, 3, 4, 5, 6, 7, 8, 9, 10, 11, 12, 13, 14, 15] := rfl
  simp only [hrange, List.map_cons, List.map_nil, List.cons_append, List.nil_append]
  rw [blocks_cons, windowAt]

/-- The blocks of the standard, by their offsets. -/
theorem blocks_eq_foldl (n : Nat) (view : List Nat) (s : Hash) (h : view.length = 64 * n) :
    Sha256Spec.blocks (Sha256Spec.words view) s =
      ((List.range n).map (64 * ·)).foldl
        (fun s offset => Sha256Spec.compress s (viewWindow view offset)) s := by
  induction n generalizing view s with
  | zero =>
    rw [List.length_eq_zero_iff.mp h]
    rfl
  | succ n ih =>
    have hshift : ∀ i, viewWindow view (64 * (i + 1)) = viewWindow (view.drop 64) (64 * i) := by
      intro i
      have hindex : ∀ k, 64 * (i + 1) + k = 64 + (64 * i + k) := by omega
      simp only [viewWindow, getUint32_drop, hindex]
    have hfirst : viewWindow view (64 * 0) = windowAt fun i => getUint32 view (i * 4) := by
      simp only [viewWindow, Nat.mul_zero, Nat.zero_add]
    rw [words_eq view 16 (by omega), blocks_append, ← hfirst,
      ih (view.drop 64) _ (by rw [List.length_drop]; omega), List.range_succ_eq_map,
      List.map_cons, List.foldl_cons, List.map_map, List.foldl_map, List.foldl_map]
    simp only [Function.comp_def, Nat.succ_eq_add_one, hshift]

/-! ## The padding -/

theorem setUint32_append (start rest : List Nat) (value : Nat) :
    setUint32 (start ++ rest) start.length value =
      start ++ [value / 0x1000000 % 256, value / 0x10000 % 256, value / 0x100 % 256,
        value % 256] ++ rest.drop 4 := by
  rw [setUint32, List.take_left', List.drop_append]
  · simp
  · rfl

theorem paddedLength_eq (n : Nat) :
    paddedLength n = n + 1 + (119 - n % 64) % 64 + 8 := by
  simp only [paddedLength]
  omega

theorem padded_eq (bytes : List Nat) : padded bytes = Sha256Spec.padded bytes := by
  generalize hz : (119 - bytes.length % 64) % 64 = z
  have hlength := paddedLength_eq bytes.length
  rw [hz] at hlength
  have hzeros : paddedLength bytes.length - bytes.length = z + 9 := by omega
  have hmarked : (bytes ++ List.replicate (z + 9) 0).set bytes.length 0x80 =
      (bytes ++ 0x80 :: List.replicate z 0) ++ List.replicate 8 0 := by
    rw [List.set_append_right _ _ (Nat.le_refl _), Nat.sub_self, List.replicate_succ,
      List.set_cons_zero, List.replicate_add, List.append_assoc, List.cons_append]
  have hhigh : paddedLength bytes.length - 8 = (bytes ++ 0x80 :: List.replicate z 0).length := by
    simp only [List.length_append, List.length_cons, List.length_replicate]
    omega
  have hlow : paddedLength bytes.length - 4 =
      (bytes ++ 0x80 :: List.replicate z 0).length + 4 := by omega
  rw [padded, Sha256Spec.padded, hz]
  simp only [hzeros, hmarked, hhigh, hlow]
  rw [setUint32_append]
  generalize hstart : bytes ++ 0x80 :: List.replicate z 0 = start
  have hsecond : ∀ four rest : List Nat, four.length = 4 → ∀ value,
      setUint32 (start ++ four ++ rest) (start.length + 4) value =
        start ++ four ++ [value / 0x1000000 % 256, value / 0x10000 % 256, value / 0x100 % 256,
          value % 256] ++ rest.drop 4 := by
    intro four rest hfour value
    have happend := setUint32_append (start ++ four) rest value
    rw [List.length_append, hfour] at happend
    exact happend
  rw [hsecond _ _ rfl]
  have hbytes : (List.range 8).map (fun i => 8 * bytes.length / 256 ^ (7 - i) % 256) =
      [bytes.length * 8 / 0x100000000 / 0x1000000 % 256,
        bytes.length * 8 / 0x100000000 / 0x10000 % 256,
        bytes.length * 8 / 0x100000000 / 0x100 % 256, bytes.length * 8 / 0x100000000 % 256,
        bytes.length * 8 % 0x100000000 / 0x1000000 % 256,
        bytes.length * 8 % 0x100000000 / 0x10000 % 256,
        bytes.length * 8 % 0x100000000 / 0x100 % 256,
        bytes.length * 8 % 0x100000000 % 256] := by
    simp only [List.range, List.range.loop, List.map_cons, List.map_nil, List.cons.injEq,
      and_true]
    refine ⟨?_, ?_, ?_, ?_, ?_, ?_, ?_, ?_⟩ <;> omega
  rw [hbytes]
  simp

theorem length_padded (bytes : List Nat) :
    (Sha256Spec.padded bytes).length = 64 * (paddedLength bytes.length / 64) := by
  have hlength := paddedLength_eq bytes.length
  have hsplit : paddedLength bytes.length = (bytes.length + 9 + 63) / 64 * 64 := rfl
  simp only [Sha256Spec.padded, List.length_append, List.length_cons, List.length_replicate,
    List.length_map, List.length_range]
  omega

/-! ## The bytes of a string -/

theorem utf8Char_lt {n : Nat} (hn : n < 0x110000) : ∀ b ∈ utf8Char n, b < 256 := by
  intro b hb
  unfold utf8Char at hb
  split_ifs at hb <;> simp only [List.mem_cons, List.not_mem_nil, or_false] at hb <;> omega

theorem utf8Bytes_lt (s : JsString) : ∀ b ∈ utf8Bytes s, b < 256 := by
  have hunit : ∀ (u : UInt16) (lone : Bool),
      (if lone then 0xFFFD else u.toNat) < 0x110000 := by
    intro u lone
    have hu := u.toNat_lt
    split <;> omega
  induction s using utf8Bytes.induct with
  | case1 => simp [utf8Bytes]
  | case2 u => exact utf8Char_lt (hunit u _)
  | case3 u v rest hpair ih =>
    intro b hb
    rw [utf8Bytes, if_pos hpair, List.mem_append] at hb
    rcases hb with hb | hb
    · refine utf8Char_lt ?_ b hb
      simp only [isHighSurrogate, isLowSurrogate, Bool.and_eq_true, decide_eq_true_eq,
        UInt16.le_iff_toNat_le] at hpair
      have h1 : u.toNat ≤ 0xDBFF := hpair.1.2
      have h2 : v.toNat ≤ 0xDFFF := hpair.2.2
      omega
    · exact ih b hb
  | case4 u v rest hpair ih =>
    intro b hb
    rw [utf8Bytes, if_neg hpair, List.mem_append] at hb
    rcases hb with hb | hb
    · exact utf8Char_lt (hunit u _) b hb
    · exact ih b hb

theorem padded_lt {bytes : List Nat} (h : ∀ b ∈ bytes, b < 256) :
    ∀ b ∈ Sha256Spec.padded bytes, b < 256 := by
  intro b hb
  simp only [Sha256Spec.padded, List.mem_append, List.mem_cons, List.mem_replicate,
    List.mem_map] at hb
  rcases hb with (hb | rfl | ⟨-, rfl⟩) | ⟨i, -, rfl⟩
  · exact h b hb
  · decide
  · decide
  · exact Nat.mod_lt _ (by decide)

/-! ## Hexadecimal text -/

/-- The last `k` hexadecimal digits. -/
def hexDigits : Nat → Nat → List Char
  | 0, _ => []
  | k + 1, n => hexDigits k (n / 16) ++ [Sha256Spec.hexDigit (n % 16)]

theorem digitChar_eq {d : Nat} (h : d < 16) : d.digitChar = Sha256Spec.hexDigit d := by
  have hall : ∀ d < 16, Nat.digitChar d = Sha256Spec.hexDigit d := by decide
  exact hall d h

theorem hexDigits_zero (k : Nat) : hexDigits k 0 = List.replicate k '0' := by
  induction k with
  | zero => rfl
  | succ k ih =>
    rw [hexDigits, Nat.zero_div, ih, List.replicate_succ']
    rfl

theorem padStart_eq (k n : Nat) (h : n < 16 ^ (k + 1)) :
    List.replicate (k + 1 - (Nat.toDigits 16 n).length) '0' ++ Nat.toDigits 16 n =
      hexDigits (k + 1) n := by
  induction k generalizing n with
  | zero =>
    have hn : n < 16 := by simpa using h
    rw [Nat.toDigits_of_lt_base hn, hexDigits, Nat.mod_eq_of_lt hn, digitChar_eq hn]
    rfl
  | succ k ih =>
    rw [hexDigits]
    by_cases hn : n < 16
    · rw [Nat.toDigits_of_lt_base hn, Nat.div_eq_of_lt hn, hexDigits_zero, Nat.mod_eq_of_lt hn,
        digitChar_eq hn]
      rfl
    · have hdiv : n / 16 < 16 ^ (k + 1) := by
        rw [Nat.div_lt_iff_lt_mul (by decide)]
        calc n < 16 ^ (k + 1 + 1) := h
          _ = 16 ^ (k + 1) * 16 := Nat.pow_succ _ _
      have hsplit : Nat.toDigits 16 n =
          Nat.toDigits 16 (n / 16) ++ [Sha256Spec.hexDigit (n % 16)] := by
        have hdigits := Nat.toDigits_append_toDigits (b := 16) (n := n / 16) (d := n % 16)
          (by decide) (by omega) (Nat.mod_lt _ (by decide))
        rw [Nat.div_add_mod, Nat.toDigits_of_lt_base (Nat.mod_lt n (by decide)),
          digitChar_eq (Nat.mod_lt n (by decide))] at hdigits
        exact hdigits.symm
      rw [hsplit, List.length_append, List.length_singleton, Nat.add_sub_add_right,
        ← List.append_assoc, ih _ hdiv]

theorem hexText_eq {n : Nat} (h : n < 0x100000000) : hexText n = Sha256Spec.hexWord n := by
  have hpad := padStart_eq 7 n h
  have hnonneg : ¬((n : Int) < 0) := by omega
  have hdigits : hexText n =
      List.replicate (8 - (Nat.toDigits 16 n).length) '0' ++ Nat.toDigits 16 n := by
    simp [hexText, hnonneg]
  rw [hdigits, hpad]
  simp only [hexDigits, Nat.div_div_eq_div_mul, Sha256Spec.hexWord, List.nil_append,
    List.cons_append]

theorem hex_ofHash {s : Hash} (hs : Words s) : (ofHash s).hex = s.hex := by
  simp only [Variables.hex, ofHash, hexText_eq hs.a, hexText_eq hs.b, hexText_eq hs.c,
    hexText_eq hs.d, hexText_eq hs.e, hexText_eq hs.f, hexText_eq hs.g, hexText_eq hs.h,
    Sha256Spec.Hash.hex]

/-! ## The digest -/

theorem words_foldl (view : List Nat) (offsets : List Nat) {s : Hash} (hs : Words s) :
    Words (offsets.foldl
      (fun s offset => Sha256Spec.compress s (viewWindow view offset)) s) := by
  induction offsets generalizing s with
  | nil => exact hs
  | cons offset offsets ih => exact ih (Words.compress _ _)

theorem words_initialHash : Words Sha256Spec.initialHash := by
  constructor <;> decide

/-- `sha256Text` answers the SHA-256 digest of the UTF-8 bytes of every string,
all sums on the way exact, and so what the server's `sha256Digest` answers. -/
theorem sha256Text_eq (value : JsString) :
    sha256Text value =
        some ("sha256:" ++ String.ofList (Sha256Spec.hexDigest (utf8Bytes value))) ∧
      sha256Text value = some (@sha256Digest Sha256.standard value).val := by
  have hview := getUint32_lt (padded_lt (utf8Bytes_lt value))
  have hblocks := blocks_eq_foldl _ _ Sha256Spec.initialHash (length_padded (utf8Bytes value))
  have hfold := blocks_fold hview
    ((List.range (paddedLength (utf8Bytes value).length / 64)).map (64 * ·)) words_initialHash
  have hwords := words_foldl (Sha256Spec.padded (utf8Bytes value))
    ((List.range (paddedLength (utf8Bytes value).length / 64)).map (64 * ·)) words_initialHash
  rw [← hblocks] at hfold hwords
  have hinitial : SHA256_INITIAL = ofHash Sha256Spec.initialHash := rfl
  have htext : sha256Text value = some (String.ofList
      ("sha256:".toList ++ Sha256Spec.hexDigest (utf8Bytes value))) := by
    rw [sha256Text, padded_eq, hinitial, hfold]
    simp only [Option.bind_eq_bind, Option.bind_some, Option.pure_def, hex_ofHash hwords]
    rfl
  refine ⟨?_, htext⟩
  rw [htext, String.ofList_append]
  rfl

end WebSha256

end EpochGuard
