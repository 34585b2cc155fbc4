import Mathlib.Data.List.Basic
import Mathlib.Algebra.Group.Nat.Defs

/-!
# SHA-256

The hash function of FIPS 180-4 on lists of bytes. Words are natural numbers
below `2 ^ 32`.
-/

namespace Sha256Spec

def word (n : Nat) : Nat := n % 0x100000000

/-- `ROTR^n(x)` -/
def rotr (n x : Nat) : Nat := word (x >>> n ||| x <<< (32 - n))

/-! ## Functions and constants -/

def Ch (x y z : Nat) : Nat := (x &&& y) ^^^ ((0xffffffff - x) &&& z)
def Maj (x y z : Nat) : Nat := (x &&& y) ^^^ (x &&& z) ^^^ (y &&& z)
def bigSigma0 (x : Nat) : Nat := rotr 2 x ^^^ rotr 13 x ^^^ rotr 22 x
def bigSigma1 (x : Nat) : Nat := rotr 6 x ^^^ rotr 11 x ^^^ rotr 25 x
def smallSigma0 (x : Nat) : Nat := rotr 7 x ^^^ rotr 18 x ^^^ x >>> 3
def smallSigma1 (x : Nat) : Nat := rotr 17 x ^^^ rotr 19 x ^^^ x >>> 10

/-- The round constants. -/
def K : List Nat :=
  [0x428a2f98, 0x71374491, 0xb5c0fbcf, 0xe9b5dba5, 0x3956c25b, 0x59f111f1, 0x923f82a4,
   0xab1c5ed5, 0xd807aa98, 0x12835b01, 0x243185be, 0x550c7dc3, 0x72be5d74, 0x80deb1fe,
   0x9bdc06a7, 0xc19bf174, 0xe49b69c1, 0xefbe4786, 0x0fc19dc6, 0x240ca1cc, 0x2de92c6f,
   0x4a7484aa, 0x5cb0a9dc, 0x76f988da, 0x983e5152, 0xa831c66d, 0xb00327c8, 0xbf597fc7,
   0xc6e00bf3, 0xd5a79147, 0x06ca6351, 0x14292967, 0x27b70a85, 0x2e1b2138, 0x4d2c6dfc,
   0x53380d13, 0x650a7354, 0x766a0abb, 0x81c2c92e, 0x92722c85, 0xa2bfe8a1, 0xa81a664b,
   0xc24b8b70, 0xc76c51a3, 0xd192e819, 0xd6990624, 0xf40e3585, 0x106aa070, 0x19a4c116,
   0x1e376c08, 0x2748774c, 0x34b0bcb5, 0x391c0cb3, 0x4ed8aa4a, 0x5b9cca4f, 0x682e6ff3,
   0x748f82ee, 0x78a5636f, 0x84c87814, 0x8cc70208, 0x90befffa, 0xa4506ceb, 0xbef9a3f7,
   0xc67178f2]

/-! ## The state and the message schedule -/

/-- The hash value, or the eight working variables. -/
structure Hash where
  a : Nat
  b : Nat
  c : Nat
  d : Nat
  e : Nat
  f : Nat
  g : Nat
  h : Nat
deriving DecidableEq

/-- The hash value before the first block. -/
def initialHash : Hash :=
  ⟨0x6a09e667, 0xbb67ae85, 0x3c6ef372, 0xa54ff53a, 0x510e527f, 0x9b05688c, 0x1f83d9ab,
   0x5be0cd19⟩

/-- Sixteen consecutive words of the message schedule; `w0` is the next one. -/
structure Window where
  w0 : Nat
  w1 : Nat
  w2 : Nat
  w3 : Nat
  w4 : Nat
  w5 : Nat
  w6 : Nat
  w7 : Nat
  w8 : Nat
  w9 : Nat
  w10 : Nat
  w11 : Nat
  w12 : Nat
  w13 : Nat
  w14 : Nat
  w15 : Nat
deriving DecidableEq

def Window.next (w : Window) : Window :=
  ⟨w.w1, w.w2, w.w3, w.w4, w.w5, w.w6, w.w7, w.w8, w.w9, w.w10, w.w11, w.w12, w.w13, w.w14,
   w.w15, word (smallSigma1 w.w14 + w.w9 + smallSigma0 w.w1 + w.w0)⟩

/-- One round, with its word and its constant. -/
def round (s : Hash) (k w : Nat) : Hash :=
  let t1 := s.h + bigSigma1 s.e + Ch s.e s.f s.g + k + w
  let t2 := bigSigma0 s.a + Maj s.a s.b s.c
  ⟨word (t1 + t2), s.a, s.b, s.c, word (s.d + t1), s.e, s.f, s.g⟩

/-- The rounds of one block. -/
def rounds : List Nat → Window → Hash → Hash
  | [], _, s => s
  | k :: ks, w, s => rounds ks w.next (round s k w.w0)

/-- One message block. -/
def compress (s : Hash) (block : Window) : Hash :=
  let t := rounds K block s
  ⟨word (s.a + t.a), word (s.b + t.b), word (s.c + t.c), word (s.d + t.d), word (s.e + t.e),
   word (s.f + t.f), word (s.g + t.g), word (s.h + t.h)⟩

/-! ## Messages -/

/-- The length in bits, as eight bytes, and zeros that fill the last block. -/
def padded (bytes : List Nat) : List Nat :=
  bytes ++ 0x80 :: List.replicate ((119 - bytes.length % 64) % 64) 0 ++
    (List.range 8).map fun i => 8 * bytes.length / 256 ^ (7 - i) % 256

def words : List Nat → List Nat
  | b0 :: b1 :: b2 :: b3 :: rest =>
      (((b0 * 256 + b1) * 256 + b2) * 256 + b3) :: words rest
  | _ => []

/-- The hash value after the blocks of a message. -/
def blocks : List Nat → Hash → Hash
  | w0 :: w1 :: w2 :: w3 :: w4 :: w5 :: w6 :: w7 :: w8 :: w9 :: w10 :: w11 :: w12 :: w13 :: w14 ::
      w15 :: rest, s =>
      blocks rest
        (compress s ⟨w0, w1, w2, w3, w4, w5, w6, w7, w8, w9, w10, w11, w12, w13, w14, w15⟩)
  | _, s => s

/-- The digest of a message, as eight words. -/
def hash (bytes : List Nat) : Hash := blocks (words (padded bytes)) initialHash

/-! ## Hexadecimal text -/

def hexDigit (n : Nat) : Char :=
  match n with
  | 0 => '0' | 1 => '1' | 2 => '2' | 3 => '3' | 4 => '4' | 5 => '5' | 6 => '6' | 7 => '7'
  | 8 => '8' | 9 => '9' | 10 => 'a' | 11 => 'b' | 12 => 'c' | 13 => 'd' | 14 => 'e' | _ => 'f'

def hexWord (n : Nat) : List Char :=
  [hexDigit (n / 0x10000000 % 16), hexDigit (n / 0x1000000 % 16), hexDigit (n / 0x100000 % 16),
   hexDigit (n / 0x10000 % 16), hexDigit (n / 0x1000 % 16), hexDigit (n / 0x100 % 16),
   hexDigit (n / 0x10 % 16), hexDigit (n % 16)]

def Hash.hex (s : Hash) : List Char :=
  hexWord s.a ++ hexWord s.b ++ hexWord s.c ++ hexWord s.d ++ hexWord s.e ++ hexWord s.f ++
    hexWord s.g ++ hexWord s.h

/-- The digest of a message, in lower-case hexadecimal. -/
def hexDigest (bytes : List Nat) : List Char := (hash bytes).hex

theorem length_hex (s : Hash) : s.hex.length = 64 := rfl

theorem all_hex {p : Char → Bool} (hp : ∀ n, p (hexDigit n) = true) (s : Hash) :
    s.hex.all p = true := by
  simp [Hash.hex, hexWord, hp]

example : hash [97, 98, 99] =
    ⟨0xba7816bf, 0x8f01cfea, 0x414140de, 0x5dae2223, 0xb00361a3, 0x96177a9c, 0xb410ff61,
     0xf20015ad⟩ := by decide +kernel

end Sha256Spec
