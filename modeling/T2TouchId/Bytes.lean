/-
  Byte strings, as the source's `bytes`, `struct` and `hashlib` see them.

  1. **Integers** — `le width n` packs a number least significant byte first (`struct`'s `<I`, `<Q`),
     `leNat` reads one back, `hex` spells bytes as `bytes.hex` does.
  2. **SHA-256** — `sha256` is the FIPS 180-4 function on whole messages, over `Nat` words below
     `2 ^ 32`.  Models take the hash as a parameter; this is the function `hashlib.sha256` to run them
     with.
-/
import Mathlib

namespace T2TouchId

abbrev Bytes := List UInt8

instance lawfulBEq_bytes : LawfulBEq Bytes := inferInstance

namespace Bytes

/-- `width` bytes of `n`, least significant first. -/
def le : Nat → Nat → Bytes
  | 0, _ => []
  | width + 1, n => UInt8.ofNat (n % 256) :: le width (n / 256)

@[simp] theorem length_le : ∀ width n, (le width n).length = width
  | 0, _ => rfl
  | width + 1, n => by rw [le, List.length_cons, length_le width]

/-- The number written least significant byte first. -/
def leNat : Bytes → Nat
  | [] => 0
  | b :: bs => b.toNat + 256 * leNat bs

/-- `width` bytes of `n`, most significant first. -/
def be (width n : Nat) : Bytes := (le width n).reverse

def beNat (bytes : Bytes) : Nat := leNat bytes.reverse

/-- `needle in haystack`. -/
def isIn (needle : Bytes) : Bytes → Bool
  | [] => needle.isEmpty
  | b :: bs => needle.isPrefixOf (b :: bs) || isIn needle bs

/-- Two lower-case hex digits for each byte. -/
def hex (bytes : Bytes) : String :=
  String.ofList (bytes.flatMap fun b => [Nat.digitChar (b.toNat / 16), Nat.digitChar (b.toNat % 16)])

theorem length_be (width n : Nat) : (be width n).length = width := by
  rw [be, List.length_reverse, length_le]

theorem length_hex (bytes : Bytes) : bytes.hex.toList.length = 2 * bytes.length := by
  rw [hex, String.toList_ofList]
  induction bytes with
  | nil => rfl
  | cons b bytes ih =>
    rw [List.flatMap_cons, List.length_append, ih]
    simp only [List.length_cons, List.length_nil]
    omega

/-- The sixteen hexadecimal digits. -/
theorem mem_hex {bytes : Bytes} {c : Char} (h : c ∈ bytes.hex.toList) :
    ∃ n, n < 16 ∧ c = Nat.digitChar n := by
  rw [hex, String.toList_ofList] at h
  obtain ⟨b, -, hb⟩ := List.mem_flatMap.mp h
  have hlt := b.toNat_lt
  rcases List.mem_cons.mp hb with rfl | hb
  · exact ⟨_, by omega, rfl⟩
  · exact ⟨_, by omega, List.mem_singleton.mp hb⟩

/-- Different bytes are spelled differently. -/
theorem hex_injective : Function.Injective hex := by
  intro a b h
  have hdigit : ∀ m < 16, ∀ n < 16, Nat.digitChar m = Nat.digitChar n → m = n := by decide
  have hlist := String.ofList_injective h
  induction a generalizing b with
  | nil =>
    cases b with
    | nil => rfl
    | cons y b => exact nomatch hlist
  | cons x a ih =>
    cases b with
    | nil => exact nomatch hlist
    | cons y b =>
      have hx := x.toNat_lt
      have hy := y.toNat_lt
      obtain ⟨hhigh, hlist⟩ := List.cons.inj hlist
      obtain ⟨hlow, hlist⟩ := List.cons.inj hlist
      have hhigh := hdigit _ (by omega) _ (by omega) hhigh
      have hlow := hdigit _ (by omega) _ (by omega) hlow
      have hxy : x = y := UInt8.toNat_inj.mp (by omega)
      have hrest : a = b := ih (congrArg String.ofList hlist) hlist
      rw [hxy, hrest]

end Bytes

/-! ## SHA-256 -/

namespace Sha256

/-- The first 32 bits of the fractional parts of the cube roots of the first 64 primes. -/
def k : List Nat :=
  [0x428a2f98, 0x71374491, 0xb5c0fbcf, 0xe9b5dba5, 0x3956c25b, 0x59f111f1, 0x923f82a4, 0xab1c5ed5,
   0xd807aa98, 0x12835b01, 0x243185be, 0x550c7dc3, 0x72be5d74, 0x80deb1fe, 0x9bdc06a7, 0xc19bf174,
   0xe49b69c1, 0xefbe4786, 0x0fc19dc6, 0x240ca1cc, 0x2de92c6f, 0x4a7484aa, 0x5cb0a9dc, 0x76f988da,
   0x983e5152, 0xa831c66d, 0xb00327c8, 0xbf597fc7, 0xc6e00bf3, 0xd5a79147, 0x06ca6351, 0x14292967,
   0x27b70a85, 0x2e1b2138, 0x4d2c6dfc, 0x53380d13, 0x650a7354, 0x766a0abb, 0x81c2c92e, 0x92722c85,
   0xa2bfe8a1, 0xa81a664b, 0xc24b8b70, 0xc76c51a3, 0xd192e819, 0xd6990624, 0xf40e3585, 0x106aa070,
   0x19a4c116, 0x1e376c08, 0x2748774c, 0x34b0bcb5, 0x391c0cb3, 0x4ed8aa4a, 0x5b9cca4f, 0x682e6ff3,
   0x748f82ee, 0x78a5636f, 0x84c87814, 0x8cc70208, 0x90befffa, 0xa4506ceb, 0xbef9a3f7, 0xc67178f2]

/-- The eight working words. -/
structure Words where
  (a b c d e f g h : Nat)

/-- The first 32 bits of the fractional parts of the square roots of the first eight primes. -/
def initial : Words :=
  ⟨0x6a09e667, 0xbb67ae85, 0x3c6ef372, 0xa54ff53a, 0x510e527f, 0x9b05688c, 0x1f83d9ab, 0x5be0cd19⟩

def word (n : Nat) : Nat := n % 2 ^ 32

def rotr (n x : Nat) : Nat := word (x >>> n ||| x <<< (32 - n))

def round (w : Words) (kw : Nat) : Words :=
  let s1 := rotr 6 w.e ^^^ rotr 11 w.e ^^^ rotr 25 w.e
  let ch := (w.e &&& w.f) ^^^ ((2 ^ 32 - 1 - w.e) &&& w.g)
  let t1 := w.h + s1 + ch + kw
  let s0 := rotr 2 w.a ^^^ rotr 13 w.a ^^^ rotr 22 w.a
  let maj := (w.a &&& w.b) ^^^ (w.a &&& w.c) ^^^ (w.b &&& w.c)
  ⟨word (t1 + s0 + maj), w.a, w.b, w.c, word (w.d + t1), w.e, w.f, w.g⟩

/-- The message schedule, newest word first: sixteen words of the block, then `n` computed ones. -/
def schedule (block : List Nat) : Nat → List Nat
  | 0 => block.reverse
  | n + 1 =>
    let ws := schedule block n
    let w15 := ws.getD 14 0
    let w2 := ws.getD 1 0
    let s0 := rotr 7 w15 ^^^ rotr 18 w15 ^^^ (w15 >>> 3)
    let s1 := rotr 17 w2 ^^^ rotr 19 w2 ^^^ (w2 >>> 10)
    word (ws.getD 15 0 + s0 + ws.getD 6 0 + s1) :: ws

def compress (w : Words) (block : List Nat) : Words :=
  let v := (List.zipWith (· + ·) k (schedule block 48).reverse).foldl round w
  ⟨word (w.a + v.a), word (w.b + v.b), word (w.c + v.c), word (w.d + v.d),
   word (w.e + v.e), word (w.f + v.f), word (w.g + v.g), word (w.h + v.h)⟩

/-- The message, a one bit, zeros, and the length in bits, a multiple of 64 bytes long. -/
def pad (message : Bytes) : Bytes :=
  message ++ 0x80 :: List.replicate ((119 - message.length % 64) % 64) 0
    ++ Bytes.be 8 (8 * message.length)

/-- The first `n` blocks of sixteen big-endian words. -/
def blocks : Nat → Bytes → List (List Nat)
  | 0, _ => []
  | n + 1, bytes =>
    (List.range 16).map (fun i => Bytes.beNat ((bytes.drop (4 * i)).take 4)) ::
      blocks n (bytes.drop 64)

end Sha256

/-- `hashlib.sha256(message).digest()`. -/
def sha256 (message : Bytes) : Bytes :=
  let padded := Sha256.pad message
  let w := (Sha256.blocks (padded.length / 64) padded).foldl Sha256.compress Sha256.initial
  [w.a, w.b, w.c, w.d, w.e, w.f, w.g, w.h].flatMap (Bytes.be 4)

theorem length_sha256 (message : Bytes) : (sha256 message).length = 32 := by
  simp only [sha256, List.flatMap_cons, List.flatMap_nil, List.length_append, Bytes.length_be,
    List.length_nil]

/-- The published digest of `"abc"`. -/
example : (sha256 [0x61, 0x62, 0x63]).hex =
    "ba7816bf8f01cfea414140de5dae2223b00361a396177a9cb410ff61f20015ad" := by decide +kernel

end T2TouchId
