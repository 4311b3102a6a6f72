import Mathlib.Algebra.Group.Nat.Defs
import Mathlib.Data.List.Basic

/-! # SHA-256 and the shape of its hexadecimal digest

The compression function, the padding and the digest are the standard ones, over lists of bytes.
Everything is structurally recursive, so digests of short inputs evaluate in the kernel. The only
facts a client needs are about the printed form: sixty-four lowercase hexadecimal characters.
-/

namespace Sha256

abbrev Word := BitVec 32

structure State where
  a : Word
  b : Word
  c : Word
  d : Word
  e : Word
  f : Word
  g : Word
  h : Word

def initialState : State :=
  ⟨0x6a09e667, 0xbb67ae85, 0x3c6ef372, 0xa54ff53a, 0x510e527f, 0x9b05688c, 0x1f83d9ab, 0x5be0cd19⟩

def roundConstants : List Word :=
  [0x428a2f98, 0x71374491, 0xb5c0fbcf, 0xe9b5dba5, 0x3956c25b, 0x59f111f1, 0x923f82a4, 0xab1c5ed5,
    0xd807aa98, 0x12835b01, 0x243185be, 0x550c7dc3, 0x72be5d74, 0x80deb1fe, 0x9bdc06a7, 0xc19bf174,
    0xe49b69c1, 0xefbe4786, 0x0fc19dc6, 0x240ca1cc, 0x2de92c6f, 0x4a7484aa, 0x5cb0a9dc, 0x76f988da,
    0x983e5152, 0xa831c66d, 0xb00327c8, 0xbf597fc7, 0xc6e00bf3, 0xd5a79147, 0x06ca6351, 0x14292967,
    0x27b70a85, 0x2e1b2138, 0x4d2c6dfc, 0x53380d13, 0x650a7354, 0x766a0abb, 0x81c2c92e, 0x92722c85,
    0xa2bfe8a1, 0xa81a664b, 0xc24b8b70, 0xc76c51a3, 0xd192e819, 0xd6990624, 0xf40e3585, 0x106aa070,
    0x19a4c116, 0x1e376c08, 0x2748774c, 0x34b0bcb5, 0x391c0cb3, 0x4ed8aa4a, 0x5b9cca4f, 0x682e6ff3,
    0x748f82ee, 0x78a5636f, 0x84c87814, 0x8cc70208, 0x90befffa, 0xa4506ceb, 0xbef9a3f7, 0xc67178f2]

/-- Append the marker bit, the zero bytes and the 64-bit message length. -/
def pad (bytes : List UInt8) : List UInt8 :=
  bytes ++ 0x80 :: List.replicate ((119 - bytes.length % 64) % 64) 0 ++
    (List.range 8).map fun index => UInt8.ofNat (bytes.length * 8 / 256 ^ (7 - index))

/-- Read whole big-endian words. -/
def words : List UInt8 → List Word
  | b₀ :: b₁ :: b₂ :: b₃ :: rest =>
    BitVec.ofNat 32 (((b₀.toNat * 256 + b₁.toNat) * 256 + b₂.toNat) * 256 + b₃.toNat) :: words rest
  | _ => []

/-- The message schedule in reverse: each round prepends one more word. -/
def extend : ℕ → List Word → List Word
  | 0, schedule => schedule
  | rounds + 1, schedule =>
    let word (index : ℕ) := schedule.getD index 0
    let small₀ := (word 14).rotateRight 7 ^^^ (word 14).rotateRight 18 ^^^ (word 14) >>> 3
    let small₁ := (word 1).rotateRight 17 ^^^ (word 1).rotateRight 19 ^^^ (word 1) >>> 10
    extend rounds ((small₁ + word 6 + small₀ + word 15) :: schedule)

def round (state : State) (input : Word × Word) : State :=
  let large₁ := state.e.rotateRight 6 ^^^ state.e.rotateRight 11 ^^^ state.e.rotateRight 25
  let choice := (state.e &&& state.f) ^^^ (~~~state.e &&& state.g)
  let first := state.h + large₁ + choice + input.1 + input.2
  let large₀ := state.a.rotateRight 2 ^^^ state.a.rotateRight 13 ^^^ state.a.rotateRight 22
  let majority := (state.a &&& state.b) ^^^ (state.a &&& state.c) ^^^ (state.b &&& state.c)
  ⟨first + large₀ + majority, state.a, state.b, state.c, state.d + first, state.e, state.f, state.g⟩

def compress (state : State) (block : List Word) : State :=
  let schedule := (extend 48 block.reverse).reverse
  let next := (roundConstants.zip schedule).foldl round state
  ⟨state.a + next.a, state.b + next.b, state.c + next.c, state.d + next.d,
    state.e + next.e, state.f + next.f, state.g + next.g, state.h + next.h⟩

/-- Fold the compression over sixteen-word blocks; the first argument bounds their number. -/
def blocks : ℕ → State → List Word → State
  | 0, state, _ => state
  | count + 1, state, input =>
    if input.isEmpty then state
    else blocks count (compress state (input.take 16)) (input.drop 16)

def digest (bytes : List UInt8) : List Word :=
  let input := words (pad bytes)
  let final := blocks (input.length / 16) initialState input
  [final.a, final.b, final.c, final.d, final.e, final.f, final.g, final.h]

def hexDigit (value : ℕ) : Char :=
  if value < 10 then Char.ofNat (48 + value) else Char.ofNat (87 + value)

def hexWord (word : Word) : List Char :=
  (List.range 8).map fun index => hexDigit (word.toNat / 16 ^ (7 - index) % 16)

/-- `sha256(bytes).hexdigest()`. -/
def hexdigest (bytes : List UInt8) : List Char := (digest bytes).flatMap hexWord

/-- A lowercase hexadecimal character. -/
def isHexDigit (c : Char) : Bool := ('0' ≤ c && c ≤ '9') || ('a' ≤ c && c ≤ 'f')

private theorem isHexDigit_hexDigit : ∀ value < 16, isHexDigit (hexDigit value) = true := by decide

theorem hexdigest_length (bytes : List UInt8) : (hexdigest bytes).length = 64 := by
  simp [hexdigest, digest, hexWord]

theorem isHexDigit_of_mem_hexdigest {bytes : List UInt8} {c : Char} (member : c ∈ hexdigest bytes) :
    isHexDigit c = true := by
  obtain ⟨word, -, member⟩ := List.mem_flatMap.mp member
  obtain ⟨index, -, rfl⟩ := List.mem_map.mp member
  exact isHexDigit_hexDigit _ (Nat.mod_lt _ (by omega))

example : hexdigest [0x61, 0x62, 0x63] =
    "ba7816bf8f01cfea414140de5dae2223b00361a396177a9cb410ff61f20015ad".toList := by decide +kernel

end Sha256
