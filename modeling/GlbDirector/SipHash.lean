import GlbDirector.ByteCodec

/-!
# SipHash-2-4: the reference and the unrolled version

`siphash` follows `siphash24.c`, which the table builder uses for its sort
keys.  `glbSiphash` follows `glb_siphash24.h`, which the directors use for
packet hashes: the loop over the input is unrolled to five conditional rounds
over a zeroed 40-byte buffer.  Both are the default build (`DOUBLE` unset) on
a little-endian host.
-/

namespace GlbDirector

open ByteCodec

structure SipState where
  v0 : UInt64
  v1 : UInt64
  v2 : UInt64
  v3 : UInt64
  deriving DecidableEq, Repr

def rotl (x b : UInt64) : UInt64 := (x <<< b) ||| (x >>> (64 - b))

def sipround (state : SipState) : SipState :=
  let v0 := state.v0 + state.v1
  let v1 := rotl state.v1 13
  let v1 := v1 ^^^ v0
  let v0 := rotl v0 32
  let v2 := state.v2 + state.v3
  let v3 := rotl state.v3 16
  let v3 := v3 ^^^ v2
  let v0 := v0 + v3
  let v3 := rotl v3 21
  let v3 := v3 ^^^ v0
  let v2 := v2 + v1
  let v1 := rotl v1 17
  let v1 := v1 ^^^ v2
  let v2 := rotl v2 32
  { v0, v1, v2, v3 }

/-- One message word: `v3 ^= m`, two rounds, `v0 ^= m`. -/
def sipAbsorb (m : UInt64) (state : SipState) : SipState :=
  let mixed := sipround (sipround { state with v3 := state.v3 ^^^ m })
  { mixed with v0 := mixed.v0 ^^^ m }

def sipInit (k0 k1 : UInt64) : SipState where
  v0 := 0x736f6d6570736575 ^^^ k0
  v1 := 0x646f72616e646f6d ^^^ k1
  v2 := 0x6c7967656e657261 ^^^ k0
  v3 := 0x7465646279746573 ^^^ k1

/-- `v2 ^= 0xff`, four rounds, and the fold of the four words. -/
def sipFinish (state : SipState) : UInt64 :=
  let last := sipround (sipround (sipround (sipround
    { state with v2 := state.v2 ^^^ 0xff })))
  last.v0 ^^^ last.v1 ^^^ last.v2 ^^^ last.v3

/-! ## The reference (`siphash24.c`) -/

/-- The bytes of a word or of the final partial word, each shifted to its
place and joined by `|`: `U8TO64_LE` on eight bytes, the fall-through switch
on fewer. -/
def orShifted : UInt64 → Bytes → UInt64
  | _, [] => 0
  | shift, byte :: rest =>
      (byte.toUInt64 <<< shift) ||| orShifted (shift + 8) rest

def u8to64Le (p : Bytes) : UInt64 := orShifted 0 (p.take 8)

def sipWords : ℕ → Bytes → SipState → SipState
  | 0, _, state => state
  | blocks + 1, input, state =>
      sipWords blocks (input.drop 8) (sipAbsorb (u8to64Le input) state)

def siphash (input k : Bytes) : Bytes :=
  let blocks := input.length / 8
  let state := sipWords blocks input
    (sipInit (u8to64Le k) (u8to64Le (k.drop 8)))
  let b := (UInt64.ofNat input.length <<< 56) |||
    orShifted 0 (input.drop (8 * blocks))
  u64le (sipFinish (sipAbsorb b state))

@[simp] theorem siphash_length (input k : Bytes) :
    (siphash input k).length = 8 := by
  simp [siphash]

example : siphash ((List.range 15).map UInt8.ofNat)
    ((List.range 16).map UInt8.ofNat) =
    [0xe5, 0x45, 0xbe, 0x49, 0x61, 0xca, 0x29, 0xa1] := by
  decide +kernel

/-! ## The unrolled version (`glb_siphash24.h`) -/

def glbSiphashRequiredInSize : ℕ := 40

/-- `none` when the length check rejects the call and `out` keeps its value. -/
def glbSiphash (input : Bytes) (inlen : ℕ) (k : Bytes) : Option UInt64 :=
  let numRounds := inlen / 8 + 1
  if glbSiphashRequiredInSize ≤ inlen then
    none
  else
    let chunk := fun i => wordU64 ((input.drop (8 * i)).take 8)
    let roundData := fun i =>
      if i = numRounds - 1 then
        chunk i ||| (UInt64.ofNat inlen <<< 56)
      else
        chunk i
    let state := sipInit (wordU64 (k.take 8)) (wordU64 ((k.drop 8).take 8))
    let state := sipAbsorb (roundData 0) state
    let state := if numRounds > 1 then sipAbsorb (roundData 1) state else state
    let state := if numRounds > 2 then sipAbsorb (roundData 2) state else state
    let state := if numRounds > 3 then sipAbsorb (roundData 3) state else state
    let state := if numRounds > 4 then sipAbsorb (roundData 4) state else state
    some (sipFinish state)

end GlbDirector
