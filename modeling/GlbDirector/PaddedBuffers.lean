import GlbDirector.ByteCodec

/-!
# Zero-padded buffers and their words

A buffer of fixed size holds an input at its start and zeros behind it.
Storing further bytes at the end of the input gives the buffer of the longer
input.  The whole words of the input are those of the buffer, and the next word
of the buffer is the rest of the input.  A loop whose passes are guarded by
their number runs as far as the guard allows.
-/

namespace PaddedBuffers

open ByteCodec

/-- The buffer has `size` bytes: the input, and zeros behind it. -/
structure Padded (size : ℕ) (input buf : Bytes) : Prop where
  hsize : buf.length = size
  hinput : buf.take input.length = input
  hzero : ∀ byte ∈ buf.drop input.length, byte = 0

def padded (size : ℕ) (input : Bytes) : Bytes :=
  input ++ List.replicate (size - input.length) 0

section Padding

variable {size : ℕ} {input : Bytes}

theorem padded_length (hfits : input.length ≤ size) :
    (padded size input).length = size := by
  rw [padded, List.length_append, List.length_replicate]
  omega

theorem padded_padded (hfits : input.length ≤ size) :
    Padded size input (padded size input) where
  hsize := padded_length hfits
  hinput := List.take_left
  hzero := by
    intro byte hbyte
    rw [padded, List.drop_left] at hbyte
    exact List.eq_of_mem_replicate hbyte

theorem Padded.eq {buf : Bytes} (hpadded : Padded size input buf) :
    buf = padded size input := by
  have hrest : (buf.drop input.length).length = size - input.length := by
    rw [List.length_drop, hpadded.hsize]
  have hzeros := List.eq_replicate_iff.mpr ⟨hrest, hpadded.hzero⟩
  calc buf = buf.take input.length ++ buf.drop input.length :=
        (List.take_append_drop _ _).symm
    _ = padded size input := by rw [hpadded.hinput, hzeros, padded]

/-- Bytes stored at the end of the input belong to the input. -/
theorem patch_padded (size : ℕ) (input more : Bytes) :
    patch input.length more (padded size input) =
      padded size (input ++ more) := by
  have hzeros : size - input.length - more.length =
      size - (input ++ more).length := by
    rw [List.length_append]
    omega
  have hpatch := patch_append_right input 0 more
    (List.replicate (size - input.length) 0)
  rw [Nat.add_zero] at hpatch
  rw [padded, hpatch, patch, List.take_zero, List.nil_append, Nat.zero_add,
    List.drop_replicate, hzeros, padded, List.append_assoc]

/-! ## Words -/

/-- The word that a little-endian host loads at position `i` of an array. -/
def wordAt (i : ℕ) (bytes : Bytes) : UInt64 :=
  wordU64 ((bytes.drop (8 * i)).take 8)

theorem leNat_zeros (count : ℕ) : leNat (List.replicate count 0) = 0 := by
  induction count with
  | zero => rfl
  | succ count ih =>
      rw [List.replicate_succ, leNat, ih]
      rfl

theorem leNat_append_zeros (bytes : Bytes) (count : ℕ) :
    leNat (bytes ++ List.replicate count 0) = leNat bytes := by
  induction bytes with
  | nil => exact leNat_zeros count
  | cons byte rest ih => rw [List.cons_append, leNat, leNat, ih]

theorem wordAt_padded {i : ℕ} (hwhole : 8 * (i + 1) ≤ input.length) :
    wordAt i (padded size input) = wordAt i input := by
  have hfirst : 8 ≤ (input.drop (8 * i)).length := by
    rw [List.length_drop]
    omega
  rw [wordAt, padded, List.drop_append_of_le_length (by omega),
    List.take_append_of_le_length hfirst, wordAt]

theorem wordAt_padded_rest (size : ℕ) (input : Bytes) :
    wordAt (input.length / 8) (padded size input) =
      wordU64 (input.drop (8 * (input.length / 8))) := by
  have hrest : (input.drop (8 * (input.length / 8))).length ≤ 8 := by
    rw [List.length_drop]
    omega
  rw [wordAt, padded, List.drop_append_of_le_length (by omega),
    List.take_append, List.take_of_length_le hrest, List.take_replicate,
    wordU64, leNat_append_zeros, wordU64]

end Padding

/-! ## Guarded passes -/

theorem foldl_range_guarded {σ : Type} (pass : ℕ → σ → σ) {passes bound : ℕ}
    (hbound : bound ≤ passes) (start : σ) :
    (List.range passes).foldl
        (fun s i => if i < bound then pass i s else s) start =
      (List.range bound).foldl (fun s i => pass i s) start := by
  induction passes, hbound using Nat.le_induction with
  | base =>
      apply List.foldl_ext
      intro s i hi
      rw [if_pos (List.mem_range.mp hi)]
  | succ passes hle ih =>
      rw [List.range_succ, List.foldl_append, ih, List.foldl_cons,
        List.foldl_nil, if_neg (Nat.not_lt.mpr hle)]

end PaddedBuffers
