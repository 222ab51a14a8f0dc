import GlbDirector.ByteCodec
import Mathlib.Data.ZMod.Basic

/-!
# One's-complement sums

The Internet checksum adds the 16-bit words of a byte string and folds the
carries back until the sum fits in a word.  Folding keeps the residue modulo
`2 ^ 16 - 1`, and so does the reading of the whole string as one number: what
a checksum protects is the residue of that number.  In the other byte order
every residue is multiplied by 256.
-/

namespace OnesComplement

open ByteCodec

/-- The residues that folding keeps. -/
abbrev Residue := ZMod 0xffff

/-! ## Folding -/

/-- Add the carries back once. -/
def foldOnce (sum : ℕ) : ℕ := sum % 0x10000 + sum / 0x10000

/-- Fold until the sum fits in 16 bits. -/
def fold (sum : ℕ) : ℕ :=
  if sum < 0x10000 then sum else fold (foldOnce sum)
termination_by sum
decreasing_by
  unfold foldOnce
  omega

theorem cast_word_base : ((0x10000 : ℕ) : Residue) = 1 := rfl

theorem foldOnce_cast (sum : ℕ) : (foldOnce sum : Residue) = sum := by
  have hsplit := Nat.mod_add_div sum 0x10000
  calc (foldOnce sum : Residue)
      = (sum % 0x10000 : ℕ) + ((0x10000 : ℕ) : Residue) *
          (sum / 0x10000 : ℕ) := by
        rw [foldOnce, Nat.cast_add, cast_word_base, one_mul]
    _ = sum := by rw [← Nat.cast_mul, ← Nat.cast_add, hsplit]

theorem fold_lt (sum : ℕ) : fold sum < 0x10000 := by
  induction sum using fold.induct with
  | case1 sum hsmall =>
      rw [fold, if_pos hsmall]
      exact hsmall
  | case2 sum hlarge ih =>
      rw [fold, if_neg hlarge]
      exact ih

theorem fold_cast (sum : ℕ) : (fold sum : Residue) = sum := by
  induction sum using fold.induct with
  | case1 sum hsmall => rw [fold, if_pos hsmall]
  | case2 sum hlarge ih => rw [fold, if_neg hlarge, ih, foldOnce_cast]

theorem fold_pos {sum : ℕ} (hpos : 0 < sum) : 0 < fold sum := by
  induction sum using fold.induct with
  | case1 sum hsmall =>
      rw [fold, if_pos hsmall]
      exact hpos
  | case2 sum hlarge ih =>
      rw [fold, if_neg hlarge]
      apply ih
      unfold foldOnce
      omega

/-- A positive sum folds to all ones when its residue is zero. -/
theorem fold_eq_ones_iff {sum : ℕ} (hpos : 0 < sum) :
    fold sum = 0xffff ↔ (sum : Residue) = 0 := by
  rw [← fold_cast sum, ZMod.natCast_eq_zero_iff]
  have hlt := fold_lt sum
  have hfold := fold_pos hpos
  omega

theorem fold_of_lt {sum : ℕ} (hsmall : sum < 0x10000) : fold sum = sum := by
  rw [fold, if_pos hsmall]

/-- Positive sums of one residue fold to one word. -/
theorem fold_eq_of_cast {sum sum' : ℕ} (hpos : 0 < sum) (hpos' : 0 < sum')
    (hcast : (sum : Residue) = sum') : fold sum = fold sum' := by
  rw [← fold_cast sum, ← fold_cast sum', ZMod.natCast_eq_natCast_iff'] at hcast
  have hlt := fold_lt sum
  have hlt' := fold_lt sum'
  have hfold := fold_pos hpos
  have hfold' := fold_pos hpos'
  omega

/-- A sum is its own checksum only if it is zero, and zero is written as all
ones. -/
theorem fold_eq_check_iff {sum check : ℕ} (hpos : 0 < sum)
    (hcheck : check < 0x10000) (hzero : (check : Residue) + sum = 0) :
    fold sum = check ↔ (sum : Residue) = 0 ∧ check ≠ 0 := by
  constructor
  · intro hfold
    have hdouble : (2 : Residue) * sum = 0 := by
      rw [← hfold, fold_cast] at hzero
      linear_combination hzero
    have hhalf : (32768 : Residue) * 2 = 1 := rfl
    refine ⟨?_, ?_⟩
    · linear_combination (32768 : Residue) * hdouble - (sum : Residue) * hhalf
    · rw [← hfold]
      exact (fold_pos hpos).ne'
  · rintro ⟨hsum, hne⟩
    have hword : (check : Residue) = 0 := by
      rw [hsum, add_zero] at hzero
      exact hzero
    rw [(fold_eq_ones_iff hpos).mpr hsum, ← fold_of_lt hcheck]
    exact ((fold_eq_ones_iff (Nat.pos_of_ne_zero hne)).mpr hword).symm

/-! ## Byte strings -/

/-- The sum of the words in network order; a last odd byte is the high byte
of a word. -/
def wordSum : Bytes → ℕ
  | [] => 0
  | [high] => 256 * high.toNat
  | high :: low :: rest => 256 * high.toNat + low.toNat + wordSum rest

/-- The string carries a valid checksum. -/
def Verifies (bytes : Bytes) : Prop := fold (wordSum bytes) = 0xffff

/-- What a checksum sees of a byte string. -/
def residue (bytes : Bytes) : Residue := leNat bytes

theorem residue_nil : residue [] = 0 := rfl

theorem residue_cons (byte : UInt8) (rest : Bytes) :
    residue (byte :: rest) = (byte.toNat : Residue) + 256 * residue rest := by
  simp [residue, leNat]

theorem cast_byte_base_sq : (256 : Residue) * 256 = 1 := rfl

theorem wordSum_cast (bytes : Bytes) :
    (wordSum bytes : Residue) = 256 * residue bytes := by
  induction bytes using wordSum.induct with
  | case1 => simp [wordSum, residue_nil]
  | case2 high => simp [wordSum, residue_cons, residue_nil]
  | case3 high low rest ih =>
      simp only [wordSum, Nat.cast_add, Nat.cast_mul, Nat.cast_ofNat, ih,
        residue_cons]
      linear_combination
        (-(low.toNat : Residue) - 256 * residue rest) * cast_byte_base_sq

theorem wordSum_pos {bytes : Bytes} (hpos : 0 < leNat bytes) :
    0 < wordSum bytes := by
  induction bytes using wordSum.induct with
  | case1 => exact hpos
  | case2 high =>
      simp only [leNat] at hpos
      simp only [wordSum]
      omega
  | case3 high low rest ih =>
      simp only [leNat] at hpos
      simp only [wordSum]
      by_cases hrest : 0 < leNat rest
      · have hsum := ih hrest
        omega
      · omega

theorem verifies_iff {bytes : Bytes} (hpos : 0 < leNat bytes) :
    Verifies bytes ↔ residue bytes = 0 := by
  rw [Verifies, fold_eq_ones_iff (wordSum_pos hpos), wordSum_cast]
  constructor
  · intro hzero
    have hboth := congrArg (256 * ·) hzero
    simpa only [← mul_assoc, cast_byte_base_sq, one_mul, mul_zero] using hboth
  · intro hzero
    rw [hzero, mul_zero]

/-- The sum of the words in the order of a little-endian host; a last odd byte
is the low byte of a word. -/
def hostSum : Bytes → ℕ
  | [] => 0
  | [low] => low.toNat
  | low :: high :: rest => low.toNat + 256 * high.toNat + hostSum rest

theorem hostSum_cast (bytes : Bytes) :
    (hostSum bytes : Residue) = residue bytes := by
  induction bytes using hostSum.induct with
  | case1 => simp [hostSum, residue_nil]
  | case2 low => simp [hostSum, residue_cons, residue_nil]
  | case3 low high rest ih =>
      simp only [hostSum, Nat.cast_add, Nat.cast_mul, Nat.cast_ofNat, ih,
        residue_cons]
      linear_combination -residue rest * cast_byte_base_sq

theorem hostSum_pos {bytes : Bytes} (hpos : 0 < leNat bytes) :
    0 < hostSum bytes := by
  induction bytes using hostSum.induct with
  | case1 => exact hpos
  | case2 low =>
      simp only [leNat] at hpos
      simp only [hostSum]
      omega
  | case3 low high rest ih =>
      simp only [leNat] at hpos
      simp only [hostSum]
      by_cases hrest : 0 < leNat rest
      · have hsum := ih hrest
        omega
      · omega

/-! ## Parts of a byte string -/

theorem residue_append (front back : Bytes) :
    residue (front ++ back) =
      residue front + 256 ^ front.length * residue back := by
  induction front with
  | nil => simp [residue_nil]
  | cons byte rest ih =>
      simp only [List.cons_append, residue_cons, ih, List.length_cons,
        pow_succ']
      ring

theorem byte_base_pow_even {n : ℕ} (heven : Even n) :
    (256 : Residue) ^ n = 1 := by
  obtain ⟨half, rfl⟩ := heven
  rw [pow_add, ← mul_pow, cast_byte_base_sq, one_pow]

theorem residue_append_of_even {front : Bytes} (back : Bytes)
    (heven : Even front.length) :
    residue (front ++ back) = residue front + residue back := by
  rw [residue_append, byte_base_pow_even heven, one_mul]

theorem leNat_append_pos_left {front : Bytes} (back : Bytes)
    (hpos : 0 < leNat front) : 0 < leNat (front ++ back) := by
  induction front with
  | nil => exact absurd hpos (lt_irrefl 0)
  | cons byte rest ih =>
      simp only [leNat, List.cons_append] at hpos ⊢
      by_cases hrest : 0 < leNat rest
      · have hmore := ih hrest
        omega
      · omega

theorem leNat_append_pos_right (front : Bytes) {back : Bytes}
    (hpos : 0 < leNat back) : 0 < leNat (front ++ back) := by
  induction front with
  | nil => exact hpos
  | cons byte rest ih =>
      simp only [leNat, List.cons_append]
      omega

theorem leNat_u16le (value : UInt16) : leNat (u16le value) = value.toNat := by
  have hlt : value.toNat < 256 ^ 2 := value.toNat_lt
  rw [u16le, leNat_leBytes, Nat.mod_eq_of_lt hlt]

theorem residue_u16le (value : UInt16) :
    residue (u16le value) = (value.toNat : Residue) := by
  rw [residue, leNat_u16le]

theorem residue_u32le (value : UInt32) :
    residue (u32le value) = (value.toNat : Residue) := by
  have hlt : value.toNat < 256 ^ 4 := value.toNat_lt
  rw [residue, u32le, leNat_leBytes, Nat.mod_eq_of_lt hlt]

theorem residue_u16le_append (value : UInt16) (rest : Bytes) :
    residue (u16le value ++ rest) = (value.toNat : Residue) + residue rest := by
  rw [residue_append_of_even rest (u16le_length value ▸ even_two),
    residue_u16le]

theorem residue_u32le_append (value : UInt32) (rest : Bytes) :
    residue (u32le value ++ rest) = (value.toNat : Residue) + residue rest := by
  have heven : Even (u32le value).length := by
    rw [u32le_length]
    decide
  rw [residue_append_of_even rest heven, residue_u32le]

end OnesComplement
