import GlbDirector.AclMatch

/-!
# Prefix masks

A mask whose ones come first keeps the first bits of a number, and two masked
numbers are equal when the numbers agree on these bits.  Bytes are masked one
by one, so a mask in network order works on words that were loaded in the order
of a little-endian host.
-/

namespace PrefixMasks

open ByteCodec AclMatch

theorem and_leading_ones {x width free : ℕ} (hx : x < 2 ^ width)
    (hfree : free ≤ width) :
    x &&& (2 ^ width - 2 ^ free) = x / 2 ^ free * 2 ^ free := by
  have hpow : 2 ^ width = 2 ^ (width - free) * 2 ^ free := by
    rw [← pow_add, Nat.sub_add_cancel hfree]
  have hmask : 2 ^ width - 2 ^ free =
      (2 ^ (width - free) - 1) * 2 ^ free := by
    rw [hpow, Nat.sub_mul, one_mul]
  have hquotient : (x &&& (2 ^ width - 2 ^ free)) / 2 ^ free =
      x / 2 ^ free := by
    have hlt : x / 2 ^ free < 2 ^ (width - free) := by
      rw [Nat.div_lt_iff_lt_mul (Nat.two_pow_pos _), ← hpow]
      exact hx
    rw [Nat.and_div_two_pow, hmask, Nat.mul_div_cancel _ (Nat.two_pow_pos _),
      Nat.and_two_pow_sub_one_eq_mod, Nat.mod_eq_of_lt hlt]
  have hremainder : (x &&& (2 ^ width - 2 ^ free)) % 2 ^ free = 0 := by
    rw [Nat.and_mod_two_pow, hmask, Nat.mul_mod_left, Nat.and_zero]
  have hsplit := Nat.div_add_mod (x &&& (2 ^ width - 2 ^ free)) (2 ^ free)
  rw [hquotient, hremainder, Nat.add_zero, Nat.mul_comm] at hsplit
  exact hsplit.symm

theorem and_leading_ones_eq_iff {x y width bits : ℕ} (hx : x < 2 ^ width)
    (hy : y < 2 ^ width) :
    x &&& (2 ^ width - 2 ^ (width - bits)) =
        y &&& (2 ^ width - 2 ^ (width - bits)) ↔
      SamePrefix width bits x y := by
  rw [and_leading_ones hx (Nat.sub_le _ _), and_leading_ones hy
    (Nat.sub_le _ _), SamePrefix]
  exact Nat.mul_left_inj (Nat.two_pow_pos _).ne'

/-! ## Bytes -/

def andBytes (bytes mask : Bytes) : Bytes :=
  List.zipWith (· &&& ·) bytes mask

theorem add_and_add {low low' : ℕ} (high high' : ℕ) (hlow : low < 256)
    (hlow' : low' < 256) :
    (low + 256 * high) &&& (low' + 256 * high') =
      (low &&& low') + 256 * (high &&& high') := by
  have hdiv : ((low + 256 * high) &&& (low' + 256 * high')) / 2 ^ 8 =
      high &&& high' := by
    rw [Nat.and_div_two_pow]
    congr 1
    · omega
    · omega
  have hmod : ((low + 256 * high) &&& (low' + 256 * high')) % 2 ^ 8 =
      low &&& low' := by
    rw [Nat.and_mod_two_pow]
    congr 1
    · omega
    · omega
  omega

theorem leNat_andBytes {bytes mask : Bytes}
    (hlength : bytes.length = mask.length) :
    leNat (andBytes bytes mask) = leNat bytes &&& leNat mask := by
  induction bytes generalizing mask with
  | nil => exact (Nat.zero_and _).symm
  | cons byte bytes ih =>
      cases mask with
      | nil => cases hlength
      | cons ones mask =>
          have hrest := ih (Nat.succ.inj hlength)
          have hbyte : byte.toNat < 256 := byte.toNat_lt
          have hones : ones.toNat < 256 := ones.toNat_lt
          simp only [andBytes, List.zipWith_cons_cons, leNat] at hrest ⊢
          rw [hrest, UInt8.toNat_and, add_and_add _ _ hbyte hones]

theorem andBytes_length {bytes mask : Bytes}
    (hlength : bytes.length = mask.length) :
    (andBytes bytes mask).length = mask.length := by
  rw [andBytes, List.length_zipWith, hlength, min_self]

theorem beNat_andBytes {bytes mask : Bytes}
    (hlength : bytes.length = mask.length) :
    beNat (andBytes bytes mask) = beNat bytes &&& beNat mask := by
  rw [beNat, andBytes, List.reverse_zipWith hlength]
  exact leNat_andBytes (by rw [List.length_reverse, List.length_reverse,
    hlength])

theorem wordU32_and {bytes mask : Bytes} (hlength : bytes.length = mask.length) :
    wordU32 bytes &&& wordU32 mask = wordU32 (andBytes bytes mask) := by
  rw [wordU32, wordU32, wordU32, leNat_andBytes hlength]
  exact (UInt32.ofNat_and _ _).symm

/-- Words loaded on a little-endian host, masked in network order. -/
theorem masked_words_eq_iff {addr net mask : Bytes} {bits : ℕ}
    (haddr : addr.length = 4) (hnet : net.length = 4) (hmask : mask.length = 4)
    (hones : beNat mask = 2 ^ 32 - 2 ^ (32 - bits)) :
    wordU32 addr &&& wordU32 mask = wordU32 net &&& wordU32 mask ↔
      SamePrefix 32 bits (beNat addr) (beNat net) := by
  have hsame : addr.length = mask.length := haddr.trans hmask.symm
  have hsame' : net.length = mask.length := hnet.trans hmask.symm
  have hbytes : wordU32 (andBytes addr mask) = wordU32 (andBytes net mask) ↔
      andBytes addr mask = andBytes net mask := by
    constructor
    · intro hword
      have hload := congrArg u32le hword
      rwa [u32le_wordU32 ((andBytes_length hsame).trans hmask),
        u32le_wordU32 ((andBytes_length hsame').trans hmask)] at hload
    · intro hbytes
      rw [hbytes]
  have hvalues : andBytes addr mask = andBytes net mask ↔
      beNat (andBytes addr mask) = beNat (andBytes net mask) := by
    rw [beNat_inj ((andBytes_length hsame).trans
      (andBytes_length hsame').symm)]
  rw [wordU32_and hsame, wordU32_and hsame', hbytes, hvalues,
    beNat_andBytes hsame, beNat_andBytes hsame', hones]
  exact and_leading_ones_eq_iff (beNat_word_lt haddr) (beNat_word_lt hnet)

end PrefixMasks
