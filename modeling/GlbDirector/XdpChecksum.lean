import GlbDirector.OnesComplement
import GlbDirector.XdpDirector

/-!
# The outer checksum of the XDP director

`compute_ipv4_checksum` adds the ten words of the header and folds the carries
once.  One fold is enough unless it produces another carry; in that case the
stored checksum is one too large and no receiver accepts the header.
-/

namespace GlbDirector

open ByteCodec OnesComplement

/-! ## Words of a header -/

/-- The words that a little-endian host loads, added without a bound. -/
def hostWordSum (words : ℕ) (header : Bytes) : ℕ :=
  ((List.range words).map fun i => (fieldU16 (2 * i) header).toNat).sum

theorem hostWordSum_succ (words : ℕ) (first second : UInt8) (rest : Bytes) :
    hostWordSum (words + 1) (first :: second :: rest) =
      (first.toNat + 256 * second.toNat) + hostWordSum words rest := by
  have hword : (fieldU16 0 (first :: second :: rest)).toNat =
      first.toNat + 256 * second.toNat := by
    have hfirst := first.toNat_lt
    have hsecond := second.toNat_lt
    simp only [fieldU16, wordU16, List.drop_zero, List.take_succ_cons,
      List.take_zero, leNat, UInt16.toNat_ofNat']
    omega
  rw [hostWordSum, List.range_succ_eq_map, List.map_cons, List.sum_cons,
    List.map_map, Nat.mul_zero, hword]
  rfl

/-- The host's words carry the residue of the header. -/
theorem hostWordSum_cast {words : ℕ} {header : Bytes}
    (hlength : header.length = 2 * words) :
    (hostWordSum words header : Residue) = residue header := by
  induction words generalizing header with
  | zero =>
      obtain rfl := List.length_eq_zero_iff.mp hlength
      simp [hostWordSum, residue_nil]
  | succ words ih =>
      match header, hlength with
      | first :: second :: rest, hlength =>
          have hrest : rest.length = 2 * words := by
            simp only [List.length_cons] at hlength
            omega
          rw [hostWordSum_succ, Nat.cast_add, ih hrest, residue_cons,
            residue_cons]
          push_cast
          linear_combination -residue rest * cast_byte_base_sq

theorem hostWordSum_le (words : ℕ) (header : Bytes) :
    hostWordSum words header ≤ 0xffff * words := by
  induction words with
  | zero => rfl
  | succ words ih =>
      have hword := (fieldU16 (2 * words) header).toNat_lt
      rw [hostWordSum, List.range_succ, List.map_append, List.sum_append]
      simp only [List.map_cons, List.map_nil, List.sum_cons, List.sum_nil]
      unfold hostWordSum at ih
      omega

/-! ## `compute_ipv4_checksum` -/

/-- Ten words do not fill the 64-bit accumulator. -/
theorem accumulator_toNat {words : ℕ} (hwords : words ≤ 10)
    (header : Bytes) :
    ((List.range words).map fun i =>
      (fieldU16 (2 * i) header).toUInt64).sum.toNat =
        hostWordSum words header := by
  induction words with
  | zero => rfl
  | succ words ih =>
      have hbefore := ih (by omega)
      have hbound := hostWordSum_le words header
      have hword := (fieldU16 (2 * words) header).toNat_lt
      have hsum : hostWordSum (words + 1) header =
          hostWordSum words header + (fieldU16 (2 * words) header).toNat := by
        simp only [hostWordSum, List.range_succ, List.map_append,
          List.sum_append, List.map_cons, List.map_nil, List.sum_cons,
          List.sum_nil, Nat.add_zero]
      rw [List.range_succ, List.map_append, List.sum_append]
      simp only [List.map_cons, List.map_nil, List.sum_cons, List.sum_nil,
        UInt64.toNat_add, UInt64.toNat_zero, UInt16.toNat_toUInt64, hbefore,
        hsum]
      omega

theorem computeIpv4Checksum_toNat (header : Bytes) :
    (computeIpv4Checksum header).toNat =
      0xffff - foldOnce (hostWordSum 10 header) % 0x10000 := by
  have hbound := hostWordSum_le 10 header
  have hacc := accumulator_toNat le_rfl header
  have hfold : (((List.range 10).map fun i =>
        (fieldU16 (2 * i) header).toUInt64).sum &&& (0xffff : UInt64)).toNat +
      (((List.range 10).map fun i =>
        (fieldU16 (2 * i) header).toUInt64).sum >>> (16 : UInt64)).toNat =
      foldOnce (hostWordSum 10 header) := by
    rw [UInt64.toNat_and, UInt64.toNat_shiftRight, hacc, foldOnce]
    change (hostWordSum 10 header &&& (2 ^ 16 - 1)) +
      hostWordSum 10 header >>> 16 = _
    rw [Nat.and_two_pow_sub_one_eq_mod, Nat.shiftRight_eq_div_pow]
  have hsize : UInt64.size = 2 ^ 64 := rfl
  rw [computeIpv4Checksum]
  simp only [UInt64.toNat_toUInt16, UInt64.toNat_not, UInt64.toNat_add, hfold]
  unfold foldOnce
  omega

/-- What the checksum leaves of the residue: nothing, or one when the fold
carries again. -/
theorem checksum_residue (header : Bytes) :
    (hostWordSum 10 header + (computeIpv4Checksum header).toNat : Residue) =
      if foldOnce (hostWordSum 10 header) < 0x10000 then 0 else 1 := by
  have hbound := hostWordSum_le 10 header
  have hchecksum := computeIpv4Checksum_toNat header
  rw [← foldOnce_cast, ← Nat.cast_add]
  by_cases hfits : foldOnce (hostWordSum 10 header) < 0x10000
  · have htotal : foldOnce (hostWordSum 10 header) +
        (computeIpv4Checksum header).toNat = 0xffff := by omega
    rw [if_pos hfits, htotal]
    rfl
  · have htotal : foldOnce (hostWordSum 10 header) +
        (computeIpv4Checksum header).toNat = 0x1ffff := by
      have hsmall : foldOnce (hostWordSum 10 header) < 0x20000 := by
        unfold foldOnce
        omega
      omega
    rw [if_neg hfits, htotal]
    rfl

/-! ## The header that is sent -/

/-- The words of the outer header without its checksum: version and flags,
time to live and protocol, the length and the two addresses. -/
def outerSum (totalLength : UInt16) (source firstHop : UInt32) : ℕ :=
  0x45 + (htons totalLength).toNat + 0x40 + 0x1140 +
    (source.toNat % 0x10000 + source.toNat / 0x10000) +
    (firstHop.toNat % 0x10000 + firstHop.toNat / 0x10000)

theorem hostWordSum_u16le (words : ℕ) (value : UInt16) (rest : Bytes) :
    hostWordSum (words + 1) (u16le value ++ rest) =
      value.toNat + hostWordSum words rest := by
  have hlt := value.toNat_lt
  change hostWordSum (words + 1) (UInt8.ofNat value.toNat ::
    UInt8.ofNat (value.toNat / 256) :: rest) = _
  rw [hostWordSum_succ, UInt8.toNat_ofNat', UInt8.toNat_ofNat']
  omega

theorem hostWordSum_u32le (words : ℕ) (value : UInt32) (rest : Bytes) :
    hostWordSum (words + 2) (u32le value ++ rest) =
      value.toNat % 0x10000 + value.toNat / 0x10000 +
        hostWordSum words rest := by
  have hlt := value.toNat_lt
  change hostWordSum (words + 2) (UInt8.ofNat value.toNat ::
    UInt8.ofNat (value.toNat / 256) ::
      UInt8.ofNat (value.toNat / 256 / 256) ::
        UInt8.ofNat (value.toNat / 256 / 256 / 256) :: rest) = _
  rw [hostWordSum_succ, hostWordSum_succ]
  simp only [UInt8.toNat_ofNat']
  omega

theorem hostWordSum_xdpIpv4 (maps : XdpMaps) (ctx : RouteContext) :
    hostWordSum 10 (xdpIpv4 maps ctx 0) =
      outerSum (outerTotalLength ctx) (fieldU32 0 (maps.configBits 1))
        (ctx.ipv4Hops.getD 0 0) := by
  have hversion : hostWordSum 10 (xdpIpv4 maps ctx 0) = 0x45 +
      hostWordSum 9 ((xdpIpv4 maps ctx 0).drop 2) :=
    hostWordSum_succ 9 0x45 0 _
  have hend := hostWordSum_u32le 0 (ctx.ipv4Hops.getD 0 0) []
  rw [List.append_nil] at hend
  have hzero : ∀ rest : Bytes, ∀ words, hostWordSum (words + 1)
      (u16le 0 ++ rest) = hostWordSum words rest := by
    intro rest words
    rw [hostWordSum_u16le]
    exact Nat.zero_add _
  rw [hversion]
  simp only [xdpIpv4, List.cons_append, List.nil_append, List.drop_succ_cons,
    List.drop_zero]
  rw [hostWordSum_u16le 8, hzero _ 7, hostWordSum_u16le 6,
    hostWordSum_succ 5, hzero _ 4, hostWordSum_u32le 2, hend]
  have hflags : (htons 0x4000).toNat = 0x40 := by decide
  have hproto : (64 : UInt8).toNat + 256 * ipProtoUdp.toNat = 0x1140 := by
    decide
  simp only [outerSum, outerTotalLength, hflags, hproto, hostWordSum,
    List.range_zero, List.map_nil, List.sum_nil]
  omega

theorem xdpIpv4_length (maps : XdpMaps) (ctx : RouteContext)
    (checksum : UInt16) :
    (xdpIpv4 maps ctx checksum).length = ipv4HdrSize := by
  simp [xdpIpv4, ipv4HdrSize]

theorem residue_xdpIpv4 (maps : XdpMaps) (ctx : RouteContext)
    (checksum : UInt16) :
    residue (xdpIpv4 maps ctx checksum) =
      residue (xdpIpv4 maps ctx 0) + (checksum.toNat : Residue) := by
  simp only [xdpIpv4, List.cons_append, List.nil_append, residue_cons,
    residue_u16le_append, UInt16.toNat_zero, Nat.cast_zero]
  linear_combination (checksum.toNat : Residue) *
    (cast_byte_base_sq * (256 * 256) + cast_byte_base_sq)

theorem leNat_xdpIpv4_pos (maps : XdpMaps) (ctx : RouteContext)
    (checksum : UInt16) : 0 < leNat (xdpIpv4 maps ctx checksum) :=
  leNat_append_pos_left _ (by decide)

/-- The outer header is accepted exactly when folding the carries once is
enough. -/
theorem xdp_outer_checksum_iff (maps : XdpMaps) (ctx : RouteContext) :
    Verifies (xdpIpv4 maps ctx
        (computeIpv4Checksum (xdpIpv4 maps ctx 0))) ↔
      foldOnce (outerSum (outerTotalLength ctx)
        (fieldU32 0 (maps.configBits 1)) (ctx.ipv4Hops.getD 0 0)) <
          0x10000 := by
  have hlength : (xdpIpv4 maps ctx 0).length = 2 * 10 :=
    xdpIpv4_length maps ctx 0
  rw [verifies_iff (leNat_xdpIpv4_pos maps ctx _), residue_xdpIpv4,
    ← hostWordSum_cast hlength, checksum_residue, hostWordSum_xdpIpv4]
  split
  · rename_i hfits
    exact iff_of_true rfl hfits
  · rename_i hcarries
    exact iff_of_false (by decide) hcarries

/-! ## A header whose sum carries twice -/

/-- The director at 192.168.100.36. -/
def carryMaps : XdpMaps :=
  { freshMaps with configBits := fun _ => [192, 168, 100, 36, 0, 0] }

/-- A packet of 300 bytes on its way to 192.168.85.36. -/
def carryRoute : RouteContext where
  fields :=
    { etherType := etherTypeIpv4
      origDstMac := List.replicate 6 0
      ipTotalLength := 300
      srcAddr := [10, 0, 0, 1]
      dstAddr := [10, 0, 0, 2]
      srcPort := 0
      dstPort := 0
      flowHashHint := 0
      gueIpproto := ipProtoIpipv4
      originalIpproto := ipProtoTcp }
  ipv4Hops := [wordU32 [192, 168, 85, 36], wordU32 [192, 168, 85, 37]]
  pktHash := 0

theorem carryRoute_not_verified :
    ¬ Verifies (xdpIpv4 carryMaps carryRoute
      (computeIpv4Checksum (xdpIpv4 carryMaps carryRoute 0))) := by
  rw [verifies_iff (leNat_xdpIpv4_pos carryMaps carryRoute _), residue,
    ZMod.natCast_eq_zero_iff]
  decide +kernel

end GlbDirector
