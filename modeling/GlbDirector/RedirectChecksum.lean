import GlbDirector.OnesComplement
import GlbDirector.RedirectRun

/-!
# The UDP checksum along the proxies

A proxy that forwards a packet updates the checksum for the three things it
rewrites: `next_hop`, which is the low byte of its word on a little-endian
host, the source address that goes away and the alternate that comes in.  The
kernel's updates are exact modulo `2 ^ 16 - 1`, which is all that a receiver
checks.
-/

namespace GlbDirector

open ByteCodec OnesComplement

/-! ## The kernel's updates as residues -/

theorem cast_not16 (x : UInt16) :
    ((~~~x).toNat : Residue) = -(x.toNat : Residue) := by
  have hlt := x.toNat_lt
  have hsize : UInt16.size = 0x10000 := rfl
  have htotal : (~~~x).toNat + x.toNat = 0xffff := by
    rw [UInt16.toNat_not]
    omega
  rw [eq_neg_iff_add_eq_zero, ← Nat.cast_add, htotal]
  rfl

theorem cast_not32 (x : UInt32) :
    ((~~~x).toNat : Residue) = -(x.toNat : Residue) := by
  have hlt := x.toNat_lt
  have hsize : UInt32.size = 0x100000000 := rfl
  have htotal : (~~~x).toNat + x.toNat = 0xffff * 0x10001 := by
    rw [UInt32.toNat_not]
    omega
  rw [eq_neg_iff_add_eq_zero, ← Nat.cast_add, htotal]
  rfl

/-- An addition that gives its carry back. -/
theorem cast_of_endAround {total wide result : ℕ}
    (hwide : (wide : Residue) = 0)
    (hcases : result = total ∨ result + wide = total) :
    (result : Residue) = total := by
  rcases hcases with hsum | hsum
  · rw [hsum]
  · rw [← hsum, Nat.cast_add, hwide, add_zero]

theorem csum16Add_cast (csum addend : UInt16) :
    ((csum16Add csum addend).toNat : Residue) =
      csum.toNat + addend.toNat := by
  have hcsum := csum.toNat_lt
  have haddend := addend.toNat_lt
  have hcases : (csum16Add csum addend).toNat = csum.toNat + addend.toNat ∨
      (csum16Add csum addend).toNat + 0xffff =
        csum.toNat + addend.toNat := by
    unfold csum16Add
    simp only [UInt16.lt_iff_toNat_lt, UInt16.toNat_add]
    split
    · rw [UInt16.toNat_add, UInt16.toNat_add, UInt16.toNat_one]
      omega
    · rw [UInt16.toNat_add]
      omega
  rw [← Nat.cast_add]
  exact cast_of_endAround (show ((0xffff : ℕ) : Residue) = 0 from rfl) hcases

theorem csumAdd_cast (csum addend : UInt32) :
    ((csumAdd csum addend).toNat : Residue) =
      csum.toNat + addend.toNat := by
  have hcsum := csum.toNat_lt
  have haddend := addend.toNat_lt
  have hcases : (csumAdd csum addend).toNat = csum.toNat + addend.toNat ∨
      (csumAdd csum addend).toNat + 0xffff * 0x10001 =
        csum.toNat + addend.toNat := by
    unfold csumAdd
    simp only [UInt32.lt_iff_toNat_lt, UInt32.toNat_add]
    split
    · rw [UInt32.toNat_add, UInt32.toNat_add, UInt32.toNat_one]
      omega
    · rw [UInt32.toNat_add]
      omega
  rw [← Nat.cast_add]
  exact cast_of_endAround
    (show ((0xffff * 0x10001 : ℕ) : Residue) = 0 from rfl) hcases

theorem csumFold_cast (csum : UInt32) :
    ((csumFold csum).toNat : Residue) = -(csum.toNat : Residue) := by
  have hcsum := csum.toNat_lt
  have honce : ∀ x : UInt32,
      ((x &&& (0xffff : UInt32)) + (x >>> (16 : UInt32))).toNat =
        foldOnce x.toNat := by
    intro x
    have hx := x.toNat_lt
    rw [UInt32.toNat_add, UInt32.toNat_and, UInt32.toNat_shiftRight, foldOnce]
    change ((x.toNat &&& (2 ^ 16 - 1)) + x.toNat >>> 16) % 2 ^ 32 = _
    rw [Nat.and_two_pow_sub_one_eq_mod, Nat.shiftRight_eq_div_pow]
    omega
  have hsmall : foldOnce (foldOnce csum.toNat) < 2 ^ 16 := by
    unfold foldOnce
    omega
  rw [csumFold, cast_not16, UInt32.toNat_toUInt16, honce, honce,
    Nat.mod_eq_of_lt hsmall, foldOnce_cast, foldOnce_cast]

theorem csumReplace2_cast (sum old new : UInt16) :
    ((csumReplace2 sum old new).toNat : Residue) =
      sum.toNat + old.toNat - new.toNat := by
  rw [csumReplace2, cast_not16, csum16Add_cast, csum16Sub, csum16Add_cast,
    cast_not16, cast_not16]
  ring

theorem csumReplace4_cast (sum : UInt16) (old new : UInt32) :
    ((csumReplace4 sum old new).toNat : Residue) =
      sum.toNat + old.toNat - new.toNat := by
  rw [csumReplace4, csumFold_cast, csumAdd_cast, csumSub, csumAdd_cast,
    cast_not32, cast_not32, UInt16.toNat_toUInt32]
  ring

/-! ## Validity of a datagram -/

/-- The UDP length field. -/
def udpLength (skb : Bytes) (udpOfs : ℕ) : ℕ :=
  (ntohs (fieldU16 (udpOfs + 4) skb)).toNat

/-- Addresses, protocol and length, as the checksum covers them. -/
def udpPseudoHeader (skb : Bytes) (udpOfs : ℕ) : Bytes :=
  fieldBytes 12 8 skb ++ ([0, ipProtoUdp] ++ fieldBytes (udpOfs + 4) 2 skb)

def udpDatagram (skb : Bytes) (udpOfs : ℕ) : Bytes :=
  fieldBytes udpOfs (udpLength skb udpOfs) skb

structure UdpChecksumValid (skb : Bytes) (udpOfs : ℕ) : Prop where
  hinside : udpOfs + udpLength skb udpOfs ≤ skb.length
  hverifies : Verifies (udpPseudoHeader skb udpOfs ++ udpDatagram skb udpOfs)

/-- A packet that passes the header checks and whose UDP payload holds the
GUE header and the routing data. -/
structure GueDatagram (skb : Bytes) (gue : GueHeader) : Prop where
  hparsed : gueHeader skb = some gue
  hihl : ipv4HdrSize ≤ gue.udpOfs
  hcovered : gue.innerIpOfs ≤ gue.udpOfs + udpLength skb gue.udpOfs

/-- Validity looks at the addresses and at what follows them. -/
theorem UdpChecksumValid.congr {skb skb' : Bytes} {udpOfs : ℕ}
    (hvalid : UdpChecksumValid skb udpOfs) (hudpOfs : 12 ≤ udpOfs)
    (hlength : skb'.length = skb.length)
    (hdrop : ∀ offset, 12 ≤ offset → skb'.drop offset = skb.drop offset) :
    UdpChecksumValid skb' udpOfs := by
  have hsame : udpLength skb' udpOfs = udpLength skb udpOfs := by
    simp only [udpLength, fieldU16, hdrop (udpOfs + 4) (by omega)]
  constructor
  · rw [hsame, hlength]
    exact hvalid.hinside
  · have hverifies := hvalid.hverifies
    simp only [udpPseudoHeader, udpDatagram, fieldBytes, hsame,
      hdrop 12 le_rfl, hdrop (udpOfs + 4) (by omega), hdrop udpOfs hudpOfs]
    exact hverifies

/-! ## Datagrams of frames -/

namespace GueFrame

variable (frame : GueFrame)

/-- The frame from its UDP header on. -/
def udpBytes : Bytes :=
  frame.udp ++ (frame.guehdr ++ (frame.chainedRouting ++ frame.inner))

theorem drop_udpOfs :
    frame.bytes.drop frame.header.udpOfs = frame.udpBytes := by
  rw [bytes, ← List.append_assoc]
  apply List.drop_left'
  simp [header]

theorem take_drop_udpBytes :
    (frame.udpBytes.drop 4).take 2 = (frame.udpHead.drop 4).take 2 := by
  rw [udpBytes, udp, List.append_assoc, List.drop_append_of_le_length
    (by rw [frame.udpHead_length]; decide),
    List.take_append_of_le_length (by simp [frame.udpHead_length])]

theorem udpLength_bytes :
    udpLength frame.bytes frame.header.udpOfs =
      (ntohs (fieldU16 4 frame.udpHead)).toNat := by
  rw [udpLength, fieldU16, ← List.drop_drop, drop_udpOfs,
    take_drop_udpBytes, fieldU16]

theorem udpPseudoHeader_bytes :
    udpPseudoHeader frame.bytes frame.header.udpOfs =
      u32le frame.saddr ++ (u32le frame.daddr ++ ([0, ipProtoUdp] ++
        fieldBytes 4 2 frame.udpHead)) := by
  have haddresses : fieldBytes 12 8 frame.bytes =
      u32le frame.saddr ++ u32le frame.daddr := by
    rw [fieldBytes, drop_ipHead, behindHead]
    exact List.take_left' (by simp)
  have hfield : fieldBytes (frame.header.udpOfs + 4) 2 frame.bytes =
      fieldBytes 4 2 frame.udpHead := by
    rw [fieldBytes, ← List.drop_drop, drop_udpOfs, take_drop_udpBytes,
      fieldBytes]
  rw [udpPseudoHeader, haddresses, hfield, List.append_assoc]

/-- The datagram up to `next_hop`. -/
def udpFront : Bytes :=
  frame.udpHead ++ (u16le frame.check ++ (frame.guehdr ++
    (u16le frame.privateDataType ++ [frame.nextHop])))

/-- What follows `next_hop` in the datagram. -/
def udpBack : Bytes :=
  ([UInt8.ofNat frame.hops.length] ++ ((frame.hops.map u32le).flatten ++
    frame.inner)).take ((ntohs (fieldU16 4 frame.udpHead)).toNat - 15)

theorem udpFront_length : frame.udpFront.length = 15 := by
  simp [udpFront, frame.udpHead_length, frame.guehdr_length, guehdrSize]

theorem udpDatagram_bytes
    (hcovered : 15 ≤ (ntohs (fieldU16 4 frame.udpHead)).toNat) :
    udpDatagram frame.bytes frame.header.udpOfs =
      frame.udpFront ++ frame.udpBack := by
  have hsplit : frame.udpBytes = frame.udpFront ++
      ([UInt8.ofNat frame.hops.length] ++
        ((frame.hops.map u32le).flatten ++ frame.inner)) := by
    simp [udpBytes, udpFront, udp, chainedRouting]
  rw [udpDatagram, fieldBytes, drop_udpOfs, udpLength_bytes, hsplit,
    List.take_append, udpFront_length, udpBack,
    List.take_of_length_le (by rw [udpFront_length]; exact hcovered)]

/-- The part of the checked residue that no node changes. -/
def keptResidue : Residue :=
  residue ([0, ipProtoUdp] ++ fieldBytes 4 2 frame.udpHead) +
    residue frame.udpHead + residue frame.guehdr +
    (frame.privateDataType.toNat : Residue) + 256 * residue frame.udpBack

theorem residue_udpFront :
    residue frame.udpFront = residue frame.udpHead +
      ((frame.check.toNat : Residue) + (residue frame.guehdr +
        ((frame.privateDataType.toNat : Residue) +
          (frame.nextHop.toNat : Residue)))) := by
  have hhead : Even frame.udpHead.length := by
    rw [frame.udpHead_length]
    decide
  have hguehdr : Even frame.guehdr.length := by
    rw [frame.guehdr_length]
    decide
  rw [udpFront, residue_append_of_even _ hhead, residue_u16le_append,
    residue_append_of_even _ hguehdr, residue_u16le_append, residue_cons,
    residue_nil, mul_zero, add_zero]

theorem residue_datagram
    (hcovered : 15 ≤ (ntohs (fieldU16 4 frame.udpHead)).toNat) :
    residue (udpPseudoHeader frame.bytes frame.header.udpOfs ++
        udpDatagram frame.bytes frame.header.udpOfs) =
      (frame.saddr.toNat : Residue) + (frame.daddr.toNat : Residue) +
        (frame.check.toNat : Residue) + (frame.nextHop.toNat : Residue) +
        frame.keptResidue := by
  have hlength : (fieldBytes 4 2 frame.udpHead).length = 2 := by
    simp [fieldBytes, frame.udpHead_length]
  have hpseudo : Even ([0, ipProtoUdp] ++
      fieldBytes 4 2 frame.udpHead).length := by
    rw [List.length_append, hlength]
    decide
  have hbase : (256 : Residue) ^ 15 = 256 := by decide
  rw [udpPseudoHeader_bytes, frame.udpDatagram_bytes hcovered,
    List.append_assoc, List.append_assoc, residue_u32le_append,
    residue_u32le_append, residue_append_of_even _ hpseudo,
    residue_append frame.udpFront, residue_udpFront, udpFront_length, hbase, keptResidue]
  ring

theorem udpChecksumValid_iff
    (hcovered : 15 ≤ (ntohs (fieldU16 4 frame.udpHead)).toNat) :
    UdpChecksumValid frame.bytes frame.header.udpOfs ↔
      frame.header.udpOfs + (ntohs (fieldU16 4 frame.udpHead)).toNat ≤
          frame.bytes.length ∧
        (frame.saddr.toNat : Residue) + (frame.daddr.toNat : Residue) +
          (frame.check.toNat : Residue) + (frame.nextHop.toNat : Residue) +
          frame.keptResidue = 0 := by
  have hpos : 0 < leNat (udpPseudoHeader frame.bytes frame.header.udpOfs ++
      udpDatagram frame.bytes frame.header.udpOfs) := by
    apply leNat_append_pos_left
    rw [udpPseudoHeader_bytes, ← List.append_assoc]
    apply leNat_append_pos_right
    exact leNat_append_pos_left _ (by decide)
  constructor
  · rintro ⟨hinside, hverifies⟩
    rw [udpLength_bytes] at hinside
    rw [verifies_iff hpos, frame.residue_datagram hcovered] at hverifies
    exact ⟨hinside, hverifies⟩
  · rintro ⟨hinside, hzero⟩
    rw [← udpLength_bytes] at hinside
    refine ⟨hinside, ?_⟩
    rw [verifies_iff hpos, frame.residue_datagram hcovered]
    exact hzero

/-- What the update does to the checksum field. -/
theorem forwardedCheck_cast {alt : UInt32} (hcheck : frame.check ≠ 0) :
    ((frame.forwardedCheck alt).toNat : Residue) =
      (frame.check.toNat : Residue) - 1 + (frame.saddr.toNat : Residue) -
        (alt.toNat : Residue) := by
  have hlt := frame.nextHop.toNat_lt
  have hnext : (frame.nextHop.toUInt16 + 1).toNat =
      frame.nextHop.toNat + 1 := by
    rw [UInt16.toNat_add, UInt8.toNat_toUInt16, UInt16.toNat_one]
    omega
  rw [forwardedCheck, if_pos hcheck, csumReplace4_cast, csumReplace2_cast,
    hnext, UInt8.toNat_toUInt16]
  push_cast
  ring

theorem bytes_length_forward (alt : UInt32) :
    (frame.forward alt).bytes.length = frame.bytes.length := by
  simp [bytes, forward, withAddresses, withNextHop, withCheck]

/-- One forward keeps a checksum that is in use valid. -/
theorem forward_udpChecksumValid {alt : UInt32}
    (hcovered : 15 ≤ (ntohs (fieldU16 4 frame.udpHead)).toNat)
    (hleft : frame.nextHop.toNat < frame.hops.length)
    (hcheck : frame.check ≠ 0)
    (hvalid : UdpChecksumValid frame.bytes frame.header.udpOfs) :
    UdpChecksumValid (frame.forward alt).bytes
      (frame.forward alt).header.udpOfs := by
  obtain ⟨hinside, hzero⟩ := (frame.udpChecksumValid_iff hcovered).mp hvalid
  refine ((frame.forward alt).udpChecksumValid_iff hcovered).mpr ⟨?_, ?_⟩
  · rw [bytes_length_forward]
    exact hinside
  · have hbound := frame.hops_length_lt
    have hnext : (frame.forward alt).nextHop.toNat =
        frame.nextHop.toNat + 1 := by
      change (frame.nextHop + 1).toNat = _
      rw [UInt8.toNat_add, UInt8.toNat_one]
      omega
    change (frame.daddr.toNat : Residue) + (alt.toNat : Residue) +
      ((frame.forwardedCheck alt).toNat : Residue) +
        ((frame.forward alt).nextHop.toNat : Residue) +
          frame.keptResidue = 0
    rw [frame.forwardedCheck_cast hcheck, hnext, ← hzero]
    push_cast
    ring

end GueFrame

/-! ## Along a run -/

/-- The checksum field is zero, so that no receiver checks it, or valid. -/
def UdpChecksumKept (skb : Bytes) (udpOfs : ℕ) : Prop :=
  fieldU16 (udpOfs + 6) skb = 0 ∨ UdpChecksumValid skb udpOfs

theorem forward_checksumKept {stack : LocalStack} {frame : GueFrame}
    {sent : Bytes}
    (hforward : glbredirectTg4 stack frame.bytes = .stolen sent)
    (hcovered : 15 ≤ (ntohs (fieldU16 4 frame.udpHead)).toNat)
    (hkept : UdpChecksumKept frame.bytes frame.header.udpOfs) :
    UdpChecksumKept sent frame.header.udpOfs := by
  obtain ⟨alt, hhop, _, rfl⟩ := glbredirectTg4_eq_stolen hforward
  rw [frame.forwardedSkb_bytes alt]
  by_cases hcheck : frame.check = 0
  · have hzero : (frame.forward alt).check = 0 := by
      change frame.forwardedCheck alt = 0
      rw [GueFrame.forwardedCheck, if_neg (not_not.mpr hcheck), hcheck]
    left
    rw [← hzero]
    exact (frame.forward alt).fieldU16_check
  · right
    have hvalid := hkept.resolve_left
      (by rw [frame.fieldU16_check]; exact hcheck)
    exact frame.forward_udpChecksumValid hcovered
      (List.getElem?_eq_some_iff.mp hhop).1 hcheck hvalid

theorem Transit.checksumKept {sent received : Bytes} {udpOfs : ℕ}
    (htransit : Transit sent received) (hudpOfs : 12 ≤ udpOfs)
    (hkept : UdpChecksumKept sent udpOfs) :
    UdpChecksumKept received udpOfs := by
  rcases hkept with hzero | hvalid
  · left
    rw [fieldU16, htransit.drop (by omega), ← hzero, fieldU16]
  · right
    exact hvalid.congr hudpOfs htransit.hlength fun offset hoffset =>
      htransit.drop hoffset

theorem GueFrame.covered_of_datagram {frame : GueFrame}
    (hdatagram : GueDatagram frame.bytes frame.header) :
    15 ≤ (ntohs (fieldU16 4 frame.udpHead)).toNat := by
  have hcovered := hdatagram.hcovered
  rw [frame.udpLength_bytes] at hcovered
  simp only [GueFrame.header, ipv4HdrSize, udpHdrSize, guehdrSize]
    at hcovered
  omega

/-- The next node receives a GUE datagram at the same place. -/
theorem forward_gueDatagram {frame : GueFrame} {alt : UInt32}
    {received : Bytes} (hdatagram : GueDatagram frame.bytes frame.header)
    (htransit : Transit (frame.forward alt).bytes received) :
    ∃ frame' : GueFrame, frame'.bytes = received ∧
      frame'.header.udpOfs = frame.header.udpOfs ∧
        GueDatagram frame'.bytes frame'.header := by
  obtain ⟨frame', rfl, hheader, _⟩ := htransit.frame
  have hihl : ipv4HdrSize ≤ frame.header.udpOfs := hdatagram.hihl
  have hlength : udpLength frame'.bytes frame.header.udpOfs =
      udpLength frame.bytes frame.header.udpOfs := by
    have hsent : udpLength (frame.forward alt).bytes frame.header.udpOfs =
        udpLength frame.bytes frame.header.udpOfs :=
      (frame.forward alt).udpLength_bytes.trans frame.udpLength_bytes.symm
    rw [← hsent, udpLength, fieldU16, htransit.drop
      (by simp only [ipv4HdrSize] at hihl; omega), udpLength, fieldU16]
  refine ⟨frame', rfl, ?_, frame'.gueHeader_bytes, ?_, ?_⟩
  · rw [hheader]
    rfl
  · rw [hheader]
    exact hihl
  · rw [hheader]
    change frame.header.innerIpOfs ≤ frame.header.udpOfs +
      udpLength frame'.bytes frame.header.udpOfs
    rw [hlength]
    exact hdatagram.hcovered

theorem ForwardRun.checksumKept {count : ℕ} {skb last : Bytes}
    (hrun : ForwardRun count skb last) {frame : GueFrame}
    (hframe : frame.bytes = skb)
    (hdatagram : GueDatagram frame.bytes frame.header)
    (hkept : UdpChecksumKept frame.bytes frame.header.udpOfs) :
    UdpChecksumKept last frame.header.udpOfs := by
  induction hrun generalizing frame with
  | arrived skb =>
      subst hframe
      exact hkept
  | @forwarded count skb sent received last stack hforward htransit _ ih =>
      subst hframe
      have hsent := forward_checksumKept hforward
        (GueFrame.covered_of_datagram hdatagram) hkept
      have hihl : ipv4HdrSize ≤ frame.header.udpOfs := hdatagram.hihl
      have hreceived := htransit.checksumKept
        (by simp only [ipv4HdrSize] at hihl; omega) hsent
      obtain ⟨alt, rfl, _⟩ := forwardStep_of_frame hforward
      obtain ⟨frame', rfl, hudpOfs, hdatagram'⟩ :=
        forward_gueDatagram hdatagram htransit
      rw [← hudpOfs] at hreceived ⊢
      exact ih rfl hdatagram' hreceived

/-- The frame of `sampleFrame` with the checksum in use. -/
def checkedFrame : GueFrame := sampleFrame.withCheck 2255

theorem checkedFrame_datagram :
    GueDatagram checkedFrame.bytes checkedFrame.header :=
  ⟨checkedFrame.gueHeader_bytes, by decide, by decide⟩

theorem checkedFrame_valid :
    UdpChecksumValid checkedFrame.bytes checkedFrame.header.udpOfs := by
  refine ⟨by decide, (verifies_iff (by decide +kernel)).mpr ?_⟩
  rw [residue, ZMod.natCast_eq_zero_iff]
  decide +kernel

/-- Two nodes that do not know the flow send it to the third. -/
theorem checkedFrame_run :
    ForwardRun 2 checkedFrame.bytes
      ((checkedFrame.forward (sampleNode 2)).forward (sampleNode 1)).bytes := by
  have hfirst : glbredirectTg4 (ownedBy (sampleNode 1) (sampleNode 3))
      checkedFrame.bytes =
        .stolen (checkedFrame.forward (sampleNode 2)).bytes := by
    decide +kernel
  have hsecond : glbredirectTg4 (ownedBy (sampleNode 1) (sampleNode 2))
      (checkedFrame.forward (sampleNode 2)).bytes =
        .stolen ((checkedFrame.forward (sampleNode 2)).forward
          (sampleNode 1)).bytes := by
    decide +kernel
  exact .forwarded _ hfirst (.refl _)
    (.forwarded _ hsecond (.refl _) (.arrived _))

end GlbDirector
