import GlbDirector.BindMatching
import GlbDirector.RedirectChecksum

/-!
# The checksums of the lab director (`lab/live_director.c`)

`fixup_outer_checksums` stores the folded sums themselves, where the functions
of the DPDK library that `glb_checksum_offloading` calls return the words that
complete the sums.  No word completes itself but the one of all ones.
-/

namespace GlbDirector

open ByteCodec OnesComplement

/-! ## The lab director -/

/-- No sum over at most 65535 bytes leaves the 32 bits of `sum`. -/
def csum16 : Bytes → ℕ → ℕ
  | [], sum => sum
  | [odd], sum => sum + 256 * odd.toNat
  | high :: low :: rest, sum =>
      csum16 rest (sum + (256 * high.toNat + low.toNat))

def csumFinish (sum : ℕ) : UInt16 := UInt16.ofNat (fold sum)

def labIpCheck (ip : Bytes) : UInt16 := htons (csumFinish (csum16 ip 0))

/-- The checksum for the packet that starts at the outer IPv4 header. -/
def labUdpCheck (skb : Bytes) : UInt16 :=
  let s := csum16 (udpPseudoHeader skb ipv4HdrSize) 0
  let s := csum16 (udpDatagram skb ipv4HdrSize) s
  let c := csumFinish s
  if c = 0 then htons 0xffff else htons c

/-- `leftover` is what `out_buf` holds behind the frame. -/
def fixupOuterChecksums (leftover frame : Bytes) : Bytes :=
  let cleared := patch ipv4ChecksumOffset (u16le 0) frame
  let withIp := patch ipv4ChecksumOffset
    (u16le (labIpCheck (fieldBytes ethernetHdrSize ipv4HdrSize cleared)))
    cleared
  let withoutUdp := patch udpChecksumOffset (u16le 0) withIp
  patch udpChecksumOffset
    (u16le (labUdpCheck (withoutUdp.drop ethernetHdrSize ++ leftover)))
    withoutUdp

/-! ## The DPDK library -/

/-- A UDP packet without IPv4 options whose length fields agree and whose bytes
are there. -/
structure PlainUdpPacket (skb : Bytes) : Prop where
  hheader : ipv4HdrSize + udpHdrSize ≤ skb.length
  hproto : fieldU8 9 skb = ipProtoUdp
  htotal : (ntohs (fieldU16 2 skb)).toNat =
    ipv4HdrSize + udpLength skb ipv4HdrSize
  hinside : ipv4HdrSize + udpLength skb ipv4HdrSize ≤ skb.length

/-- What is assumed of `rte_ipv4_cksum` and `rte_ipv4_udptcp_cksum`: with the
word they return, the sum over what they cover is all ones. -/
structure RteChecksums.Complete (rte : RteChecksums) : Prop where
  hipv4 : ∀ ip : Bytes, ip.length = ipv4HdrSize →
    Verifies (u16le (rte.ipv4Cksum ip) ++ ip)
  hudp : ∀ skb, PlainUdpPacket skb →
    Verifies (u16le (rte.ipv4UdptcpCksum skb) ++
      (udpPseudoHeader skb ipv4HdrSize ++ udpDatagram skb ipv4HdrSize))

/-! ## Sums -/

theorem csum16_eq (bytes : Bytes) (sum : ℕ) :
    csum16 bytes sum = sum + wordSum bytes := by
  induction bytes, sum using csum16.induct with
  | case1 sum => rfl
  | case2 odd sum => rfl
  | case3 high low rest sum ih =>
      rw [csum16, ih, wordSum]
      omega

theorem csumFinish_toNat (sum : ℕ) : (csumFinish sum).toNat = fold sum :=
  UInt16.toNat_ofNat_of_lt' (fold_lt sum)

theorem csumFinish_ne_zero {sum : ℕ} (hsum : 0 < sum) : csumFinish sum ≠ 0 := by
  intro hzero
  have hvalue := csumFinish_toNat sum
  rw [hzero] at hvalue
  exact absurd hvalue.symm (fold_pos hsum).ne'

theorem cast_htons (x : UInt16) :
    ((htons x).toNat : Residue) = 256 * (x.toNat : Residue) := by
  obtain ⟨low, high, hbytes⟩ : ∃ low high, u16le x = [low, high] := ⟨_, _, rfl⟩
  have hswapped : u16le (htons x) = [high, low] := by
    rw [htons, u16le_ntohs, hbytes]
    rfl
  rw [← residue_u16le, ← residue_u16le, hswapped, hbytes]
  simp only [residue_cons, residue_nil]
  linear_combination -(high.toNat : Residue) * cast_byte_base_sq

theorem htons_eq_zero_iff {x : UInt16} : htons x = 0 ↔ x = 0 := by
  constructor
  · intro hzero
    have hback := congrArg ntohs hzero
    rw [htons, ntohs_ntohs] at hback
    exact hback
  · rintro rfl
    rfl

/-- What is summed in one byte order and stored in the other is the sum in that
order. -/
theorem htons_csumFinish {sum host : ℕ} (hsum : 0 < sum) (hhost : 0 < host)
    (hcast : (sum : Residue) = 256 * host) :
    htons (csumFinish sum) = UInt16.ofNat (fold host) := by
  have hpos : 0 < (htons (csumFinish sum)).toNat := by
    rw [Nat.pos_iff_ne_zero]
    intro hzero
    exact csumFinish_ne_zero hsum
      (htons_eq_zero_iff.mp (UInt16.toNat_inj.mp hzero))
  have hresidue : ((htons (csumFinish sum)).toNat : Residue) = host := by
    rw [cast_htons, csumFinish_toNat, fold_cast, hcast, ← mul_assoc,
      cast_byte_base_sq, one_mul]
  have hfold := fold_eq_of_cast hpos hhost hresidue
  rw [fold_of_lt (UInt16.toNat_lt _)] at hfold
  apply UInt16.toNat_inj.mp
  rw [hfold]
  exact (UInt16.toNat_ofNat_of_lt' (fold_lt host)).symm

/-- A stored sum is the word that completes it. -/
theorem stored_eq_check_iff {bytes : Bytes} {sum : ℕ} {check : UInt16}
    (hpos : 0 < leNat bytes) (hsum : 0 < sum)
    (hcast : (sum : Residue) = residue bytes)
    (hcheck : Verifies (u16le check ++ bytes)) :
    UInt16.ofNat (fold sum) = check ↔ Verifies bytes ∧ check ≠ 0 := by
  have hzero : (check.toNat : Residue) + sum = 0 := by
    rw [verifies_iff (leNat_append_pos_right _ hpos), residue_u16le_append,
      ← hcast] at hcheck
    exact hcheck
  rw [← UInt16.toNat_inj, UInt16.toNat_ofNat_of_lt' (fold_lt sum),
    fold_eq_check_iff hsum check.toNat_lt hzero, hcast, verifies_iff hpos,
    ne_eq, ne_eq, ← UInt16.toNat_inj]
  rfl

/-! ## When both store the same -/

theorem labIpCheck_eq_iff {rte : RteChecksums} (hrte : rte.Complete)
    {ip : Bytes} (hlength : ip.length = ipv4HdrSize) (hpos : 0 < leNat ip) :
    labIpCheck ip = rte.ipv4Cksum ip ↔
      Verifies ip ∧ rte.ipv4Cksum ip ≠ 0 := by
  have hcast : (wordSum ip : Residue) = 256 * (hostSum ip : Residue) := by
    rw [wordSum_cast, hostSum_cast]
  have hlab : labIpCheck ip = UInt16.ofNat (fold (hostSum ip)) := by
    rw [labIpCheck, csum16_eq, Nat.zero_add]
    exact htons_csumFinish (wordSum_pos hpos) (hostSum_pos hpos) hcast
  rw [hlab]
  exact stored_eq_check_iff hpos (hostSum_pos hpos) (hostSum_cast ip)
    (hrte.hipv4 ip hlength)

/-! ### UDP -/

/-- The sum over the pseudo header and the datagram, in the host's order. -/
def hostUdpSum (skb : Bytes) : ℕ :=
  hostSum (udpPseudoHeader skb ipv4HdrSize) +
    hostSum (udpDatagram skb ipv4HdrSize)

theorem udpPseudoHeader_pos (skb : Bytes) :
    0 < leNat (udpPseudoHeader skb ipv4HdrSize) :=
  leNat_append_pos_right _ (leNat_append_pos_left _ (by decide))

theorem hostUdpSum_pos (skb : Bytes) : 0 < hostUdpSum skb :=
  Nat.add_pos_left (hostSum_pos (udpPseudoHeader_pos skb)) _

section Udp

variable {skb : Bytes} (hheader : ipv4HdrSize + udpHdrSize ≤ skb.length)

include hheader

theorem udpPseudoHeader_even :
    Even (udpPseudoHeader skb ipv4HdrSize).length := by
  have haddresses : (fieldBytes 12 8 skb).length = 8 :=
    fieldBytes_length rfl (by rw [ipv4HdrSize] at hheader; omega)
  have hlength : (fieldBytes (ipv4HdrSize + 4) 2 skb).length = 2 :=
    fieldBytes_length rfl (by rw [udpHdrSize] at hheader; omega)
  rw [udpPseudoHeader, List.length_append, List.length_append, haddresses,
    hlength]
  decide

theorem hostUdpSum_cast :
    (hostUdpSum skb : Residue) = residue (udpPseudoHeader skb ipv4HdrSize ++
      udpDatagram skb ipv4HdrSize) := by
  rw [hostUdpSum, Nat.cast_add, hostSum_cast, hostSum_cast,
    residue_append_of_even _ (udpPseudoHeader_even hheader)]

/-- The lab director stores the sum. -/
theorem labUdpCheck_eq :
    labUdpCheck skb = UInt16.ofNat (fold (hostUdpSum skb)) := by
  have hsum : 0 < wordSum (udpPseudoHeader skb ipv4HdrSize) +
      wordSum (udpDatagram skb ipv4HdrSize) :=
    Nat.add_pos_left (wordSum_pos (udpPseudoHeader_pos skb)) _
  have hcast : ((wordSum (udpPseudoHeader skb ipv4HdrSize) +
      wordSum (udpDatagram skb ipv4HdrSize) : ℕ) : Residue) =
        256 * (hostUdpSum skb : Residue) := by
    rw [hostUdpSum_cast hheader,
      residue_append_of_even _ (udpPseudoHeader_even hheader), Nat.cast_add,
      wordSum_cast, wordSum_cast, mul_add]
  unfold labUdpCheck
  simp only [csum16_eq, Nat.zero_add]
  rw [if_neg (csumFinish_ne_zero hsum)]
  exact htons_csumFinish hsum (hostUdpSum_pos skb) hcast

end Udp

theorem labUdpCheck_eq_iff {rte : RteChecksums} (hrte : rte.Complete)
    {skb : Bytes} (hpacket : PlainUdpPacket skb) :
    labUdpCheck skb = rte.ipv4UdptcpCksum skb ↔
      Verifies (udpPseudoHeader skb ipv4HdrSize ++
        udpDatagram skb ipv4HdrSize) ∧ rte.ipv4UdptcpCksum skb ≠ 0 := by
  rw [labUdpCheck_eq hpacket.hheader]
  exact stored_eq_check_iff (leNat_append_pos_left _ (udpPseudoHeader_pos skb))
    (hostUdpSum_pos skb) (hostUdpSum_cast hpacket.hheader)
    (hrte.hudp skb hpacket)

/-! ## Frames -/

/-- The checksum looks at the addresses and at what follows them. -/
theorem labUdpCheck_congr {skb skb' : Bytes}
    (hdrop : skb.drop 12 = skb'.drop 12) :
    labUdpCheck skb = labUdpCheck skb' := by
  have hfrom : ∀ offset, 12 ≤ offset → skb.drop offset = skb'.drop offset := by
    intro offset hoffset
    obtain ⟨more, rfl⟩ := Nat.exists_eq_add_of_le hoffset
    rw [← List.drop_drop, hdrop, List.drop_drop]
  have hlength : udpLength skb ipv4HdrSize = udpLength skb' ipv4HdrSize := by
    unfold udpLength fieldU16
    rw [hfrom (ipv4HdrSize + 4) (by decide)]
  have hpseudo : udpPseudoHeader skb ipv4HdrSize =
      udpPseudoHeader skb' ipv4HdrSize := by
    unfold udpPseudoHeader fieldBytes
    rw [hdrop, hfrom (ipv4HdrSize + 4) (by decide)]
  have hdatagram : udpDatagram skb ipv4HdrSize =
      udpDatagram skb' ipv4HdrSize := by
    unfold udpDatagram fieldBytes
    rw [hlength, hfrom ipv4HdrSize (by decide)]
  unfold labUdpCheck
  rw [hpseudo, hdatagram]

/-- What lies behind the datagram does not count. -/
theorem labUdpCheck_append {skb : Bytes} (leftover : Bytes)
    (hheader : ipv4HdrSize + udpHdrSize ≤ skb.length)
    (hinside : ipv4HdrSize + udpLength skb ipv4HdrSize ≤ skb.length) :
    labUdpCheck (skb ++ leftover) = labUdpCheck skb := by
  rw [ipv4HdrSize, udpHdrSize] at hheader
  have hlength : udpLength (skb ++ leftover) ipv4HdrSize =
      udpLength skb ipv4HdrSize := by
    unfold udpLength
    rw [fieldU16_buffer leftover (by rw [ipv4HdrSize]; omega)]
  have hpseudo : udpPseudoHeader (skb ++ leftover) ipv4HdrSize =
      udpPseudoHeader skb ipv4HdrSize := by
    unfold udpPseudoHeader
    rw [fieldBytes_buffer leftover (by omega),
      fieldBytes_buffer leftover (by rw [ipv4HdrSize]; omega)]
  have hdatagram : udpDatagram (skb ++ leftover) ipv4HdrSize =
      udpDatagram skb ipv4HdrSize := by
    unfold udpDatagram
    rw [hlength, fieldBytes_buffer leftover hinside]
  unfold labUdpCheck
  rw [hpseudo, hdatagram]

section Frames

variable (config : DirectorConfig) {ctx : RouteContext}
  (hhops : ctx.ipv4Hops.length ≤ glbMaxHops) (inner : Bytes)

theorem fixupOuterChecksums_frame (leftover : Bytes) :
    fixupOuterChecksums leftover (encapEthernet config ++
        (directorFrame config ctx hhops 0 0 inner).bytes) =
      encapEthernet config ++ (directorFrame config ctx hhops
        (labIpCheck (encapIpv4 config ctx))
        (labUdpCheck ((directorFrame config ctx hhops 0 0 inner).bytes ++
          leftover)) inner).bytes := by
  have hip : ∀ rest, fieldBytes ethernetHdrSize ipv4HdrSize
      (encapEthernet config ++ rest) = rest.take ipv4HdrSize := by
    intro rest
    rw [fieldBytes, drop_encapEthernet]
  have hudp : ∀ ipCheck, labUdpCheck
      ((directorFrame config ctx hhops ipCheck 0 inner).bytes ++ leftover) =
        labUdpCheck ((directorFrame config ctx hhops 0 0 inner).bytes ++
          leftover) := by
    intro ipCheck
    apply labUdpCheck_congr
    have hhead : ∀ ipCheck, 12 ≤
        (directorFrame config ctx hhops ipCheck 0 inner).bytes.length := by
      intro ipCheck
      rw [GueFrame.bytes, List.length_append, GueFrame.outerIp_length,
        ipv4HdrSize]
      omega
    rw [List.drop_append_of_le_length (hhead ipCheck),
      List.drop_append_of_le_length (hhead 0), GueFrame.drop_ipHead,
      GueFrame.drop_ipHead]
    rfl
  simp only [fixupOuterChecksums, udpChecksumOffset, ipv4ChecksumOffset,
    Nat.add_assoc, patch_encapEthernet, patch_udpCheck, patch_ipCheck, hip,
    take_outerIp, drop_encapEthernet, hudp]

theorem fieldU16_encapIpHead (ipCheck : UInt16) (rest : Bytes) :
    fieldU16 10 (encapIpHead ctx ipCheck ++ rest) = ipCheck := by
  have hhead : encapIpHead ctx ipCheck ++ rest =
      ([0x45, 0] ++ (u16le (htons (outerTotalLength ctx)) ++ (u16le 0 ++
        (u16le (htons 0x4000) ++ [64, ipProtoUdp])))) ++
          (u16le ipCheck ++ rest) := by
    simp [encapIpHead]
  rw [hhead]
  apply GueFrame.fieldU16_last
  simp

theorem directorFrame_inj {ipCheck ipCheck' udpCheck udpCheck' : UInt16} :
    (directorFrame config ctx hhops ipCheck udpCheck inner).bytes =
        (directorFrame config ctx hhops ipCheck' udpCheck' inner).bytes ↔
      ipCheck = ipCheck' ∧ udpCheck = udpCheck' := by
  have hip : ∀ ipCheck udpCheck, fieldU16 10
      (directorFrame config ctx hhops ipCheck udpCheck inner).bytes =
        ipCheck := by
    intro ipCheck udpCheck
    rw [GueFrame.bytes_eq_ipHead]
    exact fieldU16_encapIpHead ipCheck _
  have hudp : ∀ ipCheck udpCheck, fieldU16 (ipv4HdrSize + 6)
      (directorFrame config ctx hhops ipCheck udpCheck inner).bytes =
        udpCheck := by
    intro ipCheck udpCheck
    exact GueFrame.fieldU16_check
      (directorFrame config ctx hhops ipCheck udpCheck inner)
  constructor
  · intro hbytes
    constructor
    · rw [← hip ipCheck udpCheck, hbytes, hip]
    · rw [← hudp ipCheck udpCheck, hbytes, hudp]
  · rintro ⟨rfl, rfl⟩
    rfl

/-! ## When the frames agree -/

theorem directorFrame_length (ipCheck udpCheck : UInt16) :
    ethernetHdrSize +
        (directorFrame config ctx hhops ipCheck udpCheck inner).bytes.length =
      routeContextEncapSize ctx + inner.length := by
  have hgue := (directorFrame config ctx hhops ipCheck udpCheck
    inner).guehdr_length
  have hrouting := (directorFrame config ctx hhops ipCheck udpCheck
    inner).chainedRouting_length
  have hleft : (directorFrame config ctx hhops ipCheck udpCheck
      inner).hops.length = ctx.ipv4Hops.length - 1 := List.length_drop
  rw [hleft] at hrouting
  simp only [GueFrame.bytes, List.length_append, GueFrame.outerIp_length,
    GueFrame.udp_length, hgue, hrouting, routeContextEncapSize, gueHdrSize,
    guehdrSize]
  simp only [directorFrame, List.length_nil]
  omega

theorem ntohs_totalLength (rest : Bytes) :
    ntohs (fieldU16 2 (encapIpHead ctx 0 ++ rest)) = outerTotalLength ctx := by
  have hhead : encapIpHead ctx 0 ++ rest = [0x45, 0] ++
      (u16le (htons (outerTotalLength ctx)) ++ ((u16le 0 ++
        (u16le (htons 0x4000) ++ ([64, ipProtoUdp] ++ u16le 0))) ++ rest)) := by
    simp [encapIpHead]
  have hfield : fieldU16 2 (encapIpHead ctx 0 ++ rest) =
      htons (outerTotalLength ctx) := by
    rw [hhead]
    exact GueFrame.fieldU16_last _ _ _ rfl
  rw [hfield, htons, ntohs_ntohs]

theorem udpLength_directorFrame :
    udpLength (directorFrame config ctx hhops 0 0 inner).bytes ipv4HdrSize =
      (outerUdpLength ctx).toNat := by
  have hlength := (directorFrame config ctx hhops 0 0 inner).udpLength_bytes
  have hfield : fieldU16 4 (encapUdpHead ctx) =
      htons (outerUdpLength ctx) := by
    have hhead : encapUdpHead ctx = (u16le (htons (outerSrcPort ctx)) ++
        u16le (htons directorGuePort)) ++
          (u16le (htons (outerUdpLength ctx)) ++ []) := by
      simp [encapUdpHead]
    rw [hhead]
    apply GueFrame.fieldU16_last
    simp
  refine hlength.trans ?_
  show (ntohs (fieldU16 4 (encapUdpHead ctx))).toNat = _
  rw [hfield, htons, ntohs_ntohs]

/-- The outer lengths are not cut to 16 bits, and the packet is there. -/
structure OuterLengthsFit (ctx : RouteContext) (inner : Bytes) : Prop where
  hsmall : routeContextEncapSize ctx + ctx.fields.ipTotalLength.toNat < 65536
  hcovered : ctx.fields.ipTotalLength.toNat ≤ inner.length

variable {inner}

theorem OuterLengthsFit.toNat_lengths (hfit : OuterLengthsFit ctx inner) :
    ethernetHdrSize + ipv4HdrSize + (outerUdpLength ctx).toNat =
        routeContextEncapSize ctx + ctx.fields.ipTotalLength.toNat ∧
      (outerTotalLength ctx).toNat =
        ipv4HdrSize + (outerUdpLength ctx).toNat := by
  have hsmall := hfit.hsmall
  rw [routeContextEncapSize] at hsmall ⊢
  have hudp : (outerUdpLength ctx).toNat = udpHdrSize + gueHdrSize +
      4 * (ctx.ipv4Hops.length - 1) + ctx.fields.ipTotalLength.toNat :=
    UInt16.toNat_ofNat_of_lt' (show _ < 65536 by omega)
  have htotal : (outerTotalLength ctx).toNat = ipv4HdrSize + udpHdrSize +
      gueHdrSize + 4 * (ctx.ipv4Hops.length - 1) +
        ctx.fields.ipTotalLength.toNat :=
    UInt16.toNat_ofNat_of_lt' (show _ < 65536 by omega)
  omega

theorem OuterLengthsFit.plainUdpPacket (hfit : OuterLengthsFit ctx inner) :
    PlainUdpPacket (directorFrame config ctx hhops 0 0 inner).bytes := by
  obtain ⟨hlengths, htotal⟩ := hfit.toNat_lengths
  have hcovered := hfit.hcovered
  have hbytes := directorFrame_length config hhops inner 0 0
  have hudpLength := udpLength_directorFrame config hhops inner
  constructor
  · rw [routeContextEncapSize] at hbytes
    omega
  · rw [GueFrame.fieldU8_ipHead _ (by decide)]
    exact (directorFrame config ctx hhops 0 0 inner).protocol
  · rw [hudpLength, ← htotal, GueFrame.bytes_eq_ipHead]
    exact congrArg UInt16.toNat (ntohs_totalLength _)
  · rw [hudpLength]
    omega

theorem labFrame_eq_iff {rte : RteChecksums} (hrte : rte.Complete)
    (leftover : Bytes) (hfit : OuterLengthsFit ctx inner) :
    (directorFrame config ctx hhops (labIpCheck (encapIpv4 config ctx))
        (labUdpCheck ((directorFrame config ctx hhops 0 0 inner).bytes ++
          leftover)) inner).bytes =
      (directorFrame config ctx hhops
        (rte.ipv4Cksum (encapIpv4 config ctx))
        (rte.ipv4UdptcpCksum
          (directorFrame config ctx hhops 0 0 inner).bytes) inner).bytes ↔
      (Verifies (encapIpv4 config ctx) ∧
        rte.ipv4Cksum (encapIpv4 config ctx) ≠ 0) ∧
      UdpChecksumValid (directorFrame config ctx hhops 0 0 inner).bytes
          ipv4HdrSize ∧
        rte.ipv4UdptcpCksum
          (directorFrame config ctx hhops 0 0 inner).bytes ≠ 0 := by
  have hpacket := hfit.plainUdpPacket config hhops
  have hip : 0 < leNat (encapIpv4 config ctx) :=
    leNat_append_pos_left _ (by decide)
  rw [directorFrame_inj,
    labUdpCheck_append leftover hpacket.hheader hpacket.hinside,
    labIpCheck_eq_iff hrte (encapIpv4_length config ctx) hip,
    labUdpCheck_eq_iff hrte hpacket]
  constructor
  · intro ⟨hipv4, hverifies, hne⟩
    exact ⟨hipv4, ⟨hpacket.hinside, hverifies⟩, hne⟩
  · intro ⟨hipv4, hvalid, hne⟩
    exact ⟨hipv4, hvalid.hverifies, hne⟩

end Frames

end GlbDirector
