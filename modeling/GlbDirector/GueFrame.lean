import GlbDirector.Redirect

/-!
# GUE frames

A `GueFrame` is a packet that passes the header checks of `glbredirect_tg4`,
taken apart: its fields carry the lengths and the length words that agree with
each other.  On frames the checks always succeed and a forwarding step is
an update of four fields.
-/

namespace GlbDirector

open ByteCodec

/-- `udpHead` is the UDP header up to the checksum; `hops` are the hops left
after the outer destination. -/
structure GueFrame where
  ipHead : Bytes
  saddr : UInt32
  daddr : UInt32
  options : Bytes
  udpHead : Bytes
  check : UInt16
  guehdr : Bytes
  privateDataType : UInt16
  nextHop : UInt8
  hops : List UInt32
  inner : Bytes
  ipHead_length : ipHead.length = 12
  ihl : 4 * (fieldU8 0 ipHead &&& 0x0f).toNat = ipv4HdrSize + options.length
  protocol : fieldU8 9 ipHead = ipProtoUdp
  udpHead_length : udpHead.length = 6
  guehdr_length : guehdr.length = guehdrSize
  hlen : (fieldU8 0 guehdr &&& 0x1f).toNat = hops.length + 1

namespace GueFrame

def outerIp (frame : GueFrame) : Bytes :=
  frame.ipHead ++ (u32le frame.saddr ++ u32le frame.daddr)

def udp (frame : GueFrame) : Bytes := frame.udpHead ++ u16le frame.check

def chainedRouting (frame : GueFrame) : Bytes :=
  u16le frame.privateDataType ++ ([frame.nextHop] ++
    ([UInt8.ofNat frame.hops.length] ++ (frame.hops.map u32le).flatten))

def bytes (frame : GueFrame) : Bytes :=
  frame.outerIp ++ (frame.options ++ (frame.udp ++ (frame.guehdr ++
    (frame.chainedRouting ++ frame.inner))))

/-- The header `glbredirect_tg4` finds. -/
def header (frame : GueFrame) : GueHeader where
  saddr := frame.saddr
  daddr := frame.daddr
  udpOfs := ipv4HdrSize + frame.options.length
  gueCrOfs := ipv4HdrSize + frame.options.length + udpHdrSize + guehdrSize
  cr := frame.chainedRouting
  innerIpOfs := ipv4HdrSize + frame.options.length + udpHdrSize +
    guehdrSize + 4 * (frame.hops.length + 1)
  protoCtype := fieldU8 1 frame.guehdr

/-- What the handler chosen by `proto_ctype` finds inside. -/
def innerPacket (frame : GueFrame) : InnerPacket :=
  if fieldU8 1 frame.guehdr = ipProtoIpipv4 then innerIpv4 frame.inner 0
  else if fieldU8 1 frame.guehdr = ipProtoIpipv6 then
    innerIpv6 frame.inner 0
  else .drop

/-! ## Sizes -/

@[simp] theorem outerIp_length (frame : GueFrame) :
    frame.outerIp.length = ipv4HdrSize := by
  simp [outerIp, frame.ipHead_length, ipv4HdrSize]

@[simp] theorem udp_length (frame : GueFrame) :
    frame.udp.length = udpHdrSize := by
  simp [udp, frame.udpHead_length, udpHdrSize]

@[simp] theorem chainedRouting_length (frame : GueFrame) :
    frame.chainedRouting.length = 4 * (frame.hops.length + 1) := by
  simp only [chainedRouting, List.length_append, u16le_length,
    List.length_singleton, flatten_map_length u32le_length]
  omega

theorem hops_length_lt (frame : GueFrame) : frame.hops.length + 1 < 32 := by
  rw [← frame.hlen, UInt8.toNat_and]
  exact Nat.and_lt_two_pow _ (n := 5) (by decide)

/-! ## Fields -/

theorem fieldU8_append_left {offset : ℕ} {front : Bytes} (back : Bytes)
    (hoffset : offset < front.length) :
    fieldU8 offset (front ++ back) = fieldU8 offset front := by
  simp only [fieldU8, List.getD_eq_getElem?_getD,
    List.getElem?_append_left hoffset]

theorem fieldU8_append_right {offset size : ℕ} {front : Bytes}
    (back : Bytes) (hfront : front.length = size) :
    fieldU8 (size + offset) (front ++ back) = fieldU8 offset back := by
  subst hfront
  simp [fieldU8, List.getD_eq_getElem?_getD, List.getElem?_append_right]

theorem fieldU32_middle {offset : ℕ} (front : Bytes) (value : UInt32)
    (back : Bytes) (hfront : front.length = offset) :
    fieldU32 offset (front ++ (u32le value ++ back)) = value := by
  subst hfront
  rw [fieldU32, List.drop_left, List.take_left' (u32le_length value),
    wordU32_u32le]

theorem fieldU16_last {offset : ℕ} (front : Bytes) (value : UInt16)
    (back : Bytes) (hfront : front.length = offset) :
    fieldU16 offset (front ++ (u16le value ++ back)) = value := by
  subst hfront
  rw [fieldU16, List.drop_left, List.take_left' (u16le_length value),
    wordU16_u16le]

theorem outerIp_ipHead (frame : GueFrame) {offset : ℕ}
    (hoffset : offset < 12) :
    fieldU8 offset frame.outerIp = fieldU8 offset frame.ipHead := by
  apply fieldU8_append_left
  rw [frame.ipHead_length]
  exact hoffset

theorem outerIp_saddr (frame : GueFrame) :
    fieldU32 12 frame.outerIp = frame.saddr :=
  fieldU32_middle _ _ _ frame.ipHead_length

theorem outerIp_daddr (frame : GueFrame) :
    fieldU32 16 frame.outerIp = frame.daddr := by
  rw [outerIp, ← List.append_assoc, ← List.append_nil (u32le frame.daddr)]
  apply fieldU32_middle
  simp [frame.ipHead_length]

theorem hops_length_toNat (frame : GueFrame) :
    (UInt8.ofNat frame.hops.length).toNat = frame.hops.length := by
  have hlt := frame.hops_length_lt
  exact UInt8.toNat_ofNat_of_lt' (by change _ < 256; omega)

@[simp] theorem header_nextHop (frame : GueFrame) :
    frame.header.nextHop = frame.nextHop := by
  change fieldU8 (2 + 0) frame.chainedRouting = _
  rw [chainedRouting, fieldU8_append_right _ (u16le_length _)]
  rfl

@[simp] theorem header_hopCount (frame : GueFrame) :
    frame.header.hopCount = UInt8.ofNat frame.hops.length := by
  change fieldU8 (2 + 1) frame.chainedRouting = _
  rw [chainedRouting, fieldU8_append_right _ (u16le_length _)]
  rfl

theorem header_hop (frame : GueFrame) {index : ℕ} {hop : UInt32}
    (hhop : frame.hops[index]? = some hop) :
    frame.header.hop index = hop := by
  have harray : slice 4 (4 * frame.hops.length) frame.chainedRouting =
      some (frame.hops.map u32le).flatten := by
    rw [chainedRouting, ← List.append_assoc, ← List.append_assoc]
    apply slice_last
    · simp
    · exact flatten_map_length u32le_length _
  have hrecord := slice_record u32le_length harray hhop
  obtain ⟨_, hbytes⟩ := slice_eq_some_iff.mp hrecord
  change wordU32 ((frame.chainedRouting.drop (4 + 4 * index)).take 4) = hop
  rw [hbytes, wordU32_u32le]

/-! ## The header checks succeed -/

theorem slice_outerIp (frame : GueFrame) :
    slice 0 ipv4HdrSize frame.bytes = some frame.outerIp :=
  slice_first _ _ frame.outerIp_length

theorem slice_udp (frame : GueFrame) :
    slice (ipv4HdrSize + frame.options.length) udpHdrSize frame.bytes =
      some frame.udp := by
  rw [bytes, ← List.append_assoc]
  exact slice_middle _ _ _ (by simp) frame.udp_length

theorem slice_guehdr (frame : GueFrame) :
    slice (ipv4HdrSize + frame.options.length + udpHdrSize) guehdrSize
      frame.bytes = some frame.guehdr := by
  rw [bytes, ← List.append_assoc, ← List.append_assoc]
  exact slice_middle _ _ _ (by simp [Nat.add_assoc]) frame.guehdr_length

theorem slice_chainedRouting (frame : GueFrame) :
    slice frame.header.gueCrOfs (4 * (frame.hops.length + 1)) frame.bytes =
      some frame.chainedRouting := by
  rw [bytes, ← List.append_assoc, ← List.append_assoc, ← List.append_assoc]
  refine slice_middle _ _ _ ?_ frame.chainedRouting_length
  simp [header, frame.guehdr_length, Nat.add_assoc]

theorem gueHeader_bytes (frame : GueFrame) :
    gueHeader frame.bytes = some frame.header := by
  have hlt := frame.hops_length_lt
  have hsize : ¬ (frame.hops.length + 1 < 1 ∨
      4 * (frame.hops.length + 1) > chainedRoutingSize) := by
    simp only [chainedRoutingSize, maxHops]
    omega
  have hcount : fieldU8 3 frame.chainedRouting =
      UInt8.ofNat frame.hops.length := frame.header_hopCount
  have hcr := frame.slice_chainedRouting
  simp only [header] at hcr
  simp only [gueHeader, slice_outerIp, Option.bind_eq_bind,
    Option.bind_some, outerIp_ipHead frame (show 9 < 12 by decide),
    outerIp_ipHead frame (show 0 < 12 by decide), frame.protocol,
    frame.ihl, slice_udp, slice_guehdr, frame.hlen, hcr, hcount,
    hops_length_toNat, outerIp_saddr, outerIp_daddr, if_neg hsize,
    ne_eq, not_true_eq_false, if_false]
  rfl

theorem bytes_eq_front_inner (frame : GueFrame) :
    ∃ front, frame.bytes = front ++ frame.inner ∧
      front.length = frame.header.innerIpOfs := by
  refine ⟨frame.outerIp ++ (frame.options ++ (frame.udp ++
    (frame.guehdr ++ frame.chainedRouting))), by simp [bytes], ?_⟩
  simp only [List.length_append, outerIp_length, udp_length,
    frame.guehdr_length, chainedRouting_length, header]
  omega

/-! ## The verdict on a frame -/

theorem slice_append_offset {front : Bytes} (inner : Bytes)
    {start : ℕ} (hfront : front.length = start) (offset len : ℕ) :
    slice (start + offset) len (front ++ inner) = slice offset len inner := by
  subst hfront
  rw [slice_append_right _ _ (Nat.le_add_right _ _), Nat.add_sub_cancel_left]

theorem fillTcpFromIcmp_append {front : Bytes} (inner : Bytes)
    {start : ℕ} (hfront : front.length = start) (offset : ℕ) :
    fillTcpFromIcmp (front ++ inner) (start + offset) =
      fillTcpFromIcmp inner offset := by
  rw [fillTcpFromIcmp, slice_append_offset inner hfront, fillTcpFromIcmp]

theorem innerIpv4_append {front : Bytes} (inner : Bytes)
    {start : ℕ} (hfront : front.length = start) :
    innerIpv4 (front ++ inner) start = innerIpv4 inner 0 := by
  have hslice := slice_append_offset inner hfront
  have hstart := hslice 0 ipv4HdrSize
  rw [Nat.add_zero] at hstart
  simp only [innerIpv4, hstart, Nat.add_assoc, hslice,
    fillTcpFromIcmp_append inner hfront, Nat.zero_add]

theorem innerIpv6_append {front : Bytes} (inner : Bytes)
    {start : ℕ} (hfront : front.length = start) :
    innerIpv6 (front ++ inner) start = innerIpv6 inner 0 := by
  have hslice := slice_append_offset inner hfront
  have hstart := hslice 0 ipv6HdrSize
  rw [Nat.add_zero] at hstart
  simp only [innerIpv6, hstart, Nat.add_assoc, hslice,
    fillTcpFromIcmp_append inner hfront, Nat.zero_add]

theorem glbredirectTg4_bytes (stack : LocalStack) (frame : GueFrame) :
    glbredirectTg4 stack frame.bytes =
      handleInner stack frame.bytes frame.header frame.innerPacket := by
  obtain ⟨front, hbytes, hfront⟩ := frame.bytes_eq_front_inner
  have hinner4 : innerIpv4 frame.bytes frame.header.innerIpOfs =
      innerIpv4 frame.inner 0 := by
    rw [hbytes]
    exact innerIpv4_append frame.inner hfront
  have hinner6 : innerIpv6 frame.bytes frame.header.innerIpOfs =
      innerIpv6 frame.inner 0 := by
    rw [hbytes]
    exact innerIpv6_append frame.inner hfront
  have hproto : frame.header.protoCtype = fieldU8 1 frame.guehdr := rfl
  simp only [glbredirectTg4, gueHeader_bytes, hproto,
    glbredirectHandleInnerIpv4, glbredirectHandleInnerIpv6, hinner4,
    hinner6, innerPacket]
  split
  · rfl
  · split <;> rfl

/-! ## Forwarding a frame -/

/-- The UDP checksum after the step; a packet without one keeps zero. -/
def forwardedCheck (frame : GueFrame) (alt : UInt32) : UInt16 :=
  if frame.check ≠ 0 then
    csumReplace4 (csumReplace2 frame.check frame.nextHop.toUInt16
      (frame.nextHop.toUInt16 + 1)) frame.saddr alt
  else frame.check

def withCheck (frame : GueFrame) (check : UInt16) : GueFrame :=
  { frame with check }

def withNextHop (frame : GueFrame) (nextHop : UInt8) : GueFrame :=
  { frame with nextHop }

def withAddresses (frame : GueFrame) (saddr daddr : UInt32) : GueFrame :=
  { frame with saddr, daddr }

def forward (frame : GueFrame) (alt : UInt32) : GueFrame :=
  ((frame.withCheck (frame.forwardedCheck alt)).withNextHop
    (frame.nextHop + 1)).withAddresses frame.daddr alt

theorem fieldU16_check (frame : GueFrame) :
    fieldU16 (frame.header.udpOfs + 6) frame.bytes = frame.check := by
  have hbytes : frame.bytes = (frame.outerIp ++ (frame.options ++
      frame.udpHead)) ++ (u16le frame.check ++ (frame.guehdr ++
        (frame.chainedRouting ++ frame.inner))) := by
    simp [bytes, udp]
  rw [hbytes]
  apply fieldU16_last
  simp [frame.udpHead_length, header, Nat.add_assoc]

theorem fieldU8_nextHop (frame : GueFrame) :
    fieldU8 (frame.header.gueCrOfs + 2) frame.bytes = frame.nextHop := by
  have hpart := readU8_slice frame.slice_chainedRouting
    (show 2 < 4 * (frame.hops.length + 1) by omega)
  unfold readU8 at hpart
  rw [fieldU8, List.getD_eq_getElem?_getD, hpart,
    ← List.getD_eq_getElem?_getD]
  exact frame.header_nextHop

theorem patch_check (frame : GueFrame) (check : UInt16) :
    patch (frame.header.udpOfs + 6) (u16le check) frame.bytes =
      (frame.withCheck check).bytes := by
  have hbytes : frame.bytes = (frame.outerIp ++ (frame.options ++
      frame.udpHead)) ++ (u16le frame.check ++ (frame.guehdr ++
        (frame.chainedRouting ++ frame.inner))) := by
    simp [bytes, udp]
  rw [hbytes, patch_middle]
  · simp [bytes, udp, outerIp, chainedRouting, withCheck]
  · simp [frame.udpHead_length, header, Nat.add_assoc]
  · simp

theorem patch_nextHop (frame : GueFrame) (nextHop : UInt8) :
    patch (frame.header.gueCrOfs + 2) [nextHop] frame.bytes =
      (frame.withNextHop nextHop).bytes := by
  have hbytes : frame.bytes = (frame.outerIp ++ (frame.options ++
      (frame.udp ++ (frame.guehdr ++ u16le frame.privateDataType)))) ++
        ([frame.nextHop] ++ ([UInt8.ofNat frame.hops.length] ++
          ((frame.hops.map u32le).flatten ++ frame.inner))) := by
    simp [bytes, chainedRouting]
  rw [hbytes, patch_middle]
  · simp [bytes, udp, outerIp, chainedRouting, withNextHop]
  · simp [frame.guehdr_length, header, Nat.add_assoc]
  · rfl

theorem fieldU32_saddr (frame : GueFrame) :
    fieldU32 12 frame.bytes = frame.saddr := by
  have hbytes : frame.bytes = frame.ipHead ++ (u32le frame.saddr ++
      (u32le frame.daddr ++ (frame.options ++ (frame.udp ++ (frame.guehdr ++
        (frame.chainedRouting ++ frame.inner)))))) := by
    simp [bytes, outerIp]
  rw [hbytes]
  exact fieldU32_middle _ _ _ frame.ipHead_length

theorem fieldU32_daddr (frame : GueFrame) :
    fieldU32 16 frame.bytes = frame.daddr := by
  have hbytes : frame.bytes = (frame.ipHead ++ u32le frame.saddr) ++
      (u32le frame.daddr ++ (frame.options ++ (frame.udp ++ (frame.guehdr ++
        (frame.chainedRouting ++ frame.inner))))) := by
    simp [bytes, outerIp]
  rw [hbytes]
  exact fieldU32_middle _ _ _ (by simp [frame.ipHead_length])

theorem patch_saddr (frame : GueFrame) (saddr : UInt32) :
    patch 12 (u32le saddr) frame.bytes =
      (frame.withAddresses saddr frame.daddr).bytes := by
  have hbytes : frame.bytes = frame.ipHead ++ (u32le frame.saddr ++
      (u32le frame.daddr ++ (frame.options ++ (frame.udp ++ (frame.guehdr ++
        (frame.chainedRouting ++ frame.inner)))))) := by
    simp [bytes, outerIp]
  rw [hbytes, patch_middle _ frame.ipHead_length]
  · simp [bytes, udp, outerIp, chainedRouting, withAddresses]
  · simp

theorem patch_daddr (frame : GueFrame) (daddr : UInt32) :
    patch 16 (u32le daddr) frame.bytes =
      (frame.withAddresses frame.saddr daddr).bytes := by
  have hbytes : frame.bytes = (frame.ipHead ++ u32le frame.saddr) ++
      (u32le frame.daddr ++ (frame.options ++ (frame.udp ++ (frame.guehdr ++
        (frame.chainedRouting ++ frame.inner))))) := by
    simp [bytes, outerIp]
  rw [hbytes, patch_middle]
  · simp [bytes, udp, outerIp, chainedRouting, withAddresses]
  · simp [frame.ipHead_length]
  · simp

-- The fields of a frame do not overlap, so every read finds the frame's own.
theorem adjustedCheck_bytes (frame : GueFrame) (alt : UInt32) :
    adjustedCheck frame.bytes frame.header alt =
      (frame.withCheck (frame.forwardedCheck alt)).bytes := by
  unfold adjustedCheck forwardedCheck
  simp only [fieldU16_check, fieldU8_nextHop]
  split
  · generalize csumReplace2 frame.check _ _ = check
    have hcheck : fieldU16 (frame.header.udpOfs + 6)
        (frame.withCheck check).bytes = check :=
      (frame.withCheck check).fieldU16_check
    have hpatch (again : UInt16) : patch (frame.header.udpOfs + 6)
        (u16le again) (frame.withCheck check).bytes =
          (frame.withCheck again).bytes :=
      (frame.withCheck check).patch_check again
    rw [patch_check, hcheck, fieldU32_saddr, hpatch]
    rfl
  · rfl

theorem forwardedSkb_bytes (frame : GueFrame) (alt : UInt32) :
    forwardedSkb frame.bytes frame.header alt =
      (frame.forward alt).bytes := by
  unfold forwardedSkb forward
  rw [adjustedCheck_bytes]
  generalize frame.forwardedCheck alt = check
  have hnext : fieldU8 (frame.header.gueCrOfs + 2)
      (frame.withCheck check).bytes = frame.nextHop :=
    (frame.withCheck check).fieldU8_nextHop
  have hcounted : patch (frame.header.gueCrOfs + 2) [frame.nextHop + 1]
      (frame.withCheck check).bytes =
        ((frame.withCheck check).withNextHop (frame.nextHop + 1)).bytes :=
    (frame.withCheck check).patch_nextHop _
  simp only [hnext, hcounted]
  rw [fieldU32_daddr, patch_saddr, patch_daddr]
  rfl

theorem forward_innerPacket (frame : GueFrame) (alt : UInt32) :
    (frame.forward alt).innerPacket = frame.innerPacket := rfl

/-! ## Every accepted packet is a frame -/

theorem drop_eq_of_slice {offset len : ℕ} {skb part : Bytes}
    (hslice : slice offset len skb = some part) :
    skb.drop offset = part ++ skb.drop (offset + len) := by
  obtain ⟨_, rfl⟩ := slice_eq_some_iff.mp hslice
  rw [← List.drop_drop, List.take_append_drop]

theorem exists_u32le_flatten {count : ℕ} {bytes : Bytes}
    (hlength : bytes.length = 4 * count) :
    ∃ words : List UInt32, words.length = count ∧
      (words.map u32le).flatten = bytes := by
  induction count generalizing bytes with
  | zero => exact ⟨[], rfl, (List.length_eq_zero_iff.mp hlength).symm⟩
  | succ count ih =>
      have hrest : (bytes.drop 4).length = 4 * count := by
        rw [List.length_drop]
        omega
      obtain ⟨words, hcount, hwords⟩ := ih hrest
      have hfirst : (bytes.take 4).length = 4 := by
        rw [List.length_take]
        omega
      refine ⟨wordU32 (bytes.take 4) :: words, by simp [hcount], ?_⟩
      rw [List.map_cons, List.flatten_cons, u32le_wordU32 hfirst, hwords,
        List.take_append_drop]

theorem exists_outerIp {outer : Bytes} (hlength : outer.length = 20) :
    ∃ ipHead saddr daddr, ipHead.length = 12 ∧
      outer = ipHead ++ (u32le saddr ++ u32le daddr) := by
  refine ⟨outer.take 12, wordU32 ((outer.drop 12).take 4),
    wordU32 ((outer.drop 12).drop 4), by simp [hlength], ?_⟩
  rw [u32le_wordU32 (by simp [hlength]), u32le_wordU32 (by simp [hlength]),
    List.take_append_drop, List.take_append_drop]

theorem exists_udp {udp : Bytes} (hlength : udp.length = 8) :
    ∃ udpHead check, udpHead.length = 6 ∧ udp = udpHead ++ u16le check := by
  refine ⟨udp.take 6, wordU16 (udp.drop 6), by simp [hlength], ?_⟩
  rw [u16le_wordU16 (by simp [hlength]), List.take_append_drop]

theorem exists_chainedRouting {count : ℕ} {cr : Bytes}
    (hlength : cr.length = 4 * (count + 1)) :
    ∃ privateDataType nextHop hopCount, ∃ hops : List UInt32,
      hops.length = count ∧ fieldU8 3 cr = hopCount ∧
        cr = u16le privateDataType ++ ([nextHop] ++ ([hopCount] ++
          (hops.map u32le).flatten)) := by
  match cr, hlength with
  | b₀ :: b₁ :: b₂ :: b₃ :: rest, hlength =>
      have hrest : rest.length = 4 * count := by
        simp only [List.length_cons] at hlength
        omega
      obtain ⟨hops, hcount, hhops⟩ := exists_u32le_flatten hrest
      refine ⟨wordU16 [b₀, b₁], b₂, b₃, hops, hcount, rfl, ?_⟩
      rw [u16le_wordU16 rfl, hhops]
      rfl

/-- The header checks accept frames only, once the outer header has its
minimal length. -/
theorem exists_frame {skb : Bytes} {gue : GueHeader}
    (hgue : gueHeader skb = some gue) (hihl : ipv4HdrSize ≤ gue.udpOfs) :
    ∃ frame : GueFrame, frame.bytes = skb ∧ frame.header = gue := by
  have hinversion := hgue
  simp only [gueHeader, Option.bind_eq_bind, Option.bind_eq_some_iff,
    Option.ite_none_left_eq_some, not_not] at hinversion
  obtain ⟨outer, houter, hproto, udp, hudp, guehdr, hguehdr, _, cr, hcr,
    hcount, hresult⟩ := hinversion
  have hudpOfs : gue.udpOfs = 4 * (fieldU8 0 outer &&& 0x0f).toNat := by
    rw [← Option.some.inj hresult]
  obtain ⟨ipHead, saddr, daddr, hipHead, rfl⟩ :=
    exists_outerIp (slice_length houter)
  obtain ⟨udpHead, check, hudpHead, rfl⟩ := exists_udp (slice_length hudp)
  have hcrLength := slice_length hcr
  rw [hcount] at hcrLength
  obtain ⟨privateDataType, nextHop, hopCount, hops, hhops, hfield, rfl⟩ :=
    exists_chainedRouting hcrLength
  rw [fieldU8_append_left _ (by omega)] at hproto hudpOfs hudp hguehdr hcr
  generalize hstart : 4 * (fieldU8 0 ipHead &&& 0x0f).toNat = start
    at hudpOfs hudp hguehdr hcr
  have hbound := (slice_eq_some_iff.mp hudp).1
  rw [hudpOfs] at hihl
  have hoptions : slice ipv4HdrSize (start - ipv4HdrSize) skb =
      some ((skb.drop ipv4HdrSize).take (start - ipv4HdrSize)) :=
    slice_eq_some_iff.mpr ⟨by omega, rfl⟩
  let frame : GueFrame := {
    ipHead, saddr, daddr, udpHead, check, guehdr, privateDataType, nextHop
    hops
    options := (skb.drop ipv4HdrSize).take (start - ipv4HdrSize)
    inner := skb.drop (start + udpHdrSize + guehdrSize +
      4 * (fieldU8 0 guehdr &&& 0x1f).toNat)
    ipHead_length := hipHead
    ihl := by rw [slice_length hoptions, hstart]; omega
    protocol := hproto
    udpHead_length := hudpHead
    guehdr_length := slice_length hguehdr
    hlen := by rw [hcount, hhops] }
  have hhopCount : UInt8.ofNat hops.length = hopCount := by
    rw [hhops, hfield, UInt8.ofNat_toNat]
  have hbytes : frame.bytes = skb := by
    have hskb := drop_eq_of_slice houter
    rw [Nat.zero_add, drop_eq_of_slice hoptions,
      Nat.add_sub_cancel' hihl, drop_eq_of_slice hudp,
      drop_eq_of_slice hguehdr, drop_eq_of_slice hcr, List.drop_zero]
      at hskb
    simp only [bytes, outerIp, GueFrame.udp, chainedRouting, frame,
      hhopCount]
    exact hskb.symm
  refine ⟨frame, hbytes, ?_⟩
  have hheader := frame.gueHeader_bytes
  rw [hbytes, hgue] at hheader
  exact (Option.some.inj hheader).symm

end GueFrame

end GlbDirector
