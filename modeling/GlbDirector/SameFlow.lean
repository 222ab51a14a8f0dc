import GlbDirector.FlowAffinity

/-!
# The flow the director hashes and the flow the proxy looks up

The director overlays structures at fixed offsets; the kernel module walks the
headers by their length.  Each parser has a tuple for the packet, and the two
tuples are the same exactly when the bytes at the two sets of offsets are.
Without IP options the offsets coincide.
-/

namespace GlbDirector

open ByteCodec

/-! ## The proxy's tuple -/

/-- The arguments of the socket lookups; `inet_lookup_established` takes the
IPv6 destination port in host order. -/
def InnerIp.tuple (ip : InnerIp) (th : Bytes) : FlowTuple :=
  match ip with
  | .v4 iph => ⟨fieldBytes 12 4 iph, fieldBytes 16 4 iph, tcpSource th,
      tcpDest th⟩
  | .v6 iph => ⟨fieldBytes 8 16 iph, fieldBytes 24 16 iph, tcpSource th,
      tcpDest th⟩

def LocalStack.established (stack : LocalStack) (family : IpFamily)
    (tuple : FlowTuple) : Bool :=
  match family with
  | .ipv4 => stack.lookupEstablished (wordU32 tuple.srcAddr) tuple.srcPort
      (wordU32 tuple.dstAddr) tuple.dstPort
  | .ipv6 => stack.lookupEstablished6 tuple.srcAddr tuple.srcPort
      tuple.dstAddr (ntohs tuple.dstPort)

def InnerIp.family : InnerIp → IpFamily
  | .v4 _ => .ipv4
  | .v6 _ => .ipv6

/-- The established socket is looked up by the tuple. -/
theorem isValidLocally_of_established {stack : LocalStack} {ip : InnerIp}
    {th : Bytes} (hestablished : stack.established ip.family (ip.tuple th)) :
    isValidLocally stack ip th = true := by
  cases ip with
  | v4 iph => exact if_pos hestablished
  | v6 iph => exact if_pos hestablished

/-! ## Walking by header length -/

namespace IpFamily

/-- The length of the IP header at `base`, as the header gives it. -/
def hdrLen (family : IpFamily) (packet : Bytes) (base : ℕ) : ℕ :=
  match family with
  | ipv4 => 4 * (fieldU8 base packet &&& 0x0f).toNat
  | ipv6 => ipv6HdrSize

/-- The tuple of the packet at `base`, ports behind the header. -/
def walkedTuple (family : IpFamily) (packet : Bytes) (base : ℕ) :
    FlowTuple :=
  { headerTuple family packet base with
    srcPort := fieldU16 (base + family.hdrLen packet base) packet
    dstPort := fieldU16 (base + family.hdrLen packet base + 2) packet }

/-- Where the walk finds a quoted packet. -/
def walkedQuoted (family : IpFamily) (packet : Bytes) (base : ℕ) : ℕ :=
  base + family.hdrLen packet base + family.icmpSize

def proxyTuple (family : IpFamily) (packet : Bytes) (base : ℕ) :
    FlowTuple :=
  if fieldU8 (base + family.protoOffset) packet = family.icmpProto then
    (family.walkedTuple packet (family.walkedQuoted packet base)).swap
  else family.walkedTuple packet base

end IpFamily

def IpFamily.innerIp (family : IpFamily) (header : Bytes) : InnerIp :=
  match family with
  | .ipv4 => .v4 header
  | .ipv6 => .v6 header

theorem tuple_tcp (family : IpFamily) (skb : Bytes) (ofs : ℕ) :
    (family.innerIp (fieldBytes ofs family.hdrSize skb)).tuple
        (fieldBytes (ofs + family.hdrLen skb ofs) tcphdrSize skb) =
      family.walkedTuple skb ofs := by
  cases family with
  | ipv4 =>
      simp (disch := decide) only [IpFamily.innerIp, InnerIp.tuple,
        tcpSource, tcpDest, IpFamily.hdrSize, fieldBytes_fieldBytes,
        fieldU16_fieldBytes]
      rfl
  | ipv6 =>
      simp (disch := decide) only [IpFamily.innerIp, InnerIp.tuple,
        tcpSource, tcpDest, IpFamily.hdrSize, fieldBytes_fieldBytes,
        fieldU16_fieldBytes]
      rfl

/-- The ports of a quoted packet, in the header made up for the lookup. -/
theorem fillTcpFromIcmp_ports {skb th : Bytes} {ofs : ℕ}
    (hfill : fillTcpFromIcmp skb ofs = some th) :
    tcpSource th = fieldU16 (ofs + 2) skb ∧
      tcpDest th = fieldU16 ofs skb := by
  rw [fillTcpFromIcmp, Option.map_eq_some_iff] at hfill
  obtain ⟨ports, hslice, rfl⟩ := hfill
  have hlength := slice_length hslice
  obtain rfl := eq_fieldBytes_of_slice hslice
  have hsource : (fieldBytes 2 2 (fieldBytes ofs 4 skb)).length = 2 :=
    fieldBytes_length hlength (by decide)
  have hdest : (fieldBytes 0 2 (fieldBytes ofs 4 skb)).length = 2 :=
    fieldBytes_length hlength (by decide)
  constructor
  · show wordU16 (List.take 2 _) = _
    rw [List.drop_zero, List.take_left' hsource,
      fieldBytes_fieldBytes skb (by decide)]
    rfl
  · show wordU16 (List.take 2 (List.drop 2 _)) = _
    rw [List.drop_left' hsource, List.take_left' hdest,
      fieldBytes_fieldBytes skb (by decide)]
    rfl

theorem fieldBytes_swapAddresses {header : Bytes} {ofs size : ℕ}
    (hlength : ofs + size + size ≤ header.length) :
    fieldBytes ofs size (swapAddresses ofs size header) =
        fieldBytes (ofs + size) size header ∧
      fieldBytes (ofs + size) size (swapAddresses ofs size header) =
        fieldBytes ofs size header := by
  have hfront : (header.take ofs).length = ofs :=
    List.length_take_of_le (by omega)
  have hdst : (fieldBytes (ofs + size) size header).length = size := by
    rw [fieldBytes, List.length_take, List.length_drop]
    omega
  have hsrc : (fieldBytes ofs size header).length = size := by
    rw [fieldBytes, List.length_take, List.length_drop]
    omega
  constructor
  · rw [fieldBytes, swapAddresses, List.drop_left' hfront,
      List.take_left' hdst]
  · rw [fieldBytes, swapAddresses, ← List.drop_drop,
      List.drop_left' hfront, List.drop_left' hdst,
      List.take_of_length_le hsrc.le]

theorem tuple_quoted (family : IpFamily) (quoted : ℕ) {skb th : Bytes}
    (hfits : quoted + family.hdrSize ≤ skb.length)
    (hfill : fillTcpFromIcmp skb (quoted + family.hdrLen skb quoted) =
      some th) :
    (family.innerIp (swapAddresses family.srcOffset family.addrSize
        (fieldBytes quoted family.hdrSize skb))).tuple th =
      (family.walkedTuple skb quoted).swap := by
  obtain ⟨hsource, hdest⟩ := fillTcpFromIcmp_ports hfill
  have hlength : (fieldBytes quoted family.hdrSize skb).length =
      family.hdrSize := slice_length (slice_fieldBytes hfits)
  have hroom : family.srcOffset + family.addrSize + family.addrSize ≤
      family.hdrSize := by cases family <;> decide
  obtain ⟨hsrc, hdst⟩ := fieldBytes_swapAddresses (hlength ▸ hroom)
  rw [fieldBytes_fieldBytes skb hroom] at hsrc
  rw [fieldBytes_fieldBytes skb (by omega)] at hdst
  cases family with
  | ipv4 =>
      exact FlowTuple.ext hsrc hdst hsource hdest
  | ipv6 =>
      exact FlowTuple.ext hsrc hdst hsource hdest

/-- What a successful walk has found: the tuple, and the type of an error. -/
def IpFamily.Walked (family : IpFamily) (skb : Bytes) (ofs : ℕ)
    (tuple : FlowTuple) : Prop :=
  tuple = family.proxyTuple skb ofs ∧
    (fieldU8 (ofs + family.protoOffset) skb = family.icmpProto →
      fieldU8 (ofs + family.hdrLen skb ofs) skb = family.pathMtuType)

theorem innerIpv4_flow {skb th : Bytes} {ofs : ℕ} {ip : InnerIp}
    (hwalk : innerIpv4 skb ofs = .flow ip th) :
    IpFamily.ipv4.Walked skb ofs (ip.tuple th) := by
  unfold innerIpv4 at hwalk
  split at hwalk
  · cases hwalk
  · rename_i iph hiph
    obtain rfl := eq_fieldBytes_of_slice hiph
    simp (disch := decide) only [fieldU8_fieldBytes] at hwalk
    by_cases hicmp : fieldU8 (ofs + 9) skb = ipProtoIcmpv4
    · rw [if_pos hicmp] at hwalk
      split at hwalk
      · cases hwalk
      · rename_i icmph hicmph
        obtain rfl := eq_fieldBytes_of_slice hicmph
        split at hwalk
        · cases hwalk
        · rename_i htype
          rw [fieldU8_fieldBytes skb (by decide), not_or, not_not] at htype
          split at hwalk
          · cases hwalk
          · rename_i quoted hquoted
            obtain rfl := eq_fieldBytes_of_slice hquoted
            split at hwalk
            · cases hwalk
            · rename_i th' hfill
              rw [fieldU8_fieldBytes skb (by decide)] at hfill
              cases hwalk
              have htuple := tuple_quoted .ipv4
                (IpFamily.ipv4.walkedQuoted skb ofs)
                (slice_eq_some_iff.mp hquoted).1 hfill
              exact ⟨htuple.trans (if_pos hicmp).symm, fun _ => htype.1⟩
    · rw [if_neg hicmp] at hwalk
      split at hwalk
      · split at hwalk
        · cases hwalk
        · rename_i th' hth
          obtain rfl := eq_fieldBytes_of_slice hth
          cases hwalk
          exact ⟨(tuple_tcp .ipv4 skb ofs).trans (if_neg hicmp).symm,
            fun h => absurd h hicmp⟩
      · split at hwalk
        · cases hwalk
        · cases hwalk

theorem innerIpv6_flow {skb th : Bytes} {ofs : ℕ} {ip : InnerIp}
    (hwalk : innerIpv6 skb ofs = .flow ip th) :
    IpFamily.ipv6.Walked skb ofs (ip.tuple th) := by
  unfold innerIpv6 at hwalk
  split at hwalk
  · cases hwalk
  · rename_i iph hiph
    obtain rfl := eq_fieldBytes_of_slice hiph
    simp (disch := decide) only [fieldU8_fieldBytes] at hwalk
    by_cases hicmp : fieldU8 (ofs + 6) skb = ipProtoIcmpv6
    · rw [if_pos hicmp] at hwalk
      split at hwalk
      · cases hwalk
      · rename_i icmp6h hicmp6h
        obtain rfl := eq_fieldBytes_of_slice hicmp6h
        split at hwalk
        · cases hwalk
        · rename_i htype
          rw [fieldU8_fieldBytes skb (by decide), not_not] at htype
          split at hwalk
          · cases hwalk
          · rename_i quoted hquoted
            obtain rfl := eq_fieldBytes_of_slice hquoted
            split at hwalk
            · cases hwalk
            · rename_i th' hfill
              cases hwalk
              have htuple := tuple_quoted .ipv6
                (IpFamily.ipv6.walkedQuoted skb ofs)
                (slice_eq_some_iff.mp hquoted).1 hfill
              exact ⟨htuple.trans (if_pos hicmp).symm, fun _ => htype⟩
    · rw [if_neg hicmp] at hwalk
      split at hwalk
      · split at hwalk
        · cases hwalk
        · rename_i th' hth
          obtain rfl := eq_fieldBytes_of_slice hth
          cases hwalk
          exact ⟨(tuple_tcp .ipv6 skb ofs).trans (if_neg hicmp).symm,
            fun h => absurd h hicmp⟩
      · split at hwalk
        · cases hwalk
        · cases hwalk

/-- The walk of the packet behind its Ethernet header. -/
theorem innerPacket_walked {family : IpFamily} {packet th : Bytes}
    {ip : InnerIp} (hlength : ethernetHdrSize ≤ packet.length)
    (hwalk : (family.parsedFields packet).innerPacket
      (packet.drop ethernetHdrSize) = .flow ip th) :
    family.Walked packet ethernetHdrSize (ip.tuple th) := by
  have hfront : (packet.take ethernetHdrSize).length = ethernetHdrSize :=
    List.length_take_of_le hlength
  have hsplit := List.take_append_drop ethernetHdrSize packet
  cases family with
  | ipv4 =>
      have happend := GueFrame.innerIpv4_append (packet.drop ethernetHdrSize) hfront
      rw [hsplit] at happend
      exact innerIpv4_flow (happend.trans hwalk)
  | ipv6 =>
      have happend := GueFrame.innerIpv6_append (packet.drop ethernetHdrSize) hfront
      rw [hsplit] at happend
      exact innerIpv6_flow (happend.trans hwalk)

/-! ## The two tuples -/

/-- The bytes the director reads at the offsets of a header without options
are those the walk reads behind the header. -/
def SameFlowBytes (packet : Bytes) : Prop :=
  let l4 := ethernetHdrSize + IpFamily.ipv4.hdrLen packet ethernetHdrSize
  let quoted := l4 + icmpv4HdrSize
  let quotedL4 := quoted + IpFamily.ipv4.hdrLen packet quoted
  if fieldU8 23 packet = ipProtoIcmpv4 then
    if fieldU8 34 packet = icmpv4TypeDestinationUnreachable then
      fieldBytes 58 4 packet = fieldBytes (quoted + 16) 4 packet ∧
        fieldBytes 54 4 packet = fieldBytes (quoted + 12) 4 packet ∧
        fieldU16 64 packet = fieldU16 (quotedL4 + 2) packet ∧
        fieldU16 62 packet = fieldU16 quotedL4 packet
    else
      fieldBytes 26 4 packet = fieldBytes (quoted + 16) 4 packet ∧
        fieldBytes 30 4 packet = fieldBytes (quoted + 12) 4 packet ∧
        0 = fieldU16 (quotedL4 + 2) packet ∧ 0 = fieldU16 quotedL4 packet
  else
    fieldU16 34 packet = fieldU16 l4 packet ∧
      fieldU16 36 packet = fieldU16 (l4 + 2) packet

theorem proxyTuple_of_icmp {family : IpFamily} {packet : Bytes}
    (hicmp : family.isIcmp packet) :
    family.proxyTuple packet ethernetHdrSize =
      (family.walkedTuple packet
        (family.walkedQuoted packet ethernetHdrSize)).swap :=
  if_pos hicmp

theorem proxyTuple_of_not_icmp {family : IpFamily} {packet : Bytes}
    (hicmp : ¬ family.isIcmp packet) :
    family.proxyTuple packet ethernetHdrSize =
      family.walkedTuple packet ethernetHdrSize :=
  if_neg hicmp

theorem parsedTuple_eq_proxyTuple_iff (packet : Bytes) :
    IpFamily.ipv4.parsedTuple packet =
        IpFamily.ipv4.proxyTuple packet ethernetHdrSize ↔
      SameFlowBytes packet := by
  unfold SameFlowBytes
  by_cases hicmp : IpFamily.ipv4.isIcmp packet
  · have hproto : fieldU8 23 packet = ipProtoIcmpv4 := hicmp
    by_cases hpmtu : IpFamily.ipv4.isPathMtu packet
    · have htype : fieldU8 34 packet = icmpv4TypeDestinationUnreachable :=
        hpmtu
      rw [(parsedFields_of_pathMtu hicmp hpmtu).2.1,
        proxyTuple_of_icmp hicmp, FlowTuple.ext_iff, if_pos hproto,
        if_pos htype]
      exact Iff.rfl
    · have htype : fieldU8 34 packet ≠ icmpv4TypeDestinationUnreachable :=
        hpmtu
      rw [(parsedFields_of_icmp hicmp hpmtu).2.1,
        proxyTuple_of_icmp hicmp, FlowTuple.ext_iff, if_pos hproto,
        if_neg htype]
      exact Iff.rfl
  · have hproto : fieldU8 23 packet ≠ ipProtoIcmpv4 := hicmp
    rw [(parsedFields_of_plain hicmp).2.1, proxyTuple_of_not_icmp hicmp,
      FlowTuple.ext_iff, if_neg hproto]
    constructor
    · rintro ⟨_, _, hports⟩
      exact hports
    · intro hports
      exact ⟨rfl, rfl, hports⟩

/-- Headers of the fixed length are walked to the fixed offsets. -/
theorem parsedTuple_eq_proxyTuple {family : IpFamily} {packet : Bytes}
    {tuple : FlowTuple} (hwalked : family.Walked packet ethernetHdrSize tuple)
    (houter : family.hdrLen packet ethernetHdrSize = family.hdrSize)
    (hquoted : family.isIcmp packet →
      family.hdrLen packet family.quotedOffset = family.hdrSize) :
    family.parsedTuple packet =
      family.proxyTuple packet ethernetHdrSize := by
  obtain ⟨_, htype⟩ := hwalked
  rw [houter] at htype
  by_cases hicmp : family.isIcmp packet
  · have hwalkedQuoted : family.walkedQuoted packet ethernetHdrSize =
        family.quotedOffset := by
      rw [IpFamily.walkedQuoted, houter]
      rfl
    rw [(parsedFields_of_pathMtu hicmp (htype hicmp)).2.1,
      proxyTuple_of_icmp hicmp, hwalkedQuoted, IpFamily.walkedTuple,
      hquoted hicmp]
    rfl
  · rw [(parsedFields_of_plain hicmp).2.1, proxyTuple_of_not_icmp hicmp,
      IpFamily.walkedTuple, houter]
    rfl

theorem hdrLen_of_noOptions {family : IpFamily} {packet : Bytes} {base : ℕ}
    (hoptions : NoOptions family packet base) :
    family.hdrLen packet base = family.hdrSize := by
  cases family with
  | ipv4 =>
      rw [IpFamily.hdrLen, hoptions rfl]
      rfl
  | ipv6 => rfl

/-- The director and the proxy agree on every IPv6 packet, and on an IPv4
packet exactly when the bytes they read are the same. -/
theorem director_proxy_same_flow_iff {packet th : Bytes}
    {fields : PacketFields} {ip : InnerIp}
    (hextract : glbExtractPacketFields .dpdk packet = some fields)
    (hwalk : fields.innerPacket (packet.drop ethernetHdrSize) =
      .flow ip th) :
    fields.tuple = ip.tuple th ↔
      (fields.etherType = etherTypeIpv4 → SameFlowBytes packet) := by
  obtain ⟨family, rfl, _, hlength⟩ := glbExtractPacketFields_eq_some hextract
  have hwalked := innerPacket_walked
    ((family.ethernet_le_parsedLength packet).trans hlength) hwalk
  rw [IpFamily.parsedFields_tuple, hwalked.1]
  cases family with
  | ipv4 =>
      rw [parsedTuple_eq_proxyTuple_iff]
      exact ⟨fun hsame _ => hsame, fun hsame => hsame rfl⟩
  | ipv6 =>
      have hsame := parsedTuple_eq_proxyTuple hwalked rfl fun _ => rfl
      have hother : etherTypeIpv6 ≠ etherTypeIpv4 := by decide
      exact ⟨fun _ hether => absurd hether hother, fun _ => hsame⟩

theorem director_proxy_same_flow_iff_samplePacket :
    sampleFields.tuple =
        (InnerIp.v4 (sampleTcp.take 20)).tuple (sampleTcp.drop 20) ↔
      (sampleFields.etherType = etherTypeIpv4 →
        SameFlowBytes samplePacket) :=
  director_proxy_same_flow_iff glbExtractPacketFields_sample
    (show _ = InnerPacket.flow (.v4 (sampleTcp.take 20))
      (sampleTcp.drop 20) from rfl)

/-- Without options in the headers walked, the two agree. -/
theorem same_flow_of_noOptions {packet th : Bytes} {fields : PacketFields}
    {ip : InnerIp} {family : IpFamily}
    (hether : ntohs (fieldU16 12 packet) = family.etherType)
    (hextract : glbExtractPacketFields .dpdk packet = some fields)
    (hwalk : fields.innerPacket (packet.drop ethernetHdrSize) =
      .flow ip th)
    (houter : NoOptions family packet ethernetHdrSize)
    (hquoted : family.isIcmp packet →
      NoOptions family packet family.quotedOffset) :
    fields.tuple = ip.tuple th := by
  rw [glbExtractPacketFields_eq .dpdk hether,
    Option.ite_none_right_eq_some] at hextract
  obtain ⟨hlength, hfields⟩ := hextract
  obtain rfl := Option.some.inj hfields
  have hwalked := innerPacket_walked
    ((family.ethernet_le_parsedLength packet).trans hlength) hwalk
  rw [IpFamily.parsedFields_tuple, hwalked.1]
  exact parsedTuple_eq_proxyTuple hwalked (hdrLen_of_noOptions houter)
    fun hicmp => hdrLen_of_noOptions (hquoted hicmp)

/-- The acknowledgement of `samplePacket` with a router alert option. -/
def sampleOptions : Bytes :=
  [2, 0, 0, 0, 0, 1, 2, 0, 0, 0, 0, 2, 0x08, 0x00,
    0x46, 0, 0, 44, 0, 0, 0x40, 0, 64, 6, 0, 0, 192, 168, 0, 4, 1, 1, 1, 1,
    0x94, 4, 0, 0] ++ sampleTcp.drop 20

/-- The director takes the option for the ports. -/
theorem options_split_the_flow :
    ∃ fields iph th,
      glbExtractPacketFields .dpdk sampleOptions = some fields ∧
      fields.innerPacket (sampleOptions.drop ethernetHdrSize) =
        .flow (.v4 iph) th ∧
      fields.tuple =
        ⟨[192, 168, 0, 4], [1, 1, 1, 1], htons 0x9404, htons 0⟩ ∧
      (InnerIp.v4 iph).tuple th =
        ⟨[192, 168, 0, 4], [1, 1, 1, 1], htons 0x3039, htons 80⟩ :=
  ⟨_, _, _, rfl, rfl, by decide, by decide⟩

end GlbDirector
