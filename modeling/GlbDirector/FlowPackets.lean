import GlbDirector.PacketParsing

/-!
# The packets of a flow

A flow is named by the addresses and ports of its client-to-VIP direction.
Its own packets are TCP or UDP packets of that direction.  A router that cannot
forward a packet of the other direction answers with an ICMP error that quotes
it, so the tuple of an error is the one of the quoted packet with the two ends
exchanged.  Headers carry no options and no extension headers, which puts the
fields of both families at fixed offsets.
-/

namespace GlbDirector

open ByteCodec

/-! ## Fields of a header inside a packet -/

theorem slice_fieldBytes {offset len : ℕ} {packet : Bytes}
    (hfits : offset + len ≤ packet.length) :
    slice offset len packet = some (fieldBytes offset len packet) :=
  slice_eq_some_iff.mpr ⟨hfits, rfl⟩

theorem eq_fieldBytes_of_slice {offset len : ℕ} {packet part : Bytes}
    (hslice : slice offset len packet = some part) :
    part = fieldBytes offset len packet :=
  (slice_eq_some_iff.mp hslice).2.symm

theorem fieldBytes_fieldBytes (packet : Bytes) {base size offset len : ℕ}
    (hfits : offset + len ≤ size) :
    fieldBytes offset len (fieldBytes base size packet) =
      fieldBytes (base + offset) len packet := by
  rw [fieldBytes, fieldBytes, fieldBytes, List.drop_take, List.take_take,
    List.drop_drop, min_eq_left (by omega)]

theorem fieldU16_fieldBytes (packet : Bytes) {base size offset : ℕ}
    (hfits : offset + 2 ≤ size) :
    fieldU16 offset (fieldBytes base size packet) =
      fieldU16 (base + offset) packet :=
  congrArg wordU16 (fieldBytes_fieldBytes packet hfits)

theorem fieldU8_fieldBytes (packet : Bytes) {base size offset : ℕ}
    (hfits : offset < size) :
    fieldU8 offset (fieldBytes base size packet) =
      fieldU8 (base + offset) packet := by
  rw [fieldU8, fieldU8, fieldBytes, List.getD_eq_getElem?_getD,
    List.getD_eq_getElem?_getD, List.getElem?_take, if_pos hfits,
    List.getElem?_drop]

/-- The XDP build's header read, as the test the code makes. -/
theorem safelyGetHeader_xdp_eq_ite (packet : Bytes)
    (space offset len : ℕ) :
    safelyGetHeader .xdp packet space offset len =
      if offset + len ≤ packet.length then
        some (fieldBytes offset len packet, space)
      else none := by
  rw [safelyGetHeader_xdp, slice]
  split
  · rfl
  · rfl

theorem ite_some_bind {α β : Type} (c : Prop) [Decidable c] (a : α)
    (f : α → Option β) :
    (if c then some a else none).bind f = if c then f a else none := by
  split
  · rfl
  · rfl

theorem ite_le_ite_le {α : Type} {near far : ℕ} (hle : near ≤ far)
    (length : ℕ) (result : Option α) :
    (if near ≤ length then if far ≤ length then result else none else none) =
      if far ≤ length then result else none := by
  by_cases hfar : far ≤ length
  · rw [if_pos (hle.trans hfar)]
  · rw [if_neg hfar, ite_self]

/-! ## The two families -/

inductive IpFamily where
  | ipv4
  | ipv6
  deriving DecidableEq, Repr

namespace IpFamily

def etherType : IpFamily → UInt16
  | ipv4 => etherTypeIpv4
  | ipv6 => etherTypeIpv6

def hdrSize : IpFamily → ℕ
  | ipv4 => ipv4HdrSize
  | ipv6 => ipv6HdrSize

def protoOffset : IpFamily → ℕ
  | ipv4 => 9
  | ipv6 => 6

def srcOffset : IpFamily → ℕ
  | ipv4 => 12
  | ipv6 => 8

def addrSize : IpFamily → ℕ
  | ipv4 => 4
  | ipv6 => 16

def dstOffset (family : IpFamily) : ℕ := family.srcOffset + family.addrSize

def icmpProto : IpFamily → UInt8
  | ipv4 => ipProtoIcmpv4
  | ipv6 => ipProtoIcmpv6

/-- The ICMP header of a path-MTU error. -/
def icmpSize : IpFamily → ℕ
  | ipv4 => icmpv4HdrSize
  | ipv6 => icmpv6HdrSize + icmpv6TooBigHdrSize

def pathMtuType : IpFamily → UInt8
  | ipv4 => icmpv4TypeDestinationUnreachable
  | ipv6 => icmpv6TypePacketTooBig

/-- Where the payload of the outer IP header starts. -/
def l4Offset (family : IpFamily) : ℕ := ethernetHdrSize + family.hdrSize

/-- Where the packet quoted by a path-MTU error starts. -/
def quotedOffset (family : IpFamily) : ℕ := family.l4Offset + family.icmpSize

end IpFamily

/-! ## Tuples -/

/-- Addresses as their bytes, ports in network order. -/
@[ext] structure FlowTuple where
  srcAddr : Bytes
  dstAddr : Bytes
  srcPort : UInt16
  dstPort : UInt16
  deriving DecidableEq

def FlowTuple.swap (tuple : FlowTuple) : FlowTuple where
  srcAddr := tuple.dstAddr
  dstAddr := tuple.srcAddr
  srcPort := tuple.dstPort
  dstPort := tuple.srcPort

def PacketFields.tuple (fields : PacketFields) : FlowTuple where
  srcAddr := fields.srcAddr
  dstAddr := fields.dstAddr
  srcPort := fields.srcPort
  dstPort := fields.dstPort

/-- The tuple of the packet whose IP header starts at `base`. -/
def headerTuple (family : IpFamily) (packet : Bytes) (base : ℕ) :
    FlowTuple where
  srcAddr := fieldBytes (base + family.srcOffset) family.addrSize packet
  dstAddr := fieldBytes (base + family.dstOffset) family.addrSize packet
  srcPort := fieldU16 (base + family.hdrSize) packet
  dstPort := fieldU16 (base + family.hdrSize + 2) packet

/-! ## What the parser extracts

The two extraction functions as one description over the family: how long
the packet must be, and which bytes each field is read from. -/

namespace IpFamily

/-- The addresses of the outer header, without ports. -/
def outerTuple (family : IpFamily) (packet : Bytes) : FlowTuple :=
  { headerTuple family packet ethernetHdrSize with srcPort := 0, dstPort := 0 }

/-- The ICMP header the parser reads before it looks at the type. -/
def icmpParsedSize : IpFamily → ℕ
  | ipv4 => icmpv4HdrSize
  | ipv6 => icmpv6HdrSize

def isIcmp (family : IpFamily) (packet : Bytes) : Prop :=
  fieldU8 (ethernetHdrSize + family.protoOffset) packet = family.icmpProto

def isPathMtu (family : IpFamily) (packet : Bytes) : Prop :=
  fieldU8 family.l4Offset packet = family.pathMtuType

instance (family : IpFamily) (packet : Bytes) :
    Decidable (family.isIcmp packet) :=
  inferInstanceAs (Decidable (_ = _))

instance (family : IpFamily) (packet : Bytes) :
    Decidable (family.isPathMtu packet) :=
  inferInstanceAs (Decidable (_ = _))

/-- The length a packet needs to be parsed. -/
def parsedLength (family : IpFamily) (packet : Bytes) : ℕ :=
  if family.isIcmp packet then
    if family.isPathMtu packet then
      family.quotedOffset + family.hdrSize + l4PortsHdrSize
    else family.l4Offset + family.icmpParsedSize
  else family.l4Offset + l4PortsHdrSize

def parsedTuple (family : IpFamily) (packet : Bytes) : FlowTuple :=
  if family.isIcmp packet then
    if family.isPathMtu packet then
      (headerTuple family packet family.quotedOffset).swap
    else family.outerTuple packet
  else headerTuple family packet ethernetHdrSize

def parsedProto (family : IpFamily) (packet : Bytes) : UInt8 :=
  if family.isIcmp packet ∧ family.isPathMtu packet then
    fieldU8 (family.quotedOffset + family.protoOffset) packet
  else fieldU8 (ethernetHdrSize + family.protoOffset) packet

/-- The IPv4 identification, or the low half of the IPv6 flow label. -/
def icmpHint (family : IpFamily) (packet : Bytes) : UInt16 :=
  match family with
  | ipv4 => ntohs (fieldU16 (ethernetHdrSize + 4) packet)
  | ipv6 => ntohs (fieldU16 (ethernetHdrSize + 2) packet)

def parsedHint (family : IpFamily) (packet : Bytes) : UInt16 :=
  if family.isIcmp packet ∧ ¬ family.isPathMtu packet then
    family.icmpHint packet
  else ntohs (family.parsedTuple packet).srcPort

def totalLength (family : IpFamily) (packet : Bytes) : UInt16 :=
  match family with
  | ipv4 => ntohs (fieldU16 (ethernetHdrSize + 2) packet)
  | ipv6 => UInt16.ofNat ipv6HdrSize +
      ntohs (fieldU16 (ethernetHdrSize + 4) packet)

def gueProto : IpFamily → UInt8
  | ipv4 => ipProtoIpipv4
  | ipv6 => ipProtoIpipv6

def parsedFields (family : IpFamily) (packet : Bytes) : PacketFields where
  etherType := family.etherType
  origDstMac := fieldBytes 0 6 packet
  ipTotalLength := family.totalLength packet
  srcAddr := (family.parsedTuple packet).srcAddr
  dstAddr := (family.parsedTuple packet).dstAddr
  srcPort := (family.parsedTuple packet).srcPort
  dstPort := (family.parsedTuple packet).dstPort
  flowHashHint := family.parsedHint packet
  gueIpproto := family.gueProto
  originalIpproto := family.parsedProto packet

@[simp] theorem parsedFields_tuple (family : IpFamily) (packet : Bytes) :
    (family.parsedFields packet).tuple = family.parsedTuple packet := rfl

end IpFamily

theorem parsedFields_of_plain {family : IpFamily} {packet : Bytes}
    (hicmp : ¬ family.isIcmp packet) :
    family.parsedLength packet = family.l4Offset + l4PortsHdrSize ∧
      family.parsedTuple packet =
        headerTuple family packet ethernetHdrSize ∧
      family.parsedProto packet =
        fieldU8 (ethernetHdrSize + family.protoOffset) packet ∧
      family.parsedHint packet =
        ntohs (fieldU16 family.l4Offset packet) := by
  have htuple : family.parsedTuple packet =
      headerTuple family packet ethernetHdrSize := if_neg hicmp
  refine ⟨if_neg hicmp, htuple, if_neg (hicmp ·.1), ?_⟩
  rw [IpFamily.parsedHint, if_neg (hicmp ·.1), htuple]
  rfl

theorem parsedFields_of_pathMtu {family : IpFamily} {packet : Bytes}
    (hicmp : family.isIcmp packet) (hpmtu : family.isPathMtu packet) :
    family.parsedLength packet =
        family.quotedOffset + family.hdrSize + l4PortsHdrSize ∧
      family.parsedTuple packet =
        (headerTuple family packet family.quotedOffset).swap ∧
      family.parsedProto packet =
        fieldU8 (family.quotedOffset + family.protoOffset) packet ∧
      family.parsedHint packet =
        ntohs (fieldU16 (family.quotedOffset + family.hdrSize + 2)
          packet) := by
  have htuple : family.parsedTuple packet =
      (headerTuple family packet family.quotedOffset).swap := by
    rw [IpFamily.parsedTuple, if_pos hicmp, if_pos hpmtu]
  refine ⟨by rw [IpFamily.parsedLength, if_pos hicmp, if_pos hpmtu],
    htuple, if_pos ⟨hicmp, hpmtu⟩, ?_⟩
  rw [IpFamily.parsedHint, if_neg (·.2 hpmtu), htuple]
  rfl

theorem parsedFields_of_icmp {family : IpFamily} {packet : Bytes}
    (hicmp : family.isIcmp packet) (hpmtu : ¬ family.isPathMtu packet) :
    family.parsedLength packet =
        family.l4Offset + family.icmpParsedSize ∧
      family.parsedTuple packet = family.outerTuple packet ∧
      family.parsedProto packet =
        fieldU8 (ethernetHdrSize + family.protoOffset) packet ∧
      family.parsedHint packet = family.icmpHint packet := by
  refine ⟨by rw [IpFamily.parsedLength, if_pos hicmp, if_neg hpmtu],
    by rw [IpFamily.parsedTuple, if_pos hicmp, if_neg hpmtu],
    if_neg (hpmtu ·.2), if_pos ⟨hicmp, hpmtu⟩⟩

theorem extractPacketFieldsIpv4_eq (packet : Bytes) :
    extractPacketFieldsIpv4 .xdp packet etherTypeIpv4
        (fieldBytes 0 6 packet) 0 =
      if IpFamily.ipv4.parsedLength packet ≤ packet.length then
        some (IpFamily.ipv4.parsedFields packet)
      else none := by
  simp (disch := decide) only [extractPacketFieldsIpv4,
    safelyGetHeader_xdp_eq_ite, Option.bind_eq_bind, ite_some_bind,
    fieldU8_fieldBytes, fieldU16_fieldBytes, fieldBytes_fieldBytes]
  by_cases hicmp : IpFamily.ipv4.isIcmp packet
  · have hproto : fieldU8 (ethernetHdrSize + 9) packet = ipProtoIcmpv4 := hicmp
    by_cases hpmtu : IpFamily.ipv4.isPathMtu packet
    · have htype : fieldU8 (ethernetHdrSize + ipv4HdrSize + 0) packet =
          icmpv4TypeDestinationUnreachable := hpmtu
      obtain ⟨hlength, htuple, hproto', hhint⟩ :=
        parsedFields_of_pathMtu hicmp hpmtu
      simp (disch := decide) only [if_pos hproto, if_pos htype,
        ite_le_ite_le]
      rw [IpFamily.parsedFields, hlength, htuple, hproto', hhint]
      rfl
    · have htype : ¬ fieldU8 (ethernetHdrSize + ipv4HdrSize + 0) packet =
          icmpv4TypeDestinationUnreachable := hpmtu
      obtain ⟨hlength, htuple, hproto', hhint⟩ :=
        parsedFields_of_icmp hicmp hpmtu
      simp (disch := decide) only [if_pos hproto, if_neg htype,
        ite_le_ite_le]
      rw [IpFamily.parsedFields, hlength, htuple, hproto', hhint]
      rfl
  · have hproto : ¬ fieldU8 (ethernetHdrSize + 9) packet = ipProtoIcmpv4 := hicmp
    obtain ⟨hlength, htuple, hproto', hhint⟩ := parsedFields_of_plain hicmp
    simp (disch := decide) only [if_neg hproto, ite_le_ite_le]
    rw [IpFamily.parsedFields, hlength, htuple, hproto', hhint]
    rfl

theorem extractPacketFieldsIpv6_eq (packet : Bytes) :
    extractPacketFieldsIpv6 .xdp packet etherTypeIpv6
        (fieldBytes 0 6 packet) 0 =
      if IpFamily.ipv6.parsedLength packet ≤ packet.length then
        some (IpFamily.ipv6.parsedFields packet)
      else none := by
  simp (disch := decide) only [extractPacketFieldsIpv6,
    safelyGetHeader_xdp_eq_ite, Option.bind_eq_bind, ite_some_bind,
    fieldU8_fieldBytes, fieldU16_fieldBytes, fieldBytes_fieldBytes]
  by_cases hicmp : IpFamily.ipv6.isIcmp packet
  · have hproto : fieldU8 (ethernetHdrSize + 6) packet = ipProtoIcmpv6 := hicmp
    by_cases hpmtu : IpFamily.ipv6.isPathMtu packet
    · have htype : fieldU8 (ethernetHdrSize + ipv6HdrSize + 0) packet =
          icmpv6TypePacketTooBig := hpmtu
      obtain ⟨hlength, htuple, hproto', hhint⟩ :=
        parsedFields_of_pathMtu hicmp hpmtu
      simp (disch := decide) only [if_pos hproto, if_pos htype,
        ite_le_ite_le]
      rw [IpFamily.parsedFields, hlength, htuple, hproto', hhint]
      rfl
    · have htype : ¬ fieldU8 (ethernetHdrSize + ipv6HdrSize + 0) packet =
          icmpv6TypePacketTooBig := hpmtu
      obtain ⟨hlength, htuple, hproto', hhint⟩ :=
        parsedFields_of_icmp hicmp hpmtu
      simp (disch := decide) only [if_pos hproto, if_neg htype,
        ite_le_ite_le]
      rw [IpFamily.parsedFields, hlength, htuple, hproto', hhint]
      rfl
  · have hproto : ¬ fieldU8 (ethernetHdrSize + 6) packet = ipProtoIcmpv6 := hicmp
    obtain ⟨hlength, htuple, hproto', hhint⟩ := parsedFields_of_plain hicmp
    simp (disch := decide) only [if_neg hproto, ite_le_ite_le]
    rw [IpFamily.parsedFields, hlength, htuple, hproto', hhint]
    rfl

theorem IpFamily.ethernet_le_parsedLength (family : IpFamily)
    (packet : Bytes) : ethernetHdrSize ≤ family.parsedLength packet := by
  rw [IpFamily.parsedLength, IpFamily.quotedOffset, IpFamily.l4Offset]
  split
  · split <;> omega
  · omega

/-- The parser of a packet whose Ethernet header names the family. -/
theorem glbExtractPacketFields_eq (build : ParserBuild)
    {family : IpFamily} {packet : Bytes}
    (hether : ntohs (fieldU16 12 packet) = family.etherType) :
    glbExtractPacketFields build packet =
      if family.parsedLength packet ≤ packet.length then
        some (family.parsedFields packet)
      else none := by
  have htype : fieldU16 12 (fieldBytes 0 ethernetHdrSize packet) =
      fieldU16 12 packet := fieldU16_fieldBytes packet (by decide)
  have hmac : fieldBytes 0 6 (fieldBytes 0 ethernetHdrSize packet) =
      fieldBytes 0 6 packet := fieldBytes_fieldBytes packet (by decide)
  have hlength := family.ethernet_le_parsedLength packet
  rw [glbExtractPacketFields_xdp]
  simp only [glbExtractPacketFields, safelyGetHeader_xdp_eq_ite,
    Option.bind_eq_bind, ite_some_bind, htype, hmac, hether, Nat.zero_add]
  cases family with
  | ipv4 =>
      rw [show IpFamily.ipv4.etherType = etherTypeIpv4 from rfl, if_pos rfl,
        extractPacketFieldsIpv4_eq, ite_le_ite_le hlength]
  | ipv6 =>
      rw [show IpFamily.ipv6.etherType = etherTypeIpv6 from rfl,
        if_neg (show etherTypeIpv6 ≠ etherTypeIpv4 by decide), if_pos rfl,
        extractPacketFieldsIpv6_eq, ite_le_ite_le hlength]

/-- Every parsed packet is described by one of the two families. -/
theorem glbExtractPacketFields_eq_some {build : ParserBuild}
    {packet : Bytes} {fields : PacketFields}
    (hextract : glbExtractPacketFields build packet = some fields) :
    ∃ family : IpFamily, fields = family.parsedFields packet ∧
      ntohs (fieldU16 12 packet) = family.etherType ∧
      family.parsedLength packet ≤ packet.length := by
  obtain ⟨_, hether, _⟩ := glbExtractPacketFields_etherType hextract
  obtain ⟨family, hfamily⟩ :
      ∃ family : IpFamily, fields.etherType = family.etherType := by
    cases glbExtractPacketFields_family hextract with
    | ipv4 hipv4 => exact ⟨.ipv4, hipv4⟩
    | ipv6 hipv6 => exact ⟨.ipv6, hipv6⟩
  have htype := hether.symm.trans hfamily
  rw [glbExtractPacketFields_eq build htype, Option.ite_none_right_eq_some]
    at hextract
  exact ⟨family, (Option.some.inj hextract.2).symm, htype, hextract.1⟩

/-! ## Packets -/

/-- The IPv4 header at `base` is twenty bytes long. -/
def NoOptions (family : IpFamily) (packet : Bytes) (base : ℕ) : Prop :=
  family = .ipv4 → fieldU8 base packet &&& 0x0f = 5

instance (family : IpFamily) (packet : Bytes) (base : ℕ) :
    Decidable (NoOptions family packet base) :=
  inferInstanceAs (Decidable (_ → _))

/-- A TCP or UDP packet at `base`, as far as its ports. -/
structure TransportAt (family : IpFamily) (packet : Bytes) (base : ℕ) :
    Prop where
  hoptions : NoOptions family packet base
  hproto : fieldU8 (base + family.protoOffset) packet = ipProtoTcp ∨
    fieldU8 (base + family.protoOffset) packet = ipProtoUdp
  hports : base + family.hdrSize + l4PortsHdrSize ≤ packet.length

structure PlainPacket (family : IpFamily) (packet : Bytes) : Prop where
  hether : ntohs (fieldU16 12 packet) = family.etherType
  htransport : TransportAt family packet ethernetHdrSize

structure PathMtuPacket (family : IpFamily) (packet : Bytes) : Prop where
  hether : ntohs (fieldU16 12 packet) = family.etherType
  hoptions : NoOptions family packet ethernetHdrSize
  hproto : fieldU8 (ethernetHdrSize + family.protoOffset) packet =
    family.icmpProto
  htype : fieldU8 family.l4Offset packet = family.pathMtuType
  hquoted : TransportAt family packet family.quotedOffset

/-- `packet` belongs to the flow with the client-to-VIP tuple given. -/
inductive FlowPacket (family : IpFamily) (packet : Bytes) :
    FlowTuple → Prop where
  | plain (hplain : PlainPacket family packet) :
      FlowPacket family packet (headerTuple family packet ethernetHdrSize)
  | pathMtu (herror : PathMtuPacket family packet) :
      FlowPacket family packet
        (headerTuple family packet family.quotedOffset).swap

theorem TransportAt.not_icmp {family : IpFamily} {packet : Bytes}
    (htransport : TransportAt family packet ethernetHdrSize) :
    ¬ family.isIcmp packet := by
  intro hicmp
  rw [IpFamily.isIcmp] at hicmp
  rcases htransport.hproto with hproto | hproto
  · rw [hproto] at hicmp
    cases family <;> exact absurd hicmp (by decide)
  · rw [hproto] at hicmp
    cases family <;> exact absurd hicmp (by decide)

/-- A packet of a flow parses, and to the flow's own tuple. -/
theorem FlowPacket.parsed {family : IpFamily} {packet : Bytes}
    {tuple : FlowTuple} (hflow : FlowPacket family packet tuple)
    (build : ParserBuild) :
    glbExtractPacketFields build packet =
        some (family.parsedFields packet) ∧
      family.parsedTuple packet = tuple ∧
      family.parsedHint packet = ntohs tuple.srcPort := by
  cases hflow with
  | plain hplain =>
      obtain ⟨hlength, htuple, _, hhint⟩ :=
        parsedFields_of_plain hplain.htransport.not_icmp
      refine ⟨?_, htuple, hhint⟩
      rw [glbExtractPacketFields_eq build hplain.hether, hlength]
      exact if_pos hplain.htransport.hports
  | pathMtu herror =>
      obtain ⟨hlength, htuple, _, hhint⟩ :=
        parsedFields_of_pathMtu herror.hproto herror.htype
      refine ⟨?_, htuple, hhint⟩
      rw [glbExtractPacketFields_eq build herror.hether, hlength]
      exact if_pos herror.hquoted.hports

end GlbDirector
