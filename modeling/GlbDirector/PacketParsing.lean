import GlbDirector.SipHash

/-!
# Packet parsing and hashing (`packet_parsing.h`)

The header is compiled into both directors.  The DPDK build copies each header
into a linearisation space of fixed size and stops when the space is used up;
the XDP build compares pointers with the end of the packet, and checks the
hash length for the verifier.  Multi-byte fields hold the value a
little-endian host loads; `ntohs` turns a field in network order into a
number.
-/

namespace GlbDirector

open ByteCodec

inductive ParserBuild where
  | dpdk
  | xdp
  deriving DecidableEq, Repr

def ntohs (x : UInt16) : UInt16 := wordU16 (u16le x).reverse

def htons (x : UInt16) : UInt16 := ntohs x

theorem u16le_ntohs (x : UInt16) : u16le (ntohs x) = (u16le x).reverse := by
  rw [ntohs, u16le_wordU16]
  rw [List.length_reverse, u16le_length]

theorem ntohs_ntohs (x : UInt16) : ntohs (ntohs x) = x := by
  rw [ntohs, u16le_ntohs, List.reverse_reverse, wordU16_u16le]

def fieldU8 (offset : ℕ) (header : Bytes) : UInt8 := header.getD offset 0

def fieldU16 (offset : ℕ) (header : Bytes) : UInt16 :=
  wordU16 ((header.drop offset).take 2)

def fieldU32 (offset : ℕ) (header : Bytes) : UInt32 :=
  wordU32 ((header.drop offset).take 4)

def fieldBytes (offset len : ℕ) (header : Bytes) : Bytes :=
  (header.drop offset).take len

/-! ## Header sizes and constants -/

def ethernetHdrSize : ℕ := 14
def ipv4HdrSize : ℕ := 20
def ipv6HdrSize : ℕ := 40
def icmpv4HdrSize : ℕ := 8
def icmpv6HdrSize : ℕ := 4
def icmpv6TooBigHdrSize : ℕ := 4
def l4PortsHdrSize : ℕ := 4
def udpHdrSize : ℕ := 8
def gueHdrSize : ℕ := 8

def maxParsedHeaderSize : ℕ :=
  ethernetHdrSize + ipv6HdrSize + icmpv6HdrSize + icmpv6TooBigHdrSize +
    ipv6HdrSize + l4PortsHdrSize

def maxHashDataSize : ℕ := 16 + 16 + 2 + 2

def etherTypeIpv4 : UInt16 := 0x0800
def etherTypeIpv6 : UInt16 := 0x86DD

def ipProtoIcmpv4 : UInt8 := 0x01
def ipProtoIpipv4 : UInt8 := 0x04
def ipProtoTcp : UInt8 := 0x06
def ipProtoUdp : UInt8 := 0x11
def ipProtoIpipv6 : UInt8 := 0x29
def ipProtoIcmpv6 : UInt8 := 0x3A

def icmpv4TypeDestinationUnreachable : UInt8 := 3
def icmpv6TypePacketTooBig : UInt8 := 2

/-! ## Extracting the fields -/

/-- The fields of `glb_route_context` that parsing fills.  An address is its
four or sixteen bytes; ports stay in network order. -/
structure PacketFields where
  etherType : UInt16
  origDstMac : Bytes
  ipTotalLength : UInt16
  srcAddr : Bytes
  dstAddr : Bytes
  srcPort : UInt16
  dstPort : UInt16
  flowHashHint : UInt16
  gueIpproto : UInt8
  originalIpproto : UInt8
  deriving DecidableEq

/-- `SAFELY_GET_HEADER_OR_RETURN`: the header at `offset`, and the
linearisation space used so far. -/
def safelyGetHeader (build : ParserBuild) (packet : Bytes)
    (space offset len : ℕ) : Option (Bytes × ℕ) :=
  match build with
  | .dpdk =>
      if space + len > maxParsedHeaderSize then none
      else (slice offset len packet).map fun header => (header, space + len)
  | .xdp => (slice offset len packet).map fun header => (header, space)

def extractPacketFieldsIpv4 (build : ParserBuild) (packet : Bytes)
    (etherType : UInt16) (origDstMac : Bytes) (space : ℕ) :
    Option PacketFields := do
  let (ipv4Hdr, space) ←
    safelyGetHeader build packet space ethernetHdrSize ipv4HdrSize
  let ipTotalLength := ntohs (fieldU16 2 ipv4Hdr)
  let nextProto := fieldU8 9 ipv4Hdr
  if nextProto = ipProtoIcmpv4 then
    let (icmpHdr, space) ← safelyGetHeader build packet space
      (ethernetHdrSize + ipv4HdrSize) icmpv4HdrSize
    if fieldU8 0 icmpHdr = icmpv4TypeDestinationUnreachable then
      let (origIpv4Hdr, space) ← safelyGetHeader build packet space
        (ethernetHdrSize + ipv4HdrSize + icmpv4HdrSize) ipv4HdrSize
      let (origL4Hdr, _) ← safelyGetHeader build packet space
        (ethernetHdrSize + ipv4HdrSize + icmpv4HdrSize + ipv4HdrSize)
        l4PortsHdrSize
      return {
        etherType, origDstMac, ipTotalLength
        srcAddr := fieldBytes 16 4 origIpv4Hdr
        dstAddr := fieldBytes 12 4 origIpv4Hdr
        srcPort := fieldU16 2 origL4Hdr
        dstPort := fieldU16 0 origL4Hdr
        flowHashHint := ntohs (fieldU16 2 origL4Hdr)
        gueIpproto := ipProtoIpipv4
        originalIpproto := fieldU8 9 origIpv4Hdr }
    else
      return {
        etherType, origDstMac, ipTotalLength
        srcAddr := fieldBytes 12 4 ipv4Hdr
        dstAddr := fieldBytes 16 4 ipv4Hdr
        srcPort := 0
        dstPort := 0
        flowHashHint := ntohs (fieldU16 4 ipv4Hdr)
        gueIpproto := ipProtoIpipv4
        originalIpproto := nextProto }
  else
    let (origL4Hdr, _) ← safelyGetHeader build packet space
      (ethernetHdrSize + ipv4HdrSize) l4PortsHdrSize
    return {
      etherType, origDstMac, ipTotalLength
      srcAddr := fieldBytes 12 4 ipv4Hdr
      dstAddr := fieldBytes 16 4 ipv4Hdr
      srcPort := fieldU16 0 origL4Hdr
      dstPort := fieldU16 2 origL4Hdr
      flowHashHint := ntohs (fieldU16 0 origL4Hdr)
      gueIpproto := ipProtoIpipv4
      originalIpproto := nextProto }

def extractPacketFieldsIpv6 (build : ParserBuild) (packet : Bytes)
    (etherType : UInt16) (origDstMac : Bytes) (space : ℕ) :
    Option PacketFields := do
  let (ipv6Hdr, space) ←
    safelyGetHeader build packet space ethernetHdrSize ipv6HdrSize
  let ipTotalLength :=
    UInt16.ofNat ipv6HdrSize + ntohs (fieldU16 4 ipv6Hdr)
  let nextProto := fieldU8 6 ipv6Hdr
  if nextProto = ipProtoIcmpv6 then
    let (icmpHdr, space) ← safelyGetHeader build packet space
      (ethernetHdrSize + ipv6HdrSize) icmpv6HdrSize
    if fieldU8 0 icmpHdr = icmpv6TypePacketTooBig then
      let (origPkt, _) ← safelyGetHeader build packet space
        (ethernetHdrSize + ipv6HdrSize + icmpv6HdrSize +
          icmpv6TooBigHdrSize)
        (ipv6HdrSize + l4PortsHdrSize)
      return {
        etherType, origDstMac, ipTotalLength
        srcAddr := fieldBytes 24 16 origPkt
        dstAddr := fieldBytes 8 16 origPkt
        srcPort := fieldU16 42 origPkt
        dstPort := fieldU16 40 origPkt
        flowHashHint := ntohs (fieldU16 42 origPkt)
        gueIpproto := ipProtoIpipv6
        originalIpproto := fieldU8 6 origPkt }
    else
      return {
        etherType, origDstMac, ipTotalLength
        srcAddr := fieldBytes 8 16 ipv6Hdr
        dstAddr := fieldBytes 24 16 ipv6Hdr
        srcPort := 0
        dstPort := 0
        flowHashHint := ntohs (fieldU16 2 ipv6Hdr)
        gueIpproto := ipProtoIpipv6
        originalIpproto := nextProto }
  else
    let (origL4Hdr, _) ← safelyGetHeader build packet space
      (ethernetHdrSize + ipv6HdrSize) l4PortsHdrSize
    return {
      etherType, origDstMac, ipTotalLength
      srcAddr := fieldBytes 8 16 ipv6Hdr
      dstAddr := fieldBytes 24 16 ipv6Hdr
      srcPort := fieldU16 0 origL4Hdr
      dstPort := fieldU16 2 origL4Hdr
      flowHashHint := ntohs (fieldU16 0 origL4Hdr)
      gueIpproto := ipProtoIpipv6
      originalIpproto := nextProto }

/-- `none` stands for the return value -1. -/
def glbExtractPacketFields (build : ParserBuild) (packet : Bytes) :
    Option PacketFields := do
  let (ethHdr, space) ← safelyGetHeader build packet 0 0 ethernetHdrSize
  let etherType := ntohs (fieldU16 12 ethHdr)
  let origDstMac := fieldBytes 0 6 ethHdr
  if etherType = etherTypeIpv4 then
    extractPacketFieldsIpv4 build packet etherType origDstMac space
  else if etherType = etherTypeIpv6 then
    extractPacketFieldsIpv6 build packet etherType origDstMac space
  else none

/-! ## Hashing -/

structure HashFields where
  srcAddr : Bool
  dstAddr : Bool
  srcPort : Bool
  dstPort : Bool
  deriving DecidableEq, Repr

def HashFields.any (cfg : HashFields) : Bool :=
  cfg.srcAddr || cfg.dstAddr || cfg.srcPort || cfg.dstPort

def pushIf (selected : Bool) (bytes : Bytes) : Bytes :=
  if selected then bytes else []

/-- The bytes pushed into `hash_buf`; their number is `hash_len`. -/
def hashData (fields : PacketFields) (cfg : HashFields) : Bytes :=
  pushIf cfg.srcAddr fields.srcAddr ++ (pushIf cfg.dstAddr fields.dstAddr ++
    (pushIf cfg.srcPort (u16le fields.srcPort) ++
      pushIf cfg.dstPort (u16le fields.dstPort)))

/-- `-1` as a `uint64_t`. -/
def hashError : UInt64 := 0xffffffffffffffff

def glbComputeHash (build : ParserBuild) (fields : PacketFields)
    (secret : Bytes) (cfg : HashFields) : UInt64 :=
  if fields.etherType = etherTypeIpv4 ∨ fields.etherType = etherTypeIpv6 then
    let data := hashData fields cfg
    let hashBuf := data ++
      List.replicate (glbSiphashRequiredInSize - data.length) 0
    if build = .xdp ∧ ¬ (0 < data.length ∧ data.length ≤ maxHashDataSize)
    then
      hashError
    else
      (glbSiphash hashBuf data.length secret).getD 0
  else
    hashError

/-! ## Both builds parse and hash alike -/

theorem safelyGetHeader_dpdk {packet : Bytes} {space offset len : ℕ}
    (hroom : space + len ≤ maxParsedHeaderSize) :
    safelyGetHeader .dpdk packet space offset len =
      (slice offset len packet).map fun header => (header, space + len) := by
  simp only [safelyGetHeader]
  rw [if_neg (not_lt.mpr hroom)]

theorem safelyGetHeader_xdp (packet : Bytes) (space offset len : ℕ) :
    safelyGetHeader .xdp packet space offset len =
      (slice offset len packet).map fun header => (header, space) := rfl

theorem extractPacketFieldsIpv4_dpdk (packet : Bytes)
    (etherType : UInt16) (origDstMac : Bytes) :
    extractPacketFieldsIpv4 .dpdk packet etherType origDstMac
        ethernetHdrSize =
      extractPacketFieldsIpv4 .xdp packet etherType origDstMac 0 := by
  simp (disch := decide) only [extractPacketFieldsIpv4,
    safelyGetHeader_dpdk, safelyGetHeader_xdp, Option.bind_eq_bind,
    Option.bind_map, Function.comp_def]

theorem extractPacketFieldsIpv6_dpdk (packet : Bytes)
    (etherType : UInt16) (origDstMac : Bytes) :
    extractPacketFieldsIpv6 .dpdk packet etherType origDstMac
        ethernetHdrSize =
      extractPacketFieldsIpv6 .xdp packet etherType origDstMac 0 := by
  simp (disch := decide) only [extractPacketFieldsIpv6,
    safelyGetHeader_dpdk, safelyGetHeader_xdp, Option.bind_eq_bind,
    Option.bind_map, Function.comp_def]

/-- The linearisation space never runs out. -/
theorem glbExtractPacketFields_dpdk (packet : Bytes) :
    glbExtractPacketFields .dpdk packet =
      glbExtractPacketFields .xdp packet := by
  simp (disch := decide) only [glbExtractPacketFields,
    safelyGetHeader_dpdk, safelyGetHeader_xdp, Option.bind_eq_bind,
    Option.bind_map, Function.comp_def, Nat.zero_add,
    extractPacketFieldsIpv4_dpdk, extractPacketFieldsIpv6_dpdk]

theorem glbExtractPacketFields_xdp (build : ParserBuild) (packet : Bytes) :
    glbExtractPacketFields build packet =
      glbExtractPacketFields .xdp packet := by
  cases build with
  | dpdk => exact glbExtractPacketFields_dpdk packet
  | xdp => rfl

/-! ## What a parsed packet is -/

/-- The fields of a parsed packet agree on its family. -/
inductive FamilyFields : PacketFields → Prop where
  | ipv4 {fields : PacketFields} (hether : fields.etherType = etherTypeIpv4)
      (hsrc : fields.srcAddr.length = 4) (hdst : fields.dstAddr.length = 4)
      (hgue : fields.gueIpproto = ipProtoIpipv4) : FamilyFields fields
  | ipv6 {fields : PacketFields} (hether : fields.etherType = etherTypeIpv6)
      (hsrc : fields.srcAddr.length = 16) (hdst : fields.dstAddr.length = 16)
      (hgue : fields.gueIpproto = ipProtoIpipv6) : FamilyFields fields

theorem fieldBytes_length {offset len size : ℕ} {header : Bytes}
    (hheader : header.length = size) (hfits : offset + len ≤ size) :
    (fieldBytes offset len header).length = len := by
  rw [fieldBytes, List.length_take, List.length_drop]
  omega

theorem safelyGetHeader_xdp_eq_some {packet header : Bytes}
    {space offset len space' : ℕ}
    (hget : safelyGetHeader .xdp packet space offset len =
      some (header, space')) :
    slice offset len packet = some header ∧ header.length = len := by
  simp only [safelyGetHeader_xdp, Option.map_eq_some_iff, Prod.mk.injEq]
    at hget
  obtain ⟨found, hslice, rfl, _⟩ := hget
  exact ⟨hslice, slice_length hslice⟩

theorem extractPacketFieldsIpv4_family {packet origDstMac : Bytes}
    {space : ℕ} {fields : PacketFields}
    (hextract : extractPacketFieldsIpv4 .xdp packet etherTypeIpv4 origDstMac
      space = some fields) : FamilyFields fields := by
  simp only [extractPacketFieldsIpv4, Option.bind_eq_bind,
    Option.bind_eq_some_iff, Prod.exists] at hextract
  obtain ⟨ipv4Hdr, space₁, hip, hextract⟩ := hextract
  have hipLength := (safelyGetHeader_xdp_eq_some hip).2
  split at hextract
  · simp only [Option.bind_eq_some_iff, Prod.exists] at hextract
    obtain ⟨icmpHdr, space₂, hicmp, hextract⟩ := hextract
    split at hextract
    · simp only [Option.bind_eq_some_iff, Prod.exists] at hextract
      obtain ⟨origIpv4Hdr, space₃, horig, origL4Hdr, _, _, hfields⟩ :=
        hextract
      have horigLength := (safelyGetHeader_xdp_eq_some horig).2
      cases hfields
      exact .ipv4 rfl (fieldBytes_length horigLength (by decide))
        (fieldBytes_length horigLength (by decide)) rfl
    · cases hextract
      exact .ipv4 rfl (fieldBytes_length hipLength (by decide))
        (fieldBytes_length hipLength (by decide)) rfl
  · simp only [Option.bind_eq_some_iff, Prod.exists] at hextract
    obtain ⟨origL4Hdr, _, _, hfields⟩ := hextract
    cases hfields
    exact .ipv4 rfl (fieldBytes_length hipLength (by decide))
      (fieldBytes_length hipLength (by decide)) rfl

theorem extractPacketFieldsIpv6_family {packet origDstMac : Bytes}
    {space : ℕ} {fields : PacketFields}
    (hextract : extractPacketFieldsIpv6 .xdp packet etherTypeIpv6 origDstMac
      space = some fields) : FamilyFields fields := by
  simp only [extractPacketFieldsIpv6, Option.bind_eq_bind,
    Option.bind_eq_some_iff, Prod.exists] at hextract
  obtain ⟨ipv6Hdr, space₁, hip, hextract⟩ := hextract
  have hipLength := (safelyGetHeader_xdp_eq_some hip).2
  split at hextract
  · simp only [Option.bind_eq_some_iff, Prod.exists] at hextract
    obtain ⟨icmpHdr, space₂, hicmp, hextract⟩ := hextract
    split at hextract
    · simp only [Option.bind_eq_some_iff, Prod.exists] at hextract
      obtain ⟨origPkt, _, horig, hfields⟩ := hextract
      have horigLength := (safelyGetHeader_xdp_eq_some horig).2
      cases hfields
      exact .ipv6 rfl (fieldBytes_length horigLength (by decide))
        (fieldBytes_length horigLength (by decide)) rfl
    · cases hextract
      exact .ipv6 rfl (fieldBytes_length hipLength (by decide))
        (fieldBytes_length hipLength (by decide)) rfl
  · simp only [Option.bind_eq_some_iff, Prod.exists] at hextract
    obtain ⟨origL4Hdr, _, _, hfields⟩ := hextract
    cases hfields
    exact .ipv6 rfl (fieldBytes_length hipLength (by decide))
      (fieldBytes_length hipLength (by decide)) rfl

theorem glbExtractPacketFields_family {build : ParserBuild} {packet : Bytes}
    {fields : PacketFields}
    (hextract : glbExtractPacketFields build packet = some fields) :
    FamilyFields fields := by
  have hxdp : glbExtractPacketFields .xdp packet = some fields :=
    glbExtractPacketFields_xdp build packet ▸ hextract
  simp only [glbExtractPacketFields, Option.bind_eq_bind,
    Option.bind_eq_some_iff, Prod.exists] at hxdp
  obtain ⟨ethHdr, space, _, hxdp⟩ := hxdp
  split at hxdp
  · rename_i hether
    rw [hether] at hxdp
    exact extractPacketFieldsIpv4_family hxdp
  · split at hxdp
    · rename_i hether
      rw [hether] at hxdp
      exact extractPacketFieldsIpv6_family hxdp
    · cases hxdp

theorem extractPacketFieldsIpv4_etherType {packet origDstMac : Bytes}
    {etherType : UInt16} {space : ℕ} {fields : PacketFields}
    (hextract : extractPacketFieldsIpv4 .xdp packet etherType origDstMac
      space = some fields) :
    fields.etherType = etherType ∧ fields.origDstMac = origDstMac := by
  simp only [extractPacketFieldsIpv4, Option.bind_eq_bind,
    Option.bind_eq_some_iff, Prod.exists] at hextract
  obtain ⟨_, _, _, hextract⟩ := hextract
  split at hextract
  · simp only [Option.bind_eq_some_iff, Prod.exists] at hextract
    obtain ⟨_, _, _, hextract⟩ := hextract
    split at hextract
    · simp only [Option.bind_eq_some_iff, Prod.exists] at hextract
      obtain ⟨_, _, _, _, _, _, hfields⟩ := hextract
      cases hfields
      exact ⟨rfl, rfl⟩
    · cases hextract
      exact ⟨rfl, rfl⟩
  · simp only [Option.bind_eq_some_iff, Prod.exists] at hextract
    obtain ⟨_, _, _, hfields⟩ := hextract
    cases hfields
    exact ⟨rfl, rfl⟩

theorem extractPacketFieldsIpv6_etherType {packet origDstMac : Bytes}
    {etherType : UInt16} {space : ℕ} {fields : PacketFields}
    (hextract : extractPacketFieldsIpv6 .xdp packet etherType origDstMac
      space = some fields) :
    fields.etherType = etherType ∧ fields.origDstMac = origDstMac := by
  simp only [extractPacketFieldsIpv6, Option.bind_eq_bind,
    Option.bind_eq_some_iff, Prod.exists] at hextract
  obtain ⟨_, _, _, hextract⟩ := hextract
  split at hextract
  · simp only [Option.bind_eq_some_iff, Prod.exists] at hextract
    obtain ⟨_, _, _, hextract⟩ := hextract
    split at hextract
    · simp only [Option.bind_eq_some_iff, Prod.exists] at hextract
      obtain ⟨_, _, _, hfields⟩ := hextract
      cases hfields
      exact ⟨rfl, rfl⟩
    · cases hextract
      exact ⟨rfl, rfl⟩
  · simp only [Option.bind_eq_some_iff, Prod.exists] at hextract
    obtain ⟨_, _, _, hfields⟩ := hextract
    cases hfields
    exact ⟨rfl, rfl⟩

theorem glbExtractPacketFields_etherType {build : ParserBuild}
    {packet : Bytes} {fields : PacketFields}
    (hextract : glbExtractPacketFields build packet = some fields) :
    ethernetHdrSize ≤ packet.length ∧
      fields.etherType = ntohs (fieldU16 12 packet) ∧
        fields.origDstMac = fieldBytes 0 6 packet := by
  have hxdp : glbExtractPacketFields .xdp packet = some fields :=
    glbExtractPacketFields_xdp build packet ▸ hextract
  simp only [glbExtractPacketFields, Option.bind_eq_bind,
    Option.bind_eq_some_iff, Prod.exists] at hxdp
  obtain ⟨ethHdr, space, heth, hxdp⟩ := hxdp
  obtain ⟨hbound, hpart⟩ :=
    slice_eq_some_iff.mp (safelyGetHeader_xdp_eq_some heth).1
  have htype : fieldU16 12 ethHdr = fieldU16 12 packet := by
    rw [← hpart, fieldU16, fieldU16, List.drop_zero, List.drop_take,
      List.take_take]
    rfl
  have hmac : fieldBytes 0 6 ethHdr = fieldBytes 0 6 packet := by
    rw [← hpart, fieldBytes, fieldBytes, List.drop_zero, List.drop_zero,
      List.take_take]
    rfl
  rw [htype, hmac] at hxdp
  refine ⟨by omega, ?_⟩
  split at hxdp
  · exact extractPacketFieldsIpv4_etherType hxdp
  · split at hxdp
    · exact extractPacketFieldsIpv6_etherType hxdp
    · cases hxdp

theorem FamilyFields.hashData_length {fields : PacketFields}
    (hfamily : FamilyFields fields) {cfg : HashFields}
    (hany : cfg.any = true) :
    0 < (hashData fields cfg).length ∧
      (hashData fields cfg).length ≤ maxHashDataSize := by
  obtain ⟨srcAddr, dstAddr, srcPort, dstPort⟩ := cfg
  cases hfamily with
  | ipv4 hether hsrc hdst hgue =>
      cases srcAddr <;> cases dstAddr <;> cases srcPort <;> cases dstPort <;>
        simp_all [hashData, pushIf, maxHashDataSize, HashFields.any]
  | ipv6 hether hsrc hdst hgue =>
      cases srcAddr <;> cases dstAddr <;> cases srcPort <;> cases dstPort <;>
        simp_all [hashData, pushIf, maxHashDataSize, HashFields.any]

theorem glbComputeHash_dpdk {fields : PacketFields}
    (hfamily : FamilyFields fields) {cfg : HashFields}
    (hany : cfg.any = true) (secret : Bytes) :
    glbComputeHash .dpdk fields secret cfg =
      glbComputeHash .xdp fields secret cfg := by
  have hlength := hfamily.hashData_length hany
  simp [glbComputeHash, hlength]

end GlbDirector
