import GlbDirector.Encap
import GlbDirector.FlowPackets
import GlbDirector.LoggedExcept
import GlbDirector.PortExpansion
import GlbDirector.TypicalRules

/-!
# Replaying packets (`glb_encap_pcap.c`, `cli/pcap_mode.c`,
`cli/stub_server.c`)

The parser is given a buffer and a length.  The handler for captures copies 54
bytes into the buffer but passes on the captured length, so deeper headers are
read from behind the buffer.  The packet file and the stub server pass on the
number of bytes they have, which may be fewer than the first header read.
-/

namespace GlbDirector

open ByteCodec LoggedExcept

/-! ## Packets in a buffer -/

/-- A `pcap_packet`, and what memory holds behind its buffer. -/
structure PcapPacket where
  buffer : Bytes
  beyond : ℕ → UInt8
  len : ℕ

/-- The bytes `data[0]` to `data[len - 1]`. -/
def PcapPacket.bytes (pkt : PcapPacket) : Bytes :=
  pkt.buffer.take pkt.len ++
    (List.range (pkt.len - pkt.buffer.length)).map pkt.beyond

theorem PcapPacket.bytes_length (pkt : PcapPacket) :
    pkt.bytes.length = pkt.len := by
  rw [bytes, List.length_append, List.length_take, List.length_map,
    List.length_range]
  omega

/-- `NULL`, or the index in `data` that the result points to. -/
def encapPacketDataRead (pkt : PcapPacket) (off len : ℕ) : Option ℕ :=
  if pkt.len < off + len then none else some off

/-- An access to bytes of a buffer of the given size, or through `NULL`. -/
inductive PcapAccess where
  | bytes (size offset len : ℕ)
  | nullDeref

def PcapAccess.Inside : PcapAccess → Prop
  | .bytes size offset len => offset + len ≤ size
  | .nullDeref => False

def PcapPacket.access (pkt : PcapPacket) (offset len : ℕ) : PcapAccess :=
  .bytes pkt.buffer.length offset len

inductive PcapFailure where
  | route (error : RouteError)
  | nullDeref
  | tooShort
  | badCaplen
  | noPacket
  | otherSource

/-- A computation with the accesses it makes. -/
abbrev Replay (α : Type) := Logged PcapAccess PcapFailure α

/-- The load of a field of the packet. -/
def PcapPacket.loadField {α : Type} (pkt : PcapPacket) (offset len : ℕ)
    (value : Bytes → α) : Replay α :=
  ⟨[pkt.access offset len], .ok (value pkt.bytes)⟩

def PcapPacket.loadU8 (pkt : PcapPacket) (offset : ℕ) : Replay UInt8 :=
  pkt.loadField offset 1 (fieldU8 offset)

def PcapPacket.loadU16 (pkt : PcapPacket) (offset : ℕ) : Replay UInt16 :=
  pkt.loadField offset 2 (fieldU16 offset)

def PcapPacket.loadBytes (pkt : PcapPacket) (offset len : ℕ) : Replay Bytes :=
  pkt.loadField offset len (fieldBytes offset len)

/-! ## The parser

A header that is granted is only a pointer; its bytes are accessed when a field
is loaded. -/

/-- `_safely_get_header`, with the linearisation space used so far. -/
def pcapGetHeader (pkt : PcapPacket) (space offset len : ℕ) :
    Replay (ℕ × ℕ) :=
  if space + len > maxParsedHeaderSize then
    Logged.lift (.error (.route .unparsed))
  else
    match encapPacketDataRead pkt offset len with
    | none => Logged.lift (.error (.route .unparsed))
    | some hdr => pure (hdr, space + len)

def pcapExtractPacketFieldsIpv4 (pkt : PcapPacket) (etherType : UInt16)
    (origDstMac : Bytes) (space : ℕ) : Replay PacketFields := do
  let (ipv4Hdr, space) ← pcapGetHeader pkt space ethernetHdrSize ipv4HdrSize
  let totalLength ← pkt.loadU16 (ipv4Hdr + 2)
  let nextProto ← pkt.loadU8 (ipv4Hdr + 9)
  if nextProto = ipProtoIcmpv4 then
    let (icmpHdr, space) ← pcapGetHeader pkt space
      (ethernetHdrSize + ipv4HdrSize) icmpv4HdrSize
    let type ← pkt.loadU8 (icmpHdr + 0)
    if type = icmpv4TypeDestinationUnreachable then
      let (origIpv4Hdr, space) ← pcapGetHeader pkt space
        (ethernetHdrSize + ipv4HdrSize + icmpv4HdrSize) ipv4HdrSize
      let (origL4Hdr, _) ← pcapGetHeader pkt space
        (ethernetHdrSize + ipv4HdrSize + icmpv4HdrSize + ipv4HdrSize)
        l4PortsHdrSize
      let srcAddr ← pkt.loadBytes (origIpv4Hdr + 16) 4
      let dstAddr ← pkt.loadBytes (origIpv4Hdr + 12) 4
      let srcPort ← pkt.loadU16 (origL4Hdr + 2)
      let dstPort ← pkt.loadU16 (origL4Hdr + 0)
      let originalIpproto ← pkt.loadU8 (origIpv4Hdr + 9)
      return {
        etherType, origDstMac, srcAddr, dstAddr, srcPort, dstPort
        originalIpproto
        ipTotalLength := ntohs totalLength
        flowHashHint := ntohs srcPort
        gueIpproto := ipProtoIpipv4 }
    else
      let srcAddr ← pkt.loadBytes (ipv4Hdr + 12) 4
      let dstAddr ← pkt.loadBytes (ipv4Hdr + 16) 4
      let identification ← pkt.loadU16 (ipv4Hdr + 4)
      return {
        etherType, origDstMac, srcAddr, dstAddr
        ipTotalLength := ntohs totalLength
        srcPort := 0
        dstPort := 0
        flowHashHint := ntohs identification
        gueIpproto := ipProtoIpipv4
        originalIpproto := nextProto }
  else
    let (origL4Hdr, _) ← pcapGetHeader pkt space
      (ethernetHdrSize + ipv4HdrSize) l4PortsHdrSize
    let srcAddr ← pkt.loadBytes (ipv4Hdr + 12) 4
    let dstAddr ← pkt.loadBytes (ipv4Hdr + 16) 4
    let srcPort ← pkt.loadU16 (origL4Hdr + 0)
    let dstPort ← pkt.loadU16 (origL4Hdr + 2)
    return {
      etherType, origDstMac, srcAddr, dstAddr, srcPort, dstPort
      ipTotalLength := ntohs totalLength
      flowHashHint := ntohs srcPort
      gueIpproto := ipProtoIpipv4
      originalIpproto := nextProto }

def pcapExtractPacketFieldsIpv6 (pkt : PcapPacket) (etherType : UInt16)
    (origDstMac : Bytes) (space : ℕ) : Replay PacketFields := do
  let (ipv6Hdr, space) ← pcapGetHeader pkt space ethernetHdrSize ipv6HdrSize
  let payloadLen ← pkt.loadU16 (ipv6Hdr + 4)
  let ipTotalLength := UInt16.ofNat ipv6HdrSize + ntohs payloadLen
  let nextProto ← pkt.loadU8 (ipv6Hdr + 6)
  if nextProto = ipProtoIcmpv6 then
    let (icmpHdr, space) ← pcapGetHeader pkt space
      (ethernetHdrSize + ipv6HdrSize) icmpv6HdrSize
    let type ← pkt.loadU8 (icmpHdr + 0)
    if type = icmpv6TypePacketTooBig then
      let (origPkt, _) ← pcapGetHeader pkt space
        (ethernetHdrSize + ipv6HdrSize + icmpv6HdrSize +
          icmpv6TooBigHdrSize)
        (ipv6HdrSize + l4PortsHdrSize)
      let srcAddr ← pkt.loadBytes (origPkt + 24) 16
      let dstAddr ← pkt.loadBytes (origPkt + 8) 16
      let srcPort ← pkt.loadU16 (origPkt + 42)
      let dstPort ← pkt.loadU16 (origPkt + 40)
      let originalIpproto ← pkt.loadU8 (origPkt + 6)
      return {
        etherType, origDstMac, ipTotalLength, srcAddr, dstAddr, srcPort
        dstPort, originalIpproto
        flowHashHint := ntohs srcPort
        gueIpproto := ipProtoIpipv6 }
    else
      let srcAddr ← pkt.loadBytes (ipv6Hdr + 8) 16
      let dstAddr ← pkt.loadBytes (ipv6Hdr + 24) 16
      -- the mask of the flow leaves nothing of `flow_hi`
      let _ ← pkt.loadU8 (ipv6Hdr + 1)
      let flowLo ← pkt.loadU16 (ipv6Hdr + 2)
      return {
        etherType, origDstMac, ipTotalLength, srcAddr, dstAddr
        srcPort := 0
        dstPort := 0
        flowHashHint := ntohs flowLo
        gueIpproto := ipProtoIpipv6
        originalIpproto := nextProto }
  else
    let (origL4Hdr, _) ← pcapGetHeader pkt space
      (ethernetHdrSize + ipv6HdrSize) l4PortsHdrSize
    let srcAddr ← pkt.loadBytes (ipv6Hdr + 8) 16
    let dstAddr ← pkt.loadBytes (ipv6Hdr + 24) 16
    let srcPort ← pkt.loadU16 (origL4Hdr + 0)
    let dstPort ← pkt.loadU16 (origL4Hdr + 2)
    return {
      etherType, origDstMac, ipTotalLength, srcAddr, dstAddr, srcPort, dstPort
      flowHashHint := ntohs srcPort
      gueIpproto := ipProtoIpipv6
      originalIpproto := nextProto }

def pcapExtractPacketFields (pkt : PcapPacket) : Replay PacketFields := do
  let (ethHdr, space) ← pcapGetHeader pkt 0 0 ethernetHdrSize
  let type ← pkt.loadU16 (ethHdr + 12)
  let origDstMac ← pkt.loadBytes (ethHdr + 0) 6
  let etherType := ntohs type
  if etherType = etherTypeIpv4 then
    pcapExtractPacketFieldsIpv4 pkt etherType origDstMac space
  else if etherType = etherTypeIpv6 then
    pcapExtractPacketFieldsIpv6 pkt etherType origDstMac space
  else Logged.lift (.error (.route .unparsed))

/-! ## Encapsulation -/

def inboundHeaderSizeL3 : ℕ := ipv4HdrSize + 20
def inboundHeaderSizeL2 : ℕ := ethernetHdrSize + inboundHeaderSizeL3

/-- The read of the header whose addresses are printed; its result is not
checked. -/
def readPrintedHeader (pkt : PcapPacket) : Replay Unit :=
  match encapPacketDataRead pkt ethernetHdrSize ipv4HdrSize with
  | none => ⟨[.nullDeref], .error .nullDeref⟩
  | some origIpv4Hdr => do
      let _ ← pkt.loadBytes (origIpv4Hdr + 12) 4
      let _ ← pkt.loadBytes (origIpv4Hdr + 16) 4

section Run

variable (config : DirectorConfig) (raw : Bytes)

/-- `glb_calculate_packet_route` with the loads of its parser. -/
def pcapCalculateRoute (pkt : PcapPacket) (table : ℕ) :
    Replay RouteContext := do
  let fields ← pcapExtractPacketFields pkt
  Logged.lift <| Except.mapError .route do
    let ctx ← glbAddPacketRoute raw table
      { fields, ipv4Hops := [], pktHash := 0 } config.hashFields
    if config.useAltHashFields then
      glbAddPacketRoute raw table ctx config.altHashFields
    else
      return ctx

/-- The result is `encap_copy`, whose fields are printed. -/
def glbEncapsulatePacketPcap (pkt : PcapPacket) (table : ℕ) :
    Replay Bytes := do
  let num ← Logged.lift
    ((orFail (numTables raw) .outsideConfig).mapError .route)
  if table ≥ num.toNat then
    Logged.lift (.error (.route .tableOutOfRange))
  else do
    readPrintedHeader pkt
    let ctx ← pcapCalculateRoute config raw pkt table
    if pkt.len < inboundHeaderSizeL3 then
      Logged.lift (.error .tooShort)
    else do
      Logged.write (pkt.access 0 inboundHeaderSizeL3)
      let encapCopy := List.replicate (routeContextEncapSize ctx) 0 ++
        pkt.bytes.take inboundHeaderSizeL3
      return patch 0 (glbEncapsulatePacket config ctx) encapCopy

/-! ## Front ends -/

/-- The packet the handler passes on. -/
def capturedPacket (beyond : ℕ → UInt8) (captured : Bytes) :
    PcapPacket where
  buffer := captured.take inboundHeaderSizeL2
  beyond
  len := captured.length

/-- The capture library passes `caplen` bytes of a packet of length `len`. -/
def glbPcapHandler (beyond : ℕ → UInt8) (table : ℕ) (captured : Bytes)
    (len : ℕ) : Replay Bytes :=
  if captured.length < inboundHeaderSizeL2 ∨ captured.length > len then
    Logged.lift (.error .badCaplen)
  else do
    Logged.write (.bytes captured.length 0 inboundHeaderSizeL2)
    glbEncapsulatePacketPcap config raw (capturedPacket beyond captured)
      table

/-- The size of both `buffer` and `pkt_buf`. -/
def maxBuffer : ℕ := 10240

/-- `fread` and `recvfrom`: what arrives overwrites the front of the buffer. -/
def receiveBuffer (old : ByteVec maxBuffer) (incoming : Bytes) : Bytes :=
  patch 0 (incoming.take maxBuffer) old.val

def receivePacket (beyond : ℕ → UInt8) (old : ByteVec maxBuffer)
    (incoming : Bytes) : PcapPacket where
  buffer := receiveBuffer old incoming
  beyond
  len := (incoming.take maxBuffer).length

/-- The packet file. -/
def replayPacketFile (beyond : ℕ → UInt8) (old : ByteVec maxBuffer)
    (file : Bytes) : Replay Bytes :=
  let pkt := receivePacket beyond old file
  if pkt.len = 0 then
    Logged.lift (.error .noPacket)
  else
    glbEncapsulatePacketPcap config raw pkt 0

/-- `inet_ntop` of the source address in the buffer, as characters. -/
def stubSrcIp (buffer : Bytes) : List Char :=
  (".".intercalate ((fieldBytes 26 4 buffer).map fun octet =>
    toString octet.toNat)).toList

def fromStubSource (buffer : Bytes) : Bool :=
  "127.1".toList.isPrefixOf (stubSrcIp buffer)

/-- One turn of the stub server. -/
def stubServerPacket (beyond : ℕ → UInt8) (old : ByteVec maxBuffer)
    (frame : Bytes) : Replay Bytes :=
  let pkt := receivePacket beyond old frame
  if pkt.len = 0 then
    Logged.lift (.error .noPacket)
  else if fromStubSource pkt.buffer then
    glbEncapsulatePacketPcap config raw pkt 0
  else
    Logged.lift (.error .otherSource)

inductive ReplayInput where
  | capture (table : ℕ) (captured : Bytes) (len : ℕ)
  | packetFile (old : ByteVec maxBuffer) (file : Bytes)
  | stubServer (old : ByteVec maxBuffer) (frame : Bytes)

def ReplayInput.run (beyond : ℕ → UInt8) :
    ReplayInput → Replay Bytes
  | .capture table captured len =>
      glbPcapHandler config raw beyond table captured len
  | .packetFile old file => replayPacketFile config raw beyond old file
  | .stubServer old frame => stubServerPacket config raw beyond old frame

end Run

/-! ## The steps of the parser -/

section Steps

variable {α β : Type} {pkt : PcapPacket} {space offset len : ℕ}
  {next : ℕ × ℕ → Replay α}

theorem pcapGetHeader_of_refused
    (hrefused : ¬ (space + len ≤ maxParsedHeaderSize ∧
      offset + len ≤ pkt.len)) :
    pcapGetHeader pkt space offset len =
      Logged.lift (.error (.route .unparsed)) := by
  unfold pcapGetHeader encapPacketDataRead
  by_cases hspace : space + len > maxParsedHeaderSize
  · rw [if_pos hspace]
  · have hpast : pkt.len < offset + len := by omega
    rw [if_neg hspace, if_pos hpast]

theorem pcapGetHeader_of_granted (hspace : space + len ≤ maxParsedHeaderSize)
    (hinside : offset + len ≤ pkt.len) :
    pcapGetHeader pkt space offset len = pure (offset, space + len) := by
  unfold pcapGetHeader encapPacketDataRead
  rw [if_neg (Nat.not_lt.mpr hspace), if_neg (Nat.not_lt.mpr hinside)]

theorem pcapGetHeader_bind_only_iff
    (hspace : space + len ≤ maxParsedHeaderSize) :
    (pcapGetHeader pkt space offset len >>= next).Only PcapAccess.Inside ↔
      (offset + len ≤ pkt.len →
        (next (offset, space + len)).Only PcapAccess.Inside) := by
  rw [Logged.only_bind_iff]
  by_cases hinside : offset + len ≤ pkt.len
  · rw [pcapGetHeader_of_granted hspace hinside]
    constructor
    · intro honly _
      exact honly.2 _ rfl
    · intro honly
      refine ⟨Logged.only_pure _ _, fun value hvalue => ?_⟩
      rw [← Except.ok.inj hvalue]
      exact honly hinside
  · rw [pcapGetHeader_of_refused fun hgranted => hinside hgranted.2]
    constructor
    · intro _ hgranted
      exact absurd hgranted hinside
    · intro _
      refine ⟨Logged.only_lift _ _, fun value hvalue => ?_⟩
      cases hvalue

theorem loadField_bind_only_iff {value : Bytes → β} {next : β → Replay α} :
    (pkt.loadField offset len value >>= next).Only PcapAccess.Inside ↔
      offset + len ≤ pkt.buffer.length ∧
        (next (value pkt.bytes)).Only PcapAccess.Inside := by
  rw [Logged.only_bind_iff]
  constructor
  · intro honly
    exact ⟨honly.1 _ List.mem_cons_self, honly.2 _ rfl⟩
  · intro ⟨hinside, honly⟩
    have haccess : PcapAccess.Inside (pkt.access offset len) := hinside
    refine ⟨List.forall_mem_singleton.mpr haccess, fun found hfound => ?_⟩
    rw [← Except.ok.inj hfound]
    exact honly

end Steps

/-! ## The parser of the replay parses as the others -/

def Parses (run : Replay PacketFields) (parsed : Option PacketFields) :
    Prop :=
  run.result = (orFail parsed .unparsed).mapError .route

section Parses

variable {pkt : PcapPacket} {space offset len : ℕ}

theorem parses_getHeader {next : ℕ × ℕ → Replay PacketFields}
    {next' : Bytes × ℕ → Option PacketFields}
    (hnext : Parses (next (offset, space + len))
      (next' (fieldBytes offset len pkt.bytes, space + len))) :
    Parses (pcapGetHeader pkt space offset len >>= next)
      (safelyGetHeader .dpdk pkt.bytes space offset len >>= next') := by
  by_cases hgranted :
      space + len ≤ maxParsedHeaderSize ∧ offset + len ≤ pkt.len
  · have hslice : slice offset len pkt.bytes =
        some (fieldBytes offset len pkt.bytes) := by
      rw [slice, pkt.bytes_length, if_pos hgranted.2]
      rfl
    rw [pcapGetHeader_of_granted hgranted.1 hgranted.2,
      safelyGetHeader_dpdk hgranted.1, hslice]
    exact hnext
  · have hnone : safelyGetHeader .dpdk pkt.bytes space offset len = none := by
      unfold safelyGetHeader
      by_cases hspace : space + len > maxParsedHeaderSize
      · simp only [hspace, if_true]
      · have hpast : ¬ offset + len ≤ pkt.len := by omega
        simp only [hspace, if_false, slice, pkt.bytes_length, hpast,
          Option.map_none]
    rw [pcapGetHeader_of_refused hgranted, hnone]
    rfl

theorem parses_loadField {α : Type} {value : Bytes → α}
    {next : α → Replay PacketFields} {parsed : Option PacketFields}
    (hnext : Parses (next (value pkt.bytes)) parsed) :
    Parses (pkt.loadField offset len value >>= next) parsed := hnext

theorem parses_ite {p : Prop} [Decidable p] {yes no : Replay PacketFields}
    {yes' no' : Option PacketFields} (hyes : Parses yes yes')
    (hno : Parses no no') :
    Parses (if p then yes else no) (if p then yes' else no') := by
  by_cases hp : p
  · rw [if_pos hp, if_pos hp]
    exact hyes
  · rw [if_neg hp, if_neg hp]
    exact hno

variable (pkt : PcapPacket) (etherType : UInt16) (origDstMac : Bytes)
  (space : ℕ)

theorem parses_ipv4 :
    Parses (pcapExtractPacketFieldsIpv4 pkt etherType origDstMac space)
      (extractPacketFieldsIpv4 .dpdk pkt.bytes etherType origDstMac
        space) := by
  unfold pcapExtractPacketFieldsIpv4 extractPacketFieldsIpv4
  apply parses_getHeader
  apply parses_loadField
  apply parses_loadField
  simp (disch := decide) only [fieldU8_fieldBytes, fieldU16_fieldBytes,
    fieldBytes_fieldBytes]
  apply parses_ite
  · apply parses_getHeader
    apply parses_loadField
    simp (disch := decide) only [fieldU8_fieldBytes]
    apply parses_ite
    · apply parses_getHeader
      apply parses_getHeader
      simp (disch := decide) only [fieldU8_fieldBytes, fieldU16_fieldBytes,
        fieldBytes_fieldBytes]
      rfl
    · rfl
  · apply parses_getHeader
    simp (disch := decide) only [fieldU16_fieldBytes]
    rfl

theorem parses_ipv6 :
    Parses (pcapExtractPacketFieldsIpv6 pkt etherType origDstMac space)
      (extractPacketFieldsIpv6 .dpdk pkt.bytes etherType origDstMac
        space) := by
  unfold pcapExtractPacketFieldsIpv6 extractPacketFieldsIpv6
  apply parses_getHeader
  apply parses_loadField
  apply parses_loadField
  simp (disch := decide) only [fieldU8_fieldBytes, fieldU16_fieldBytes,
    fieldBytes_fieldBytes]
  apply parses_ite
  · apply parses_getHeader
    apply parses_loadField
    simp (disch := decide) only [fieldU8_fieldBytes]
    apply parses_ite
    · apply parses_getHeader
      simp (disch := decide) only [fieldU8_fieldBytes, fieldU16_fieldBytes,
        fieldBytes_fieldBytes]
      rfl
    · rfl
  · apply parses_getHeader
    simp (disch := decide) only [fieldU16_fieldBytes]
    rfl

theorem parses_extractPacketFields :
    Parses (pcapExtractPacketFields pkt)
      (glbExtractPacketFields .dpdk pkt.bytes) := by
  unfold pcapExtractPacketFields glbExtractPacketFields
  apply parses_getHeader
  apply parses_loadField
  apply parses_loadField
  simp (disch := decide) only [fieldU16_fieldBytes, fieldBytes_fieldBytes]
  apply parses_ite
  · exact parses_ipv4 pkt _ _ _
  · apply parses_ite
    · exact parses_ipv6 pkt _ _ _
    · rfl

end Parses

/-- The route of a replayed packet is the one the director gives it. -/
theorem pcapCalculateRoute_result (config : DirectorConfig) (raw : Bytes)
    (pkt : PcapPacket) (table : ℕ) :
    (pcapCalculateRoute config raw pkt table).result =
      (glbCalculatePacketRoute config raw table pkt.bytes).mapError
        .route := by
  have hparses : (pcapExtractPacketFields pkt).result = _ :=
    parses_extractPacketFields pkt
  unfold pcapCalculateRoute glbCalculatePacketRoute
  show (Logged.bind _ _).result = _
  unfold Logged.bind
  rw [hparses]
  cases glbExtractPacketFields .dpdk pkt.bytes with
  | none => rfl
  | some fields => rfl

/-! ## The loads of the parser -/

section Loads

variable {α β : Type} {pkt : PcapPacket}

/-- A header that is refused has no loads. -/
theorem pcapGetHeader_only_iff {space offset len : ℕ}
    {next : ℕ × ℕ → Replay α} {fits : Prop}
    (hspace : space + len ≤ maxParsedHeaderSize)
    (hrefused : pkt.len < offset + len → fits)
    (hnext : (next (offset, space + len)).Only PcapAccess.Inside ↔ fits) :
    (pcapGetHeader pkt space offset len >>= next).Only PcapAccess.Inside ↔
      fits := by
  rw [pcapGetHeader_bind_only_iff hspace, hnext]
  constructor
  · intro hfits
    by_cases hinside : offset + len ≤ pkt.len
    · exact hfits hinside
    · exact hrefused (Nat.lt_of_not_le hinside)
  · exact fun hfits _ => hfits

variable (hsize : inboundHeaderSizeL2 ≤ pkt.buffer.length)

include hsize

/-- A load from the first 54 bytes is inside, whatever was granted. -/
theorem loadField_shallow_only_iff {offset len : ℕ} {value : Bytes → β}
    {next : β → Replay α} (hshallow : offset + len ≤ inboundHeaderSizeL2) :
    (pkt.loadField offset len value >>= next).Only PcapAccess.Inside ↔
      (next (value pkt.bytes)).Only PcapAccess.Inside := by
  rw [loadField_bind_only_iff, and_iff_right (hshallow.trans hsize)]

/-- The quoted header is loaded from only after its ports were granted. -/
theorem ipv4_only_iff (etherType : UInt16) (origDstMac : Bytes) :
    (pcapExtractPacketFieldsIpv4 pkt etherType origDstMac ethernetHdrSize).Only
        PcapAccess.Inside ↔
      (fieldU8 23 pkt.bytes = ipProtoIcmpv4 →
        fieldU8 34 pkt.bytes = icmpv4TypeDestinationUnreachable →
          66 ≤ pkt.len → 66 ≤ pkt.buffer.length) := by
  have hshort : ∀ {offset : ℕ}, pkt.len < offset → offset ≤ 66 →
      66 ≤ pkt.len → 66 ≤ pkt.buffer.length := by
    intro offset hpast hoffset hlong
    omega
  unfold pcapExtractPacketFieldsIpv4
  apply pcapGetHeader_only_iff (by decide)
    (fun hpast _ _ => hshort hpast (by decide))
  apply (loadField_shallow_only_iff hsize (by decide)).trans
  apply (loadField_shallow_only_iff hsize (by decide)).trans
  by_cases hicmp : fieldU8 (ethernetHdrSize + 9) pkt.bytes = ipProtoIcmpv4
  · have hicmp' : fieldU8 23 pkt.bytes = ipProtoIcmpv4 := hicmp
    rw [if_pos hicmp]
    simp only [hicmp', true_imp_iff]
    apply pcapGetHeader_only_iff (by decide)
      (fun hpast _ => hshort hpast (by decide))
    apply (loadField_shallow_only_iff hsize (by decide)).trans
    by_cases htype : fieldU8 (ethernetHdrSize + ipv4HdrSize + 0) pkt.bytes =
        icmpv4TypeDestinationUnreachable
    · have htype' : fieldU8 34 pkt.bytes =
          icmpv4TypeDestinationUnreachable := htype
      rw [if_pos htype]
      simp only [htype', true_imp_iff]
      apply pcapGetHeader_only_iff (by decide)
        (fun hpast => hshort hpast (by decide))
      rw [pcapGetHeader_bind_only_iff (by decide)]
      simp only [PcapPacket.loadU8, PcapPacket.loadU16, PcapPacket.loadBytes,
        loadField_bind_only_iff, Logged.only_pure, and_true, ethernetHdrSize,
        ipv4HdrSize, icmpv4HdrSize, l4PortsHdrSize]
      omega
    · have htype' : ¬ fieldU8 34 pkt.bytes =
          icmpv4TypeDestinationUnreachable := htype
      rw [if_neg htype]
      simp only [htype', false_imp_iff, iff_true]
      apply (loadField_shallow_only_iff hsize (by decide)).mpr
      apply (loadField_shallow_only_iff hsize (by decide)).mpr
      apply (loadField_shallow_only_iff hsize (by decide)).mpr
      exact Logged.only_pure _ _
  · have hicmp' : ¬ fieldU8 23 pkt.bytes = ipProtoIcmpv4 := hicmp
    rw [if_neg hicmp]
    simp only [hicmp', false_imp_iff]
    apply pcapGetHeader_only_iff (by decide) (fun _ => trivial)
    rw [iff_true]
    apply (loadField_shallow_only_iff hsize (by decide)).mpr
    apply (loadField_shallow_only_iff hsize (by decide)).mpr
    apply (loadField_shallow_only_iff hsize (by decide)).mpr
    apply (loadField_shallow_only_iff hsize (by decide)).mpr
    exact Logged.only_pure _ _

theorem ipv6_only_iff (etherType : UInt16) (origDstMac : Bytes) :
    (pcapExtractPacketFieldsIpv6 pkt etherType origDstMac ethernetHdrSize).Only
        PcapAccess.Inside ↔
      (fieldU8 20 pkt.bytes = ipProtoIcmpv6 → 58 ≤ pkt.len →
        55 ≤ pkt.buffer.length ∧
          (fieldU8 54 pkt.bytes = icmpv6TypePacketTooBig → 106 ≤ pkt.len →
            106 ≤ pkt.buffer.length)) ∧
      (fieldU8 20 pkt.bytes ≠ ipProtoIcmpv6 → 58 ≤ pkt.len →
        58 ≤ pkt.buffer.length) := by
  unfold pcapExtractPacketFieldsIpv6
  apply pcapGetHeader_only_iff (by decide)
  · intro hpast
    have hshort : ¬ 58 ≤ pkt.len := by
      have hheader : ethernetHdrSize + ipv6HdrSize = 54 := rfl
      omega
    simp only [hshort, false_imp_iff, implies_true, and_true]
  apply (loadField_shallow_only_iff hsize (by decide)).trans
  apply (loadField_shallow_only_iff hsize (by decide)).trans
  by_cases hicmp : fieldU8 (ethernetHdrSize + 6) pkt.bytes = ipProtoIcmpv6
  · have hicmp' : fieldU8 20 pkt.bytes = ipProtoIcmpv6 := hicmp
    rw [if_pos hicmp]
    simp only [hicmp', true_imp_iff, ne_eq, not_true_eq_false, false_imp_iff,
      and_true]
    rw [pcapGetHeader_bind_only_iff (by decide)]
    refine imp_congr_right fun _ => ?_
    rw [PcapPacket.loadU8, loadField_bind_only_iff]
    refine and_congr_right fun _ => ?_
    by_cases htype : fieldU8 (ethernetHdrSize + ipv6HdrSize + 0) pkt.bytes =
        icmpv6TypePacketTooBig
    · have htype' : fieldU8 54 pkt.bytes = icmpv6TypePacketTooBig := htype
      rw [if_pos htype, pcapGetHeader_bind_only_iff (by decide)]
      simp only [htype', true_imp_iff, PcapPacket.loadU8, PcapPacket.loadU16,
        PcapPacket.loadBytes, loadField_bind_only_iff, Logged.only_pure,
        and_true, ethernetHdrSize, ipv6HdrSize, icmpv6HdrSize,
        icmpv6TooBigHdrSize, l4PortsHdrSize]
      omega
    · have htype' : ¬ fieldU8 54 pkt.bytes = icmpv6TypePacketTooBig := htype
      rw [if_neg htype]
      simp only [htype', false_imp_iff, iff_true]
      apply (loadField_shallow_only_iff hsize (by decide)).mpr
      apply (loadField_shallow_only_iff hsize (by decide)).mpr
      apply (loadField_shallow_only_iff hsize (by decide)).mpr
      apply (loadField_shallow_only_iff hsize (by decide)).mpr
      exact Logged.only_pure _ _
  · have hicmp' : ¬ fieldU8 20 pkt.bytes = ipProtoIcmpv6 := hicmp
    rw [if_neg hicmp, pcapGetHeader_bind_only_iff (by decide)]
    simp only [hicmp', false_imp_iff, ne_eq, not_false_eq_true, true_imp_iff,
      true_and]
    refine imp_congr_right fun _ => ?_
    apply (loadField_shallow_only_iff hsize (by decide)).trans
    apply (loadField_shallow_only_iff hsize (by decide)).trans
    simp only [PcapPacket.loadU16, loadField_bind_only_iff, Logged.only_pure,
      and_true, ethernetHdrSize, ipv6HdrSize]
    omega

end Loads

/-- What the parser loads behind the first 54 bytes lies within `size`
bytes. -/
structure LoadsFit (packet : Bytes) (size : ℕ) : Prop where
  hipv4 : ntohs (fieldU16 12 packet) = etherTypeIpv4 →
    fieldU8 23 packet = ipProtoIcmpv4 →
      fieldU8 34 packet = icmpv4TypeDestinationUnreachable →
        66 ≤ packet.length → 66 ≤ size
  hicmpv6 : ntohs (fieldU16 12 packet) = etherTypeIpv6 →
    fieldU8 20 packet = ipProtoIcmpv6 → 58 ≤ packet.length →
      55 ≤ size ∧ (fieldU8 54 packet = icmpv6TypePacketTooBig →
        106 ≤ packet.length → 106 ≤ size)
  hports : ntohs (fieldU16 12 packet) = etherTypeIpv6 →
    fieldU8 20 packet ≠ ipProtoIcmpv6 → 58 ≤ packet.length → 58 ≤ size

theorem LoadsFit.of_length_le {packet : Bytes} {size : ℕ}
    (hheld : packet.length ≤ size) : LoadsFit packet size where
  hipv4 := fun _ _ _ hlong => hlong.trans hheld
  hicmpv6 := fun _ _ hlong =>
    ⟨le_trans (by decide) (hlong.trans hheld),
      fun _ hlonger => hlonger.trans hheld⟩
  hports := fun _ _ hlong => hlong.trans hheld

theorem LoadsFit.of_short {packet : Bytes} {size : ℕ}
    (hshort : packet.length < ethernetHdrSize) : LoadsFit packet size := by
  have hlt : packet.length < 58 := lt_trans hshort (by decide)
  constructor
  · intro _ _ _ hlong
    omega
  · intro _ _ hlong
    omega
  · intro _ _ hlong
    omega

theorem pcapExtractPacketFields_only_iff {pkt : PcapPacket}
    (hsize : inboundHeaderSizeL2 ≤ pkt.buffer.length) :
    (pcapExtractPacketFields pkt).Only PcapAccess.Inside ↔
      LoadsFit pkt.bytes pkt.buffer.length := by
  have hfamilies : etherTypeIpv4 ≠ etherTypeIpv6 := by decide
  unfold pcapExtractPacketFields
  apply pcapGetHeader_only_iff (by decide)
  · intro hpast
    apply LoadsFit.of_short
    rw [pkt.bytes_length]
    rwa [Nat.zero_add] at hpast
  apply (loadField_shallow_only_iff hsize (by decide)).trans
  apply (loadField_shallow_only_iff hsize (by decide)).trans
  by_cases hipv4 : ntohs (fieldU16 (0 + 12) pkt.bytes) = etherTypeIpv4
  · have hipv4' : ntohs (fieldU16 12 pkt.bytes) = etherTypeIpv4 := hipv4
    rw [if_pos hipv4]
    refine (ipv4_only_iff hsize _ _).trans ?_
    rw [← pkt.bytes_length]
    constructor
    · intro hfits
      constructor
      · exact fun _ => hfits
      · exact fun hipv6 => absurd (hipv4'.symm.trans hipv6) hfamilies
      · exact fun hipv6 => absurd (hipv4'.symm.trans hipv6) hfamilies
    · exact fun hfits => hfits.hipv4 hipv4'
  · rw [if_neg hipv4]
    by_cases hipv6 : ntohs (fieldU16 (0 + 12) pkt.bytes) = etherTypeIpv6
    · have hipv6' : ntohs (fieldU16 12 pkt.bytes) = etherTypeIpv6 := hipv6
      rw [if_pos hipv6]
      refine (ipv6_only_iff hsize _ _).trans ?_
      rw [← pkt.bytes_length]
      constructor
      · intro ⟨hicmpv6, hports⟩
        exact ⟨fun h => absurd h hipv4, fun _ => hicmpv6, fun _ => hports⟩
      · exact fun hfits => ⟨hfits.hicmpv6 hipv6', hfits.hports hipv6'⟩
    · rw [if_neg hipv6]
      refine iff_of_true (Logged.only_lift _ _) ?_
      exact ⟨fun h => absurd h hipv4, fun h => absurd h hipv6,
        fun h => absurd h hipv6⟩

/-! ## The accesses of a packet -/

def TableLoaded (raw : Bytes) (table : ℕ) : Prop :=
  ∃ num, numTables raw = some num ∧ table < num.toNat

section Accesses

variable {config : DirectorConfig} {raw : Bytes} {pkt : PcapPacket}
  {table : ℕ} (hsize : inboundHeaderSizeL2 ≤ pkt.buffer.length)

include hsize

theorem readPrintedHeader_only_iff :
    (readPrintedHeader pkt).Only PcapAccess.Inside ↔ 34 ≤ pkt.len := by
  unfold readPrintedHeader encapPacketDataRead
  by_cases hpast : pkt.len < ethernetHdrSize + ipv4HdrSize
  · rw [if_pos hpast]
    refine iff_of_false (fun honly => ?_) (Nat.not_le.mpr hpast)
    exact honly .nullDeref List.mem_cons_self
  · rw [if_neg hpast]
    refine iff_of_true ?_ (Nat.not_lt.mp hpast)
    apply (loadField_shallow_only_iff hsize (by decide)).mpr
    apply (loadField_shallow_only_iff hsize (by decide)).mpr
    exact Logged.only_pure _ _

omit hsize in
theorem readPrintedHeader_result (hlong : 34 ≤ pkt.len) :
    (readPrintedHeader pkt).result = .ok () := by
  have hpast : ¬ pkt.len < ethernetHdrSize + ipv4HdrSize :=
    Nat.not_lt.mpr hlong
  unfold readPrintedHeader encapPacketDataRead
  rw [if_neg hpast]
  rfl

theorem pcapCalculateRoute_only_iff :
    (pcapCalculateRoute config raw pkt table).Only PcapAccess.Inside ↔
      LoadsFit pkt.bytes pkt.buffer.length := by
  unfold pcapCalculateRoute
  rw [Logged.only_bind_iff, pcapExtractPacketFields_only_iff hsize]
  exact and_iff_left fun _ _ => Logged.only_lift _ _

/-- What a packet needs of its buffer. -/
structure PcapPacket.Held (pkt : PcapPacket) : Prop where
  hprinted : 34 ≤ pkt.len
  hloads : LoadsFit pkt.bytes pkt.buffer.length

theorem glbEncapsulatePacketPcap_only_iff (config : DirectorConfig)
    (raw : Bytes) (table : ℕ) :
    (glbEncapsulatePacketPcap config raw pkt table).Only
        PcapAccess.Inside ↔
      (TableLoaded raw table → pkt.Held) := by
  have hnum : ∀ num, Except.mapError PcapFailure.route
      (orFail (numTables raw) .outsideConfig) = .ok num ↔
        numTables raw = some num := by
    intro num
    cases numTables raw with
    | none => simp [orFail, Except.mapError]
    | some found => simp [orFail, Except.mapError]
  unfold glbEncapsulatePacketPcap
  rw [Logged.only_bind_iff]
  constructor
  · intro honly htable
    obtain ⟨num, hsome, hloaded⟩ := htable
    have hrun := honly.2 num ((hnum num).mpr hsome)
    rw [if_neg (Nat.not_le.mpr hloaded), Logged.only_bind_iff] at hrun
    obtain ⟨hprinted, hroute⟩ := hrun
    rw [readPrintedHeader_only_iff hsize] at hprinted
    have hroute := hroute () (readPrintedHeader_result hprinted)
    rw [Logged.only_bind_iff, pcapCalculateRoute_only_iff hsize] at hroute
    exact ⟨hprinted, hroute.1⟩
  · intro hheld
    refine ⟨Logged.only_lift _ _, fun num hsome => ?_⟩
    by_cases hloaded : table ≥ num.toNat
    · rw [if_pos hloaded]
      exact Logged.only_lift _ _
    · have hheld := hheld ⟨num, (hnum num).mp hsome, Nat.lt_of_not_le hloaded⟩
      rw [if_neg hloaded, Logged.only_bind_iff,
        readPrintedHeader_only_iff hsize]
      refine ⟨hheld.hprinted, fun _ _ => ?_⟩
      rw [Logged.only_bind_iff, pcapCalculateRoute_only_iff hsize]
      refine ⟨hheld.hloads, fun ctx _ => ?_⟩
      by_cases hshort : pkt.len < inboundHeaderSizeL3
      · rw [if_pos hshort]
        exact Logged.only_lift _ _
      · rw [if_neg hshort, Logged.only_bind_iff, Logged.only_write_iff]
        refine ⟨?_, fun _ _ => Logged.only_pure _ _⟩
        have hcopy : 0 + inboundHeaderSizeL3 ≤ inboundHeaderSizeL2 := by
          decide
        exact hcopy.trans hsize

end Accesses

/-! ## Front ends -/

/-- The packets of which the parser loads a field behind the 54 bytes. -/
def DeepHeaders (packet : Bytes) : Prop :=
  (ntohs (fieldU16 12 packet) = etherTypeIpv4 ∧
    fieldU8 23 packet = ipProtoIcmpv4 ∧
    fieldU8 34 packet = icmpv4TypeDestinationUnreachable ∧
    66 ≤ packet.length) ∨
  (ntohs (fieldU16 12 packet) = etherTypeIpv6 ∧ 58 ≤ packet.length)

instance (packet : Bytes) : Decidable (DeepHeaders packet) :=
  inferInstanceAs (Decidable (_ ∨ _))

theorem loadsFit_captured_iff {packet : Bytes} :
    LoadsFit packet inboundHeaderSizeL2 ↔ ¬ DeepHeaders packet := by
  have hsize : inboundHeaderSizeL2 = 54 := rfl
  constructor
  · rintro hfits (⟨hipv4, hicmp, htype, hlong⟩ | ⟨hipv6, hlong⟩)
    · have := hfits.hipv4 hipv4 hicmp htype hlong
      omega
    · by_cases hicmp : fieldU8 20 packet = ipProtoIcmpv6
      · have := (hfits.hicmpv6 hipv6 hicmp hlong).1
        omega
      · have := hfits.hports hipv6 hicmp hlong
        omega
  · intro hshallow
    constructor
    · intro hipv4 hicmp htype hlong
      exact absurd (.inl ⟨hipv4, hicmp, htype, hlong⟩) hshallow
    · intro hipv6 _ hlong
      exact absurd (.inr ⟨hipv6, hlong⟩) hshallow
    · intro hipv6 _ hlong
      exact absurd (.inr ⟨hipv6, hlong⟩) hshallow

theorem deepHeaders_congr {packet packet' : Bytes}
    (hlength : packet.length = packet'.length)
    (hfront : fieldBytes 0 inboundHeaderSizeL2 packet =
      fieldBytes 0 inboundHeaderSizeL2 packet') :
    DeepHeaders packet ↔ DeepHeaders packet' := by
  have hether : fieldU16 12 packet = fieldU16 12 packet' := by
    have hinside : 12 + 2 ≤ inboundHeaderSizeL2 := by decide
    rw [← Nat.zero_add 12, ← fieldU16_fieldBytes packet hinside, hfront,
      fieldU16_fieldBytes packet' hinside]
  have hbyte : ∀ offset < inboundHeaderSizeL2,
      fieldU8 offset packet = fieldU8 offset packet' := by
    intro offset hoffset
    rw [← Nat.zero_add offset, ← fieldU8_fieldBytes packet hoffset, hfront,
      fieldU8_fieldBytes packet' hoffset]
  unfold DeepHeaders
  rw [hether, hlength, hbyte 23 (by decide), hbyte 34 (by decide)]

section FrontEnds

variable (config : DirectorConfig) (raw : Bytes) (beyond : ℕ → UInt8)

theorem capturedPacket_held_iff {captured : Bytes}
    (hlong : inboundHeaderSizeL2 ≤ captured.length) :
    (capturedPacket beyond captured).Held ↔ ¬ DeepHeaders captured := by
  have hbuffer : (capturedPacket beyond captured).buffer.length =
      inboundHeaderSizeL2 := List.length_take_of_le hlong
  have hfront : fieldBytes 0 inboundHeaderSizeL2
      (capturedPacket beyond captured).bytes =
        fieldBytes 0 inboundHeaderSizeL2 captured := by
    unfold fieldBytes PcapPacket.bytes capturedPacket
    rw [List.drop_zero, List.drop_zero, List.take_take,
      min_eq_right hlong, List.take_left' (List.length_take_of_le hlong)]
  have hdeep := deepHeaders_congr
    (capturedPacket beyond captured).bytes_length hfront
  rw [← hdeep, ← loadsFit_captured_iff, ← hbuffer]
  constructor
  · exact fun hheld => hheld.hloads
  · exact fun hloads => ⟨le_trans (by decide) hlong, hloads⟩

theorem glbPcapHandler_only_iff (table : ℕ) (captured : Bytes) (len : ℕ) :
    (glbPcapHandler config raw beyond table captured len).Only
        PcapAccess.Inside ↔
      ¬ (TableLoaded raw table ∧ inboundHeaderSizeL2 ≤ captured.length ∧
        captured.length ≤ len ∧ DeepHeaders captured) := by
  unfold glbPcapHandler
  by_cases hbad : captured.length < inboundHeaderSizeL2 ∨ captured.length > len
  · rw [if_pos hbad]
    constructor
    · intro _ ⟨_, hlong, hcaplen, _⟩
      omega
    · intro _
      exact Logged.only_lift _ _
  · have hlong : inboundHeaderSizeL2 ≤ captured.length := by omega
    have hcaplen : captured.length ≤ len := by omega
    have hcopied : PcapAccess.Inside
        (.bytes captured.length 0 inboundHeaderSizeL2) := by
      show 0 + inboundHeaderSizeL2 ≤ captured.length
      omega
    have hsize : inboundHeaderSizeL2 ≤
        (capturedPacket beyond captured).buffer.length := by
      rw [capturedPacket, List.length_take_of_le hlong]
    have hpacket := glbEncapsulatePacketPcap_only_iff hsize config raw table
    rw [capturedPacket_held_iff beyond hlong] at hpacket
    rw [if_neg hbad, Logged.only_bind_iff, Logged.only_write_iff]
    constructor
    · intro ⟨_, hrest⟩ ⟨hloaded, _, _, hdeep⟩
      exact hpacket.mp (hrest () rfl) hloaded hdeep
    · intro hsafe
      refine ⟨hcopied, fun _ _ => hpacket.mpr ?_⟩
      intro hloaded hdeep
      exact hsafe ⟨hloaded, hlong, hcaplen, hdeep⟩

theorem receiveBuffer_length (old : ByteVec maxBuffer) (incoming : Bytes) :
    (receiveBuffer old incoming).length = maxBuffer := by
  have hfits : 0 + (incoming.take maxBuffer).length ≤ old.val.length := by
    rw [old.2, Nat.zero_add]
    exact List.length_take_le _ _
  exact (patch_length hfits).trans old.2

/-- The buffer holds all that has arrived. -/
theorem receivePacket_held_iff (old : ByteVec maxBuffer) (incoming : Bytes) :
    (receivePacket beyond old incoming).Held ↔ 34 ≤ incoming.length := by
  have hlen : (receivePacket beyond old incoming).len =
      min maxBuffer incoming.length := List.length_take
  have hbuffer : (receivePacket beyond old incoming).buffer.length =
      maxBuffer := receiveBuffer_length old incoming
  constructor
  · intro hheld
    exact (hlen ▸ hheld.hprinted).trans (min_le_right _ _)
  · intro hlong
    constructor
    · rw [hlen]
      exact le_min (by decide) hlong
    · apply LoadsFit.of_length_le
      rw [PcapPacket.bytes_length, hlen, hbuffer]
      exact min_le_left _ _

theorem receivePacket_only_iff (old : ByteVec maxBuffer) (incoming : Bytes) :
    (glbEncapsulatePacketPcap config raw
      (receivePacket beyond old incoming) 0).Only PcapAccess.Inside ↔
        ¬ (TableLoaded raw 0 ∧ incoming.length < 34) := by
  have hsize : inboundHeaderSizeL2 ≤
      (receivePacket beyond old incoming).buffer.length := by
    rw [receivePacket, receiveBuffer_length]
    decide
  rw [glbEncapsulatePacketPcap_only_iff hsize, receivePacket_held_iff,
    not_and, not_lt]

theorem receivePacket_len_eq_zero_iff (old : ByteVec maxBuffer)
    (incoming : Bytes) :
    (receivePacket beyond old incoming).len = 0 ↔ incoming.length = 0 := by
  show (incoming.take maxBuffer).length = 0 ↔ _
  rw [List.length_take]
  have hpositive : 0 < maxBuffer := by decide
  omega

theorem replayPacketFile_only_iff (old : ByteVec maxBuffer) (file : Bytes) :
    (replayPacketFile config raw beyond old file).Only
        PcapAccess.Inside ↔
      ¬ (TableLoaded raw 0 ∧ 0 < file.length ∧ file.length < 34) := by
  unfold replayPacketFile
  simp only [receivePacket_len_eq_zero_iff]
  by_cases hempty : file.length = 0
  · rw [if_pos hempty]
    constructor
    · intro _ ⟨_, hpositive, _⟩
      omega
    · intro _
      exact Logged.only_lift _ _
  · have hpositive : 0 < file.length := Nat.pos_of_ne_zero hempty
    rw [if_neg hempty, receivePacket_only_iff]
    simp only [hpositive, true_and]

theorem stubServerPacket_only_iff (old : ByteVec maxBuffer) (frame : Bytes) :
    (stubServerPacket config raw beyond old frame).Only
        PcapAccess.Inside ↔
      ¬ (TableLoaded raw 0 ∧ 0 < frame.length ∧ frame.length < 34 ∧
        fromStubSource (receiveBuffer old frame) = true) := by
  unfold stubServerPacket
  simp only [receivePacket_len_eq_zero_iff]
  by_cases hempty : frame.length = 0
  · rw [if_pos hempty]
    constructor
    · intro _ ⟨_, hpositive, _⟩
      omega
    · intro _
      exact Logged.only_lift _ _
  · have hpositive : 0 < frame.length := Nat.pos_of_ne_zero hempty
    rw [if_neg hempty]
    by_cases hsource : fromStubSource (receiveBuffer old frame) = true
    · simp only [receivePacket, hsource, if_true, hpositive, true_and, and_true]
      exact receivePacket_only_iff config raw beyond old frame
    · simp only [receivePacket, hsource, Bool.false_eq_true, if_false,
        and_false, not_false_eq_true, iff_true]
      exact Logged.only_lift _ _

end FrontEnds

/-- The inputs on which the accesses go wrong. -/
def ReplayInput.Faulty (raw : Bytes) : ReplayInput → Prop
  | .capture table captured len =>
      TableLoaded raw table ∧ inboundHeaderSizeL2 ≤ captured.length ∧
        captured.length ≤ len ∧ DeepHeaders captured
  | .packetFile _ file =>
      TableLoaded raw 0 ∧ 0 < file.length ∧ file.length < 34
  | .stubServer old frame =>
      TableLoaded raw 0 ∧ 0 < frame.length ∧ frame.length < 34 ∧
        fromStubSource (receiveBuffer old frame) = true

theorem replay_bounds_iff
    (config : DirectorConfig)
    (raw : Bytes)
    (beyond : ℕ → UInt8)
    (input : ReplayInput) :
    (input.run config raw beyond).Only PcapAccess.Inside ↔
      ¬ input.Faulty raw := by
  cases input with
  | capture table captured len =>
      exact glbPcapHandler_only_iff config raw beyond table captured len
  | packetFile old file =>
      exact replayPacketFile_only_iff config raw beyond old file
  | stubServer old frame =>
      exact stubServerPacket_only_iff config raw beyond old frame

/-- An ordinary IPv6 packet is read behind the 54 bytes, and a file of 20 bytes
through `NULL`. -/
theorem short_replays_escape :
    checkConfig (rangeFile 80 90) = some (.ok ()) ∧
      ¬ ((ReplayInput.capture 0 sampleIpv6Packet 74).run sampleDirector
        (rangeFile 80 90) fun _ => 0).Only PcapAccess.Inside ∧
      ¬ ((ReplayInput.packetFile (ByteVec.zero _) (List.replicate 20 0)).run
        sampleDirector (rangeFile 80 90) fun _ => 0).Only
          PcapAccess.Inside := by
  have hloaded : TableLoaded (rangeFile 80 90) 0 :=
    ⟨1, numTables_configFile 1 _, by decide⟩
  simp only [ReplayInput.run, glbPcapHandler_only_iff,
    replayPacketFile_only_iff, not_not]
  refine ⟨rangeFile_accepted 80 90, ?_, ?_⟩
  · exact ⟨hloaded, by decide, by decide, by decide⟩
  · exact ⟨hloaded, by decide, by decide⟩

end GlbDirector
