import GlbDirector.PacketParsing

/-!
# Parsing segmented packets (`packet_parsing.h`, lineariser mode)

The parser asks for each header with `encap_packet_data_read`, which answers
with a pointer into the packet or copies the header to the next free bytes of
the linearisation space.  Header fields are loaded through these pointers when
they are used, after further headers have been read.
-/

namespace GlbDirector

open ByteCodec

/-! ## Reading headers -/

/-- What a read answers: `NULL`, a pointer into the packet, or a pointer to the
buffer it was given, into which it has copied the bytes. -/
inductive ReadResult where
  | null
  | inPlace
  | copied
  deriving DecidableEq

/-- What is assumed of `rte_pktmbuf_read`. -/
structure PacketReader (packet : Bytes) where
  read : (offset len : ℕ) → ReadResult
  null_iff : ∀ offset len,
    read offset len = .null ↔ packet.length < offset + len

inductive HeaderPtr where
  | packet (offset : ℕ)
  | space (start : ℕ)

/-- The linearisation space and the offset of its free bytes, with a record of
what was copied into it and of the reads that succeeded. -/
structure LinState where
  space : Bytes
  offset : ℕ
  copies : List (ℕ × ℕ)
  reads : List (ℕ × ℕ)

/-- `glb_calculate_packet_route` resets the offset; the space holds whatever
the stack held. -/
def LinState.start (stack : ByteVec maxParsedHeaderSize) : LinState where
  space := stack.val
  offset := 0
  copies := []
  reads := []

inductive LinFailure where
  | noSpace
  | pastEnd
  | unknownEtherType
  deriving DecidableEq

/-- A failure, and the state it leaves. -/
abbrev LinError := LinFailure × LinState

def LinState.advance (s : LinState) (len : ℕ) : LinState :=
  { s with offset := s.offset + len }

def LinState.noteRead (s : LinState) (offset len : ℕ) : LinState :=
  { s with reads := (offset, len) :: s.reads }

def LinState.copy (s : LinState) (start : ℕ) (header : Bytes) : LinState :=
  { s with
    space := patch start header s.space
    copies := (start, header.length) :: s.copies }

section Parser

variable {packet : Bytes} (reader : PacketReader packet)

/-- `_safely_get_header` -/
def linGetHeader (s : LinState) (offset len : ℕ) :
    Except LinError (HeaderPtr × LinState) :=
  if (s.advance len).offset > maxParsedHeaderSize then
    .error (.noSpace, s.advance len)
  else
    match reader.read offset len with
    | .null => .error (.pastEnd, s.advance len)
    | .inPlace => .ok (.packet offset, (s.advance len).noteRead offset len)
    | .copied => .ok (.space s.offset,
        ((s.advance len).noteRead offset len).copy s.offset
          ((packet.drop offset).take len))

/-- The bytes behind a pointer, as they are now. -/
def LinState.load (s : LinState) (packet : Bytes) (ptr : HeaderPtr)
    (len : ℕ) : Bytes :=
  match ptr with
  | .packet offset => (packet.drop offset).take len
  | .space start => (s.space.drop start).take len

def linExtractPacketFieldsIpv4 (etherType : UInt16) (origDstMac : Bytes)
    (s : LinState) : Except LinError (PacketFields × LinState) := do
  let (ipv4Hdr, s) ← linGetHeader reader s ethernetHdrSize ipv4HdrSize
  let ipTotalLength :=
    ntohs (fieldU16 2 (s.load packet ipv4Hdr ipv4HdrSize))
  let nextProto := fieldU8 9 (s.load packet ipv4Hdr ipv4HdrSize)
  if nextProto = ipProtoIcmpv4 then
    let (icmpHdr, s) ← linGetHeader reader s
      (ethernetHdrSize + ipv4HdrSize) icmpv4HdrSize
    if fieldU8 0 (s.load packet icmpHdr icmpv4HdrSize) =
        icmpv4TypeDestinationUnreachable then
      let (origIpv4Hdr, s) ← linGetHeader reader s
        (ethernetHdrSize + ipv4HdrSize + icmpv4HdrSize) ipv4HdrSize
      let (origL4Hdr, s) ← linGetHeader reader s
        (ethernetHdrSize + ipv4HdrSize + icmpv4HdrSize + ipv4HdrSize)
        l4PortsHdrSize
      let origIpv4 := s.load packet origIpv4Hdr ipv4HdrSize
      let origL4 := s.load packet origL4Hdr l4PortsHdrSize
      return ({
        etherType, origDstMac, ipTotalLength
        srcAddr := fieldBytes 16 4 origIpv4
        dstAddr := fieldBytes 12 4 origIpv4
        srcPort := fieldU16 2 origL4
        dstPort := fieldU16 0 origL4
        flowHashHint := ntohs (fieldU16 2 origL4)
        gueIpproto := ipProtoIpipv4
        originalIpproto := fieldU8 9 origIpv4 }, s)
    else
      let ipv4 := s.load packet ipv4Hdr ipv4HdrSize
      return ({
        etherType, origDstMac, ipTotalLength
        srcAddr := fieldBytes 12 4 ipv4
        dstAddr := fieldBytes 16 4 ipv4
        srcPort := 0
        dstPort := 0
        flowHashHint := ntohs (fieldU16 4 ipv4)
        gueIpproto := ipProtoIpipv4
        originalIpproto := nextProto }, s)
  else
    let (origL4Hdr, s) ← linGetHeader reader s
      (ethernetHdrSize + ipv4HdrSize) l4PortsHdrSize
    let ipv4 := s.load packet ipv4Hdr ipv4HdrSize
    let origL4 := s.load packet origL4Hdr l4PortsHdrSize
    return ({
      etherType, origDstMac, ipTotalLength
      srcAddr := fieldBytes 12 4 ipv4
      dstAddr := fieldBytes 16 4 ipv4
      srcPort := fieldU16 0 origL4
      dstPort := fieldU16 2 origL4
      flowHashHint := ntohs (fieldU16 0 origL4)
      gueIpproto := ipProtoIpipv4
      originalIpproto := nextProto }, s)

def linExtractPacketFieldsIpv6 (etherType : UInt16) (origDstMac : Bytes)
    (s : LinState) : Except LinError (PacketFields × LinState) := do
  let (ipv6Hdr, s) ← linGetHeader reader s ethernetHdrSize ipv6HdrSize
  let ipTotalLength := UInt16.ofNat ipv6HdrSize +
    ntohs (fieldU16 4 (s.load packet ipv6Hdr ipv6HdrSize))
  let nextProto := fieldU8 6 (s.load packet ipv6Hdr ipv6HdrSize)
  if nextProto = ipProtoIcmpv6 then
    let (icmpHdr, s) ← linGetHeader reader s
      (ethernetHdrSize + ipv6HdrSize) icmpv6HdrSize
    if fieldU8 0 (s.load packet icmpHdr icmpv6HdrSize) =
        icmpv6TypePacketTooBig then
      let (origPkt, s) ← linGetHeader reader s
        (ethernetHdrSize + ipv6HdrSize + icmpv6HdrSize +
          icmpv6TooBigHdrSize)
        (ipv6HdrSize + l4PortsHdrSize)
      let orig := s.load packet origPkt (ipv6HdrSize + l4PortsHdrSize)
      return ({
        etherType, origDstMac, ipTotalLength
        srcAddr := fieldBytes 24 16 orig
        dstAddr := fieldBytes 8 16 orig
        srcPort := fieldU16 42 orig
        dstPort := fieldU16 40 orig
        flowHashHint := ntohs (fieldU16 42 orig)
        gueIpproto := ipProtoIpipv6
        originalIpproto := fieldU8 6 orig }, s)
    else
      let ipv6 := s.load packet ipv6Hdr ipv6HdrSize
      return ({
        etherType, origDstMac, ipTotalLength
        srcAddr := fieldBytes 8 16 ipv6
        dstAddr := fieldBytes 24 16 ipv6
        srcPort := 0
        dstPort := 0
        flowHashHint := ntohs (fieldU16 2 ipv6)
        gueIpproto := ipProtoIpipv6
        originalIpproto := nextProto }, s)
  else
    let (origL4Hdr, s) ← linGetHeader reader s
      (ethernetHdrSize + ipv6HdrSize) l4PortsHdrSize
    let ipv6 := s.load packet ipv6Hdr ipv6HdrSize
    let origL4 := s.load packet origL4Hdr l4PortsHdrSize
    return ({
      etherType, origDstMac, ipTotalLength
      srcAddr := fieldBytes 8 16 ipv6
      dstAddr := fieldBytes 24 16 ipv6
      srcPort := fieldU16 0 origL4
      dstPort := fieldU16 2 origL4
      flowHashHint := ntohs (fieldU16 0 origL4)
      gueIpproto := ipProtoIpipv6
      originalIpproto := nextProto }, s)

/-- `glb_extract_packet_fields` in lineariser mode. -/
def linExtractPacketFields (s : LinState) :
    Except LinError (PacketFields × LinState) := do
  let (ethHdr, s) ← linGetHeader reader s 0 ethernetHdrSize
  let eth := s.load packet ethHdr ethernetHdrSize
  let etherType := ntohs (fieldU16 12 eth)
  let origDstMac := fieldBytes 0 6 eth
  if etherType = etherTypeIpv4 then
    linExtractPacketFieldsIpv4 reader etherType origDstMac s
  else if etherType = etherTypeIpv6 then
    linExtractPacketFieldsIpv6 reader etherType origDstMac s
  else .error (.unknownEtherType, s)

/-- The state that a run of the parser leaves. -/
def finalState {α : Type} (run : Except LinError (α × LinState)) : LinState :=
  match run with
  | .ok (_, s) => s
  | .error (_, s) => s

end Parser

/-! ## The linearisation space -/

/-- Each copy lies in the used part of the space and no two of them overlap;
each read lies in the packet. -/
structure LinState.Valid (s : LinState) (packet : Bytes) : Prop where
  hspace : s.space.length = maxParsedHeaderSize
  hoffset : s.offset ≤ maxParsedHeaderSize
  hinside : ∀ copy ∈ s.copies, copy.1 + copy.2 ≤ s.offset
  hdisjoint : s.copies.Pairwise fun later earlier =>
    earlier.1 + earlier.2 ≤ later.1
  hreads : ∀ read ∈ s.reads, read.1 + read.2 ≤ packet.length

/-- A pointer to a header in the packet or in the used part of the space. -/
structure LinState.Holds (s : LinState) (packet : Bytes) (ptr : HeaderPtr)
    (header : Bytes) : Prop where
  hload : s.load packet ptr header.length = header
  hused : ∀ start, ptr = .space start → start + header.length ≤ s.offset

theorem LinState.valid_start (stack : ByteVec maxParsedHeaderSize)
    (packet : Bytes) : (LinState.start stack).Valid packet where
  hspace := stack.2
  hoffset := Nat.zero_le _
  hinside := nofun
  hdisjoint := .nil
  hreads := nofun

section Headers

variable {packet : Bytes} {s s' : LinState}

theorem LinState.Holds.load_eq {ptr : HeaderPtr} {header : Bytes}
    (hholds : s.Holds packet ptr header) {len : ℕ}
    (hlength : header.length = len) : s.load packet ptr len = header :=
  hlength ▸ hholds.hload

/-- What is true after a header was read. -/
structure LinState.Reads (s : LinState) (packet : Bytes) (offset len : ℕ)
    (ptr : HeaderPtr) (s' : LinState) : Prop where
  hvalid : s'.Valid packet
  hoffset : s'.offset = s.offset + len
  hholds : s'.Holds packet ptr ((packet.drop offset).take len)
  hkept : ∀ other header, s.Holds packet other header →
    s'.Holds packet other header

theorem LinState.Valid.advance (hvalid : s.Valid packet) {len : ℕ}
    (hroom : s.offset + len ≤ maxParsedHeaderSize) :
    (s.advance len).Valid packet where
  hspace := hvalid.hspace
  hoffset := hroom
  hinside := fun copy hcopy =>
    (hvalid.hinside copy hcopy).trans (Nat.le_add_right _ _)
  hdisjoint := hvalid.hdisjoint
  hreads := hvalid.hreads

theorem LinState.Valid.noteRead (hvalid : s.Valid packet) {offset len : ℕ}
    (hinside : offset + len ≤ packet.length) :
    (s.noteRead offset len).Valid packet where
  hspace := hvalid.hspace
  hoffset := hvalid.hoffset
  hinside := hvalid.hinside
  hdisjoint := hvalid.hdisjoint
  hreads := by
    intro read hread
    rcases List.mem_cons.mp hread with rfl | hread
    · exact hinside
    · exact hvalid.hreads read hread

theorem load_patch {start len origin : ℕ} {header space : Bytes}
    (hfits : start + header.length ≤ space.length)
    (hbelow : origin + len ≤ start) :
    ((patch start header space).drop origin).take len =
      (space.drop origin).take len := by
  apply List.ext_getElem?
  intro i
  simp only [List.getElem?_take, List.getElem?_drop]
  by_cases hi : i < len
  · rw [if_pos hi, if_pos hi, getElem?_patch hfits (.inl (by omega))]
  · rw [if_neg hi, if_neg hi]

theorem load_patch_self {start : ℕ} {header space : Bytes}
    (hfits : start + header.length ≤ space.length) :
    ((patch start header space).drop start).take header.length = header := by
  have hfront : (space.take start).length = start :=
    List.length_take_of_le (by omega)
  rw [patch, List.drop_left' hfront, List.take_left' rfl]

theorem LinState.Reads.inPlace (hvalid : s.Valid packet) {offset len : ℕ}
    (hroom : s.offset + len ≤ maxParsedHeaderSize)
    (hinside : offset + len ≤ packet.length) :
    s.Reads packet offset len (.packet offset)
      ((s.advance len).noteRead offset len) where
  hvalid := (hvalid.advance hroom).noteRead hinside
  hoffset := rfl
  hholds := by
    constructor
    · rw [List.length_take_of_le (by rw [List.length_drop]; omega)]
      rfl
    · exact nofun
  hkept := by
    intro other header hholds
    constructor
    · cases other with
      | packet origin => exact hholds.hload
      | space start => exact hholds.hload
    · intro start hstart
      exact (hholds.hused start hstart).trans (Nat.le_add_right _ _)

/-- A copy goes to free bytes, so it leaves the earlier headers alone. -/
theorem LinState.Reads.copied (hvalid : s.Valid packet) {offset len : ℕ}
    (hroom : s.offset + len ≤ maxParsedHeaderSize)
    (hinside : offset + len ≤ packet.length) :
    s.Reads packet offset len (.space s.offset)
      (((s.advance len).noteRead offset len).copy s.offset
        ((packet.drop offset).take len)) := by
  have hlength : ((packet.drop offset).take len).length = len :=
    List.length_take_of_le (by rw [List.length_drop]; omega)
  have hnext := (hvalid.advance hroom).noteRead hinside
  generalize hheader : (packet.drop offset).take len = header at hlength ⊢
  subst hlength
  have hfits : s.offset + header.length ≤ s.space.length := by
    rw [hvalid.hspace]
    exact hroom
  constructor
  · constructor
    · exact (patch_length hfits).trans hvalid.hspace
    · exact hroom
    · intro copy hcopy
      rcases List.mem_cons.mp hcopy with rfl | hcopy
      · exact le_rfl
      · exact hnext.hinside copy hcopy
    · exact .cons hvalid.hinside hvalid.hdisjoint
    · exact hnext.hreads
  · rfl
  · rw [hheader]
    constructor
    · exact load_patch_self hfits
    · intro start hstart
      cases hstart
      exact le_rfl
  · intro other kept hholds
    constructor
    · cases other with
      | packet origin => exact hholds.hload
      | space start =>
          have hused := hholds.hused start rfl
          exact (load_patch hfits hused).trans hholds.hload
    · intro start hstart
      exact (hholds.hused start hstart).trans (Nat.le_add_right _ _)

theorem linGetHeader_inside (reader : PacketReader packet)
    (hvalid : s.Valid packet) {offset len : ℕ}
    (hroom : s.offset + len ≤ maxParsedHeaderSize)
    (hinside : offset + len ≤ packet.length) :
    ∃ ptr s', linGetHeader reader s offset len = .ok (ptr, s') ∧
      s.Reads packet offset len ptr s' := by
  have hnotNull : reader.read offset len ≠ .null := by
    rw [ne_eq, reader.null_iff]
    omega
  have hspace : ¬ (s.advance len).offset > maxParsedHeaderSize :=
    Nat.not_lt.mpr hroom
  unfold linGetHeader
  rw [if_neg hspace]
  cases hread : reader.read offset len with
  | null => exact absurd hread hnotNull
  | inPlace => exact ⟨_, _, rfl, .inPlace hvalid hroom hinside⟩
  | copied => exact ⟨_, _, rfl, .copied hvalid hroom hinside⟩

theorem linGetHeader_pastEnd (reader : PacketReader packet) {offset len : ℕ}
    (hroom : s.offset + len ≤ maxParsedHeaderSize)
    (houtside : packet.length < offset + len) :
    linGetHeader reader s offset len = .error (.pastEnd, s.advance len) := by
  have hspace : ¬ (s.advance len).offset > maxParsedHeaderSize :=
    Nat.not_lt.mpr hroom
  unfold linGetHeader
  rw [if_neg hspace, (reader.null_iff offset len).mpr houtside]

end Headers

/-! ## Agreement with the raw mode -/

/-- The two modes agree on a run: the same fields or a failure in both, and the
lineariser does not fail for want of space. -/
def Agrees (packet : Bytes) (lin : Except LinError (PacketFields × LinState))
    (raw : Option PacketFields) : Prop :=
  match lin with
  | .ok (fields, s) => raw = some fields ∧ s.Valid packet
  | .error (failure, s) => raw = none ∧ failure ≠ .noSpace ∧ s.Valid packet

theorem Agrees.valid {packet : Bytes}
    {lin : Except LinError (PacketFields × LinState)}
    {raw : Option PacketFields} (hagrees : Agrees packet lin raw) :
    (finalState lin).Valid packet := by
  cases lin with
  | ok result => exact hagrees.2
  | error failed => exact hagrees.2.2

section Agreement

variable {packet : Bytes} (reader : PacketReader packet)

/-- The rule for a header. -/
theorem agrees_getHeader {s : LinState} (hvalid : s.Valid packet) {offset len : ℕ}
    (hroom : s.offset + len ≤ maxParsedHeaderSize)
    {lin : HeaderPtr × LinState → Except LinError (PacketFields × LinState)}
    {raw : Bytes → Option PacketFields}
    (hnext : ∀ header ptr s', s.Reads packet offset len ptr s' →
      s'.Holds packet ptr header → header.length = len →
        Agrees packet (lin (ptr, s')) (raw header)) :
    Agrees packet (linGetHeader reader s offset len >>= lin)
      ((slice offset len packet).bind raw) := by
  by_cases hinside : offset + len ≤ packet.length
  · obtain ⟨ptr, s', hget, hreads⟩ :=
      linGetHeader_inside reader hvalid hroom hinside
    rw [hget, slice, if_pos hinside]
    apply hnext _ ptr s' hreads hreads.hholds
    exact List.length_take_of_le (by rw [List.length_drop]; omega)
  · rw [linGetHeader_pastEnd reader hroom (Nat.lt_of_not_le hinside), slice,
      if_neg hinside]
    refine ⟨rfl, ?_, hvalid.advance hroom⟩
    intro hspace
    cases hspace

theorem agrees_ipv4 (etherType : UInt16) (origDstMac : Bytes) {s : LinState}
    (hvalid : s.Valid packet) (hoffset : s.offset = ethernetHdrSize) :
    Agrees packet (linExtractPacketFieldsIpv4 reader etherType origDstMac s)
      (extractPacketFieldsIpv4 .xdp packet etherType origDstMac 0) := by
  simp only [extractPacketFieldsIpv4, safelyGetHeader_xdp, Option.bind_eq_bind,
    Option.bind_map, Function.comp_def]
  unfold linExtractPacketFieldsIpv4
  apply agrees_getHeader reader hvalid (by rw [hoffset]; decide)
  intro ipv4 ipv4Hdr s₁ hreads₁ hipv4 hlength₁
  simp only [hipv4.load_eq hlength₁]
  split
  · apply agrees_getHeader reader hreads₁.hvalid
      (by rw [hreads₁.hoffset, hoffset]; decide)
    intro icmp icmpHdr s₂ hreads₂ hicmp hlength₂
    simp only [hicmp.load_eq hlength₂]
    split
    · apply agrees_getHeader reader hreads₂.hvalid
        (by rw [hreads₂.hoffset, hreads₁.hoffset, hoffset]; decide)
      intro origIpv4 origIpv4Hdr s₃ hreads₃ horigIpv4 hlength₃
      apply agrees_getHeader reader hreads₃.hvalid
        (by rw [hreads₃.hoffset, hreads₂.hoffset, hreads₁.hoffset, hoffset]
            decide)
      intro origL4 origL4Hdr s₄ hreads₄ horigL4 hlength₄
      have horigIpv4 := hreads₄.hkept _ _ horigIpv4
      simp only [horigIpv4.load_eq hlength₃, horigL4.load_eq hlength₄]
      exact ⟨rfl, hreads₄.hvalid⟩
    · have hipv4 := hreads₂.hkept _ _ hipv4
      simp only [hipv4.load_eq hlength₁]
      exact ⟨rfl, hreads₂.hvalid⟩
  · apply agrees_getHeader reader hreads₁.hvalid
      (by rw [hreads₁.hoffset, hoffset]; decide)
    intro origL4 origL4Hdr s₂ hreads₂ horigL4 hlength₂
    have hipv4 := hreads₂.hkept _ _ hipv4
    simp only [hipv4.load_eq hlength₁, horigL4.load_eq hlength₂]
    exact ⟨rfl, hreads₂.hvalid⟩

theorem agrees_ipv6 (etherType : UInt16) (origDstMac : Bytes) {s : LinState}
    (hvalid : s.Valid packet) (hoffset : s.offset = ethernetHdrSize) :
    Agrees packet (linExtractPacketFieldsIpv6 reader etherType origDstMac s)
      (extractPacketFieldsIpv6 .xdp packet etherType origDstMac 0) := by
  simp only [extractPacketFieldsIpv6, safelyGetHeader_xdp, Option.bind_eq_bind,
    Option.bind_map, Function.comp_def]
  unfold linExtractPacketFieldsIpv6
  apply agrees_getHeader reader hvalid (by rw [hoffset]; decide)
  intro ipv6 ipv6Hdr s₁ hreads₁ hipv6 hlength₁
  simp only [hipv6.load_eq hlength₁]
  split
  · apply agrees_getHeader reader hreads₁.hvalid
      (by rw [hreads₁.hoffset, hoffset]; decide)
    intro icmp icmpHdr s₂ hreads₂ hicmp hlength₂
    simp only [hicmp.load_eq hlength₂]
    split
    · apply agrees_getHeader reader hreads₂.hvalid
        (by rw [hreads₂.hoffset, hreads₁.hoffset, hoffset]; decide)
      intro orig origPkt s₃ hreads₃ horig hlength₃
      simp only [horig.load_eq hlength₃]
      exact ⟨rfl, hreads₃.hvalid⟩
    · have hipv6 := hreads₂.hkept _ _ hipv6
      simp only [hipv6.load_eq hlength₁]
      exact ⟨rfl, hreads₂.hvalid⟩
  · apply agrees_getHeader reader hreads₁.hvalid
      (by rw [hreads₁.hoffset, hoffset]; decide)
    intro origL4 origL4Hdr s₂ hreads₂ horigL4 hlength₂
    have hipv6 := hreads₂.hkept _ _ hipv6
    simp only [hipv6.load_eq hlength₁, horigL4.load_eq hlength₂]
    exact ⟨rfl, hreads₂.hvalid⟩

theorem agrees_extractPacketFields (stack : ByteVec maxParsedHeaderSize) :
    Agrees packet (linExtractPacketFields reader (.start stack))
      (glbExtractPacketFields .xdp packet) := by
  simp only [glbExtractPacketFields, safelyGetHeader_xdp, Option.bind_eq_bind,
    Option.bind_map, Function.comp_def]
  unfold linExtractPacketFields
  apply agrees_getHeader reader (LinState.valid_start stack packet)
    (show 0 + ethernetHdrSize ≤ maxParsedHeaderSize by decide)
  intro eth ethHdr s hreads heth hlength
  have hoffset : s.offset = ethernetHdrSize := hreads.hoffset
  simp only [heth.load_eq hlength]
  split
  · exact agrees_ipv4 reader _ _ hreads.hvalid hoffset
  · split
    · exact agrees_ipv6 reader _ _ hreads.hvalid hoffset
    · refine ⟨rfl, ?_, hreads.hvalid⟩
      intro hspace
      cases hspace

end Agreement

/-! ## Packets in segments -/

/-- `__rte_pktmbuf_read` looks for the segment of the first byte, and copies
only if the header does not end in it. -/
def inOneSegment : List Bytes → ℕ → ℕ → Bool
  | [], _, _ => false
  | segment :: rest, offset, len =>
      if segment.length ≤ offset then
        inOneSegment rest (offset - segment.length) len
      else offset + len ≤ segment.length

def segmentReader (segments : List Bytes) : PacketReader segments.flatten where
  read offset len :=
    if segments.flatten.length < offset + len then .null
    else if inOneSegment segments offset len then .inPlace
    else .copied
  null_iff := by
    intro offset len
    split
    case isTrue hpast => simp only [hpast]
    case isFalse hinside => split <;> simp only [hinside, reduceCtorEq]

theorem segmented_parsing_agrees
    (segments : List Bytes)
    (reader : PacketReader segments.flatten)
    (stack : ByteVec maxParsedHeaderSize) :
    let run := linExtractPacketFields reader (.start stack)
    run.toOption.map Prod.fst = glbExtractPacketFields .xdp segments.flatten ∧
      (∀ s, run ≠ .error (.noSpace, s)) ∧
      (finalState run).Valid segments.flatten := by
  intro run
  have hagrees : Agrees _ run _ := agrees_extractPacketFields reader stack
  refine ⟨?_, ?_, hagrees.valid⟩
  · cases hrun : run with
    | ok result =>
        rw [hrun] at hagrees
        exact hagrees.1.symm
    | error failed =>
        rw [hrun] at hagrees
        exact hagrees.1.symm
  · intro s hfailed
    rw [hfailed] at hagrees
    exact hagrees.2.1 rfl

/-- A TCP packet with its headers split over three segments. -/
def splitPacket : List Bytes :=
  [[2, 0, 0, 0, 0, 1, 2, 0, 0, 0],
    [0, 2, 8, 0, 0x45, 0, 0, 40, 0, 1, 0, 0, 64, 6, 0, 0, 10, 0],
    [0, 1, 10, 0, 0, 2, 0x30, 0x39, 0, 80, 0, 0, 0, 0]]

example :
    (finalState (linExtractPacketFields (segmentReader splitPacket)
      (.start (ByteVec.zero _)))).copies = [(14, 20), (0, 14)] := by
  decide +kernel

end GlbDirector
