import GlbDirector.GueFrame
import GlbDirector.OnesComplement
import GlbDirector.TableFile
import GlbDirector.TunnelResults

/-!
# Probes of the tunnel checks (`TunnelHealthChecker.go`)

`CheckTarget` puts an echo request with the identifier of the check inside a GUE
packet without further hops.  The bytes of the request come from `gopacket`, and
the kernels take it out of the tunnel, answer it and hand the answer to the
receive loop.  Both are parameters, with what is asked of them stated once.
Every proxy then lets the probe through to its own stack, and the payload of the
answer is the identifier again.
-/

namespace GlbDirector

open ByteCodec OnesComplement

def icmpv4TypeEchoRequest : UInt8 := 8
def icmpv4TypeEchoReply : UInt8 := 0

/-! ## Echo requests -/

/-- An echo request in an IPv4 packet without options, with valid lengths and
checksums. -/
structure EchoRequest (source target : ByteVec 4) (payload : Bytes) where
  header : Bytes
  message : Bytes
  header_length : header.length = ipv4HdrSize
  message_length : message.length = icmphdrSize + payload.length
  version_ihl : fieldU8 0 header = 0x45
  total_length : (ntohs (fieldU16 2 header)).toNat =
    ipv4HdrSize + message.length
  protocol : fieldU8 9 header = ipProtoIcmpv4
  source_eq : fieldBytes 12 4 header = source.val
  target_eq : fieldBytes 16 4 header = target.val
  header_verifies : Verifies header
  message_type : fieldU8 0 message = icmpv4TypeEchoRequest
  message_payload : message.drop icmphdrSize = payload
  message_verifies : Verifies message

def EchoRequest.bytes {source target : ByteVec 4} {payload : Bytes}
    (request : EchoRequest source target payload) : Bytes :=
  request.header ++ request.message

/-- An echo reply with the payload. -/
structure EchoReply (payload reply : Bytes) : Prop where
  hlength : reply.length = icmphdrSize + payload.length
  htype : fieldU8 0 reply = icmpv4TypeEchoReply
  hpayload : reply.drop icmphdrSize = payload

/-! ## `gopacket` -/

structure SerializeOptions where
  fixLengths : Bool
  computeChecksums : Bool

/-- The fields that `CheckTarget` sets. -/
structure Ipv4Layer where
  version : UInt8
  ttl : UInt8
  id : UInt16
  protocol : UInt8
  dontFragment : Bool
  srcIp : ByteVec 4
  dstIp : ByteVec 4

structure Icmpv4Layer where
  icmpType : UInt8
  code : UInt8

/-- The calls of the library: the bytes that `SerializeLayers` puts into the
buffer, those of the buffer once the space from `PrependBytes` has been filled,
and the type and the payload of the ICMP layer that `NewPacket` finds. -/
structure Gopacket where
  serializeLayers : SerializeOptions → Ipv4Layer → Icmpv4Layer → Bytes → Bytes
  prependBytes : Bytes → Bytes → Bytes
  newPacket : Bytes → Option (UInt8 × Bytes)

/-- What `CheckTarget` and `icmpReceiveLoop` rely on. -/
structure Gopacket.Conforms (gopacket : Gopacket) : Prop where
  serializes : ∀ ip payload, ip.version = 4 → ip.protocol = ipProtoIcmpv4 →
    payload.length ≤ 1000 →
    ∃ request : EchoRequest ip.srcIp ip.dstIp payload,
      gopacket.serializeLayers ⟨true, true⟩ ip ⟨icmpv4TypeEchoRequest, 0⟩
        payload = request.bytes
  prepends : ∀ header buf, gopacket.prependBytes header buf = header ++ buf
  decodes : ∀ buf, icmphdrSize ≤ buf.length →
    gopacket.newPacket buf = some (fieldU8 0 buf, buf.drop icmphdrSize)

/-! ## The kernels -/

/-- What Linux puts in front of a datagram. -/
structure OuterUdp where
  ipHead : Bytes
  saddr : UInt32
  daddr : UInt32
  options : Bytes
  udpHead : Bytes
  check : UInt16
  ipHead_length : ipHead.length = 12
  ihl : 4 * (fieldU8 0 ipHead &&& 0x0f).toNat = ipv4HdrSize + options.length
  protocol : fieldU8 9 ipHead = ipProtoUdp
  udpHead_length : udpHead.length = 6

def OuterUdp.bytes (outer : OuterUdp) : Bytes :=
  outer.ipHead ++ (u32le outer.saddr ++ u32le outer.daddr) ++
    (outer.options ++ (outer.udpHead ++ u16le outer.check))

/-- A GUE packet without further hops. -/
def OuterUdp.frame (outer : OuterUdp) (inner : Bytes) : GueFrame where
  ipHead := outer.ipHead
  saddr := outer.saddr
  daddr := outer.daddr
  options := outer.options
  udpHead := outer.udpHead
  check := outer.check
  guehdr := [1, 4, 0, 0]
  privateDataType := 0
  nextHop := 0
  hops := []
  inner := inner
  ipHead_length := outer.ipHead_length
  ihl := outer.ihl
  protocol := outer.protocol
  udpHead_length := outer.udpHead_length
  guehdr_length := rfl
  hlen := rfl

/-- What the GUE receiver of a proxy passes on, how a node may answer a packet,
and what `ReadFrom` returns for an ICMP message. -/
structure TunnelKernel where
  gueReceive : Bytes → Option Bytes
  answers : ByteVec 4 → Bytes → Bytes → Prop
  readFrom : Bytes → Option Bytes

/-- GUE packets are decapsulated.  The node an echo request is for, and no other
one, answers it with its payload.  A message that fits into the buffer of 1024
bytes behind an IPv4 header is read as a whole. -/
structure TunnelKernel.Conforms (kernel : TunnelKernel) : Prop where
  decapsulates : ∀ (outer : OuterUdp) (inner : Bytes),
    kernel.gueReceive (outer.frame inner).bytes = some inner
  answered : ∀ {source target payload}
    (request : EchoRequest source target payload),
    ∃ reply, kernel.answers target request.bytes reply
  answers_target : ∀ {source target payload node reply}
    (request : EchoRequest source target payload),
    kernel.answers node request.bytes reply → node = target
  answers_reply : ∀ {source target payload node reply}
    (request : EchoRequest source target payload),
    kernel.answers node request.bytes reply → EchoReply payload reply
  reads : ∀ message, ipv4HdrSize + message.length ≤ 1024 →
    kernel.readFrom message = some message

/-! ## Probes -/

/-- The first eight bytes of the datagram; `"fou"` is GRE over FOU. -/
def encapHeader (checkType : String) : Bytes :=
  if checkType = "fou" then [0x20, 0x00, 0x08, 0x00, 0x00, 0x00, 0x00, 0x00]
  else [1, 4, 0, 0, 0, 0, 0, 0]

/-- The identifier of a check as bytes. -/
def identifierBytes (xid : ByteVec 20) : Bytes := ascii "glbhc_" ++ xid.val

def probeLayer (srcIp dstIp : ByteVec 4) : Ipv4Layer where
  version := 4
  ttl := 255
  id := 0
  protocol := ipProtoIcmpv4
  dontFragment := true
  srcIp := srcIp
  dstIp := dstIp

section Probe

variable (gopacket : Gopacket)

def probePacket (srcIp dstIp : ByteVec 4) (checkIdentifier : Bytes) : Bytes :=
  gopacket.serializeLayers ⟨true, true⟩ (probeLayer srcIp dstIp)
    ⟨icmpv4TypeEchoRequest, 0⟩ checkIdentifier

def packetData (checkType : String) (srcIp dstIp : ByteVec 4)
    (checkIdentifier : Bytes) : Bytes :=
  gopacket.prependBytes (encapHeader checkType)
    (probePacket gopacket srcIp dstIp checkIdentifier)

/-- What `icmpReceiveLoop` makes of an ICMP message. -/
def receivedPacket (kernel : TunnelKernel) (message : Bytes) :
    ReceivedPacket :=
  match kernel.readFrom message with
  | none => .readError
  | some buf =>
      match gopacket.newPacket buf with
      | none => .notIcmp
      | some icmp =>
          if icmp.1 ≠ icmpv4TypeEchoReply then .otherType
          else .echoReply (goString icmp.2)

variable {Check Channel : Type}
variable (xid : Check → ByteVec 20) (localIp targetIp : Check → ByteVec 4)

def xidString (check : Check) : String := goString (xid check).val

/-- The probe of a check. -/
def probeOf (check : Check) : Bytes :=
  probePacket gopacket (localIp check) (targetIp check)
    (identifierBytes (xid check))

end Probe

/-! ## The identifier -/

theorem goString_append (front back : Bytes) :
    goString (front ++ back) = goString front ++ goString back := by
  simp [goString]

theorem goString_injective : Function.Injective goString :=
  Function.LeftInverse.injective ascii_goString

theorem goString_identifierBytes {Check : Type} (xid : Check → ByteVec 20)
    (check : Check) :
    goString (identifierBytes (xid check)) =
      checkIdentifier (xidString xid) check := by
  have hliteral : goString (ascii "glbhc_") = "glbhc_" := by decide +kernel
  rw [identifierBytes, goString_append, hliteral]
  rfl

theorem identifierBytes_length (xid : ByteVec 20) :
    (identifierBytes xid).length = 26 := by
  rw [identifierBytes, List.length_append, xid.property]
  rfl

/-! ## The proxy -/

theorem OuterUdp.frame_bytes (outer : OuterUdp) (inner : Bytes) :
    (outer.frame inner).bytes =
      outer.bytes ++ (encapHeader "gue" ++ inner) := by
  have hheader : encapHeader "gue" = [1, 4, 0, 0] ++ (u16le 0 ++ [0, 0]) := by
    decide
  rw [hheader]
  simp [GueFrame.bytes, GueFrame.outerIp, GueFrame.udp,
    GueFrame.chainedRouting, OuterUdp.frame, OuterUdp.bytes]

theorem Gopacket.Conforms.packetData_frame {gopacket : Gopacket}
    (hgopacket : gopacket.Conforms) (outer : OuterUdp)
    (srcIp dstIp : ByteVec 4) (checkIdentifier : Bytes) :
    outer.bytes ++ packetData gopacket "gue" srcIp dstIp checkIdentifier =
      (outer.frame (probePacket gopacket srcIp dstIp
        checkIdentifier)).bytes := by
  rw [packetData, hgopacket.prepends, outer.frame_bytes]

theorem EchoRequest.innerIpv4_bytes {source target : ByteVec 4}
    {payload : Bytes} (request : EchoRequest source target payload) :
    innerIpv4 request.bytes 0 = .accept := by
  have hip : slice 0 ipv4HdrSize request.bytes = some request.header :=
    slice_first _ _ request.header_length
  have hihl : 0 + 4 * (fieldU8 0 request.header &&& 0x0f).toNat =
      ipv4HdrSize := by
    rw [request.version_ihl]
    decide
  have hicmp : slice ipv4HdrSize icmphdrSize request.bytes =
      some (request.message.take icmphdrSize) := by
    rw [EchoRequest.bytes, slice_append_right _ _ request.header_length.le,
      request.header_length, Nat.sub_self, slice, if_pos]
    · rfl
    · rw [request.message_length]
      omega
  have htype : fieldU8 0 (request.message.take icmphdrSize) ≠
      icmpDestUnreach := by
    have hfirst : fieldU8 0 (request.message.take icmphdrSize) =
        fieldU8 0 request.message := by
      simp only [fieldU8, List.getD_eq_getElem?_getD]
      rw [List.getElem?_take_of_lt (by decide)]
    rw [hfirst, request.message_type]
    decide
  unfold innerIpv4
  simp only [hip, hihl, request.protocol, hicmp, if_pos,
    if_pos (Or.inl htype)]

theorem glbredirectTg4_frame (stack : LocalStack) (outer : OuterUdp)
    {inner : Bytes} (hinner : innerIpv4 inner 0 = .accept) :
    glbredirectTg4 stack (outer.frame inner).bytes = .xtContinue := by
  rw [GueFrame.glbredirectTg4_bytes]
  have hpacket : (outer.frame inner).innerPacket = innerIpv4 inner 0 :=
    if_pos rfl
  rw [hpacket, hinner]
  rfl

/-! ## The probe of a check -/

section Check

variable {Check : Type} {gopacket : Gopacket} {kernel : TunnelKernel}
  (hgopacket : gopacket.Conforms) (hkernel : kernel.Conforms)
  (xid : Check → ByteVec 20) (localIp targetIp : Check → ByteVec 4)

include hgopacket

theorem exists_echoRequest (check : Check) :
    ∃ request : EchoRequest (localIp check) (targetIp check)
        (identifierBytes (xid check)),
      probeOf gopacket xid localIp targetIp check = request.bytes := by
  refine hgopacket.serializes (probeLayer _ _) _ rfl rfl ?_
  rw [identifierBytes_length]
  decide

theorem glbredirectTg4_probe (stack : LocalStack) (outer : OuterUdp)
    (check : Check) :
    glbredirectTg4 stack
      (outer.frame (probeOf gopacket xid localIp targetIp check)).bytes =
        .xtContinue := by
  obtain ⟨request, hrequest⟩ :=
    exists_echoRequest hgopacket xid localIp targetIp check
  rw [hrequest]
  exact glbredirectTg4_frame stack outer request.innerIpv4_bytes

include hkernel

theorem EchoReply.received {check : Check} {reply : Bytes}
    (hreply : EchoReply (identifierBytes (xid check)) reply) :
    receivedPacket gopacket kernel reply =
      .echoReply (checkIdentifier (xidString xid) check) := by
  have hlength := hreply.hlength
  rw [identifierBytes_length] at hlength
  have hread : kernel.readFrom reply = some reply := by
    refine hkernel.reads reply ?_
    rw [hlength]
    decide
  have hdecode := hgopacket.decodes reply
    (hlength ▸ Nat.le_add_right icmphdrSize 26)
  simp only [receivedPacket, hread, hdecode]
  rw [if_neg (not_not.mpr hreply.htype), hreply.hpayload,
    goString_identifierBytes]

theorem exists_answer (check : Check) :
    ∃ reply, kernel.answers (targetIp check)
      (probeOf gopacket xid localIp targetIp check) reply := by
  obtain ⟨request, hrequest⟩ :=
    exists_echoRequest hgopacket xid localIp targetIp check
  rw [hrequest]
  exact hkernel.answered request

theorem answer_of_probe {check : Check} {node : ByteVec 4} {reply : Bytes}
    (hanswers : kernel.answers node
      (probeOf gopacket xid localIp targetIp check) reply) :
    node = targetIp check ∧ receivedPacket gopacket kernel reply =
      .echoReply (checkIdentifier (xidString xid) check) := by
  obtain ⟨request, hrequest⟩ :=
    exists_echoRequest hgopacket xid localIp targetIp check
  rw [hrequest] at hanswers
  exact ⟨hkernel.answers_target request hanswers,
    (hkernel.answers_reply request hanswers).received hgopacket hkernel xid⟩

end Check

/-! ## A library and kernels that conform -/

def u16be (value : UInt16) : Bytes := u16le (htons value)

def onesChecksum (bytes : Bytes) : UInt16 :=
  ~~~UInt16.ofNat (fold (wordSum bytes))

/-- The bytes around a checksum, with the checksum filled in. -/
def checksummed (front back : Bytes) : Bytes :=
  front ++ (u16be (onesChecksum (front ++ ([0, 0] ++ back))) ++ back)

def icmpMessage (icmp : Icmpv4Layer) (payload : Bytes) : Bytes :=
  checksummed [icmp.icmpType, icmp.code] ([0, 0, 0, 0] ++ payload)

/-- The header in front of `size` bytes. -/
def ipv4Header (ip : Ipv4Layer) (size : ℕ) : Bytes :=
  checksummed
    ([0x45, 0] ++ (u16be (UInt16.ofNat (ipv4HdrSize + size)) ++
      (u16be ip.id ++ [if ip.dontFragment then 0x40 else 0, 0, ip.ttl,
        ip.protocol])))
    (ip.srcIp.val ++ ip.dstIp.val)

def plainGopacket : Gopacket where
  serializeLayers _ ip icmp payload :=
    ipv4Header ip (icmpMessage icmp payload).length ++ icmpMessage icmp payload
  prependBytes header buf := header ++ buf
  newPacket buf :=
    if icmphdrSize ≤ buf.length then
      some (fieldU8 0 buf, buf.drop icmphdrSize)
    else none

@[simp] theorem u16be_length (value : UInt16) : (u16be value).length = 2 :=
  u16le_length _

theorem residue_u16be (value : UInt16) :
    residue (u16be value) = 256 * (value.toNat : Residue) := by
  have hpair : ∃ low high, u16le value = [low, high] :=
    ⟨_, _, rfl⟩
  obtain ⟨low, high, hbytes⟩ := hpair
  have hvalue := residue_u16le value
  rw [hbytes] at hvalue
  rw [u16be, htons, u16le_ntohs, hbytes, ← hvalue]
  simp only [List.reverse_cons, List.reverse_nil, List.nil_append,
    List.cons_append, residue_cons, residue_nil]
  linear_combination -(high.toNat : Residue) * cast_byte_base_sq

theorem onesChecksum_cast (bytes : Bytes) :
    ((onesChecksum bytes).toNat : Residue) = -(256 * residue bytes) := by
  have hlt := fold_lt (wordSum bytes)
  have hsum : (UInt16.ofNat (fold (wordSum bytes))).toNat =
      fold (wordSum bytes) := UInt16.toNat_ofNat_of_lt' hlt
  have hnot : (onesChecksum bytes).toNat + fold (wordSum bytes) =
      0xffff := by
    rw [onesChecksum, UInt16.toNat_not, hsum]
    have hsize : UInt16.size = 0x10000 := rfl
    omega
  have hones : ((0xffff : ℕ) : Residue) = 0 := rfl
  have hcast := congrArg (fun n : ℕ => (n : Residue)) hnot
  simp only [Nat.cast_add, fold_cast, wordSum_cast, hones] at hcast
  linear_combination hcast

theorem verifies_checksummed {front : Bytes} (back : Bytes)
    (heven : Even front.length) (hpos : 0 < leNat front) :
    Verifies (checksummed front back) := by
  have hpos : 0 < leNat (checksummed front back) :=
    leNat_append_pos_left _ hpos
  have hzero : residue (front ++ ([0, 0] ++ back)) =
      residue front + residue back := by
    rw [residue_append_of_even _ heven,
      residue_append_of_even back (show Even [0, 0].length by decide)]
    simp [residue_cons, residue_nil]
  have hfield (value : UInt16) : Even (u16be value).length := by
    rw [u16be_length]
    decide
  rw [verifies_iff hpos, checksummed, residue_append_of_even _ heven,
    residue_append_of_even _ (hfield _), residue_u16be, onesChecksum_cast,
    hzero]
  linear_combination
    -(residue front + residue back) * cast_byte_base_sq

section Ipv4Header

variable (ip : Ipv4Layer) (size : ℕ)

theorem ipv4Header_length : (ipv4Header ip size).length = ipv4HdrSize := by
  simp [ipv4Header, checksummed, ip.srcIp.property, ip.dstIp.property,
    ipv4HdrSize]

theorem ipv4Header_totalLength (hlt : ipv4HdrSize + size < UInt16.size) :
    (ntohs (fieldU16 2 (ipv4Header ip size))).toNat = ipv4HdrSize + size := by
  have hfield : fieldU16 2 (ipv4Header ip size) =
      htons (UInt16.ofNat (ipv4HdrSize + size)) := by
    simp only [ipv4Header, checksummed, u16be, List.append_assoc]
    exact GueFrame.fieldU16_last [0x45, 0] _ _ rfl
  rw [hfield, htons, ntohs_ntohs, UInt16.toNat_ofNat_of_lt' hlt]

theorem ipv4Header_source :
    fieldBytes 12 4 (ipv4Header ip size) = ip.srcIp.val := by
  simp only [fieldBytes, ipv4Header, checksummed, ← List.append_assoc]
  rw [List.append_assoc _ ip.srcIp.val, List.drop_left' (by simp),
    List.take_left' ip.srcIp.property]

theorem ipv4Header_target :
    fieldBytes 16 4 (ipv4Header ip size) = ip.dstIp.val := by
  simp only [fieldBytes, ipv4Header, checksummed, ← List.append_assoc]
  rw [List.drop_left' (by simp [ip.srcIp.property]),
    List.take_of_length_le ip.dstIp.property.le]

theorem ipv4Header_verifies : Verifies (ipv4Header ip size) :=
  verifies_checksummed _ (by simp; decide)
    (leNat_append_pos_left _ (by decide))

end Ipv4Header

theorem icmpMessage_length (icmp : Icmpv4Layer) (payload : Bytes) :
    (icmpMessage icmp payload).length = icmphdrSize + payload.length := by
  simp [icmpMessage, checksummed, icmphdrSize]
  omega

/-- What the library above writes is an echo request. -/
theorem exists_plainRequest {ip : Ipv4Layer} {payload : Bytes}
    (hprotocol : ip.protocol = ipProtoIcmpv4)
    (hshort : payload.length ≤ 1000) :
    ∃ request : EchoRequest ip.srcIp ip.dstIp payload,
      plainGopacket.serializeLayers ⟨true, true⟩ ip
        ⟨icmpv4TypeEchoRequest, 0⟩ payload = request.bytes := by
  have hlength := icmpMessage_length ⟨icmpv4TypeEchoRequest, 0⟩ payload
  have hlt : ipv4HdrSize + (icmpMessage ⟨icmpv4TypeEchoRequest, 0⟩
      payload).length < UInt16.size := by
    rw [hlength]
    simp only [ipv4HdrSize, icmphdrSize, UInt16.size]
    omega
  refine ⟨{
    header := ipv4Header ip _
    message := icmpMessage ⟨icmpv4TypeEchoRequest, 0⟩ payload
    header_length := ipv4Header_length ip _
    message_length := hlength
    version_ihl := rfl
    total_length := ipv4Header_totalLength ip _ hlt
    protocol := hprotocol
    source_eq := ipv4Header_source ip _
    target_eq := ipv4Header_target ip _
    header_verifies := ipv4Header_verifies ip _
    message_type := rfl
    message_payload := rfl
    message_verifies := verifies_checksummed _ (by decide) (by decide) }, rfl⟩

theorem plainGopacket_conforms : plainGopacket.Conforms where
  serializes _ _ _ hprotocol hshort := exists_plainRequest hprotocol hshort
  prepends _ _ := rfl
  decodes _ hlength := if_pos hlength

/-- Every node answers what is addressed to it. -/
def plainKernel : TunnelKernel where
  gueReceive skb := (gueHeader skb).map fun gue => skb.drop gue.innerIpOfs
  answers node packet reply :=
    fieldBytes 16 4 packet = node.val ∧
      reply = [icmpv4TypeEchoReply, 0, 0, 0] ++ packet.drop (ipv4HdrSize + 4)
  readFrom message := some (message.take (1024 - ipv4HdrSize))

theorem EchoRequest.target_bytes {source target : ByteVec 4}
    {payload : Bytes} (request : EchoRequest source target payload) :
    fieldBytes 16 4 request.bytes = target.val := by
  have hinside : 16 ≤ request.header.length := by
    rw [request.header_length]
    decide
  have hrest : 4 ≤ (request.header.drop 16).length := by
    rw [List.length_drop, request.header_length]
    decide
  rw [fieldBytes, EchoRequest.bytes, List.drop_append_of_le_length hinside,
    List.take_append_of_le_length hrest]
  exact request.target_eq

theorem EchoRequest.reply_bytes {source target : ByteVec 4}
    {payload : Bytes} (request : EchoRequest source target payload) :
    EchoReply payload ([icmpv4TypeEchoReply, 0, 0, 0] ++
      request.bytes.drop (ipv4HdrSize + 4)) := by
  have hdrop : request.bytes.drop (ipv4HdrSize + 4) =
      request.message.drop 4 := by
    rw [← List.drop_drop, EchoRequest.bytes,
      List.drop_left' request.header_length]
  rw [hdrop]
  refine ⟨?_, rfl, ?_⟩
  · rw [List.length_append, List.length_drop, request.message_length]
    simp only [List.length_cons, List.length_nil, icmphdrSize]
    omega
  · exact (List.drop_drop).trans request.message_payload

theorem plainKernel_conforms : plainKernel.Conforms where
  decapsulates outer inner := by
    obtain ⟨front, hbytes, hfront⟩ := (outer.frame inner).bytes_eq_front_inner
    show (gueHeader _).map _ = _
    rw [GueFrame.gueHeader_bytes, Option.map_some, hbytes, ← hfront,
      List.drop_left]
    rfl
  answered request := ⟨_, request.target_bytes, rfl⟩
  answers_target request hanswers :=
    Subtype.ext (hanswers.1.symm.trans request.target_bytes)
  answers_reply request hanswers := hanswers.2 ▸ request.reply_bytes
  reads message hlength := by
    refine congrArg some (List.take_of_length_le ?_)
    omega

end GlbDirector
