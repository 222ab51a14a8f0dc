import GlbDirector.IcmpMatching
import GlbDirector.RouteSafety

/-!
# The tables of a flow and of its path-MTU errors

A path-MTU error is addressed to the VIP and quotes a packet from the VIP to
the client.  Its rule asks for the VIP twice and for the port of the quoted
packet, but not for the protocol of the quoted packet, and no rule of a bind for
the ICMP protocol tells an error from other ICMP traffic.  An error therefore
reaches every table that has the VIP and the port under any protocol.
-/

namespace GlbDirector

open ByteCodec AclMatch

/-- The table id that a rule of table `t` carries. -/
def ruleTableId (t : ℕ) : UInt32 :=
  classifiedTable (classifiedBitmask ||| UInt32.ofNat t)

/-- The ids of the tables that have a rule for the packet. -/
def matchedTables (rules : AclRules) (buffer : Bytes) : Set UInt32 :=
  { id | id ∈ (classifyToTables rules buffer).map classifiedTable }

/-- Some table of this id has a bind with the property. -/
def TableBindWith (raw : Bytes) (id : UInt32) (holds : FwdBind → Prop) :
    Prop :=
  ∃ t bind, FileHasBind raw t bind ∧ ruleTableId t = id ∧ holds bind

theorem ClassifiesBinds.mem_matchedTables_iff {raw : Bytes} {forward : Bool}
    {rules : AclRules} (hclassifies : ClassifiesBinds raw forward rules)
    {family : IpFamily} {buffer : Bytes}
    (hether : ntohs (fieldU16 12 buffer) = family.etherType) (id : UInt32) :
    id ∈ matchedTables rules buffer ↔
      TableBindWith raw id fun bind => bindFamily bind = family ∧
        BindMatch family bind buffer forward := by
  change id ∈ (classifyToTables rules buffer).map classifiedTable ↔ _
  rw [List.mem_map]
  constructor
  · rintro ⟨userdata, hmem, rfl⟩
    obtain ⟨t, bind, hbind, hmatch, rfl⟩ :=
      (hclassifies family buffer hether userdata).mp hmem
    exact ⟨t, bind, hbind, rfl, hmatch⟩
  · rintro ⟨t, bind, hbind, rfl, hmatch⟩
    exact ⟨_, (hclassifies family buffer hether _).mpr
      ⟨t, bind, hbind, hmatch, rfl⟩, rfl⟩

/-! ## A flow and an error about it -/

/-- `message` is a path-MTU error to the VIP of the flow that `packet` belongs
to, and quotes a packet of the flow's other direction. -/
structure QuotesFlow (family : IpFamily) (message packet : Bytes) :
    Prop where
  hmessage : PathMtuPacket family message
  hcode : family = .ipv4 → fieldU8 (family.l4Offset + 1) message = 4
  hdst : packetDst family message = packetDst family packet
  htuple : (headerTuple family message family.quotedOffset).swap =
    headerTuple family packet ethernetHdrSize
  hproto : fieldU8 (family.quotedOffset + family.protoOffset) message =
    fieldU8 (ethernetHdrSize + family.protoOffset) packet

section Flow

variable (family : IpFamily) (message packet : Bytes) (bind : FwdBind)

/-- The bind has the VIP and the port of the flow. -/
def CoversVip : Prop :=
  bindFamily bind = family ∧
    AddrInBind family bind packet (ethernetHdrSize + family.dstOffset) ∧
    PortInBind bind (portAt (family.l4Offset + 2) packet)

/-- The bind has the VIP, is for ICMP, and covers the error's checksum. -/
def CoversChecksum : Prop :=
  bindFamily bind = family ∧ bind.proto = family.icmpProto ∧
    AddrInBind family bind packet (ethernetHdrSize + family.dstOffset) ∧
    PortInBind bind (portAt (family.l4Offset + 2) message)

/-- The bind is for the flow itself. -/
def CoversFlow : Prop :=
  CoversVip family packet bind ∧
    bind.proto = fieldU8 (ethernetHdrSize + family.protoOffset) packet

end Flow

/-- The tables that have the VIP and the port under any protocol, if the code
of the error is the one of the rule, or that have a bind for ICMP which covers
the checksum, are those that have a bind for the flow's own protocol. -/
def PathMtuAgreement (raw : Bytes) (family : IpFamily)
    (message packet : Bytes) : Prop :=
  ∀ id,
    portAt family.l4Offset message = family.fragmentation ∧
        TableBindWith raw id (CoversVip family packet) ∨
      TableBindWith raw id (CoversChecksum family message packet) ↔
    TableBindWith raw id (CoversFlow family packet)

/-! ## The binds that match -/

theorem PlainPacket.bindMatch_iff {family : IpFamily} {packet : Bytes}
    (hplain : PlainPacket family packet) (bind : FwdBind) (forward : Bool)
    (trailing : Bytes) :
    bindFamily bind = family ∧
        BindMatch family bind (packet ++ trailing) forward ↔
      CoversFlow family packet bind := by
  have hheader := hplain.header_inside
  obtain ⟨_, hport⟩ := l4_buffer hheader trailing
  have hdst := addrInBind_congr family bind (dst_buffer hheader trailing)
  unfold BindMatch TypicalMatch FragmentationMatch EchoMatch CoversFlow
    CoversVip
  rw [proto_buffer hheader, hport, hdst]
  constructor
  · rintro ⟨hfamily, ⟨hproto, hvip, hin⟩ | ⟨hproto, _⟩ | ⟨_, hproto, _⟩⟩
    · exact ⟨⟨hfamily, hvip, hin⟩, hproto.symm⟩
    · exact absurd hproto.symm (hplain.not_icmpProto family)
    · exact absurd hproto.symm (hplain.not_icmpProto family)
  · rintro ⟨⟨hfamily, hvip, hin⟩, hproto⟩
    exact ⟨hfamily, .inl ⟨hproto.symm, hvip, hin⟩⟩

theorem PathMtuPacket.icmpPacket {family : IpFamily} {message : Bytes}
    (hmessage : PathMtuPacket family message) :
    IcmpPacket family message where
  hether := hmessage.hether
  hproto := hmessage.hproto
  hheader := by
    have hports := hmessage.hquoted.hports
    have hsize : family.icmpParsedSize ≤ family.icmpSize := by
      cases family <;> decide
    rw [IpFamily.quotedOffset] at hports
    omega

theorem QuotesFlow.bindMatch_iff {family : IpFamily}
    {message packet : Bytes} (hquotes : QuotesFlow family message packet)
    (hplain : PlainPacket family packet) (bind : FwdBind) (forward : Bool)
    (trailing : Bytes) :
    bindFamily bind = family ∧
        BindMatch family bind (message ++ trailing) forward ↔
      portAt family.l4Offset message = family.fragmentation ∧
          CoversVip family packet bind ∨
        CoversChecksum family message packet bind := by
  have hheader := hquotes.hmessage.icmpPacket.header_inside
  have hports := hquotes.hmessage.hquoted.hports
  have hplainHeader := hplain.header_inside
  have hoffsets := family.header_offsets
  have hl4 : family.l4Offset = ethernetHdrSize + family.hdrSize := rfl
  rw [l4PortsHdrSize] at hports
  have hbyte : fieldU8 (ethernetHdrSize + family.protoOffset)
      (message ++ trailing) = family.icmpProto :=
    (proto_buffer hheader trailing).trans hquotes.hmessage.hproto
  obtain ⟨htype, hchecksum⟩ := l4_buffer hheader trailing
  have hport : portAt (family.quotedOffset + family.hdrSize)
      (message ++ trailing) = portAt (family.l4Offset + 2) packet := by
    have hsame : fieldU16 (family.quotedOffset + family.hdrSize) message =
        fieldU16 (ethernetHdrSize + family.hdrSize + 2) packet :=
      congrArg FlowTuple.dstPort hquotes.htuple
    rw [portAt_buffer trailing (by omega), hsame, hl4, portAt_eq (by omega)]
  have hdst := addrInBind_congr family bind
    ((dst_buffer hheader trailing).trans hquotes.hdst)
  have hsource : fieldBytes (family.quotedOffset + family.srcOffset)
        family.addrSize message =
      fieldBytes (ethernetHdrSize + family.dstOffset) family.addrSize packet :=
    congrArg FlowTuple.dstAddr hquotes.htuple
  have hsrc := addrInBind_congr family bind
    ((fieldBytes_buffer trailing (show family.quotedOffset +
      family.srcOffset + family.addrSize ≤ message.length by omega)).trans
        hsource)
  have hecho : portAt family.l4Offset message ≠ family.echoRequest :=
    fun hcode => (typeCode_isPathMtu (by omega)).2 hcode
      hquotes.hmessage.htype
  unfold BindMatch TypicalMatch FragmentationMatch EchoMatch CoversVip
    CoversChecksum
  rw [hbyte, htype, hchecksum, hport, hdst, hsrc]
  constructor
  · rintro ⟨hfamily, ⟨hproto, hvip, hin⟩ | ⟨_, hcode, hvip, _, hin⟩ |
      ⟨_, _, hcode, _⟩⟩
    · exact .inr ⟨hfamily, hproto.symm, hvip, hin⟩
    · exact .inl ⟨hcode, hfamily, hvip, hin⟩
    · exact absurd hcode hecho
  · rintro (⟨hcode, hfamily, hvip, hin⟩ | ⟨hfamily, hproto, hvip, hin⟩)
    · exact ⟨hfamily, .inr (.inl ⟨rfl, hcode, hvip, hvip, hin⟩)⟩
    · exact ⟨hfamily, .inl ⟨hproto.symm, hvip, hin⟩⟩

theorem tableBindWith_congr {raw : Bytes} {id : UInt32}
    {holds holds' : FwdBind → Prop}
    (hsame : ∀ bind, holds bind ↔ holds' bind) :
    TableBindWith raw id holds ↔ TableBindWith raw id holds' := by
  simp only [TableBindWith, hsame]

theorem tableBindWith_or {raw : Bytes} {id : UInt32} {code : Prop}
    {holds holds' : FwdBind → Prop} :
    TableBindWith raw id (fun bind => code ∧ holds bind ∨ holds' bind) ↔
      code ∧ TableBindWith raw id holds ∨ TableBindWith raw id holds' := by
  constructor
  · rintro ⟨t, bind, hbind, hid, ⟨hcode, hholds⟩ | hholds⟩
    · exact .inl ⟨hcode, t, bind, hbind, hid, hholds⟩
    · exact .inr ⟨t, bind, hbind, hid, hholds⟩
  · rintro (⟨hcode, t, bind, hbind, hid, hholds⟩ |
      ⟨t, bind, hbind, hid, hholds⟩)
    · exact ⟨t, bind, hbind, hid, .inl ⟨hcode, hholds⟩⟩
    · exact ⟨t, bind, hbind, hid, .inr hholds⟩

/-! ## The tables -/

section Tables

variable {raw : Bytes} {forward : Bool} {rules : AclRules}
variable (hclassifies : ClassifiesBinds raw forward rules)
variable {family : IpFamily} {message packet : Bytes}
variable (hplain : PlainPacket family packet)

include hclassifies hplain

theorem mem_matchedTables_packet_iff (trailing : Bytes) (id : UInt32) :
    id ∈ matchedTables rules (packet ++ trailing) ↔
      TableBindWith raw id (CoversFlow family packet) := by
  rw [hclassifies.mem_matchedTables_iff (hplain.hether_buffer trailing)]
  exact tableBindWith_congr fun bind =>
    hplain.bindMatch_iff bind forward trailing

variable (hquotes : QuotesFlow family message packet)

include hquotes

theorem mem_matchedTables_message_iff (trailing : Bytes) (id : UInt32) :
    id ∈ matchedTables rules (message ++ trailing) ↔
      portAt family.l4Offset message = family.fragmentation ∧
          TableBindWith raw id (CoversVip family packet) ∨
        TableBindWith raw id (CoversChecksum family message packet) := by
  rw [hclassifies.mem_matchedTables_iff
    (hquotes.hmessage.icmpPacket.hether_buffer trailing),
    ← tableBindWith_or]
  exact tableBindWith_congr fun bind =>
    hquotes.bindMatch_iff hplain bind forward trailing

end Tables

/-- The tables matched by a path-MTU error are those matched by the packets
of its flow exactly when no other table has the VIP and the port. -/
theorem path_mtu_tables_iff {raw : Bytes}
    (hcheck : checkConfig raw = some (.ok ())) (forward : Bool)
    {family : IpFamily} {message packet : Bytes}
    (hplain : PlainPacket family packet)
    (hquotes : QuotesFlow family message packet)
    (messageTrailing trailing : Bytes) :
    ∃ rules, createBindClassifier forward raw = some rules ∧
      (matchedTables rules (message ++ messageTrailing) =
          matchedTables rules (packet ++ trailing) ↔
        PathMtuAgreement raw family message packet) := by
  obtain ⟨rules, hrules, hclassifies⟩ := exists_classifier forward hcheck
  refine ⟨rules, hrules, ?_⟩
  rw [Set.ext_iff]
  refine forall_congr' fun id => ?_
  rw [mem_matchedTables_message_iff hclassifies hplain hquotes,
    mem_matchedTables_packet_iff hclassifies hplain]

/-! ## Two protocols on one port -/

/-- A bind for 1.1.1.1:80. -/
def sharedBind (proto : UInt8) : BindEntry where
  inetFamily := familyIpv4
  ip := strayBind.ip
  ipBits := 32
  portStart := 80
  portEnd := 80
  ipproto := proto
  reserved := 0

def sharedImage (proto : UInt8) : TableImage where
  numBackends := 1
  backends := strayImage.backends
  backends_length := strayImage.backends_length
  numBinds := 1
  binds := padSlots maxNumBinds .zero [sharedBind proto]
  binds_length := padSlots_length _ (show 1 ≤ maxNumBinds by decide)
  hashKey := ByteVec.zero 16
  rows := List.replicate tableEntries { primaryIdx := 0, secondaryIdx := 0 }
  rows_length := List.length_replicate

theorem sharedImage_accepted {proto : UInt8}
    (hproto : supportedProto proto = true) :
    (sharedImage proto).Accepted where
  hbackends := show (1 : UInt32) ≠ 0 ∧ 1 ≤ maxNumBackends by decide
  hbinds := show (1 : UInt32) ≠ 0 ∧ 1 ≤ maxNumBinds by decide
  hbackend index hindex := by
    obtain rfl : index = 0 := Nat.lt_one_iff.mp hindex
    exact ⟨strayBackend, padSlots_getElem?_used _ rfl, Or.inr rfl⟩
  hbind index hindex := by
    obtain rfl : index = 0 := Nat.lt_one_iff.mp hindex
    exact ⟨sharedBind proto, padSlots_getElem?_used _ rfl, Or.inl rfl, hproto⟩

/-- Table 0 has 1.1.1.1:80 for TCP, table 1 has it for UDP. -/
def sharedFile : Bytes :=
  configFile 2 [sharedImage ipProtoTcp, sharedImage ipProtoUdp]

theorem sharedFile_accepted : checkConfig sharedFile = some (.ok ()) := by
  refine checkConfig_accepted rfl (by decide) fun image himage => ?_
  rcases List.mem_pair.mp himage with rfl | rfl
  · exact sharedImage_accepted (by decide)
  · exact sharedImage_accepted (by decide)

theorem sharedFile_bind {t : ℕ} {proto : UInt8}
    (himage : [sharedImage ipProtoTcp, sharedImage ipProtoUdp][t]? =
      some (sharedImage proto)) :
    tableNumBinds sharedFile t = some 1 ∧
      tableBind sharedFile t 0 = some (sharedBind proto).view :=
  ⟨tableNumBinds_configFile 2 himage,
    tableBind_configFile 2 himage (padSlots_getElem?_used _ rfl)⟩

theorem sharedFile_hasBind_iff {t : ℕ} {bind : FwdBind} :
    FileHasBind sharedFile t bind ↔
      t = 0 ∧ bind = (sharedBind ipProtoTcp).view ∨
        t = 1 ∧ bind = (sharedBind ipProtoUdp).view := by
  have hnum : numTables sharedFile = some 2 := numTables_configFile 2 _
  obtain ⟨hnumTcp, htcp⟩ := sharedFile_bind
    (show _ = some (sharedImage ipProtoTcp) from List.getElem?_cons_zero)
  obtain ⟨hnumUdp, hudp⟩ := sharedFile_bind
    (show [sharedImage ipProtoTcp, sharedImage ipProtoUdp][1]? =
      some (sharedImage ipProtoUdp) from rfl)
  constructor
  · rintro ⟨⟨num, hnum', ht⟩, numBinds, b, hnumBinds, hb, hbind⟩
    obtain rfl := Option.some.inj (hnum.symm.trans hnum')
    have htwo : t = 0 ∨ t = 1 := by
      have hlt : t < 2 := ht
      omega
    rcases htwo with rfl | rfl
    · obtain rfl := Option.some.inj (hnumTcp.symm.trans hnumBinds)
      obtain rfl : b = 0 := Nat.lt_one_iff.mp hb
      exact .inl ⟨rfl, Option.some.inj (hbind.symm.trans htcp)⟩
    · obtain rfl := Option.some.inj (hnumUdp.symm.trans hnumBinds)
      obtain rfl : b = 0 := Nat.lt_one_iff.mp hb
      exact .inr ⟨rfl, Option.some.inj (hbind.symm.trans hudp)⟩
  · rintro (⟨rfl, rfl⟩ | ⟨rfl, rfl⟩)
    · exact ⟨⟨2, hnum, by decide⟩, 1, 0, hnumTcp, by decide, htcp⟩
    · exact ⟨⟨2, hnum, by decide⟩, 1, 0, hnumUdp, by decide, hudp⟩

theorem sampleFragNeeded_quotes :
    QuotesFlow .ipv4 sampleFragNeeded samplePacket where
  hmessage := sampleFragNeeded_pathMtu
  hcode := by decide
  hdst := by decide
  htuple := by decide
  hproto := by decide

theorem path_mtu_tables_iff_sharedFile :
    ∃ rules, createBindClassifier false sharedFile = some rules ∧
      (matchedTables rules (sampleFragNeeded ++ []) =
          matchedTables rules (samplePacket ++ []) ↔
        PathMtuAgreement sharedFile .ipv4 sampleFragNeeded samplePacket) :=
  path_mtu_tables_iff sharedFile_accepted false samplePacket_plain
    sampleFragNeeded_quotes [] []

/-- The error of a TCP flow is also matched by the table that has the VIP and
the port for UDP only. -/
theorem error_reaches_other_protocol :
    ∃ rules, createBindClassifier false sharedFile = some rules ∧
      PlainPacket .ipv4 samplePacket ∧
      QuotesFlow .ipv4 sampleFragNeeded samplePacket ∧
      ∀ messageTrailing trailing,
        1 ∈ matchedTables rules (sampleFragNeeded ++ messageTrailing) ∧
          1 ∉ matchedTables rules (samplePacket ++ trailing) := by
  obtain ⟨rules, hrules, hclassifies⟩ :=
    exists_classifier false sharedFile_accepted
  refine ⟨rules, hrules, samplePacket_plain, sampleFragNeeded_quotes,
    fun messageTrailing trailing => ⟨?_, ?_⟩⟩
  · rw [mem_matchedTables_message_iff hclassifies samplePacket_plain
      sampleFragNeeded_quotes]
    refine .inl ⟨by decide, 1, (sharedBind ipProtoUdp).view,
      sharedFile_hasBind_iff.mpr (.inr ⟨rfl, rfl⟩), by decide, rfl, ?_, ?_⟩
    · have hsingle : SingleAddress (sharedBind ipProtoUdp).view :=
        .inl ⟨rfl, rfl⟩
      exact (hsingle.addrInBind_iff rfl rfl (by decide)).mpr rfl
    · exact ⟨by decide, by decide⟩
  · rw [mem_matchedTables_packet_iff hclassifies samplePacket_plain]
    rintro ⟨t, bind, hbind, hid, _, hproto⟩
    rcases sharedFile_hasBind_iff.mp hbind with ⟨rfl, rfl⟩ | ⟨rfl, rfl⟩
    · exact absurd hid (by decide)
    · exact absurd hproto (by decide)

end GlbDirector
