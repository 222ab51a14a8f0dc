import GlbDirector.BindMatching

/-!
# ICMP packets in the two directors

The XDP program looks an ICMP packet up by its destination and port 0, a key
that every bind has; `config_bits[2]` is never read.  Messages of the path-MTU
type are looked up by the packet they quote, whatever their code.  The DPDK
director asks for the exact type and code, for an echo request only when it is
configured, and matches the quoted address and port but not the quoted
protocol.  This module says when the two agree on a packet.
-/

namespace GlbDirector

open ByteCodec AclMatch ExceptLoops MapWrites

/-! ## Forwarding in the XDP program -/

def XdpForwards (maps : XdpMaps) (packet : Bytes) : Prop :=
  ∃ frame, xdpGlbDirectorProcess maps packet = .tx frame

theorem LoadedTable.exists_xdpRow {raw : Bytes} {maps : XdpMaps} {t : ℕ}
    (loaded : LoadedTable raw maps t) (hash : UInt64) :
    ∃ row, xdpRow loaded.rows hash = some row := by
  have hlt : (hash &&& glbFmtTableHashmask).toNat < glbFmtTableEntries := by
    rw [UInt64.toNat_and]
    exact Nat.and_lt_two_pow _ (n := 16) (by decide)
  obtain ⟨row, hrow, _⟩ := loadRows_getElem? loaded.hrows hlt
  exact ⟨row, hrow⟩

theorem LoadedTable.exists_xdpRoute {raw : Bytes} {maps : XdpMaps} {t : ℕ}
    (loaded : LoadedTable raw maps t) (hsmall : t < 2 ^ 32)
    (fields : PacketFields) :
    ∃ ctx, xdpRoute maps fields (UInt32.ofNat t) = some ctx := by
  have hid : (UInt32.ofNat t).toNat = t := UInt32.toNat_ofNat_of_lt' hsmall
  obtain ⟨row, hrow⟩ := loaded.exists_xdpRow
    (glbComputeHash .xdp fields loaded.secret
      (readHashFields (maps.configBits 3)))
  obtain ⟨row', hrow'⟩ := loaded.exists_xdpRow
    (glbComputeHash .xdp fields loaded.secret
      (readHashFields (maps.configBits 4)))
  rw [xdpRoute, hid, loaded.htable, loaded.htableSecret]
  simp only [Option.bind_eq_bind, Option.bind_some, hrow, hrow']
  split
  · exact ⟨_, rfl⟩
  · exact ⟨_, rfl⟩

theorem exists_xdpSend (maps : XdpMaps) (ctx : RouteContext) {packet : Bytes}
    (hlong : ethernetHdrSize ≤ packet.length) :
    ∃ frame, xdpSend maps ctx packet = .tx frame := by
  have hroom : routeContextEncapSize ctx ≤
      (List.replicate (routeContextEncapSize ctx - ethernetHdrSize) 0 ++
        packet).length := by
    rw [List.length_append, List.length_replicate]
    omega
  have hhops : xdpHopsOffset + 4 * (ctx.ipv4Hops.length - 1) =
      routeContextEncapSize ctx := rfl
  rw [xdpSend, if_neg (not_lt.mpr hroom), xdpGlbEncapsulatePacket, hhops,
    if_neg (not_lt.mpr hroom)]
  exact ⟨_, rfl⟩

section Loaded

variable {config : XdpConfig} {raw : Bytes} {maps : XdpMaps}
variable (hload : reloadForwardingTable raw
  (syncConfigMap config freshMaps) = .ok maps)

include hload

/-- The program forwards what it can parse and finds in `glb_binds`. -/
theorem xdpForwards_iff {family : IpFamily} {packet : Bytes}
    (hether : ntohs (fieldU16 12 packet) = family.etherType) :
    XdpForwards maps packet ↔
      family.parsedLength packet ≤ packet.length ∧
        SomeBind raw fun bind =>
          BindKey bind (packetBind (family.parsedFields packet)) := by
  obtain ⟨_, _, hholds⟩ := reloadForwardingTable_binds rfl hload
  rw [← isSome_lookupBind_iff hholds]
  unfold XdpForwards xdpGlbDirectorProcess
  rw [glbExtractPacketFields_eq .xdp hether]
  by_cases hparsed : family.parsedLength packet ≤ packet.length
  · rw [if_pos hparsed]
    cases hlookup : lookupBind maps.glbBinds
        (packetBind (family.parsedFields packet)) with
    | none => simp [hlookup]
    | some id =>
        obtain ⟨t, bind, ⟨⟨num, hnum, ht⟩, _⟩, _, rfl⟩ :=
          hholds.sound _ _ hlookup
        obtain ⟨loaded⟩ :=
          (reloadForwardingTable_loaded hload hnum).2 t ht
        obtain ⟨ctx, hroute⟩ := loaded.exists_xdpRoute
          (ht.trans num.toNat_lt) (family.parsedFields packet)
        have hlong :=
          (family.ethernet_le_parsedLength packet).trans hparsed
        simp only [hlookup, xdpProcessTable, hroute, Option.isSome_some,
          hparsed, and_self, iff_true]
        exact exists_xdpSend maps ctx hlong
  · rw [if_neg hparsed]
    simp [hparsed]

end Loaded

/-! ## What an ICMP packet shows to the two directors -/

structure IcmpPacket (family : IpFamily) (packet : Bytes) : Prop where
  hether : ntohs (fieldU16 12 packet) = family.etherType
  hproto : family.isIcmp packet
  hheader : family.l4Offset + family.icmpParsedSize ≤ packet.length

theorem IcmpPacket.header_inside {family : IpFamily} {packet : Bytes}
    (hicmp : IcmpPacket family packet) :
    family.l4Offset + 4 ≤ packet.length := by
  have hheader := hicmp.hheader
  have hsize : 4 ≤ family.icmpParsedSize := by
    cases family <;> decide
  omega

section Packet

variable (family : IpFamily) (packet buffer : Bytes) (bind : FwdBind)

def packetDst : Bytes :=
  fieldBytes (ethernetHdrSize + family.dstOffset) family.addrSize packet

/-- The bind names the destination of the packet. -/
def AtDestination : Prop :=
  bindFamily bind = family ∧ bindAddr bind = packetDst family packet

/-- The bind has a key for the destination, without a port. -/
def KeyForDestination : Prop :=
  keyAddr (bindFamily bind) (bindAddr bind) =
      keyAddr family (packetDst family packet) ∧
    (bindFamily bind = family ∨
      bind.proto = family.icmpProto ∧ PortInBind bind 0)

/-- The bind has a key for the source of the packet that is quoted. -/
def KeyForQuoted : Prop :=
  keyAddr (bindFamily bind) (bindAddr bind) =
      keyAddr family (headerTuple family packet family.quotedOffset).srcAddr ∧
    (bind.proto =
          fieldU8 (family.quotedOffset + family.protoOffset) packet ∧
        PortInBind bind (ntohs
          (headerTuple family packet family.quotedOffset).srcPort).toNat ∨
      (bindFamily bind).icmpProto =
          fieldU8 (family.quotedOffset + family.protoOffset) packet ∧
        (headerTuple family packet family.quotedOffset).srcPort = 0)

/-- A bind for the ICMP protocol takes the checksum for a port. -/
def ChecksumMatch : Prop :=
  AtDestination family packet bind ∧ bind.proto = family.icmpProto ∧
    PortInBind bind (portAt (family.l4Offset + 2) packet)

/-- The bind also names the source that is quoted, whatever the protocol. -/
def QuotedMatch : Prop :=
  AtDestination family packet bind ∧
    AddrInBind family bind buffer (family.quotedOffset + family.srcOffset) ∧
    PortInBind bind (portAt (family.quotedOffset + family.hdrSize) buffer)

end Packet

theorem portAt_eq_bytes {offset : ℕ} {packet : Bytes}
    (hfits : offset + 2 ≤ packet.length) :
    portAt offset packet = 256 * (fieldU8 offset packet).toNat +
      (fieldU8 (offset + 1) packet).toNat := by
  have hbyte : ∀ i (hi : i < packet.length), fieldU8 i packet = packet[i] := by
    intro i hi
    rw [fieldU8, List.getD_eq_getElem?_getD, List.getElem?_eq_getElem hi]
    rfl
  have hbytes : fieldBytes offset 2 packet =
      [fieldU8 offset packet, fieldU8 (offset + 1) packet] := by
    rw [fieldBytes, hbyte offset (by omega), hbyte (offset + 1) (by omega),
      List.drop_eq_getElem_cons (by omega),
      List.drop_eq_getElem_cons (by omega)]
    rfl
  rw [portAt, hbytes]
  simp only [beNat, List.reverse_cons, List.reverse_nil, List.nil_append,
    List.cons_append, leNat]
  omega

/-- The types that the rules ask for. -/
theorem typeCode_isPathMtu {family : IpFamily} {packet : Bytes}
    (hfits : family.l4Offset + 2 ≤ packet.length) :
    (portAt family.l4Offset packet = family.fragmentation →
      family.isPathMtu packet) ∧
    (portAt family.l4Offset packet = family.echoRequest →
      ¬ family.isPathMtu packet) := by
  have hcode := (fieldU8 (family.l4Offset + 1) packet).toNat_lt
  have htypes : family.fragmentation / 256 = family.pathMtuType.toNat ∧
      family.echoRequest / 256 ≠ family.pathMtuType.toNat := by
    cases family <;> decide
  have hdiv : portAt family.l4Offset packet / 256 =
      (fieldU8 family.l4Offset packet).toNat := by
    rw [portAt_eq_bytes hfits]
    omega
  rw [IpFamily.isPathMtu, ← UInt8.toNat_inj, ← hdiv]
  constructor
  · intro hcode
    rw [hcode]
    exact htypes.1
  · intro hcode
    rw [hcode]
    exact htypes.2

section Icmp

variable {family : IpFamily} {packet : Bytes}
variable (hicmp : IcmpPacket family packet) {bind : FwdBind}
variable (hsingle : SingleAddress bind) (hlength : bind.ipv6Addr.length = 16)

include hicmp hsingle hlength

theorem IcmpPacket.bindMatch_iff (forward : Bool) (trailing : Bytes) :
    bindFamily bind = family ∧
        BindMatch family bind (packet ++ trailing) forward ↔
      ChecksumMatch family packet bind ∨
        portAt family.l4Offset packet = family.fragmentation ∧
          QuotedMatch family packet (packet ++ trailing) bind ∨
        (forward = true ∧
          portAt family.l4Offset packet = family.echoRequest) ∧
            AtDestination family packet bind := by
  have hheader := hicmp.header_inside
  have hinside := dst_inside hheader
  have hbyte : fieldU8 (ethernetHdrSize + family.protoOffset)
      (packet ++ trailing) = family.icmpProto :=
    (proto_buffer hheader trailing).trans hicmp.hproto
  obtain ⟨htype, hchecksum⟩ := l4_buffer hheader trailing
  have hdst : fieldBytes (ethernetHdrSize + family.dstOffset)
      family.addrSize (packet ++ trailing) = packetDst family packet :=
    dst_buffer hheader trailing
  unfold BindMatch TypicalMatch FragmentationMatch EchoMatch
    ChecksumMatch QuotedMatch AtDestination
  rw [hbyte, htype, hchecksum]
  by_cases hfamily : bindFamily bind = family
  · have haddr := hsingle.addrInBind_iff hlength hfamily
      (show ethernetHdrSize + family.dstOffset + family.addrSize ≤
        (packet ++ trailing).length by rw [List.length_append]; omega)
    rw [haddr, hdst]
    constructor
    · rintro ⟨_, ⟨hproto, hat, hport⟩ | ⟨_, hcode, hat, hquoted⟩ |
        ⟨hforward, _, hcode, hat⟩⟩
      · exact .inl ⟨⟨hfamily, hat.symm⟩, hproto.symm, hport⟩
      · exact .inr (.inl ⟨hcode, ⟨hfamily, hat.symm⟩, hquoted⟩)
      · exact .inr (.inr ⟨⟨hforward, hcode⟩, hfamily, hat.symm⟩)
    · rintro (⟨⟨_, hat⟩, hproto, hport⟩ | ⟨hcode, ⟨_, hat⟩, hquoted⟩ |
        ⟨⟨hforward, hcode⟩, _, hat⟩)
      · exact ⟨hfamily, .inl ⟨hproto.symm, hat.symm, hport⟩⟩
      · exact ⟨hfamily, .inr (.inl ⟨rfl, hcode, hat.symm, hquoted⟩)⟩
      · exact ⟨hfamily, .inr (.inr ⟨hforward, rfl, hcode, hat.symm⟩)⟩
  · simp only [hfamily, false_and, and_false, or_false]

theorem IcmpPacket.bindKey_iff_of_other (hother : ¬ family.isPathMtu packet) :
    BindKey bind (packetBind (family.parsedFields packet)) ↔
      KeyForDestination family packet bind := by
  obtain ⟨_, htuple, hproto, _⟩ := parsedFields_of_icmp hicmp.hproto hother
  have hport : (family.outerTuple packet).dstPort = 0 := rfl
  have hzero : (ntohs 0).toNat = 0 := by decide
  have hfamily : (bindFamily bind).icmpProto = family.icmpProto ↔
      bindFamily bind = family := by
    cases family <;> cases bindFamily bind <;> decide
  have hbyte : fieldU8 (ethernetHdrSize + family.protoOffset) packet =
      family.icmpProto := hicmp.hproto
  rw [bindKey_packetBind_iff hsingle hlength, htuple, hproto, hport, hzero,
    hbyte, hfamily, eq_self, and_true, or_comm]
  rfl

theorem IcmpPacket.bindKey_iff_of_pathMtu (hpmtu : family.isPathMtu packet) :
    BindKey bind (packetBind (family.parsedFields packet)) ↔
      KeyForQuoted family packet bind := by
  obtain ⟨_, htuple, hproto, _⟩ := parsedFields_of_pathMtu hicmp.hproto hpmtu
  rw [bindKey_packetBind_iff hsingle hlength, htuple, hproto]
  rfl

end Icmp

/-! ## When the directors agree -/

/-- The binds of a file for which both directors treat an ICMP packet the same.
For a message of the path-MTU type the quoted packet must have a key exactly
when a rule matches.  An echo request that is forwarded needs a bind of its own
family, which only an all-zero address can miss.  Any other packet must have no
key, unless a bind for the ICMP protocol happens to cover its checksum. -/
def IcmpAgreement (raw : Bytes) (forward : Bool) (family : IpFamily)
    (packet buffer : Bytes) : Prop :=
  if family.isPathMtu packet then
    (family.quotedOffset + family.hdrSize + l4PortsHdrSize ≤ packet.length ∧
        SomeBind raw (KeyForQuoted family packet)) ↔
      (portAt family.l4Offset packet = family.fragmentation ∧
        SomeBind raw (QuotedMatch family packet buffer)) ∨
      SomeBind raw (ChecksumMatch family packet)
  else if forward = true ∧
      portAt family.l4Offset packet = family.echoRequest then
    SomeBind raw (KeyForDestination family packet) →
      SomeBind raw (AtDestination family packet)
  else
    SomeBind raw (KeyForDestination family packet) →
      SomeBind raw (ChecksumMatch family packet)

theorem AtDestination.keyForDestination {family : IpFamily} {packet : Bytes}
    {bind : FwdBind} (hat : AtDestination family packet bind) :
    KeyForDestination family packet bind :=
  ⟨by rw [hat.1, hat.2], .inl hat.1⟩

section Agreement

variable {config : XdpConfig} {raw : Bytes} {maps : XdpMaps}
variable {family : IpFamily} {packet : Bytes}
variable (hicmp : IcmpPacket family packet)
variable (hsingle : ∀ t bind, FileHasBind raw t bind → SingleAddress bind)

include hicmp

theorem IcmpPacket.hether_buffer (trailing : Bytes) :
    ntohs (fieldU16 12 (packet ++ trailing)) = family.etherType := by
  rw [etherType_buffer hicmp.header_inside trailing]
  exact hicmp.hether

include hsingle

theorem IcmpPacket.classify_iff {forward : Bool} {rules : AclRules}
    (hclassifies : ClassifiesBinds raw forward rules) (trailing : Bytes) :
    classifyToTables rules (packet ++ trailing) ≠ [] ↔
      SomeBind raw (ChecksumMatch family packet) ∨
        portAt family.l4Offset packet = family.fragmentation ∧
          SomeBind raw (QuotedMatch family packet (packet ++ trailing)) ∨
        (forward = true ∧
          portAt family.l4Offset packet = family.echoRequest) ∧
            SomeBind raw (AtDestination family packet) := by
  rw [hclassifies.ne_nil_iff (hicmp.hether_buffer trailing),
    someBind_congr fun t bind hbind => hicmp.bindMatch_iff
      (hsingle t bind hbind) hbind.addr_length forward trailing]
  constructor
  · rintro ⟨t, bind, hbind, hmatch | ⟨hcode, hmatch⟩ | ⟨hecho, hmatch⟩⟩
    · exact .inl ⟨t, bind, hbind, hmatch⟩
    · exact .inr (.inl ⟨hcode, t, bind, hbind, hmatch⟩)
    · exact .inr (.inr ⟨hecho, t, bind, hbind, hmatch⟩)
  · rintro (hsome | ⟨hcode, hsome⟩ | ⟨hecho, hsome⟩)
    · exact hsome.mono fun bind hmatch => .inl hmatch
    · exact hsome.mono fun bind hmatch => .inr (.inl ⟨hcode, hmatch⟩)
    · exact hsome.mono fun bind hmatch => .inr (.inr ⟨hecho, hmatch⟩)

variable (hload : reloadForwardingTable raw
  (syncConfigMap config freshMaps) = .ok maps)

include hload

theorem IcmpPacket.xdpForwards_iff_of_other
    (hother : ¬ family.isPathMtu packet) :
    XdpForwards maps packet ↔
      SomeBind raw (KeyForDestination family packet) := by
  have hparsed : family.parsedLength packet ≤ packet.length := by
    rw [(parsedFields_of_icmp hicmp.hproto hother).1]
    exact hicmp.hheader
  rw [xdpForwards_iff hload hicmp.hether,
    someBind_congr fun t bind hbind => hicmp.bindKey_iff_of_other
      (hsingle t bind hbind) hbind.addr_length hother]
  exact and_iff_right hparsed

theorem IcmpPacket.xdpForwards_iff_of_pathMtu
    (hpmtu : family.isPathMtu packet) :
    XdpForwards maps packet ↔
      family.quotedOffset + family.hdrSize + l4PortsHdrSize ≤
          packet.length ∧
        SomeBind raw (KeyForQuoted family packet) := by
  rw [xdpForwards_iff hload hicmp.hether,
    someBind_congr fun t bind hbind => hicmp.bindKey_iff_of_pathMtu
      (hsingle t bind hbind) hbind.addr_length hpmtu,
    (parsedFields_of_pathMtu hicmp.hproto hpmtu).1]

/-- The XDP program forwards an ICMP packet exactly when a rule of the DPDK
director matches it, if and only if the binds treat the packet alike. -/
theorem icmp_bind_matching_iff (trailing : Bytes) :
    ∃ rules, createBindClassifier config.forwardIcmpPingResponses raw =
        some rules ∧
      ((XdpForwards maps packet ↔
          classifyToTables rules (packet ++ trailing) ≠ []) ↔
        IcmpAgreement raw config.forwardIcmpPingResponses family packet
          (packet ++ trailing)) := by
  obtain ⟨hcheck, _, _⟩ := reloadForwardingTable_binds rfl hload
  obtain ⟨rules, hrules, hclassifies⟩ :=
    exists_classifier config.forwardIcmpPingResponses hcheck
  refine ⟨rules, hrules, ?_⟩
  have hfits : family.l4Offset + 2 ≤ packet.length := by
    have hheader := hicmp.hheader
    have hsize : 4 ≤ family.icmpParsedSize := by
      cases family <;> decide
    omega
  obtain ⟨hfragmentation, hecho⟩ := typeCode_isPathMtu hfits
  rw [hicmp.classify_iff hsingle hclassifies]
  unfold IcmpAgreement
  by_cases hpmtu : family.isPathMtu packet
  · have hno : portAt family.l4Offset packet ≠ family.echoRequest :=
      fun hcode => hecho hcode hpmtu
    rw [if_pos hpmtu, hicmp.xdpForwards_iff_of_pathMtu hsingle hload hpmtu]
    simp only [hno, and_false, false_and, or_false]
    rw [or_comm]
  · have hno : portAt family.l4Offset packet ≠ family.fragmentation :=
      fun hcode => hpmtu (hfragmentation hcode)
    rw [if_neg hpmtu, hicmp.xdpForwards_iff_of_other hsingle hload hpmtu]
    simp only [hno, false_and, false_or]
    have hchecksum : SomeBind raw (ChecksumMatch family packet) →
        SomeBind raw (AtDestination family packet) :=
      fun hsome => hsome.mono fun bind hmatch => hmatch.1
    have hkey : SomeBind raw (AtDestination family packet) →
        SomeBind raw (KeyForDestination family packet) :=
      fun hsome => hsome.mono fun bind hat => hat.keyForDestination
    split
    · rename_i hforward
      simp only [hforward, true_and]
      rw [or_iff_right_of_imp hchecksum]
      exact ⟨Iff.mp, fun hreached => ⟨hreached, hkey⟩⟩
    · rename_i hforward
      simp only [hforward, false_and, or_false]
      exact ⟨Iff.mp, fun hreached => ⟨hreached, hkey ∘ hchecksum⟩⟩

end Agreement

/-! ## An echo request -/

/-- An ICMP echo request for 1.1.1.1. -/
def sampleEcho : Bytes :=
  [2, 0, 0, 0, 0, 1, 2, 0, 0, 0, 0, 2, 0x08, 0x00] ++
    [0x45, 0, 0, 28, 0, 0, 0x40, 0, 64, 1, 0, 0, 192, 168, 0, 4, 1, 1, 1, 1,
      8, 0, 0xf7, 0xfe, 0, 1, 0, 0]

theorem sampleEcho_icmp : IcmpPacket .ipv4 sampleEcho where
  hether := by decide
  hproto := by decide
  hheader := by decide

theorem threeFile_single (t : ℕ) (bind : FwdBind)
    (hbind : FileHasBind threeFile t bind) : SingleAddress bind := by
  rw [(threeFile_binds hbind).2]
  exact .inl ⟨rfl, rfl⟩

theorem icmp_bind_matching_iff_sampleEcho :
    ∃ maps rules,
      reloadForwardingTable threeFile (syncConfigMap migratingXdp
        freshMaps) = .ok maps ∧
      createBindClassifier migratingXdp.forwardIcmpPingResponses threeFile =
        some rules ∧
      ((XdpForwards maps sampleEcho ↔
          classifyToTables rules (sampleEcho ++ []) ≠ []) ↔
        IcmpAgreement threeFile migratingXdp.forwardIcmpPingResponses .ipv4
          sampleEcho (sampleEcho ++ [])) := by
  obtain ⟨maps, hload⟩ := threeRoot_loads
  obtain ⟨rules, hrules, hiff⟩ :=
    icmp_bind_matching_iff sampleEcho_icmp threeFile_single hload []
  exact ⟨maps, rules, hload, hrules, hiff⟩

theorem threeFile_hasBind : FileHasBind threeFile 0 sampleFwdBind := by
  have hinput : [sampleInput threeSlots][0]? = some (sampleInput threeSlots) :=
    rfl
  refine ⟨⟨1, numTables_configFile _ _, by decide⟩, _, 0,
    tableNumBinds_builtFile hinput, by decide, ?_⟩
  rw [threeFile, tableBind_builtFile hinput rfl]
  decide

/-- With echo forwarding switched off the XDP program still forwards an echo
request that no rule of the DPDK director matches. -/
theorem echo_request_only_xdp :
    ∃ maps rules, migratingXdp.forwardIcmpPingResponses = false ∧
      reloadForwardingTable threeFile (syncConfigMap migratingXdp
        freshMaps) = .ok maps ∧
      createBindClassifier migratingXdp.forwardIcmpPingResponses threeFile =
        some rules ∧
      (∀ t bind, FileHasBind threeFile t bind → SingleAddress bind) ∧
      IcmpPacket .ipv4 sampleEcho ∧ XdpForwards maps sampleEcho ∧
      ∀ trailing, classifyToTables rules (sampleEcho ++ trailing) = [] := by
  obtain ⟨maps, hload⟩ := threeRoot_loads
  obtain ⟨hcheck, _, _⟩ := reloadForwardingTable_binds rfl hload
  obtain ⟨rules, hrules, hclassifies⟩ :=
    exists_classifier migratingXdp.forwardIcmpPingResponses hcheck
  refine ⟨maps, rules, rfl, hload, hrules, threeFile_single,
    sampleEcho_icmp, ?_, ?_⟩
  · rw [sampleEcho_icmp.xdpForwards_iff_of_other threeFile_single hload
      (by decide)]
    refine ⟨0, sampleFwdBind, threeFile_hasBind, ?_⟩
    exact AtDestination.keyForDestination ⟨rfl, rfl⟩
  · intro trailing
    have hno : portAt IpFamily.ipv4.l4Offset sampleEcho ≠
        IpFamily.ipv4.fragmentation := by decide
    by_contra hsome
    rw [← ne_eq, sampleEcho_icmp.classify_iff threeFile_single hclassifies]
      at hsome
    rcases hsome with ⟨t, bind, hbind, hmatch⟩ | ⟨hcode, _⟩ | ⟨⟨hforward, _⟩, _⟩
    · have hproto := hmatch.2.1
      rw [(threeFile_binds hbind).2] at hproto
      exact absurd hproto (by decide)
    · exact hno hcode
    · exact absurd hforward (by decide)

end GlbDirector
