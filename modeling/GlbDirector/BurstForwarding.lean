import GlbDirector.BindMatching
import GlbDirector.BurstClassify
import GlbDirector.ProcessorLoop

/-!
# The two directors forward the same packets

A worker of the DPDK director classifies a burst with the rules of a file,
encapsulates what is classified and leaves the rest to the kernel interface.
The XDP program looks each packet up in the maps that its loader filled from
the same file.  Where every bind names one address and no two tables share an
address, protocol and port, both forward the same TCP and UDP packets, with
the same bytes behind the Ethernet header.
-/

namespace GlbDirector

open ByteCodec AclMatch MapWrites

/-! ## A burst in a worker -/

/-- A packet, and what its buffer holds behind it. -/
structure Mbuf where
  packet : Bytes
  trailing : Bytes

def Mbuf.data (mbuf : Mbuf) : Bytes := mbuf.packet ++ mbuf.trailing

inductive WorkerResult where
  | kni
  | drop
  | encapsulated (frame : Bytes)

section Worker

variable (rte : RteChecksums) (config : DirectorConfig) (raw : Bytes)

def workerPacket (classification : UInt32) (packet : Bytes) : WorkerResult :=
  if classification &&& classifiedBitmask = 0 then .kni
  else
    match glbEncapsulatePacketDpdk rte config raw packet
        (classifiedTable classification).toNat with
    | .ok frame => .encapsulated frame
    | .error _ => .drop

variable (acl : (family : IpFamily) → RteAcl family.defs)

/-- The body of `processor_worker` for a burst that it has received. -/
def workerBurst (rules : AclRules) (stack : SortedBurst)
    (burst : List Mbuf) : Option (List WorkerResult) := do
  let (ret, classifications) ← classifyBurst acl rules.classifier
    (workerBurstSz + 1) stack (burst.map Mbuf.data)
  if ret ≠ 0 then return burst.map fun _ => .drop
  return burst.mapIdx fun i mbuf =>
    workerPacket rte config raw (classifications i) mbuf.packet

variable {acl} {rules : AclRules} {stack : SortedBurst} {burst : List Mbuf}
  {ret : ℤ} {classifications : ℕ → UInt32}
  (hrun : classifyBurst acl rules.classifier (workerBurstSz + 1) stack
    (burst.map Mbuf.data) = some (ret, classifications))

include hrun

theorem workerBurst_of_classified (hret : ret = 0) :
    workerBurst rte config raw acl rules stack burst =
      some (burst.mapIdx fun i mbuf =>
        workerPacket rte config raw (classifications i) mbuf.packet) := by
  rw [workerBurst, hrun]
  exact if_neg (not_not.mpr hret)

theorem workerBurst_of_failure (hret : ret ≠ 0) :
    workerBurst rte config raw acl rules stack burst =
      some (burst.map fun _ => .drop) := by
  rw [workerBurst, hrun]
  exact if_pos hret

end Worker

/-! ## The table of a packet -/

/-- The bind has the packet's address, protocol and port. -/
def BindServes (family : IpFamily) (packet : Bytes) (bind : FwdBind) :
    Prop :=
  bindFamily bind = family ∧
    bindAddr bind = (headerTuple family packet ethernetHdrSize).dstAddr ∧
    bind.proto = fieldU8 (ethernetHdrSize + family.protoOffset) packet ∧
    PortInBind bind
      (ntohs (headerTuple family packet ethernetHdrSize).dstPort).toNat

def ServedBy (raw : Bytes) (family : IpFamily) (packet : Bytes) (t : ℕ) :
    Prop :=
  ∃ bind, FileHasBind raw t bind ∧ BindServes family packet bind

/-- A packet can be for both binds. -/
def Overlap (bind bind' : FwdBind) : Prop :=
  bindFamily bind = bindFamily bind' ∧ bindAddr bind = bindAddr bind' ∧
    bind.proto = bind'.proto ∧
    ∃ port, PortInBind bind port ∧ PortInBind bind' port

/-- A file in which the binds alone decide the table of a packet. -/
structure OneTableEach (raw : Bytes) : Prop where
  single : ∀ t bind, FileHasBind raw t bind →
    SingleAddress bind ∧ ¬ ZeroAddress bind
  unique : ∀ t t' bind bind', FileHasBind raw t bind →
    FileHasBind raw t' bind' → Overlap bind bind' → t = t'

theorem BindServes.overlap {family : IpFamily} {packet : Bytes}
    {bind bind' : FwdBind} (hserves : BindServes family packet bind)
    (hserves' : BindServes family packet bind') : Overlap bind bind' := by
  obtain ⟨hfamily, haddr, hproto, hport⟩ := hserves
  obtain ⟨hfamily', haddr', hproto', hport'⟩ := hserves'
  exact ⟨hfamily.trans hfamily'.symm, haddr.trans haddr'.symm,
    hproto.trans hproto'.symm, _, hport, hport'⟩

theorem PlainPacket.bindKey_iff_serves {family : IpFamily} {packet : Bytes}
    (hplain : PlainPacket family packet) {bind : FwdBind}
    (hsingle : SingleAddress bind) (hzero : ¬ ZeroAddress bind)
    (hlength : bind.ipv6Addr.length = 16) :
    BindKey bind (packetBind (family.parsedFields packet)) ↔
      BindServes family packet bind := by
  obtain ⟨_, htuple, hproto, _⟩ :=
    parsedFields_of_plain hplain.htransport.not_icmp
  have hdst : ((headerTuple family packet ethernetHdrSize).dstAddr).length =
      family.addrSize := fieldBytes_length rfl (dst_inside hplain.header_inside)
  rw [bindKey_packetBind_iff hsingle hlength, htuple, hproto,
    keyAddr_inj (bindAddr_length hlength) hdst hzero, and_assoc]
  refine and_congr_right fun _ => and_congr_right fun _ => ?_
  constructor
  · rintro (hport | ⟨hicmp, _⟩)
    · exact hport
    · exact absurd hicmp (hplain.not_icmpProto _)
  · exact .inl

section Tables

variable {raw : Bytes} (hbinds : OneTableEach raw) {family : IpFamily}
  {packet : Bytes} (hplain : PlainPacket family packet) {t : ℕ}

include hbinds

theorem OneTableEach.table_eq {t' : ℕ}
    (hserved : ServedBy raw family packet t)
    (hserved' : ServedBy raw family packet t') : t = t' := by
  obtain ⟨bind, hheld, hserves⟩ := hserved
  obtain ⟨bind', hheld', hserves'⟩ := hserved'
  exact hbinds.unique t t' bind bind' hheld hheld' (hserves.overlap hserves')

include hplain

theorem OneTableEach.bindKey_iff {bind : FwdBind}
    (hheld : FileHasBind raw t bind) :
    BindKey bind (packetBind (family.parsedFields packet)) ↔
      BindServes family packet bind :=
  hplain.bindKey_iff_serves (hbinds.single t bind hheld).1
    (hbinds.single t bind hheld).2 hheld.addr_length

/-- The entries of `glb_binds` for a plain packet. -/
theorem OneTableEach.writtenBy_iff {tableIndex : UInt32} :
    WrittenBy (FileHasBind raw) (packetBind (family.parsedFields packet))
        tableIndex ↔
      ∃ t, ServedBy raw family packet t ∧ tableIndex = UInt32.ofNat t := by
  constructor
  · rintro ⟨t, bind, hheld, hkey, hindex⟩
    exact ⟨t, ⟨bind, hheld, (hbinds.bindKey_iff hplain hheld).mp hkey⟩,
      hindex⟩
  · rintro ⟨t, ⟨bind, hheld, hserves⟩, hindex⟩
    exact ⟨t, bind, hheld, (hbinds.bindKey_iff hplain hheld).mpr hserves,
      hindex⟩

/-- The user data of the rules that match a plain packet. -/
theorem OneTableEach.mem_classifyToTables_iff {forward : Bool}
    {rules : AclRules} (hclassifies : ClassifiesBinds raw forward rules)
    (trailing : Bytes) {userdata : UInt32} :
    userdata ∈ classifyToTables rules (packet ++ trailing) ↔
      ∃ t, ServedBy raw family packet t ∧
        userdata = classifiedBitmask ||| UInt32.ofNat t := by
  have hmatch : ∀ t bind, FileHasBind raw t bind →
      (bindFamily bind = family ∧
          BindMatch family bind (packet ++ trailing) forward ↔
        BindServes family packet bind) := by
    intro t bind hheld
    obtain ⟨hone, hzero⟩ := hbinds.single t bind hheld
    exact (hplain.bindKey_iff hone hzero hheld.addr_length forward
      trailing).symm.trans (hbinds.bindKey_iff hplain hheld)
  rw [hclassifies family _ (hplain.hether_buffer trailing)]
  constructor
  · rintro ⟨t, bind, hheld, hmatches, hdata⟩
    exact ⟨t, ⟨bind, hheld, (hmatch t bind hheld).mp hmatches⟩, hdata⟩
  · rintro ⟨t, ⟨bind, hheld, hserves⟩, hdata⟩
    exact ⟨t, bind, hheld, (hmatch t bind hheld).mpr hserves, hdata⟩

/-! ## What each director finds -/

theorem OneTableEach.lookupBind_of_served {maps : XdpMaps}
    (hholds : Holds (lookupBind maps.glbBinds)
      (WrittenBy (FileHasBind raw)))
    (hserved : ServedBy raw family packet t) :
    lookupBind maps.glbBinds (packetBind (family.parsedFields packet)) =
      some (UInt32.ofNat t) := by
  have hsome := hholds.complete _ _
    ((hbinds.writtenBy_iff hplain).mpr ⟨t, hserved, rfl⟩)
  obtain ⟨id, hid⟩ := Option.isSome_iff_exists.mp hsome
  obtain ⟨t', hserved', rfl⟩ :=
    (hbinds.writtenBy_iff hplain).mp (hholds.sound _ _ hid)
  rw [hid, hbinds.table_eq hserved hserved']

theorem OneTableEach.lookupBind_of_not_served {maps : XdpMaps}
    (hholds : Holds (lookupBind maps.glbBinds)
      (WrittenBy (FileHasBind raw)))
    (hnone : ∀ t, ¬ ServedBy raw family packet t) :
    lookupBind maps.glbBinds (packetBind (family.parsedFields packet)) =
      none := by
  apply Option.eq_none_iff_forall_not_mem.mpr
  intro id hid
  obtain ⟨t, hserved, _⟩ :=
    (hbinds.writtenBy_iff hplain).mp (hholds.sound _ _ hid)
  exact hnone t hserved

variable (acl : (family : IpFamily) → RteAcl family.defs) {forward : Bool}
  {rules : AclRules} (hclassifies : ClassifiesBinds raw forward rules)
  (trailing : Bytes)

include hclassifies

theorem OneTableEach.classifyPacket_of_served
    (hserved : ServedBy raw family packet t) :
    classifyPacket acl rules.classifier (packet ++ trailing) =
      classifiedBitmask ||| UInt32.ofNat t := by
  have hmem := @OneTableEach.mem_classifyToTables_iff raw hbinds family packet
    hplain forward rules hclassifies trailing
  rcases classifyPacket_spec acl rules (packet ++ trailing) with hin |
    ⟨hnil, _⟩
  · obtain ⟨t', hserved', hdata⟩ := hmem.mp hin
    rw [hdata, hbinds.table_eq hserved hserved']
  · have hin := hmem.mpr ⟨t, hserved, rfl⟩
    rw [hnil] at hin
    cases hin

theorem OneTableEach.classifyPacket_of_not_served
    (hnone : ∀ t, ¬ ServedBy raw family packet t) :
    classifyPacket acl rules.classifier (packet ++ trailing) = 0 := by
  rcases classifyPacket_spec acl rules (packet ++ trailing) with hin |
    ⟨_, hzero⟩
  · obtain ⟨t, hserved, _⟩ :=
      (hbinds.mem_classifyToTables_iff hplain hclassifies trailing).mp hin
    exact absurd hserved (hnone t)
  · exact hzero

end Tables

/-! ## What each director sends -/

theorem classified_userdata (t : ℕ) :
    (classifiedBitmask ||| UInt32.ofNat t) &&& classifiedBitmask ≠ 0 := by
  have habsorb : (classifiedBitmask ||| UInt32.ofNat t) &&&
      classifiedBitmask = classifiedBitmask := by
    apply UInt32.eq_of_toBitVec_eq
    ext i hi
    simp only [UInt32.toBitVec_and, UInt32.toBitVec_or, BitVec.getElem_and,
      BitVec.getElem_or]
    cases classifiedBitmask.toBitVec[i] <;> simp
  rw [habsorb]
  decide

theorem workerPacket_userdata (rte : RteChecksums)
    (config : DirectorConfig) {raw packet sent : Bytes} {t : ℕ}
    (ht : t < glbTablesMaxEntries)
    (hsent : glbEncapsulatePacketDpdk rte config raw packet t = .ok sent) :
    workerPacket rte config raw (classifiedBitmask ||| UInt32.ofNat t)
      packet = .encapsulated sent := by
  have hid : (UInt32.ofNat t).toNat = t :=
    UInt32.toNat_ofNat_of_lt' (ht.trans (by decide))
  rw [workerPacket, if_neg (classified_userdata t),
    classifiedTable_userdata ht, hid, hsent]

section Sending

variable (rte : RteChecksums) {config : XdpConfig} (hhashes : config.Hashes)
  (localEtherAddr : ByteVec 6) {raw : Bytes} {maps : XdpMaps}
  (hload : reloadForwardingTable raw (syncConfigMap config freshMaps) =
    .ok maps)

include hhashes hload

/-- Both directors write the same headers for a packet of a table. -/
theorem exists_same_frame {num : UInt32} (hnum : numTables raw = some num)
    {t : ℕ} (ht : t < num.toNat) {packet : Bytes} {fields : PacketFields}
    (hparsed : glbExtractPacketFields .xdp packet = some fields) :
    ∃ sent frame,
      glbEncapsulatePacketDpdk rte (config.director localEtherAddr) raw
        packet t = .ok sent ∧
      xdpProcessTable maps packet fields (UInt32.ofNat t) = .tx frame ∧
      clearChecksums (sent.drop ethernetHdrSize) =
        clearChecksums (frame.drop ethernetHdrSize) := by
  obtain ⟨hbits, hloaded⟩ := reloadForwardingTable_loaded hload hnum
  obtain ⟨loaded⟩ := hloaded t ht
  obtain ⟨ctx, hxdp, hdpdk⟩ := xdpRoute_eq_calculatePacketRoute
    localEtherAddr hhashes hbits loaded (ht.trans num.toNat_lt) hparsed
  obtain ⟨hlength, _, horigEq⟩ :=
    glbExtractPacketFields_etherType (route_spec hdpdk).1
  have horig : ctx.fields.origDstMac.length = 6 := by
    rw [horigEq]
    exact fieldBytes_length rfl (le_trans (by decide) hlength)
  have hgateway : (maps.configBits 0).length = 6 := by
    rw [hbits, configBits_gateway]
    exact config.outboundGatewayMac.2
  have hsource : fieldU32 0 (maps.configBits 1) =
      (config.director localEtherAddr).localIpAddr := by
    rw [hbits, configBits_source]
    rfl
  obtain ⟨_, _, hsent⟩ :=
    glbEncapsulatePacketDpdk_of_route rte hnum ht hdpdk
  obtain ⟨_, hframe⟩ := xdpSend_frame hgateway hsource horig
    (route_hops_le hdpdk) hlength
  have hprocess : xdpProcessTable maps packet fields (UInt32.ofNat t) =
      xdpSend maps ctx packet := by
    rw [xdpProcessTable, hxdp]
  refine ⟨_, _, hsent, hprocess.trans hframe, ?_⟩
  rw [drop_encapEthernet,
    List.drop_left' (xdpEthernet_length hgateway horig),
    clearChecksums_frame, clearChecksums_frame]

/-- What a worker and the XDP program do with one plain packet. -/
inductive SameForwarding (rte : RteChecksums) (director : DirectorConfig)
    (raw : Bytes) (family : IpFamily) (packet : Bytes) :
    WorkerResult → XdpAction → Prop where
  | forwarded (t : ℕ) (sent frame : Bytes)
      (hserved : ServedBy raw family packet t)
      (hsent : glbEncapsulatePacketDpdk rte director raw packet t = .ok sent)
      (hsame : clearChecksums (sent.drop ethernetHdrSize) =
        clearChecksums (frame.drop ethernetHdrSize)) :
      SameForwarding rte director raw family packet
        (.encapsulated sent) (.tx frame)
  | left (hnone : ∀ t, ¬ ServedBy raw family packet t) :
      SameForwarding rte director raw family packet .kni .pass

variable (hbinds : OneTableEach raw)
  (acl : (family : IpFamily) → RteAcl family.defs)

include hbinds

theorem sameForwarding_packet {forward : Bool} {rules : AclRules}
    (hclassifies : ClassifiesBinds raw forward rules) {family : IpFamily}
    {mbuf : Mbuf} (hplain : PlainPacket family mbuf.packet) :
    SameForwarding rte (config.director localEtherAddr) raw family
      mbuf.packet
      (workerPacket rte (config.director localEtherAddr) raw
        (classifyPacket acl rules.classifier mbuf.data) mbuf.packet)
      (xdpGlbDirectorProcess maps mbuf.packet) := by
  obtain ⟨_, hsmall, hholds⟩ := reloadForwardingTable_binds rfl hload
  have hparsed := ((FlowPacket.plain hplain).parsed .xdp).1
  by_cases hserved : ∃ t, ServedBy raw family mbuf.packet t
  · obtain ⟨t, hserved⟩ := hserved
    obtain ⟨bind, hheld, _⟩ := id hserved
    obtain ⟨⟨num, hnum, ht⟩, _⟩ := id hheld
    obtain ⟨sent, frame, hsent, hframe, hsame⟩ :=
      exists_same_frame rte hhashes localEtherAddr hload hnum ht hparsed
    have hxdp : xdpGlbDirectorProcess maps mbuf.packet = .tx frame := by
      rw [xdpGlbDirectorProcess, hparsed]
      simp only [hbinds.lookupBind_of_served hplain hholds hserved]
      exact hframe
    rw [Mbuf.data, hbinds.classifyPacket_of_served hplain acl hclassifies _
      hserved, workerPacket_userdata rte _ (hsmall t bind hheld) hsent, hxdp]
    exact .forwarded t sent frame hserved hsent hsame
  · have hnone : ∀ t, ¬ ServedBy raw family mbuf.packet t :=
      not_exists.mp hserved
    have hxdp : xdpGlbDirectorProcess maps mbuf.packet = .pass := by
      rw [xdpGlbDirectorProcess, hparsed]
      simp only [hbinds.lookupBind_of_not_served hplain hholds hnone]
    rw [Mbuf.data, hbinds.classifyPacket_of_not_served hplain acl
      hclassifies _ hnone, hxdp, workerPacket, if_pos (by decide)]
    exact .left hnone

end Sending

/-- The worker and the XDP program treat every packet of a burst alike. -/
theorem directors_forward_alike
    (rte : RteChecksums)
    {config : XdpConfig}
    (hhashes : config.Hashes)
    (localEtherAddr : ByteVec 6)
    {raw : Bytes}
    {maps : XdpMaps}
    (hload : reloadForwardingTable raw (syncConfigMap config freshMaps) =
      .ok maps)
    (hbinds : OneTableEach raw)
    (acl : (family : IpFamily) → RteAcl family.defs)
    (forward : Bool)
    (stack : SortedBurst)
    {burst : List Mbuf}
    (hburst : burst.length ≤ workerBurstSz)
    (hplain : ∀ mbuf ∈ burst, ∃ family, PlainPacket family mbuf.packet) :
    ∃ rules ret classifications results,
      createBindClassifier forward raw = some rules ∧
      classifyBurst acl rules.classifier (workerBurstSz + 1) stack
        (burst.map Mbuf.data) = some (ret, classifications) ∧
      workerBurst rte (config.director localEtherAddr) raw acl rules stack
        burst = some results ∧
      (ret ≠ 0 → results = burst.map fun _ => .drop) ∧
      (ret = 0 → List.Forall₂
        (fun mbuf result => ∃ family, PlainPacket family mbuf.packet ∧
          SameForwarding rte (config.director localEtherAddr) raw family
            mbuf.packet result (xdpGlbDirectorProcess maps mbuf.packet))
        burst results) := by
  obtain ⟨hcheck, _, _⟩ := reloadForwardingTable_binds rfl hload
  obtain ⟨rules, hrules, hclassifies⟩ := exists_classifier forward hcheck
  have hlength : (burst.map Mbuf.data).length = burst.length :=
    List.length_map _
  have hsmall : (burst.map Mbuf.data).length ≤ 255 := by
    rw [hlength]
    exact hburst.trans (by decide)
  have hfuel : (burst.map Mbuf.data).length < workerBurstSz + 1 := by
    rw [hlength]
    exact Nat.lt_succ_of_le hburst
  obtain ⟨ret, classifications, hrun, hresults⟩ :=
    exists_classifyBurst acl rules.classifier hsmall hfuel stack
  by_cases hret : ret = 0
  · refine ⟨rules, ret, classifications, _, hrules, hrun,
      workerBurst_of_classified _ _ _ hrun hret,
      fun hne => absurd hret hne, fun _ => ?_⟩
    rw [List.forall₂_iff_get]
    refine ⟨List.length_mapIdx.symm, fun i hi _ => ?_⟩
    have hat := hresults hret i (hlength.symm ▸ hi)
    rw [List.getD_eq_getElem _ _ (hlength.symm ▸ hi), List.getElem_map]
      at hat
    obtain ⟨family, hpacket⟩ := hplain burst[i] (List.getElem_mem hi)
    refine ⟨family, hpacket, ?_⟩
    rw [List.get_eq_getElem, List.get_eq_getElem, List.getElem_mapIdx, hat]
    exact sameForwarding_packet rte hhashes localEtherAddr hload hbinds
      acl hclassifies hpacket
  · exact ⟨rules, ret, classifications, _, hrules, hrun,
      workerBurst_of_failure _ _ _ hrun hret, fun _ => rfl,
      fun hzero => absurd hzero hret⟩

/-! ## A sample burst -/

section Outcomes

variable {rte : RteChecksums} {director : DirectorConfig} {raw : Bytes}
  {family : IpFamily} {packet : Bytes} {result : WorkerResult}
  {action : XdpAction}
  (hsame : SameForwarding rte director raw family packet result action)

include hsame

theorem SameForwarding.of_served {t : ℕ}
    (hserved : ServedBy raw family packet t) :
    ∃ sent frame, result = .encapsulated sent ∧ action = .tx frame ∧
      clearChecksums (sent.drop ethernetHdrSize) =
        clearChecksums (frame.drop ethernetHdrSize) := by
  cases hsame with
  | forwarded _ sent frame _ _ hbytes => exact ⟨sent, frame, rfl, rfl, hbytes⟩
  | left hnone => exact absurd hserved (hnone t)

theorem SameForwarding.of_not_served
    (hnone : ∀ t, ¬ ServedBy raw family packet t) :
    result = .kni ∧ action = .pass := by
  cases hsame with
  | forwarded t _ _ hserved => exact absurd hserved (hnone t)
  | left _ => exact ⟨rfl, rfl⟩

end Outcomes

theorem PlainPacket.family_eq {family family' : IpFamily} {packet : Bytes}
    (hplain : PlainPacket family packet)
    (hplain' : PlainPacket family' packet) : family = family' := by
  have htype := hplain.hether.symm.trans hplain'.hether
  cases family <;> cases family' <;> first | rfl | cases htype

theorem threeFile_oneTableEach : OneTableEach threeFile where
  single t bind hheld := by
    rw [(threeFile_binds hheld).2]
    exact ⟨.inl ⟨rfl, rfl⟩, by decide⟩
  unique t t' bind bind' hheld hheld' _ := by
    rw [(threeFile_binds hheld).1, (threeFile_binds hheld').1]

/-- The library calls of `firstMatch` never fail. -/
theorem classifyFamily_firstMatch
    {classifier : (family : IpFamily) →
      Option (List (Rule (AclField family.words)))}
    {fuel : ℕ} {family : IpFamily} {burst : FamilyBurst}
    {before : ℕ → UInt32} {result : ℤ × (ℕ → UInt32)}
    (hrun : classifyFamily (fun family => firstMatch family.defs) classifier
      fuel family burst before = some result) : result.1 = 0 := by
  unfold classifyFamily at hrun
  split at hrun
  · split at hrun
    · obtain rfl := Option.some.inj hrun
      rfl
    · obtain ⟨_, _, rfl⟩ := Option.map_eq_some_iff.mp hrun
      rfl
  · obtain rfl := Option.some.inj hrun
    rfl

theorem classifyBurst_firstMatch {rules : AclRules} {stack : SortedBurst}
    {fuel : ℕ} {pktsBurst : List Bytes} {ret : ℤ}
    {classifications : ℕ → UInt32}
    (hrun : classifyBurst (fun family => firstMatch family.defs)
      rules.classifier fuel stack pktsBurst = some (ret, classifications)) :
    ret = 0 := by
  simp only [classifyBurst, Option.bind_eq_bind, Option.bind_eq_some_iff]
    at hrun
  obtain ⟨_, _, ⟨ret4, _⟩, hipv4, hrun⟩ := hrun
  have hzero : ret4 = 0 := classifyFamily_firstMatch hipv4
  rw [if_neg (not_not.mpr hzero)] at hrun
  exact classifyFamily_firstMatch hrun

/-- The sample packet with a port that no bind has. -/
def unboundPacket : Bytes := samplePacket.set 37 81

theorem unboundPacket_plain : PlainPacket .ipv4 unboundPacket where
  hether := by decide
  htransport := ⟨by decide, by decide, by decide⟩

theorem samplePacket_served : ServedBy threeFile .ipv4 samplePacket 0 :=
  ⟨sampleFwdBind, threeFile_hasBind, by decide, by decide, by decide,
    by decide, by decide⟩

theorem unboundPacket_not_served {family : IpFamily} {t : ℕ} :
    ¬ ServedBy threeFile family unboundPacket t := by
  rintro ⟨bind, hheld, hfamily, _, _, hport⟩
  obtain rfl := (threeFile_binds hheld).2
  obtain rfl : family = .ipv4 := hfamily.symm.trans (by decide)
  exact absurd hport.2 (by decide)

theorem directors_forward_alike_threeFile :
    ∃ maps rules sent frame,
      reloadForwardingTable threeFile (syncConfigMap migratingXdp
        freshMaps) = .ok maps ∧
      createBindClassifier true threeFile = some rules ∧
      workerBurst ⟨fun _ => 0, fun _ => 0⟩
        (migratingXdp.director migratingDirector.localEtherAddr) threeFile
        (fun family => firstMatch family.defs) rules
        ⟨garbageBurst, garbageBurst, fun _ => 5⟩
        [⟨samplePacket, [1]⟩, ⟨unboundPacket, []⟩] =
          some [.encapsulated sent, .kni] ∧
      xdpGlbDirectorProcess maps samplePacket = .tx frame ∧
      xdpGlbDirectorProcess maps unboundPacket = .pass ∧
      clearChecksums (sent.drop ethernetHdrSize) =
        clearChecksums (frame.drop ethernetHdrSize) := by
  obtain ⟨maps, hload⟩ := threeRoot_loads
  have hhashes : migratingXdp.Hashes :=
    ⟨rfl, fun alt halt => by cases halt; rfl⟩
  have hplain : ∀ mbuf ∈ [(⟨samplePacket, [1]⟩ : Mbuf), ⟨unboundPacket, []⟩],
      ∃ family, PlainPacket family mbuf.packet := by
    intro mbuf hmem
    rcases List.mem_pair.mp hmem with rfl | rfl
    · exact ⟨.ipv4, samplePacket_plain⟩
    · exact ⟨.ipv4, unboundPacket_plain⟩
  obtain ⟨rules, ret, _, results, hrules, hrun, hworker, _, hsame⟩ :=
    directors_forward_alike ⟨fun _ => 0, fun _ => 0⟩ hhashes
      migratingDirector.localEtherAddr hload threeFile_oneTableEach
      (fun family => firstMatch family.defs) true
      ⟨garbageBurst, garbageBurst, fun _ => 5⟩ (by decide) hplain
  cases hsame (classifyBurst_firstMatch hrun) with
  | cons hfirst hrest =>
      obtain ⟨family, hfamily, hfirst⟩ := hfirst
      obtain rfl : family = .ipv4 := hfamily.family_eq samplePacket_plain
      obtain ⟨sent, frame, rfl, hframe, hbytes⟩ :=
        hfirst.of_served samplePacket_served
      cases hrest with
      | cons hsecond hrest =>
          obtain ⟨_, _, hsecond⟩ := hsecond
          obtain ⟨rfl, hpass⟩ := hsecond.of_not_served
            fun _ => unboundPacket_not_served
          cases hrest
          exact ⟨maps, rules, sent, frame, hload, hrules, hworker, hframe,
            hpass, hbytes⟩

end GlbDirector
