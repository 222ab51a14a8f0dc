import GlbDirector.RedirectChain
import GlbDirector.XdpLoading

/-!
# The two directors send the same packets

The DPDK director routes from the loaded file and copies the hop list; the
XDP program routes from the maps and stores the hops one by one.  On the same
file and the same configuration both emit the frame of one route, and only the
checksums of the outer headers tell them apart.
-/

namespace GlbDirector

open ByteCodec

/-! ## One configuration for both directors -/

/-- What the DPDK director reads from the same configuration file; its own
MAC address comes from the port. -/
def XdpConfig.director (config : XdpConfig) (localEtherAddr : ByteVec 6) :
    DirectorConfig where
  localEtherAddr := localEtherAddr
  gatewayEtherAddr := config.outboundGatewayMac
  localIpAddr := wordU32 config.outboundSourceIp.val
  hashFields := config.hashFields.getD defaultHashFields
  useAltHashFields := config.altHashFields.isSome
  altHashFields := config.altHashFields.getD noHashFields

/-- Every set of hash fields that is used selects a field. -/
structure XdpConfig.Hashes (config : XdpConfig) : Prop where
  hashFields : (config.hashFields.getD defaultHashFields).any = true
  altHashFields : ∀ alt, config.altHashFields = some alt → alt.any = true

theorem readHashFields_hashFieldsBytes (fields : HashFields) :
    readHashFields (hashFieldsBytes fields) = fields := by
  obtain ⟨srcAddr, dstAddr, srcPort, dstPort⟩ := fields
  cases srcAddr <;> cases dstAddr <;> cases srcPort <;> cases dstPort <;> rfl

section ConfigBits

variable (config : XdpConfig) (earlier : XdpMaps)

theorem configBits_gateway :
    (syncConfigMap config earlier).configBits 0 =
      config.outboundGatewayMac.val := rfl

theorem configBits_source :
    fieldU32 0 ((syncConfigMap config earlier).configBits 1) =
      wordU32 config.outboundSourceIp.val := by
  change wordU32 ((config.outboundSourceIp.val ++
    config.outboundGatewayMac.val.drop 4).take 4) = _
  rw [List.take_left' config.outboundSourceIp.2]

theorem configBits_hashFields :
    readHashFields ((syncConfigMap config earlier).configBits 3) =
      config.hashFields.getD defaultHashFields :=
  readHashFields_hashFieldsBytes _

theorem configBits_altHashFields :
    readHashFields ((syncConfigMap config earlier).configBits 4) =
      config.altHashFields.getD noHashFields :=
  readHashFields_hashFieldsBytes _

end ConfigBits

/-! ## The same route -/

theorem LoadedTable.addPacketRoute {raw : Bytes} {maps : XdpMaps} {table : ℕ}
    (loaded : LoadedTable raw maps table) (ctx : RouteContext)
    (hfamily : FamilyFields ctx.fields) {cfg : HashFields}
    (hany : cfg.any = true) (hroom : ctx.ipv4Hops.length + 2 ≤ glbMaxHops) :
    ∃ row, xdpRow loaded.rows
        (glbComputeHash .xdp ctx.fields loaded.secret cfg) = some row ∧
      glbAddPacketRoute raw table ctx cfg = .ok { ctx with
        pktHash := if ctx.ipv4Hops.length = 0 then
            glbComputeHash .xdp ctx.fields loaded.secret cfg
          else ctx.pktHash
        ipv4Hops := ctx.ipv4Hops ++ [row.1, row.2] } := by
  have hhash := glbComputeHash_dpdk hfamily hany loaded.secret
  obtain ⟨row, hrow, ⟨expanded⟩⟩ := loadRows_getElem? loaded.hrows
    (hashIdx_lt .xdp ctx.fields loaded.secret cfg)
  have hentry : tableEntry raw table
      (hashIdx .dpdk ctx.fields loaded.secret cfg) =
        some expanded.entry := by
    rw [hashIdx, hhash]
    exact expanded.hentry
  refine ⟨row, hrow, glbAddPacketRoute_eq_ok_iff.mpr
    ⟨⟨loaded.secret, expanded.entry, expanded.primary, expanded.secondary,
      loaded.hsecret, hentry, hroom, expanded.hprimary,
      expanded.hsecondary, ?_⟩⟩⟩
  have hfirst := congrArg Prod.fst expanded.hrow
  have hsecond := congrArg Prod.snd expanded.hrow
  rw [hhash, hfirst, hsecond]

theorem alt_any (alt : HashFields) :
    (alt.dstAddr || alt.dstPort || alt.srcAddr || alt.srcPort) = alt.any := by
  obtain ⟨srcAddr, dstAddr, srcPort, dstPort⟩ := alt
  cases srcAddr <;> cases dstAddr <;> cases srcPort <;> cases dstPort <;> rfl

section Route

variable {config : XdpConfig} {earlier maps : XdpMaps} {raw : Bytes}
variable {table : ℕ} {packet : Bytes} {fields : PacketFields}

theorem xdpRoute_eq_calculatePacketRoute (localEtherAddr : ByteVec 6)
    (hhashes : config.Hashes)
    (hbits : maps.configBits = (syncConfigMap config earlier).configBits)
    (loaded : LoadedTable raw maps table) (hsmall : table < 2 ^ 32)
    (hparsed : glbExtractPacketFields .xdp packet = some fields) :
    ∃ ctx, xdpRoute maps fields (UInt32.ofNat table) = some ctx ∧
      glbCalculatePacketRoute (config.director localEtherAddr) raw table
        packet = .ok ctx := by
  have hfamily := glbExtractPacketFields_family hparsed
  have hdpdk : glbExtractPacketFields .dpdk packet = some fields := by
    rw [glbExtractPacketFields_dpdk, hparsed]
  have hid : (UInt32.ofNat table).toNat = table :=
    UInt32.toNat_ofNat_of_lt' hsmall
  have hnone : ([] : List UInt32).length + 2 ≤ glbMaxHops := by decide
  obtain ⟨row, hrow, hfirst⟩ := loaded.addPacketRoute
    { fields, ipv4Hops := [], pktHash := 0 } hfamily hhashes.hashFields hnone
  unfold xdpRoute
  rw [hid, loaded.htable, loaded.htableSecret, hbits,
    configBits_hashFields, configBits_altHashFields]
  simp only [Option.bind_eq_bind, Option.bind_some, hrow, alt_any]
  cases halt : config.altHashFields with
  | none =>
      refine ⟨_, rfl, glbCalculatePacketRoute_eq_ok_iff.mpr
        ⟨fields, _, hdpdk, hfirst, ?_⟩⟩
      have huse : (config.director localEtherAddr).useAltHashFields =
          false := by
        rw [XdpConfig.director, halt]
        rfl
      rw [huse, if_neg Bool.false_ne_true]
      rfl
  | some alt =>
      have hany := hhashes.altHashFields alt halt
      have hpair : [row.1, row.2].length + 2 ≤ glbMaxHops := by rfl
      obtain ⟨row', hrow', hsecond⟩ := loaded.addPacketRoute
        { fields, ipv4Hops := [row.1, row.2]
          pktHash := glbComputeHash .xdp fields loaded.secret
            (config.hashFields.getD defaultHashFields) }
        hfamily hany hpair
      rw [Option.getD_some, if_pos hany, hrow']
      refine ⟨_, rfl, glbCalculatePacketRoute_eq_ok_iff.mpr
        ⟨fields, _, hdpdk, hfirst, ?_⟩⟩
      have huse : (config.director localEtherAddr).useAltHashFields =
          true := by
        rw [XdpConfig.director, halt]
        rfl
      have hfields : (config.director localEtherAddr).altHashFields =
          alt := by
        rw [XdpConfig.director, halt]
        rfl
      rw [huse, if_pos rfl, hfields]
      exact hsecond

end Route

/-! ## The same frame -/

theorem exists_split {front middle : ℕ} {data : Bytes}
    (hlong : front + middle ≤ data.length) :
    ∃ a b, data = a ++ (b ++ data.drop (front + middle)) ∧
      a.length = front ∧ b.length = middle := by
  refine ⟨data.take front, (data.drop front).take middle, ?_, ?_, ?_⟩
  · rw [← List.drop_drop, List.take_append_drop, List.take_append_drop]
  · rw [List.length_take]
    omega
  · rw [List.length_take, List.length_drop]
    omega

section Stores

variable {ctx : RouteContext}

theorem storeHop_of_le {index : ℕ} {front old : Bytes} (back : Bytes)
    (hindex : index + 1 ≤ ctx.ipv4Hops.length - 1)
    (hfront : front.length = xdpHopsOffset + 4 * index)
    (hold : old.length = 4) :
    storeHop ctx (index + 1) (front ++ (old ++ back)) =
      front ++ (u32le (ctx.ipv4Hops.getD (index + 1) 0) ++ back) := by
  have hfits : xdpHopsOffset + 4 * (index + 1) ≤
      (front ++ (old ++ back)).length := by
    simp only [List.length_append]
    omega
  rw [storeHop, if_pos ⟨hindex, hfits⟩, Nat.add_sub_cancel]
  exact patch_middle back hfront (by rw [u32le_length, hold])

theorem storeHop_of_gt {index : ℕ} (hindex : ctx.ipv4Hops.length - 1 < index)
    (data : Bytes) : storeHop ctx index data = data := by
  rw [storeHop, if_neg]
  omega

/-- The hop list after `k` stores. -/
def storedHops (ctx : RouteContext) (k : ℕ) : Bytes :=
  (((ctx.ipv4Hops.drop 1).take k).map u32le).flatten

theorem storedHops_length {k : ℕ} (hk : k ≤ ctx.ipv4Hops.length - 1) :
    (storedHops ctx k).length = 4 * k := by
  rw [storedHops, flatten_map_length u32le_length, List.length_take,
    List.length_drop, min_eq_left hk]

theorem storedHops_succ {k : ℕ} (hk : k + 1 ≤ ctx.ipv4Hops.length - 1) :
    storedHops ctx (k + 1) =
      storedHops ctx k ++ u32le (ctx.ipv4Hops.getD (k + 1) 0) := by
  have hindex : k + 1 < ctx.ipv4Hops.length := by omega
  have hhop : (ctx.ipv4Hops.drop 1)[k]? =
      some (ctx.ipv4Hops.getD (k + 1) 0) := by
    rw [List.getElem?_drop, Nat.add_comm 1 k, List.getD_eq_getElem?_getD,
      List.getElem?_eq_getElem hindex]
    rfl
  rw [storedHops, List.take_add_one, hhop, List.map_append,
    List.flatten_append, storedHops]
  simp

theorem storedHops_of_ge {k : ℕ} (hk : ctx.ipv4Hops.length - 1 ≤ k) :
    storedHops ctx k = encapHops ctx := by
  rw [storedHops, List.take_of_length_le (by rw [List.length_drop]; exact hk),
    encapHops]

section

variable {header old : Bytes} (inner : Bytes)
variable (hheader : header.length = xdpHopsOffset)
variable (hold : old.length = 4 * (ctx.ipv4Hops.length - 1))

include hheader hold

theorem storeHop_step (k : ℕ) :
    storeHop ctx (k + 1)
        (header ++ (storedHops ctx k ++ (old.drop (4 * k) ++ inner))) =
      header ++ (storedHops ctx (k + 1) ++
        (old.drop (4 * (k + 1)) ++ inner)) := by
  by_cases hk : k + 1 ≤ ctx.ipv4Hops.length - 1
  · have hlength := storedHops_length (show k ≤ ctx.ipv4Hops.length - 1 by omega)
    have hword : old.drop (4 * k) =
        (old.drop (4 * k)).take 4 ++ old.drop (4 * (k + 1)) := by
      rw [Nat.mul_succ, ← List.drop_drop, List.take_append_drop]
    rw [hword, List.append_assoc, ← List.append_assoc header,
      storeHop_of_le _ hk, storedHops_succ hk]
    · simp only [List.append_assoc]
    · rw [List.length_append, hheader, hlength]
    · rw [List.length_take, List.length_drop]
      omega
  · have hdone : ctx.ipv4Hops.length - 1 ≤ k := by omega
    rw [storeHop_of_gt (by omega), storedHops_of_ge hdone,
      storedHops_of_ge (Nat.le_succ_of_le hdone),
      List.drop_eq_nil_of_le (by omega), List.drop_eq_nil_of_le (by omega)]

/-- The unrolled stores write what the DPDK director copies at once. -/
theorem storeHops_eq_encapHops (hhops : ctx.ipv4Hops.length ≤ glbMaxHops) :
    storeHop ctx 3 (storeHop ctx 2 (storeHop ctx 1
        (header ++ (old ++ inner)))) =
      header ++ (encapHops ctx ++ inner) := by
  have hdone : ctx.ipv4Hops.length - 1 ≤ 3 := by
    rw [glbMaxHops] at hhops
    omega
  have hstart : header ++ (old ++ inner) =
      header ++ (storedHops ctx 0 ++ (old.drop (4 * 0) ++ inner)) := by
    simp [storedHops]
  rw [hstart, storeHop_step inner hheader hold 0,
    storeHop_step inner hheader hold 1, storeHop_step inner hheader hold 2,
    storedHops_of_ge hdone, List.drop_eq_nil_of_le (by omega),
    List.nil_append]

end

end Stores

section Frame

variable {maps : XdpMaps} {ctx : RouteContext}

theorem xdpHeader_length (hgateway : (maps.configBits 0).length = 6)
    (horig : ctx.fields.origDstMac.length = 6) :
    (xdpHeader maps ctx).length = xdpHopsOffset := by
  simp [xdpHeader, xdpEthernet, xdpIpv4, xdpUdp, xdpGue, hgateway, horig,
    xdpHopsOffset, ethernetHdrSize, ipv4HdrSize, udpHdrSize, gueHdrSize]

theorem xdpIpv4_eq {config : DirectorConfig}
    (hsource : fieldU32 0 (maps.configBits 1) = config.localIpAddr)
    (checksum : UInt16) :
    xdpIpv4 maps ctx checksum = encapIpHead ctx checksum ++
      (u32le config.localIpAddr ++ u32le (ctx.ipv4Hops.getD 0 0)) := by
  rw [xdpIpv4, hsource]
  simp [encapIpHead, outerTotalLength]

theorem xdpUdp_eq : xdpUdp ctx = encapUdp ctx := rfl

theorem xdpGue_eq : xdpGue ctx = encapGue ctx := rfl

theorem xdpHeader_frame {config : DirectorConfig}
    (hsource : fieldU32 0 (maps.configBits 1) = config.localIpAddr)
    (hhops : ctx.ipv4Hops.length ≤ glbMaxHops) (inner : Bytes) :
    xdpHeader maps ctx ++ (encapHops ctx ++ inner) =
      xdpEthernet maps ctx ++ (directorFrame config ctx hhops
        (computeIpv4Checksum (xdpIpv4 maps ctx 0)) 0 inner).bytes := by
  generalize hcheck : computeIpv4Checksum (xdpIpv4 maps ctx 0) = checksum
  rw [xdpHeader, hcheck, xdpIpv4_eq hsource, xdpUdp_eq, xdpGue_eq,
    directorFrame_parts, ← encapUdp_eq]
  simp only [List.append_assoc]

variable {config : DirectorConfig}
variable (hgateway : (maps.configBits 0).length = 6)
variable (hsource : fieldU32 0 (maps.configBits 1) = config.localIpAddr)
variable (horig : ctx.fields.origDstMac.length = 6)
variable (hhops : ctx.ipv4Hops.length ≤ glbMaxHops)

include hgateway hsource horig

theorem xdpGlbEncapsulatePacket_frame {data : Bytes}
    (hlong : routeContextEncapSize ctx ≤ data.length) :
    ∃ ipCheck, xdpGlbEncapsulatePacket maps ctx data =
      .tx (xdpEthernet maps ctx ++ (directorFrame config ctx hhops ipCheck 0
        (data.drop (routeContextEncapSize ctx))).bytes) := by
  have hheader := xdpHeader_length hgateway horig
  have hguard : xdpHopsOffset + 4 * (ctx.ipv4Hops.length - 1) ≤
      data.length := hlong
  obtain ⟨old, oldHops, hdata, hold, holdHops⟩ := exists_split hguard
  refine ⟨computeIpv4Checksum (xdpIpv4 maps ctx 0), ?_⟩
  rw [xdpGlbEncapsulatePacket, if_neg (not_lt.mpr hguard),
    ← xdpHeader_frame hsource hhops,
    ← storeHops_eq_encapHops _ hheader holdHops hhops,
    ← patch_room _ (hheader.trans hold.symm)]
  exact congrArg (fun data' => XdpAction.tx (storeHop ctx 3 (storeHop ctx 2
    (storeHop ctx 1 (patch 0 (xdpHeader maps ctx) data'))))) hdata

theorem xdpSend_frame {packet : Bytes}
    (hpacket : ethernetHdrSize ≤ packet.length) :
    ∃ ipCheck, xdpSend maps ctx packet =
      .tx (xdpEthernet maps ctx ++ (directorFrame config ctx hhops ipCheck 0
        (packet.drop ethernetHdrSize)).bytes) := by
  let room := List.replicate (routeContextEncapSize ctx - ethernetHdrSize)
    (0 : UInt8)
  have hroom : room.length + ethernetHdrSize =
      routeContextEncapSize ctx := by
    rw [List.length_replicate, routeContextEncapSize]
    omega
  have hlong : routeContextEncapSize ctx ≤ (room ++ packet).length := by
    rw [List.length_append]
    omega
  obtain ⟨ipCheck, hframe⟩ := xdpGlbEncapsulatePacket_frame hgateway hsource
    horig hhops hlong
  refine ⟨ipCheck, (if_neg (not_lt.mpr hlong)).trans (hframe.trans ?_)⟩
  rw [← hroom, List.drop_length_add_append]

end Frame

/-! ## A built file loads -/

/-- The entries of `glb_binds` that the binds of a table ask for. -/
def TableInput.bindUse (input : TableInput) : ℕ :=
  (input.binds.used.map fun bind => GlbDirector.bindUse bind.entry.view).sum

theorem sum_range_eq_sum_map {α : Type} {l : List α} {cost : α → ℕ}
    {f : ℕ → ℕ} (hf : ∀ i a, l[i]? = some a → f i = cost a) :
    ∑ i ∈ Finset.range l.length, f i = (l.map cost).sum := by
  induction l generalizing f with
  | nil => rfl
  | cons a l ih =>
      rw [List.length_cons, Finset.sum_range_succ', List.map_cons,
        List.sum_cons, hf 0 a rfl, ih fun i b hb => hf (i + 1) b hb,
        Nat.add_comm]

theorem binds_used_length {input : TableInput} (hlimits : input.InLimits) :
    input.binds.used.length = input.binds.count.toNat := by
  rw [input.binds.used_length]
  exact min_eq_right hlimits.2.2

section Built

variable {garbage : StackGarbage} {sort : BackendSort}
  {inputs : List TableInput} {t : ℕ} {input : TableInput}
  (hinput : inputs[t]? = some input)

include hinput

theorem tableBind_builtFile {b : ℕ} {bind : LoadedBind}
    (hbind : input.binds.used[b]? = some bind) :
    tableBind (builtFile garbage sort inputs) t b = some bind.entry.view :=
  tableBind_configFile _ (builtFile_image garbage sort hinput)
    (outBinds_getElem? hbind)

theorem tableUse_builtFile (hlimits : input.InLimits) :
    tableUse (builtFile garbage sort inputs) t = input.bindUse := by
  rw [tableUse, tableNumBinds_builtFile hinput, Option.map_some,
    Option.getD_some, ← binds_used_length hlimits]
  apply sum_range_eq_sum_map
  intro b bind hbind
  rw [bindUseAt, tableBind_builtFile hinput hbind]
  rfl

theorem builtFile_row_inRange (hlimits : input.InLimits)
    (htwo : 2 ≤ input.available.length) {e : ℕ} (he : e < glbFmtTableEntries)
    {entry : FwdEntry}
    (hentry : tableEntry (builtFile garbage sort inputs) t e = some entry) :
    entry.primary.toNat < glbFmtMaxNumBackends ∧
      entry.secondary.toNat < glbFmtMaxNumBackends := by
  obtain ⟨entry', numBackends, hentry', hnum, _, hprimary, hsecondary, _⟩ :=
    rowValid_of_two_available garbage sort hinput he htwo
  obtain rfl := Option.some.inj (hentry.symm.trans hentry')
  rw [tableNumBackends_builtFile hinput] at hnum
  obtain rfl := Option.some.inj hnum
  exact ⟨lt_of_lt_of_le hprimary hlimits.1.2,
    lt_of_lt_of_le hsecondary hlimits.1.2⟩

end Built

theorem builtFile_loadable (garbage : StackGarbage) (sort : BackendSort)
    {inputs : List TableInput} (hsome : 1 ≤ inputs.length)
    (hcount : inputs.length ≤ glbTablesMaxEntries)
    (hlimits : ∀ input ∈ inputs, input.InLimits)
    (htwo : ∀ input ∈ inputs, 2 ≤ input.available.length)
    (hports : ∀ input ∈ inputs, ∀ bind ∈ input.binds.used,
      bind.portEnd ≠ 0xffff)
    (hfits : (inputs.map TableInput.bindUse).sum ≤ bpfMaxBinds) :
    Loadable (builtFile garbage sort inputs)
      (UInt32.ofNat inputs.length) := by
  have hsmall : inputs.length < 2 ^ 32 := lt_of_le_of_lt hcount (by decide)
  have hnum : (UInt32.ofNat inputs.length).toNat = inputs.length :=
    UInt32.toNat_ofNat_of_lt' hsmall
  have hinput : ∀ t < inputs.length, ∃ input, inputs[t]? = some input ∧
      input ∈ inputs := fun t ht =>
    ⟨inputs[t], List.getElem?_eq_getElem ht, List.getElem_mem ht⟩
  refine ⟨(checkConfig_builtFile_iff garbage sort inputs).mpr
    ⟨hsome, hsmall, hlimits⟩, numTables_configFile _ _, ?_, ?_, ?_, ?_⟩
  · rw [hnum]
    exact hcount
  · intro t ht e he entry hentry
    obtain ⟨input, hget, hmem⟩ := hinput t (hnum ▸ ht)
    exact builtFile_row_inRange hget (hlimits input hmem)
      (htwo input hmem) he hentry
  · intro t ht numBinds hnumBinds b hb bind hbind
    obtain ⟨input, hget, hmem⟩ := hinput t (hnum ▸ ht)
    rw [tableNumBinds_builtFile hget] at hnumBinds
    obtain rfl := Option.some.inj hnumBinds
    rw [← binds_used_length (hlimits input hmem)] at hb
    rw [tableBind_builtFile hget (List.getElem?_eq_getElem hb)] at hbind
    obtain rfl := Option.some.inj hbind
    exact hports input hmem _ (List.getElem_mem hb)
  · rw [hnum, sum_range_eq_sum_map]
    · exact hfits
    · intro t input hget
      exact tableUse_builtFile hget
        (hlimits input (List.mem_of_getElem? hget))

/-! ## The same packet -/

/-- The outer packet with the IPv4 and the UDP checksum blanked. -/
def clearChecksums (outer : Bytes) : Bytes :=
  patch (ipv4HdrSize + 6) (u16le 0) (patch 10 (u16le 0) outer)

theorem clearChecksums_frame (config : DirectorConfig) (ctx : RouteContext)
    (hhops : ctx.ipv4Hops.length ≤ glbMaxHops) (ipCheck udpCheck : UInt16)
    (inner : Bytes) :
    clearChecksums
        (directorFrame config ctx hhops ipCheck udpCheck inner).bytes =
      (directorFrame config ctx hhops 0 0 inner).bytes := by
  rw [clearChecksums, patch_ipCheck, patch_udpCheck]

theorem xdpEthernet_length {maps : XdpMaps} {ctx : RouteContext}
    (hgateway : (maps.configBits 0).length = 6)
    (horig : ctx.fields.origDstMac.length = 6) :
    (xdpEthernet maps ctx).length = ethernetHdrSize := by
  simp [xdpEthernet, hgateway, horig, ethernetHdrSize]

/-- On maps loaded from a file the XDP program sends, behind the Ethernet
header, what the DPDK director sends for that file and table. -/
theorem xdp_dpdk_same_encapsulation (rte : RteChecksums)
    {config : XdpConfig} (hhashes : config.Hashes)
    (localEtherAddr : ByteVec 6) {raw : Bytes} {earlier maps : XdpMaps}
    (hload : reloadForwardingTable raw (syncConfigMap config earlier) =
      .ok maps)
    {num : UInt32} (hnum : numTables raw = some num) {table : ℕ}
    (htable : table < num.toNat) {packet : Bytes} {fields : PacketFields}
    (hparsed : glbExtractPacketFields .xdp packet = some fields) :
    ∃ sent frame,
      glbEncapsulatePacketDpdk rte (config.director localEtherAddr) raw
        packet table = .ok sent ∧
      xdpProcessTable maps packet fields (UInt32.ofNat table) = .tx frame ∧
      (lookupBind maps.glbBinds (packetBind fields) =
          some (UInt32.ofNat table) →
        xdpGlbDirectorProcess maps packet = .tx frame) ∧
      clearChecksums (sent.drop ethernetHdrSize) =
        clearChecksums (frame.drop ethernetHdrSize) := by
  obtain ⟨hbits, hloaded⟩ := reloadForwardingTable_loaded hload hnum
  obtain ⟨loaded⟩ := hloaded table htable
  have hsmall : table < 2 ^ 32 := htable.trans num.toNat_lt
  obtain ⟨ctx, hxdp, hdpdk⟩ := xdpRoute_eq_calculatePacketRoute
    localEtherAddr hhashes hbits loaded hsmall hparsed
  have hhops := route_hops_le hdpdk
  obtain ⟨hlength, _, horigEq⟩ :=
    glbExtractPacketFields_etherType (route_spec hdpdk).1
  have horig : ctx.fields.origDstMac.length = 6 := by
    rw [horigEq]
    exact fieldBytes_length rfl (le_trans (by decide) hlength)
  have hgateway : (maps.configBits 0).length = 6 := by
    rw [hbits, configBits_gateway]
    exact config.outboundGatewayMac.2
  have hsource : fieldU32 0 (maps.configBits 1) =
      (config.director localEtherAddr).localIpAddr := by
    rw [hbits, configBits_source]
    rfl
  obtain ⟨ipCheck, udpCheck, hsent⟩ :=
    glbEncapsulatePacketDpdk_of_route rte hnum htable hdpdk
  obtain ⟨ipCheck', hframe⟩ :=
    xdpSend_frame hgateway hsource horig hhops hlength
  have hprocess : xdpProcessTable maps packet fields (UInt32.ofNat table) =
      xdpSend maps ctx packet := by
    rw [xdpProcessTable, hxdp]
  refine ⟨_, _, hsent, hprocess.trans hframe, ?_, ?_⟩
  · intro hbind
    rw [xdpGlbDirectorProcess, hparsed]
    simp only [hbind]
    exact hprocess.trans hframe
  · rw [drop_encapEthernet,
      List.drop_left' (xdpEthernet_length hgateway horig),
      clearChecksums_frame, clearChecksums_frame]

/-- The configuration of `migratingDirector`. -/
def migratingXdp : XdpConfig where
  outboundGatewayMac := sampleDirector.gatewayEtherAddr
  outboundSourceIp := ⟨[10, 0, 0, 100], rfl⟩
  forwardIcmpPingResponses := false
  hashFields := none
  altHashFields := some ⟨true, false, true, false⟩

theorem threeRoot_loads :
    ∃ maps, reloadForwardingTable (builtFile zeroGarbage mergeSortByHash
      [sampleInput threeSlots]) (syncConfigMap migratingXdp freshMaps) =
        .ok maps := by
  have hcount : [sampleInput threeSlots].length ≤ glbTablesMaxEntries := by
    decide
  refine (builtFile_loadable zeroGarbage mergeSortByHash (by decide) hcount
    ?_ ?_ ?_ (by decide)).reloadForwardingTable_ok rfl
  · intro input hmem
    rw [List.mem_singleton.mp hmem]
    exact ⟨by decide, by decide⟩
  · intro input hmem
    rw [List.mem_singleton.mp hmem]
    decide
  · intro input hmem bind hbind
    rw [List.mem_singleton.mp hmem] at hbind
    rw [List.mem_singleton.mp hbind]
    decide

theorem xdp_dpdk_same_encapsulation_threeRoot :
    ∃ writes maps sent frame,
      buildConfig zeroGarbage mergeSortByHash threeRoot = .ok writes ∧
      reloadForwardingTable (fileOf writes)
        (syncConfigMap migratingXdp freshMaps) = .ok maps ∧
      glbEncapsulatePacketDpdk ⟨fun _ => 0, fun _ => 0⟩ migratingDirector
        (fileOf writes) samplePacket 0 = .ok sent ∧
      xdpProcessTable maps samplePacket sampleFields 0 = .tx frame ∧
      clearChecksums (sent.drop ethernetHdrSize) =
        clearChecksums (frame.drop ethernetHdrSize) := by
  obtain ⟨writes, hbuild, hfile⟩ := buildConfig_of_inputs mergeSortByHash
    (buildInputs_threeRoot zeroGarbage)
  obtain ⟨maps, hload⟩ := threeRoot_loads
  have hhashes : migratingXdp.Hashes :=
    ⟨rfl, fun alt halt => by cases halt; rfl⟩
  have hparsed : glbExtractPacketFields .xdp samplePacket =
      some sampleFields := by
    rw [← glbExtractPacketFields_dpdk, glbExtractPacketFields_sample]
  obtain ⟨sent, frame, hsent, hframe, _, hsame⟩ :=
    xdp_dpdk_same_encapsulation ⟨fun _ => 0, fun _ => 0⟩ hhashes
      migratingDirector.localEtherAddr hload (numTables_configFile _ _)
      (show 0 < _ by decide) hparsed
  refine ⟨writes, maps, sent, frame, hbuild, ?_⟩
  rw [hfile]
  exact ⟨hload, hsent, hframe, hsame⟩

end GlbDirector
