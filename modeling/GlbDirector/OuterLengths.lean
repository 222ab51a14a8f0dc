import GlbDirector.FlowPackets
import GlbDirector.XdpEquivalence

/-!
# The lengths in the outer headers

Both directors add the sizes of their headers to the length that the inner IP
header claims, in 16 bits and without a look at the size of the packet.  The
outer lengths are right exactly when the sum fits and the packet has the
bytes it claims; a claim close to 65535 makes the outer total length wrap,
and below twenty the checksum routine is asked for almost 2^32 bytes.
-/

namespace GlbDirector

open ByteCodec ExceptLoops

/-! ## Lengths -/

/-- The length of the inner packet that its IP header claims. -/
def innerIpLength (packet : Bytes) : ℕ :=
  if ntohs (fieldU16 12 packet) = etherTypeIpv4 then
    (ntohs (fieldU16 (ethernetHdrSize + 2) packet)).toNat
  else ipv6HdrSize + (ntohs (fieldU16 (ethernetHdrSize + 4) packet)).toNat

def outerTotalLengthField (frame : Bytes) : UInt16 :=
  ntohs (fieldU16 (ethernetHdrSize + 2) frame)

def outerUdpLengthField (frame : Bytes) : UInt16 :=
  ntohs (fieldU16 (ethernetHdrSize + ipv4HdrSize + 4) frame)

/-- The bytes that `rte_ipv4_udptcp_cksum` adds up from the UDP header on. -/
def checksummedLength (frame : Bytes) : UInt32 :=
  (outerTotalLengthField frame).toUInt32 - UInt32.ofNat ipv4HdrSize

/-- A frame that one of the directors sends for a packet with a route.  The
values of `config_bits` are six bytes long. -/
inductive Emitted (packet : Bytes) (ctx : RouteContext) :
    Bytes → Prop where
  | dpdk {rte : RteChecksums} {config : DirectorConfig} {raw : Bytes}
      {table : ℕ} {frame : Bytes}
      (hroute : glbCalculatePacketRoute config raw table packet = .ok ctx)
      (hframe : glbEncapsulatePacketDpdk rte config raw packet table =
        .ok frame) : Emitted packet ctx frame
  | xdp {maps : XdpMaps} {fields : PacketFields} {tableId : UInt32}
      {frame : Bytes}
      (hbits : ∀ bit, (maps.configBits bit).length = 6)
      (hfields : glbExtractPacketFields .xdp packet = some fields)
      (hbind : lookupBind maps.glbBinds (packetBind fields) = some tableId)
      (hroute : xdpRoute maps fields tableId = some ctx)
      (hframe : xdpGlbDirectorProcess maps packet = .tx frame) :
      Emitted packet ctx frame

structure LengthsRight (packet frame : Bytes) (hops : ℕ) : Prop where
  hudp : (outerUdpLengthField frame).toNat =
    udpHdrSize + gueHdrSize + 4 * (hops - 1) + innerIpLength packet
  htotal : (outerTotalLengthField frame).toNat =
    ipv4HdrSize + udpHdrSize + gueHdrSize + 4 * (hops - 1) +
      innerIpLength packet
  hinside : (outerTotalLengthField frame).toNat ≤
    frame.length - ethernetHdrSize
  hchecksum : ethernetHdrSize + ipv4HdrSize +
    (checksummedLength frame).toNat ≤ frame.length

/-! ## The frames of both directors -/

theorem xdpRoute_spec {maps : XdpMaps} {fields : PacketFields}
    {tableId : UInt32} {ctx : RouteContext}
    (hroute : xdpRoute maps fields tableId = some ctx) :
    ctx.fields = fields ∧ 1 ≤ ctx.ipv4Hops.length ∧
      ctx.ipv4Hops.length ≤ glbMaxHops := by
  simp only [xdpRoute, Option.bind_eq_bind, Option.bind_eq_some_iff] at hroute
  obtain ⟨_, _, _, _, row, _, hroute⟩ := hroute
  split at hroute
  · simp only [Option.bind_eq_some_iff] at hroute
    obtain ⟨alt, _, hctx⟩ := hroute
    obtain rfl := Option.some.inj hctx
    exact ⟨rfl, by simp, by simp [glbMaxHops]⟩
  · obtain rfl := Option.some.inj hroute
    exact ⟨rfl, by simp, by simp [glbMaxHops]⟩

/-- The parser keeps sixteen bits of the claimed length. -/
theorem ipTotalLength_toNat {build : ParserBuild} {packet : Bytes}
    {fields : PacketFields}
    (hextract : glbExtractPacketFields build packet = some fields) :
    fields.ipTotalLength.toNat = innerIpLength packet % 2 ^ 16 := by
  obtain ⟨family, rfl, hether, _⟩ := glbExtractPacketFields_eq_some hextract
  cases family with
  | ipv4 =>
      have hipv4 : ntohs (fieldU16 12 packet) = etherTypeIpv4 := hether
      rw [innerIpLength, if_pos hipv4]
      exact (Nat.mod_eq_of_lt (UInt16.toNat_lt _)).symm
  | ipv6 =>
      have hipv6 : ntohs (fieldU16 12 packet) = etherTypeIpv6 := hether
      rw [innerIpLength, if_neg (by rw [hipv6]; decide)]
      show (UInt16.ofNat ipv6HdrSize +
        ntohs (fieldU16 (ethernetHdrSize + 4) packet)).toNat = _
      rw [UInt16.toNat_add]
      rfl

/-- What a frame consists of, whichever director sends it. -/
structure FrameOf (packet : Bytes) (ctx : RouteContext) (frame : Bytes) :
    Prop where
  hhops : 1 ≤ ctx.ipv4Hops.length
  hlength : ethernetHdrSize ≤ packet.length
  hclaimed : ctx.fields.ipTotalLength.toNat = innerIpLength packet % 2 ^ 16
  hframe : ∃ ethernet ipHead udpHead rest : Bytes,
    ethernet.length = ethernetHdrSize ∧ ipHead.length = 16 ∧
    udpHead.length = 4 ∧
    rest.length = 2 + gueHdrSize + 4 * (ctx.ipv4Hops.length - 1) +
      (packet.length - ethernetHdrSize) ∧
    frame = ethernet ++ ([0x45, 0] ++ (u16le (htons (outerTotalLength ctx)) ++
      (ipHead ++ (udpHead ++ (u16le (htons (outerUdpLength ctx)) ++ rest)))))

theorem directorFrame_bytes (config : DirectorConfig) (ctx : RouteContext)
    (hhops : ctx.ipv4Hops.length ≤ glbMaxHops) (ipCheck udpCheck : UInt16)
    (inner : Bytes) :
    ∃ ipHead udpHead rest : Bytes, ipHead.length = 16 ∧ udpHead.length = 4 ∧
      rest.length = 2 + gueHdrSize + 4 * (ctx.ipv4Hops.length - 1) +
        inner.length ∧
      (directorFrame config ctx hhops ipCheck udpCheck inner).bytes =
        [0x45, 0] ++ (u16le (htons (outerTotalLength ctx)) ++ (ipHead ++
          (udpHead ++ (u16le (htons (outerUdpLength ctx)) ++ rest)))) := by
  refine ⟨u16le 0 ++ (u16le (htons 0x4000) ++ ([64, ipProtoUdp] ++
      (u16le ipCheck ++ (u32le config.localIpAddr ++
        u32le (ctx.ipv4Hops.getD 0 0))))),
    u16le (htons (outerSrcPort ctx)) ++ u16le (htons directorGuePort),
    u16le udpCheck ++ (encapGue ctx ++ (encapHops ctx ++ inner)), by simp,
    by simp, ?_, ?_⟩
  · simp only [List.length_append, encapGue, encapHops, u16le_length,
      flatten_map_length u32le_length, List.length_drop, gueHdrSize,
      List.length_cons, List.length_nil]
    omega
  · rw [directorFrame_parts, encapIpHead, encapUdpHead]
    simp only [List.append_assoc]

theorem glbEncapsulatePacketDpdk_table {rte : RteChecksums}
    {config : DirectorConfig} {raw packet frame : Bytes} {table : ℕ}
    (hframe : glbEncapsulatePacketDpdk rte config raw packet table =
      .ok frame) :
    ∃ num, numTables raw = some num ∧ table < num.toNat := by
  obtain ⟨num, hnum, hrest⟩ := bind_eq_ok_iff.mp hframe
  refine ⟨num, orFail_eq_ok_iff.mp hnum, ?_⟩
  split at hrest
  · cases hrest
  · rename_i htable
    exact Nat.lt_of_not_le htable

theorem Emitted.frameOf {packet : Bytes} {ctx : RouteContext} {frame : Bytes}
    (hemitted : Emitted packet ctx frame) : FrameOf packet ctx frame := by
  cases hemitted with
  | dpdk hroute hframe =>
      rename_i rte config raw table
      obtain ⟨num, hnum, htable⟩ := glbEncapsulatePacketDpdk_table hframe
      obtain ⟨hfields, hhops⟩ := route_spec hroute
      obtain ⟨ipCheck, udpCheck, hsent⟩ :=
        glbEncapsulatePacketDpdk_of_route rte hnum htable hroute
      obtain rfl := Except.ok.inj (hframe.symm.trans hsent)
      obtain ⟨ipHead, udpHead, rest, hipHead, hudpHead, hrest, hbytes⟩ :=
        directorFrame_bytes config ctx (route_hops_le hroute) ipCheck udpCheck
          (packet.drop ethernetHdrSize)
      rw [List.length_drop] at hrest
      refine ⟨?_, (glbExtractPacketFields_etherType hfields).1,
        ipTotalLength_toNat hfields, _, ipHead, udpHead, rest,
        encapEthernet_length config, hipHead, hudpHead, hrest, ?_⟩
      · rw [hhops]
        split <;> decide
      · rw [hbytes]
  | xdp hbits hfields hbind hroute hframe =>
      rename_i maps fields tableId
      obtain ⟨hctx, hsome, hhops⟩ := xdpRoute_spec hroute
      obtain ⟨hlength, _, horigEq⟩ := glbExtractPacketFields_etherType hfields
      have horig : ctx.fields.origDstMac.length = 6 := by
        rw [hctx, horigEq]
        exact fieldBytes_length rfl (le_trans (by decide) hlength)
      obtain ⟨ipCheck, hsent⟩ := xdpSend_frame (hbits 0)
        (show fieldU32 0 (maps.configBits 1) = ({ sampleDirector with
          localIpAddr := fieldU32 0 (maps.configBits 1) } :
            DirectorConfig).localIpAddr from rfl) horig hhops hlength
      rw [xdpGlbDirectorProcess, hfields] at hframe
      simp only [hbind, xdpProcessTable, hroute] at hframe
      obtain rfl := XdpAction.tx.inj (hframe.symm.trans hsent)
      obtain ⟨ipHead, udpHead, rest, hipHead, hudpHead, hrest, hbytes⟩ :=
        directorFrame_bytes { sampleDirector with
          localIpAddr := fieldU32 0 (maps.configBits 1) } ctx hhops ipCheck 0
          (packet.drop ethernetHdrSize)
      rw [List.length_drop] at hrest
      refine ⟨hsome, hlength, ?_, _, ipHead, udpHead, rest,
        xdpEthernet_length (hbits 0) horig, hipHead, hudpHead, hrest, ?_⟩
      · rw [hctx]
        exact ipTotalLength_toNat hfields
      · rw [hbytes]

section Frame

variable {packet : Bytes} {ctx : RouteContext} {frame : Bytes}

theorem FrameOf.totalLengthField (hof : FrameOf packet ctx frame) :
    outerTotalLengthField frame = outerTotalLength ctx := by
  obtain ⟨ethernet, ipHead, udpHead, rest, hethernet, _, _, _, rfl⟩ :=
    hof.hframe
  have hfront : (ethernet ++ [0x45, 0]).length = ethernetHdrSize + 2 := by
    rw [List.length_append, hethernet]
    rfl
  rw [outerTotalLengthField, ← List.append_assoc,
    GueFrame.fieldU16_last _ _ _ hfront]
  exact ntohs_ntohs _

theorem FrameOf.udpLengthField (hof : FrameOf packet ctx frame) :
    outerUdpLengthField frame = outerUdpLength ctx := by
  obtain ⟨ethernet, ipHead, udpHead, rest, hethernet, hipHead, hudpHead, _,
    rfl⟩ := hof.hframe
  have hfront : (ethernet ++ ([0x45, 0] ++ (u16le (htons
      (outerTotalLength ctx)) ++ (ipHead ++ udpHead)))).length =
        ethernetHdrSize + ipv4HdrSize + 4 := by
    simp only [List.length_append, hethernet, hipHead, hudpHead,
      u16le_length]
    rfl
  have hsplit : ethernet ++ ([0x45, 0] ++ (u16le (htons
      (outerTotalLength ctx)) ++ (ipHead ++ (udpHead ++ (u16le (htons
        (outerUdpLength ctx)) ++ rest))))) =
      (ethernet ++ ([0x45, 0] ++ (u16le (htons (outerTotalLength ctx)) ++
        (ipHead ++ udpHead)))) ++ (u16le (htons (outerUdpLength ctx)) ++
          rest) := by
    simp only [List.append_assoc]
  rw [outerUdpLengthField, hsplit, GueFrame.fieldU16_last _ _ _ hfront]
  exact ntohs_ntohs _

theorem FrameOf.frame_length (hof : FrameOf packet ctx frame) :
    frame.length = routeContextEncapSize ctx +
      (packet.length - ethernetHdrSize) := by
  obtain ⟨ethernet, ipHead, udpHead, rest, hethernet, hipHead, hudpHead,
    hrest, rfl⟩ := hof.hframe
  simp only [List.length_append, hethernet, hipHead, hudpHead, hrest,
    u16le_length, List.length_cons, List.length_nil, routeContextEncapSize,
    ipv4HdrSize, udpHdrSize]
  omega

/-- The total length that is written, as a number. -/
theorem FrameOf.totalLength_toNat (hof : FrameOf packet ctx frame) :
    (outerTotalLengthField frame).toNat =
      (ipv4HdrSize + udpHdrSize + gueHdrSize +
        4 * (ctx.ipv4Hops.length - 1) + innerIpLength packet) % 2 ^ 16 := by
  rw [hof.totalLengthField, outerTotalLength, UInt16.toNat_ofNat',
    hof.hclaimed, Nat.add_mod_mod]

theorem FrameOf.udpLength_toNat (hof : FrameOf packet ctx frame) :
    (outerUdpLengthField frame).toNat =
      (udpHdrSize + gueHdrSize + 4 * (ctx.ipv4Hops.length - 1) +
        innerIpLength packet) % 2 ^ 16 := by
  rw [hof.udpLengthField, outerUdpLength, UInt16.toNat_ofNat',
    hof.hclaimed, Nat.add_mod_mod]

end Frame

/-- A total length that has room for the header does not underflow. -/
theorem checksummedLength_toNat {frame : Bytes}
    (hheader : ipv4HdrSize ≤ (outerTotalLengthField frame).toNat) :
    (checksummedLength frame).toNat =
      (outerTotalLengthField frame).toNat - ipv4HdrSize := by
  have hle : UInt32.ofNat ipv4HdrSize ≤
      (outerTotalLengthField frame).toUInt32 := by
    rw [UInt32.le_iff_toNat_le]
    exact hheader
  rw [checksummedLength, UInt32.toNat_sub_of_le _ _ hle]
  rfl

theorem outer_lengths_iff
    {packet : Bytes}
    {ctx : RouteContext}
    {frame : Bytes}
    (hemitted : Emitted packet ctx frame) :
    LengthsRight packet frame ctx.ipv4Hops.length ↔
      ipv4HdrSize + udpHdrSize + gueHdrSize +
          4 * (ctx.ipv4Hops.length - 1) + innerIpLength packet < 2 ^ 16 ∧
        innerIpLength packet ≤ packet.length - ethernetHdrSize := by
  have hof := hemitted.frameOf
  have htotal := hof.totalLength_toNat
  have hudp := hof.udpLength_toNat
  have hlength := hof.frame_length
  rw [routeContextEncapSize] at hlength
  constructor
  · intro hright
    have hsmall := (outerTotalLengthField frame).toNat_lt
    have hunwrapped := hright.htotal
    have hinside := hright.hinside
    exact ⟨by omega, by omega⟩
  · rintro ⟨hfits, hclaimed⟩
    rw [Nat.mod_eq_of_lt hfits] at htotal
    rw [Nat.mod_eq_of_lt (by omega)] at hudp
    have hchecksummed := @checksummedLength_toNat frame (by omega)
    exact ⟨hudp, htotal, by omega, by omega⟩

/-! ## A packet that claims almost 65535 bytes -/

/-- The route of a packet through the sample file, with two hops. -/
theorem exists_emitted {packet : Bytes} {fields : PacketFields}
    (hfields : glbExtractPacketFields .dpdk packet = some fields) :
    ∃ ctx frame, Emitted packet ctx frame ∧ ctx.ipv4Hops.length = 2 := by
  have hinput : [sampleInput fillingSlots][0]? =
      some (sampleInput fillingSlots) := rfl
  obtain ⟨_, p, s, _, _, _, pktHash, hroute⟩ :=
    glbCalculatePacketRoute_builtFile zeroGarbage mergeSortByHash hinput
      (by decide) (show sampleDirector.useAltHashFields = false from rfl)
      hfields
  obtain ⟨_, _, hsent⟩ := glbEncapsulatePacketDpdk_of_route
    { ipv4UdptcpCksum := fun _ => 0, ipv4Cksum := fun _ => 0 }
    (numTables_configFile _ _) (by decide) hroute
  exact ⟨_, _, .dpdk hroute hsent, rfl⟩

theorem outer_lengths_iff_samplePacket :
    ∃ ctx frame, Emitted samplePacket ctx frame ∧
      LengthsRight samplePacket frame ctx.ipv4Hops.length := by
  obtain ⟨fields, hfields⟩ : ∃ fields,
      glbExtractPacketFields .dpdk samplePacket = some fields := ⟨_, rfl⟩
  obtain ⟨ctx, frame, hemitted, hhops⟩ := exists_emitted hfields
  refine ⟨ctx, frame, hemitted, (outer_lengths_iff hemitted).mpr ?_⟩
  rw [hhops]
  decide

/-- `samplePacket` with 65500 in the total length of its header. -/
def forgedPacket : Bytes :=
  patch (ethernetHdrSize + 2) [0xff, 0xdc] samplePacket

theorem forged_length_underflows :
    ∃ ctx frame, Emitted forgedPacket ctx frame ∧
      innerIpLength forgedPacket = 65500 ∧
      (outerTotalLengthField frame).toNat = 4 ∧
      (checksummedLength frame).toNat = 2 ^ 32 - 16 ∧
      ¬ LengthsRight forgedPacket frame ctx.ipv4Hops.length := by
  obtain ⟨fields, hfields⟩ : ∃ fields,
      glbExtractPacketFields .dpdk forgedPacket = some fields := ⟨_, rfl⟩
  obtain ⟨ctx, frame, hemitted, hhops⟩ := exists_emitted hfields
  have hclaimed : innerIpLength forgedPacket = 65500 := by decide
  have htotal : (outerTotalLengthField frame).toNat = 4 := by
    rw [hemitted.frameOf.totalLength_toNat, hhops, hclaimed]
    rfl
  have hfour : outerTotalLengthField frame = 4 := UInt16.toNat_inj.mp htotal
  refine ⟨ctx, frame, hemitted, hclaimed, htotal, ?_, ?_⟩
  · rw [checksummedLength, hfour]
    rfl
  · intro hright
    have hunwrapped := hright.htotal
    rw [htotal, hclaimed] at hunwrapped
    omega

end GlbDirector
