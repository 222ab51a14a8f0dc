import GlbDirector.BuiltRoutes
import GlbDirector.CheckedBuild
import GlbDirector.FallbackChain
import GlbDirector.GueFrame

/-!
# From the director through the proxies

What the director emits is a GUE frame, and each proxy the frame reaches
either keeps it or forwards it to the next hop.  A delivery is therefore a
walk along the hop list; the self-forward guard makes it the `accepting` walk
of `FallbackChain` rather than the walk to the first proxy that knows the flow.
-/

namespace GlbDirector

open ByteCodec FallbackChain

/-! ## Frames of the director -/

def encapIpHead (ctx : RouteContext) (ipCheck : UInt16) : Bytes :=
  [0x45, 0] ++ (u16le (htons (outerTotalLength ctx)) ++ (u16le 0 ++
    (u16le (htons 0x4000) ++ ([64, ipProtoUdp] ++ u16le ipCheck))))

def encapUdpHead (ctx : RouteContext) : Bytes :=
  u16le (htons (outerSrcPort ctx)) ++ (u16le (htons directorGuePort) ++
    u16le (htons (outerUdpLength ctx)))

theorem encapIpHead_length (ctx : RouteContext) (ipCheck : UInt16) :
    (encapIpHead ctx ipCheck).length = 12 := by
  simp [encapIpHead]

theorem encapUdpHead_length (ctx : RouteContext) :
    (encapUdpHead ctx).length = 6 := by
  simp [encapUdpHead]

theorem encapIpHead_ihl (ctx : RouteContext) (ipCheck : UInt16) :
    4 * (fieldU8 0 (encapIpHead ctx ipCheck) &&& 0x0f).toNat =
      ipv4HdrSize := by
  have hfirst : fieldU8 0 (encapIpHead ctx ipCheck) = 0x45 := rfl
  rw [hfirst]
  rfl

theorem encap_hlen {count : ℕ} (hcount : count ≤ glbMaxHops) :
    (UInt8.ofNat (1 + (count - 1)) &&& 0x1f).toNat = count - 1 + 1 := by
  have hcases : count = 0 ∨ count = 1 ∨ count = 2 ∨ count = 3 ∨
      count = 4 := by
    simp only [glbMaxHops] at hcount
    omega
  rcases hcases with rfl | rfl | rfl | rfl | rfl <;> decide

/-- The frame of a route, with the checksums left to the caller. -/
def directorFrame (config : DirectorConfig) (ctx : RouteContext)
    (hhops : ctx.ipv4Hops.length ≤ glbMaxHops) (ipCheck udpCheck : UInt16)
    (inner : Bytes) : GueFrame where
  ipHead := encapIpHead ctx ipCheck
  saddr := config.localIpAddr
  daddr := ctx.ipv4Hops.getD 0 0
  options := []
  udpHead := encapUdpHead ctx
  check := udpCheck
  guehdr := [UInt8.ofNat (1 + (ctx.ipv4Hops.length - 1)),
    ctx.fields.gueIpproto] ++ u16le 0
  privateDataType := 0
  nextHop := 0
  hops := ctx.ipv4Hops.drop 1
  inner := inner
  ipHead_length := encapIpHead_length ctx ipCheck
  ihl := encapIpHead_ihl ctx ipCheck
  protocol := rfl
  udpHead_length := encapUdpHead_length ctx
  guehdr_length := rfl
  hlen := by rw [List.length_drop]; exact encap_hlen hhops

theorem encapIpv4_eq (config : DirectorConfig) (ctx : RouteContext) :
    encapIpv4 config ctx = encapIpHead ctx 0 ++ (u32le config.localIpAddr ++
      u32le (ctx.ipv4Hops.getD 0 0)) := by
  simp only [encapIpv4, encapIpHead, List.append_assoc]

theorem encapUdp_eq (ctx : RouteContext) :
    encapUdp ctx = encapUdpHead ctx ++ u16le 0 := by
  simp only [encapUdp, encapUdpHead, List.append_assoc]

/-- The GUE header ends inside the chained routing of the frame. -/
theorem encapGue_append (ctx : RouteContext) (rest : Bytes) :
    encapGue ctx ++ rest =
      ([UInt8.ofNat (1 + (ctx.ipv4Hops.length - 1)), ctx.fields.gueIpproto] ++
        u16le 0) ++ (u16le 0 ++ ([0] ++
          ([UInt8.ofNat (ctx.ipv4Hops.drop 1).length] ++ rest))) := by
  rw [encapGue, List.length_drop]
  simp only [List.append_assoc, List.cons_append, List.nil_append]

/-- The frame in the parts that `glb_encapsulate_packet` writes. -/
theorem directorFrame_parts (config : DirectorConfig) (ctx : RouteContext)
    (hhops : ctx.ipv4Hops.length ≤ glbMaxHops) (ipCheck udpCheck : UInt16)
    (inner : Bytes) :
    (directorFrame config ctx hhops ipCheck udpCheck inner).bytes =
      (encapIpHead ctx ipCheck ++ (u32le config.localIpAddr ++
        u32le (ctx.ipv4Hops.getD 0 0))) ++
      ((encapUdpHead ctx ++ u16le udpCheck) ++
        (encapGue ctx ++ (encapHops ctx ++ inner))) := by
  have hfields :
      (directorFrame config ctx hhops ipCheck udpCheck inner).bytes =
        (encapIpHead ctx ipCheck ++ (u32le config.localIpAddr ++
          u32le (ctx.ipv4Hops.getD 0 0))) ++
        ([] ++ ((encapUdpHead ctx ++ u16le udpCheck) ++
          (([UInt8.ofNat (1 + (ctx.ipv4Hops.length - 1)),
              ctx.fields.gueIpproto] ++ u16le 0) ++
            ((u16le 0 ++ ([0] ++ ([UInt8.ofNat (ctx.ipv4Hops.drop 1).length] ++
              encapHops ctx))) ++ inner)))) := rfl
  rw [hfields, encapGue_append, List.nil_append]
  simp only [List.append_assoc]

theorem glbEncapsulatePacket_frame (config : DirectorConfig)
    (ctx : RouteContext) (hhops : ctx.ipv4Hops.length ≤ glbMaxHops)
    (inner : Bytes) :
    glbEncapsulatePacket config ctx ++ inner =
      encapEthernet config ++
        (directorFrame config ctx hhops 0 0 inner).bytes := by
  rw [directorFrame_parts, ← encapIpv4_eq, ← encapUdp_eq, glbEncapsulatePacket]
  simp only [List.append_assoc]

theorem drop_encapEthernet (config : DirectorConfig) (rest : Bytes) :
    (encapEthernet config ++ rest).drop ethernetHdrSize = rest :=
  List.drop_left' (encapEthernet_length config)

theorem patch_encapEthernet (config : DirectorConfig) (offset : ℕ)
    (patched rest : Bytes) :
    patch (ethernetHdrSize + offset) patched
        (encapEthernet config ++ rest) =
      encapEthernet config ++ patch offset patched rest := by
  rw [← encapEthernet_length config, patch_append_right]

theorem patch_udpCheck (config : DirectorConfig) (ctx : RouteContext)
    (hhops : ctx.ipv4Hops.length ≤ glbMaxHops)
    (ipCheck udpCheck value : UInt16) (inner : Bytes) :
    patch (ipv4HdrSize + 6) (u16le value)
        (directorFrame config ctx hhops ipCheck udpCheck inner).bytes =
      (directorFrame config ctx hhops ipCheck value inner).bytes :=
  (directorFrame config ctx hhops ipCheck udpCheck inner).patch_check value

theorem patch_ipCheck (config : DirectorConfig) (ctx : RouteContext)
    (hhops : ctx.ipv4Hops.length ≤ glbMaxHops)
    (ipCheck udpCheck value : UInt16) (inner : Bytes) :
    patch 10 (u16le value)
        (directorFrame config ctx hhops ipCheck udpCheck inner).bytes =
      (directorFrame config ctx hhops value udpCheck inner).bytes := by
  let frame := directorFrame config ctx hhops ipCheck udpCheck inner
  have hbytes : frame.bytes = ([0x45, 0] ++
        (u16le (htons (outerTotalLength ctx)) ++ (u16le 0 ++
          (u16le (htons 0x4000) ++ [64, ipProtoUdp])))) ++
        (u16le ipCheck ++ (u32le frame.saddr ++ (u32le frame.daddr ++
          (frame.udp ++ (frame.guehdr ++
            (frame.chainedRouting ++ inner)))))) := by
    simp [GueFrame.bytes, GueFrame.outerIp, frame, directorFrame,
      encapIpHead]
  change patch _ _ frame.bytes = _
  rw [hbytes, patch_middle]
  · simp [GueFrame.bytes, GueFrame.udp, GueFrame.outerIp,
      GueFrame.chainedRouting, frame, directorFrame, encapIpHead]
  · simp
  · simp

theorem take_outerIp (config : DirectorConfig) (ctx : RouteContext)
    (hhops : ctx.ipv4Hops.length ≤ glbMaxHops) (udpCheck : UInt16)
    (inner : Bytes) :
    (directorFrame config ctx hhops 0 udpCheck inner).bytes.take
        ipv4HdrSize = encapIpv4 config ctx := by
  rw [GueFrame.bytes, List.take_left' (GueFrame.outerIp_length _)]
  simp [GueFrame.outerIp, directorFrame, encapIpHead, encapIpv4]

/-- Checksum offloading fills the two fields that were left zero. -/
theorem glbChecksumOffloading_frame (rte : RteChecksums)
    (config : DirectorConfig) (ctx : RouteContext)
    (hhops : ctx.ipv4Hops.length ≤ glbMaxHops) (inner : Bytes) :
    glbChecksumOffloading rte (encapEthernet config ++
        (directorFrame config ctx hhops 0 0 inner).bytes) =
      encapEthernet config ++ (directorFrame config ctx hhops
        (rte.ipv4Cksum (encapIpv4 config ctx))
        (rte.ipv4UdptcpCksum (directorFrame config ctx hhops 0 0 inner).bytes)
        inner).bytes := by
  simp only [glbChecksumOffloading, udpChecksumOffset, ipv4ChecksumOffset,
    Nat.add_assoc, patch_encapEthernet, patch_udpCheck, patch_ipCheck,
    drop_encapEthernet, take_outerIp]

theorem glbEncapsulatePacketDpdk_frame (rte : RteChecksums)
    {config : DirectorConfig} {raw packet : Bytes} {table : ℕ}
    {num : UInt32} (hnum : numTables raw = some num)
    (htable : table < num.toNat) {ctx : RouteContext}
    (hroute : glbCalculatePacketRoute config raw table packet = .ok ctx) :
    glbEncapsulatePacketDpdk rte config raw packet table =
      .ok (encapEthernet config ++ (directorFrame config ctx
        (route_hops_le hroute) (rte.ipv4Cksum (encapIpv4 config ctx))
        (rte.ipv4UdptcpCksum (directorFrame config ctx (route_hops_le hroute)
          0 0 (packet.drop ethernetHdrSize)).bytes)
        (packet.drop ethernetHdrSize)).bytes) := by
  have hroom : (glbEncapsulatePacket config ctx).length =
      (List.replicate (routeContextEncapSize ctx) (0 : UInt8)).length := by
    rw [glbEncapsulatePacket_length, List.length_replicate]
  rw [← glbChecksumOffloading_frame, ← glbEncapsulatePacket_frame,
    ← patch_room _ hroom, glbEncapsulatePacketDpdk, hnum, hroute, orFail]
  exact if_neg (not_le.mpr htable)

theorem glbEncapsulatePacketDpdk_of_route (rte : RteChecksums)
    {config : DirectorConfig} {raw packet : Bytes} {table : ℕ}
    {num : UInt32} (hnum : numTables raw = some num)
    (htable : table < num.toNat) {ctx : RouteContext}
    (hroute : glbCalculatePacketRoute config raw table packet = .ok ctx) :
    ∃ ipCheck udpCheck,
      glbEncapsulatePacketDpdk rte config raw packet table =
        .ok (encapEthernet config ++ (directorFrame config ctx
          (route_hops_le hroute) ipCheck udpCheck
          (packet.drop ethernetHdrSize)).bytes) :=
  ⟨_, _, glbEncapsulatePacketDpdk_frame rte hnum htable hroute⟩

/-! ## The decoder recovers the route -/

theorem header_hops (frame : GueFrame) :
    (List.range frame.header.hopCount.toNat).map frame.header.hop =
      frame.hops := by
  rw [frame.header_hopCount, frame.hops_length_toNat]
  apply List.ext_getElem
  · simp
  · intro index hindex hindex'
    rw [List.getElem_map, List.getElem_range]
    exact frame.header_hop (List.getElem?_eq_getElem hindex')

theorem drop_innerIpOfs (frame : GueFrame) :
    frame.bytes.drop frame.header.innerIpOfs = frame.inner := by
  obtain ⟨front, hbytes, hfront⟩ := frame.bytes_eq_front_inner
  rw [hbytes, List.drop_left' hfront]

theorem getD_cons_drop {hops : List UInt32} (hhops : hops ≠ []) :
    hops.getD 0 0 :: hops.drop 1 = hops := by
  cases hops with
  | nil => exact absurd rfl hhops
  | cons first rest => rfl

theorem gue_header_agreement {config : DirectorConfig}
    {raw packet : Bytes} {table : ℕ} {ctx : RouteContext}
    (hroute : glbCalculatePacketRoute config raw table packet = .ok ctx)
    (inner : Bytes) :
    (glbEncapsulatePacket config ctx).length = routeContextEncapSize ctx ∧
      ctx.ipv4Hops.length = (if config.useAltHashFields then 4 else 2) ∧
      ∃ skb gue, (glbEncapsulatePacket config ctx ++ inner).drop
          ethernetHdrSize = skb ∧
        gueHeader skb = some gue ∧
        ctx.ipv4Hops = gue.daddr ::
          (List.range gue.hopCount.toNat).map gue.hop ∧
        gue.nextHop = 0 ∧
        gue.hopCount.toNat = ctx.ipv4Hops.length - 1 ∧
        skb.drop gue.innerIpOfs = inner ∧
        ctx.fields.etherType = ntohs (fieldU16 12 packet) ∧
        ((ctx.fields.etherType = etherTypeIpv4 ∧
          ∀ stack, glbredirectTg4 stack skb =
            glbredirectHandleInnerIpv4 stack skb gue) ∨
        (ctx.fields.etherType = etherTypeIpv6 ∧
          ∀ stack, glbredirectTg4 stack skb =
            glbredirectHandleInnerIpv6 stack skb gue)) := by
  obtain ⟨hfields, hlength⟩ := route_spec hroute
  have hhops : ctx.ipv4Hops.length ≤ glbMaxHops := route_hops_le hroute
  have hne : ctx.ipv4Hops ≠ [] := by
    intro hnil
    rw [hnil, List.length_nil] at hlength
    split at hlength <;> cases hlength
  refine ⟨glbEncapsulatePacket_length config ctx, hlength, ?_⟩
  let frame := directorFrame config ctx hhops 0 0 inner
  refine ⟨frame.bytes, frame.header, ?_, frame.gueHeader_bytes, ?_,
    frame.header_nextHop, ?_, drop_innerIpOfs frame,
    (glbExtractPacketFields_etherType hfields).2.1, ?_⟩
  · rw [glbEncapsulatePacket_frame config ctx hhops, drop_encapEthernet]
  · rw [header_hops]
    exact (getD_cons_drop hne).symm
  · rw [frame.header_hopCount, frame.hops_length_toNat]
    exact List.length_drop
  · cases glbExtractPacketFields_family hfields with
    | ipv4 hether hsrc hdst hgue =>
        refine Or.inl ⟨hether, fun stack => ?_⟩
        have hproto : frame.header.protoCtype = ipProtoIpipv4 := hgue
        rw [glbredirectTg4, frame.gueHeader_bytes]
        exact if_pos hproto
    | ipv6 hether hsrc hdst hgue =>
        refine Or.inr ⟨hether, fun stack => ?_⟩
        have hproto : frame.header.protoCtype = ipProtoIpipv6 := hgue
        rw [glbredirectTg4, frame.gueHeader_bytes]
        simp only [hproto]
        rfl

/-- An acknowledgement of a connection from 192.168.0.4 to 1.1.1.1. -/
def sampleTcp : Bytes :=
  [0x45, 0, 0, 40, 0, 0, 0x40, 0, 64, 6, 0, 0, 192, 168, 0, 4, 1, 1, 1, 1,
    0x30, 0x39, 0, 80, 0, 0, 0, 1, 0, 0, 0, 1, 0x50, 0x10, 0xff, 0xff,
    0, 0, 0, 0]

def samplePacket : Bytes :=
  [2, 0, 0, 0, 0, 1, 2, 0, 0, 0, 0, 2, 0x08, 0x00] ++ sampleTcp

def sampleDirector : DirectorConfig where
  localEtherAddr := ⟨[2, 0, 0, 0, 0, 1], rfl⟩
  gatewayEtherAddr := ⟨[2, 0, 0, 0, 0, 3], rfl⟩
  localIpAddr := wordU32 [10, 0, 0, 100]
  hashFields := ⟨true, false, false, false⟩
  useAltHashFields := false
  altHashFields := ⟨false, false, false, false⟩

theorem gue_header_agreement_samplePacket :
    ∃ ctx gue,
      glbCalculatePacketRoute sampleDirector (builtFile zeroGarbage
        mergeSortByHash [sampleInput fillingSlots]) 0 samplePacket =
          .ok ctx ∧
      gueHeader ((glbEncapsulatePacket sampleDirector ctx ++
        sampleTcp).drop ethernetHdrSize) = some gue ∧
      ctx.ipv4Hops = gue.daddr ::
        (List.range gue.hopCount.toNat).map gue.hop := by
  have hinput : [sampleInput fillingSlots][0]? =
      some (sampleInput fillingSlots) := rfl
  obtain ⟨fields, hfields⟩ : ∃ fields,
      glbExtractPacketFields .dpdk samplePacket = some fields := ⟨_, rfl⟩
  obtain ⟨_, p, s, _, _, _, pktHash, hroute⟩ :=
    glbCalculatePacketRoute_builtFile zeroGarbage mergeSortByHash hinput
      (by decide) (show sampleDirector.useAltHashFields = false from rfl)
      hfields
  obtain ⟨_, _, skb, gue, hskb, hgue, hhops, _⟩ :=
    gue_header_agreement hroute sampleTcp
  exact ⟨_, gue, hroute, hskb ▸ hgue, hhops⟩

/-! ## Delivery -/

inductive Delivery where
  | dropped (node : UInt32)
  | accepted (node : UInt32)
  | inFlight (skb : Bytes)
  deriving DecidableEq

/-- A packet is handled by the node its outer destination names, and a
forwarded one travels on; the number bounds the nodes visited. -/
def deliver (nodes : UInt32 → LocalStack) : ℕ → Bytes → Delivery
  | 0, skb => .inFlight skb
  | visits + 1, skb =>
      let node := fieldU32 16 skb
      match glbredirectTg4 (nodes node) skb with
      | .nfDrop => .dropped node
      | .xtContinue => .accepted node
      | .stolen forwarded => deliver nodes visits forwarded

theorem fieldU32_daddr (frame : GueFrame) :
    fieldU32 16 frame.bytes = frame.daddr := by
  have hbytes : frame.bytes = (frame.ipHead ++ u32le frame.saddr) ++
      (u32le frame.daddr ++ (frame.options ++ (frame.udp ++
        (frame.guehdr ++ (frame.chainedRouting ++ frame.inner))))) := by
    simp [GueFrame.bytes, GueFrame.outerIp]
  rw [hbytes]
  apply GueFrame.fieldU32_middle
  simp [frame.ipHead_length]

section Flow

variable {ip : InnerIp} {th : Bytes}

theorem glbredirectTg4_of_exhausted (stack : LocalStack) {frame : GueFrame}
    (hflow : frame.innerPacket = .flow ip th)
    (hleft : frame.hops.drop frame.nextHop.toNat = []) :
    glbredirectTg4 stack frame.bytes = .xtContinue := by
  have hexhausted : frame.nextHop ≥ UInt8.ofNat frame.hops.length := by
    rw [ge_iff_le, UInt8.le_iff_toNat_le, frame.hops_length_toNat]
    exact List.drop_eq_nil_iff.mp hleft
  rw [frame.glbredirectTg4_bytes, hflow, handleInner,
    glbredirectHandleInnerTcpGeneric, frame.header_nextHop,
    frame.header_hopCount, if_pos hexhausted]
  split
  · rfl
  · split <;> rfl

theorem glbredirectTg4_of_next (stack : LocalStack) {frame : GueFrame}
    (hflow : frame.innerPacket = .flow ip th) (hsyn : tcpSyn th = false)
    {next : UInt32} {rest : List UInt32}
    (hleft : frame.hops.drop frame.nextHop.toNat = next :: rest) :
    glbredirectTg4 stack frame.bytes =
      if isValidLocally stack ip th = true ∨ next = frame.daddr then
        .xtContinue
      else .stolen (frame.forward next).bytes := by
  have hhop : frame.hops[frame.nextHop.toNat]? = some next := by
    rw [← List.head?_drop, hleft]
    rfl
  obtain ⟨hindex, _⟩ := List.getElem?_eq_some_iff.mp hhop
  have hleftover : ¬ frame.nextHop ≥ UInt8.ofNat frame.hops.length := by
    rw [ge_iff_le, UInt8.le_iff_toNat_le, frame.hops_length_toNat]
    omega
  have hdaddr : frame.header.daddr = frame.daddr := rfl
  rw [frame.glbredirectTg4_bytes, hflow, handleInner,
    glbredirectHandleInnerTcpGeneric, frame.header_nextHop,
    frame.header_hopCount, if_neg hleftover, frame.header_hop hhop, hsyn,
    hdaddr]
  simp only [frame.forwardedSkb_bytes]
  by_cases hvalid : isValidLocally stack ip th = true
  · simp [hvalid]
  · by_cases hself : next = frame.daddr
    · simp [hvalid, hself]
    · simp [hvalid, hself]

theorem forward_left {frame : GueFrame} {next : UInt32} {rest : List UInt32}
    (hleft : frame.hops.drop frame.nextHop.toNat = next :: rest) :
    (frame.forward next).hops.drop (frame.forward next).nextHop.toNat =
      rest := by
  have hlength := congrArg List.length hleft
  have hlt := frame.hops_length_lt
  rw [List.length_drop, List.length_cons] at hlength
  have hnext : (frame.nextHop + 1).toNat = frame.nextHop.toNat + 1 := by
    rw [UInt8.toNat_add]
    exact Nat.mod_eq_of_lt (by change frame.nextHop.toNat + 1 < 256; omega)
  change frame.hops.drop (frame.nextHop + 1).toNat = rest
  rw [hnext, ← List.drop_drop, hleft]
  rfl

/-- A packet that still has hops left ends at the node that the guarded walk
along them selects. -/
theorem deliver_frame (nodes : UInt32 → LocalStack)
    (hsyn : tcpSyn th = false) (extra : ℕ) {left : List UInt32}
    {frame : GueFrame} (hflow : frame.innerPacket = .flow ip th)
    (hleft : frame.hops.drop frame.nextHop.toNat = left) :
    deliver nodes (left.length + 1 + extra) frame.bytes =
      .accepted (accepting
        (fun node => isValidLocally (nodes node) ip th)
        frame.daddr left) := by
  induction left generalizing frame with
  | nil =>
      rw [show [].length + 1 + extra = extra + 1 by simp [Nat.add_comm],
        deliver]
      simp only [fieldU32_daddr, glbredirectTg4_of_exhausted _ hflow hleft]
      rfl
  | cons next rest ih =>
      rw [show (next :: rest).length + 1 + extra =
          rest.length + 1 + extra + 1 by simp only [List.length_cons]; omega,
        deliver]
      simp only [fieldU32_daddr, accepting,
        glbredirectTg4_of_next _ hflow hsyn hleft]
      by_cases hstop : isValidLocally (nodes frame.daddr) ip th = true ∨
          next = frame.daddr
      · simp only [if_pos hstop]
      · simp only [if_neg hstop]
        exact ih (frame.forward_innerPacket next ▸ hflow)
          (forward_left hleft)

/-- What a proxy looks at in a packet the director has parsed. -/
def PacketFields.innerPacket (fields : PacketFields) (inner : Bytes) :
    InnerPacket :=
  if fields.gueIpproto = ipProtoIpipv4 then innerIpv4 inner 0
  else if fields.gueIpproto = ipProtoIpipv6 then innerIpv6 inner 0
  else .drop

theorem deliver_encapsulated (nodes : UInt32 → LocalStack)
    (rte : RteChecksums) (config : DirectorConfig) {ctx : RouteContext}
    (hhops : ctx.ipv4Hops.length ≤ glbMaxHops) {inner : Bytes}
    (hflow : ctx.fields.innerPacket inner = .flow ip th)
    (hsyn : tcpSyn th = false) (extra : ℕ) :
    deliver nodes ((ctx.ipv4Hops.drop 1).length + 1 + extra)
        ((glbChecksumOffloading rte (glbEncapsulatePacket config ctx ++
          inner)).drop ethernetHdrSize) =
      .accepted (accepting
        (fun node => isValidLocally (nodes node) ip th)
        (ctx.ipv4Hops.getD 0 0) (ctx.ipv4Hops.drop 1)) := by
  rw [glbEncapsulatePacket_frame config ctx hhops,
    glbChecksumOffloading_frame, drop_encapEthernet]
  exact deliver_frame nodes hsyn extra hflow rfl

/-- A packet reaches the first proxy on its hop list that knows the flow, or
the last hop, exactly when an immediate repetition of a hop does not stop it
earlier. -/
theorem second_chance_delivery_iff (nodes : UInt32 → LocalStack)
    (frame : GueFrame) (hflow : frame.innerPacket = .flow ip th)
    (hsyn : tcpSyn th = false) (hnext : frame.nextHop = 0) (extra : ℕ) :
    deliver nodes (frame.hops.length + 1 + extra) frame.bytes =
        .accepted (chosen (fun node => isValidLocally (nodes node) ip th)
          frame.daddr frame.hops) ↔
      RepeatHarmless (fun node => isValidLocally (nodes node) ip th)
        frame.daddr frame.hops := by
  have hleft : frame.hops.drop frame.nextHop.toNat = frame.hops := by
    rw [hnext]
    rfl
  rw [deliver_frame nodes hsyn extra hflow hleft,
    Delivery.accepted.injEq]
  exact accepting_eq_chosen_iff _ _ _

end Flow

/-- Nodes of which only `owner` has the connection. -/
def ownedBy (owner node : UInt32) : LocalStack where
  lookupEstablished _ _ _ _ := decide (node = owner)
  lookupEstablished6 _ _ _ _ := decide (node = owner)
  lookupListener _ _ _ _ := none
  lookupListener6 _ _ _ _ := none
  cookieV4Check _ _ := 0
  cookieV6Check _ _ := 0

theorem isValidLocally_ownedBy (owner node : UInt32) (ip : InnerIp)
    (th : Bytes) :
    isValidLocally (ownedBy owner node) ip th = decide (node = owner) := by
  cases ip with
  | v4 iph => simp [isValidLocally, ownedBy, wantCookie]
  | v6 iph => simp [isValidLocally, ownedBy, wantCookie]

def sampleFields : PacketFields where
  etherType := etherTypeIpv4
  origDstMac := [2, 0, 0, 0, 0, 1]
  ipTotalLength := 40
  srcAddr := [192, 168, 0, 4]
  dstAddr := [1, 1, 1, 1]
  srcPort := htons 0x3039
  dstPort := htons 80
  flowHashHint := 0x3039
  gueIpproto := ipProtoIpipv4
  originalIpproto := ipProtoTcp

theorem glbExtractPacketFields_sample :
    glbExtractPacketFields .dpdk samplePacket = some sampleFields := by
  decide +kernel

def sampleNode (last : UInt8) : UInt32 := (sampleAddress last).ipv4Addr

/-- The frame of `samplePacket` on its way to three hops. -/
def sampleFrame : GueFrame :=
  directorFrame sampleDirector
    { fields := sampleFields
      ipv4Hops := [sampleNode 3, sampleNode 2, sampleNode 1]
      pktHash := 0 } (by decide) 0 0 sampleTcp

theorem second_chance_delivery_iff_sampleFrame :
    deliver (ownedBy (sampleNode 1)) 3 sampleFrame.bytes =
        .accepted (chosen (fun node => isValidLocally
          (ownedBy (sampleNode 1) node) (.v4 (sampleTcp.take 20))
            (sampleTcp.drop 20)) (sampleNode 3)
          [sampleNode 2, sampleNode 1]) ↔
      RepeatHarmless (fun node => isValidLocally
        (ownedBy (sampleNode 1) node) (.v4 (sampleTcp.take 20))
          (sampleTcp.drop 20)) (sampleNode 3)
        [sampleNode 2, sampleNode 1] :=
  second_chance_delivery_iff (ownedBy (sampleNode 1)) sampleFrame rfl
    (by decide) rfl 0

def threeSlots : Slots maxNumBackends LoadedBackend where
  count := 3
  used := [⟨sampleAddress 1, .active, true⟩, ⟨sampleAddress 2, .active, true⟩,
    ⟨sampleAddress 3, .active, true⟩]
  used_length := by decide

def threeRoot : Json :=
  sampleRoot [sampleTable [sampleBackend "10.0.0.1" "active" true,
    sampleBackend "10.0.0.2" "active" true,
    sampleBackend "10.0.0.3" "active" true]]

theorem buildInputs_threeRoot (garbage : StackGarbage) :
    buildInputs garbage threeRoot = .ok [sampleInput threeSlots] :=
  buildInputs_sample (by decide +kernel) garbage

/-- A director that moves from hashing the source address and port to
hashing the source address alone. -/
def migratingDirector : DirectorConfig :=
  { sampleDirector with
    useAltHashFields := true
    altHashFields := ⟨true, false, true, false⟩ }

theorem threeRoot_route :
    ∃ pktHash, glbCalculatePacketRoute migratingDirector
        (builtFile zeroGarbage mergeSortByHash [sampleInput threeSlots]) 0
        samplePacket = .ok {
          fields := sampleFields, pktHash
          ipv4Hops := [sampleNode 3, sampleNode 2, sampleNode 2,
            sampleNode 1] } := by
  have hinput : [sampleInput threeSlots][0]? =
      some (sampleInput threeSlots) := rfl
  obtain ⟨_, p, s, rest, _, p', s', rest', hranked, hranked', hroute⟩ :=
    glbCalculatePacketRoute_builtFile_alt zeroGarbage mergeSortByHash hinput
      (by decide) (show migratingDirector.useAltHashFields = true from rfl)
      glbExtractPacketFields_sample
  have hperm : [((⟨sampleAddress 3, .active, true⟩ : LoadedBackend), 2),
      (⟨sampleAddress 2, .active, true⟩, 1),
      (⟨sampleAddress 1, .active, true⟩, 0)].Perm
        (sampleInput threeSlots).available := by decide
  have hperm' : [((⟨sampleAddress 2, .active, true⟩ : LoadedBackend), 1),
      (⟨sampleAddress 1, .active, true⟩, 0),
      (⟨sampleAddress 3, .active, true⟩, 2)].Perm
        (sampleInput threeSlots).available := by decide
  have horder := hranked.order_eq hperm (by decide +kernel)
  have horder' := hranked'.order_eq hperm' (by decide +kernel)
  obtain ⟨rfl, rfl, rfl⟩ : p = _ ∧ s = _ ∧ rest = _ := by
    simpa using horder
  obtain ⟨rfl, rfl, rfl⟩ : p' = _ ∧ s' = _ ∧ rest' = _ := by
    simpa using horder'
  exact hroute

/-- The second row repeats the second hop of the first, so the packet never
reaches the proxy that owns its connection. -/
theorem repeated_hop_stops_delivery :
    ∃ writes pktHash,
      buildConfig zeroGarbage mergeSortByHash threeRoot = .ok writes ∧
      glbCalculatePacketRoute migratingDirector (fileOf writes) 0
        samplePacket = .ok {
          fields := sampleFields, pktHash
          ipv4Hops := [sampleNode 3, sampleNode 2, sampleNode 2,
            sampleNode 1] } ∧
      ∀ rte, ∃ sent,
        glbEncapsulatePacketDpdk rte migratingDirector (fileOf writes)
          samplePacket 0 = .ok sent ∧
        deliver (ownedBy (sampleNode 1)) 4 (sent.drop ethernetHdrSize) =
          .accepted (sampleNode 2) := by
  obtain ⟨writes, hbuild, hfile⟩ := buildConfig_of_inputs mergeSortByHash
    (buildInputs_threeRoot zeroGarbage)
  obtain ⟨pktHash, hroute⟩ := threeRoot_route
  rw [← hfile] at hroute
  refine ⟨writes, pktHash, hbuild, hroute, ?_⟩
  intro rte
  have hnum : numTables (fileOf writes) = some 1 := by
    rw [hfile]
    exact numTables_configFile _ _
  obtain ⟨ipCheck, udpCheck, hsent⟩ :=
    glbEncapsulatePacketDpdk_of_route rte hnum (by decide) hroute
  refine ⟨_, hsent, ?_⟩
  rw [drop_encapEthernet]
  have hflow : (directorFrame migratingDirector _ (route_hops_le hroute)
      ipCheck udpCheck (samplePacket.drop ethernetHdrSize)).innerPacket =
        .flow (.v4 (sampleTcp.take 20)) (sampleTcp.drop 20) := by
    refine (if_pos ?_).trans ?_
    · rfl
    · show innerIpv4 sampleTcp 0 = _
      rfl
  have hdelivery := deliver_frame (ownedBy (sampleNode 1))
    (show tcpSyn (sampleTcp.drop 20) = false by decide) 0 hflow rfl
  simp only [isValidLocally_ownedBy] at hdelivery
  refine hdelivery.trans (congrArg Delivery.accepted ?_)
  show accepting (fun node => decide (node = sampleNode 1)) (sampleNode 3)
    [sampleNode 2, sampleNode 2, sampleNode 1] = sampleNode 2
  decide

end GlbDirector
