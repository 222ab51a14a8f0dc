import GlbDirector.FlowPackets
import GlbDirector.RedirectChain

/-!
# Flow affinity

Two runs of the director, on two packets of one flow.  A route depends on the
parsed fields through the bytes the hash configuration selects, so replacing
the fields by others that agree on those bytes replaces them in the routed
context and changes nothing else.
-/

namespace GlbDirector

open ByteCodec ExceptLoops

/-! ## What a configuration looks at -/

def HashFields.AgreeOn (cfg : HashFields) (tuple tuple' : FlowTuple) :
    Prop :=
  (cfg.srcAddr = true → tuple.srcAddr = tuple'.srcAddr) ∧
    (cfg.dstAddr = true → tuple.dstAddr = tuple'.dstAddr) ∧
    (cfg.srcPort = true → tuple.srcPort = tuple'.srcPort) ∧
    (cfg.dstPort = true → tuple.dstPort = tuple'.dstPort)

/-- The tuples agree on every field selected by `hash_fields`, and by
`alt_hash_fields` when the configuration has them. -/
def DirectorConfig.AgreeOn (config : DirectorConfig)
    (tuple tuple' : FlowTuple) : Prop :=
  config.hashFields.AgreeOn tuple tuple' ∧
    (config.useAltHashFields = true →
      config.altHashFields.AgreeOn tuple tuple')

theorem HashFields.AgreeOn.refl (cfg : HashFields) (tuple : FlowTuple) :
    cfg.AgreeOn tuple tuple :=
  ⟨fun _ => rfl, fun _ => rfl, fun _ => rfl, fun _ => rfl⟩

theorem DirectorConfig.AgreeOn.refl (config : DirectorConfig)
    (tuple : FlowTuple) : config.AgreeOn tuple tuple :=
  ⟨.refl config.hashFields tuple, fun _ => .refl config.altHashFields tuple⟩

/-! ## The hash reads the selected fields -/

theorem pushIf_congr {selected : Bool} {bytes bytes' : Bytes}
    (hbytes : selected = true → bytes = bytes') :
    pushIf selected bytes = pushIf selected bytes' := by
  cases selected with
  | false => rfl
  | true => exact hbytes rfl

section TwoRuns

variable {fields fields' : PacketFields} {cfg : HashFields}

theorem hashData_congr
    (hagree : cfg.AgreeOn fields.tuple fields'.tuple) :
    hashData fields cfg = hashData fields' cfg := by
  obtain ⟨hsrc, hdst, hsrcPort, hdstPort⟩ := hagree
  unfold hashData
  change _ = pushIf cfg.srcAddr fields'.tuple.srcAddr ++
    (pushIf cfg.dstAddr fields'.tuple.dstAddr ++
      (pushIf cfg.srcPort (u16le fields'.tuple.srcPort) ++
        pushIf cfg.dstPort (u16le fields'.tuple.dstPort)))
  rw [← pushIf_congr hsrc, ← pushIf_congr hdst,
    ← pushIf_congr fun hselected => congrArg u16le (hsrcPort hselected),
    ← pushIf_congr fun hselected => congrArg u16le (hdstPort hselected)]
  rfl

theorem glbComputeHash_congr
    (hether : fields.etherType = fields'.etherType)
    (hagree : cfg.AgreeOn fields.tuple fields'.tuple)
    (build : ParserBuild) (secret : Bytes) :
    glbComputeHash build fields secret cfg =
      glbComputeHash build fields' secret cfg := by
  unfold glbComputeHash
  rw [hether, hashData_congr hagree]

/-! ## Routes -/

def RouteContext.withFields (ctx : RouteContext) (fields : PacketFields) :
    RouteContext := { ctx with fields }

theorem glbAddPacketRoute_withFields (raw : Bytes) (table : ℕ)
    {ctx : RouteContext}
    (hether : ctx.fields.etherType = fields'.etherType)
    (hagree : cfg.AgreeOn ctx.fields.tuple fields'.tuple) :
    glbAddPacketRoute raw table (ctx.withFields fields') cfg =
      (glbAddPacketRoute raw table ctx cfg).map (·.withFields fields') := by
  have hhash : ∀ secret, glbComputeHash .dpdk
      (ctx.withFields fields').fields secret cfg =
        glbComputeHash .dpdk ctx.fields secret cfg :=
    fun secret => (glbComputeHash_congr hether hagree .dpdk secret).symm
  unfold glbAddPacketRoute
  simp only [hhash]
  refine bind_map_congr fun secureKey => bind_map_congr fun entry => ?_
  by_cases hroom : ctx.ipv4Hops.length + 2 > glbMaxHops
  · have hroom' : (ctx.withFields fields').ipv4Hops.length + 2 >
        glbMaxHops := hroom
    rw [if_pos hroom, if_pos hroom']
    rfl
  · have hroom' : ¬ (ctx.withFields fields').ipv4Hops.length + 2 >
        glbMaxHops := hroom
    rw [if_neg hroom, if_neg hroom']
    exact bind_map_congr fun primary => bind_map_congr fun secondary => rfl

end TwoRuns

theorem glbAddPacketRoute_fields {raw : Bytes} {table : ℕ}
    {ctx routed : RouteContext} {cfg : HashFields}
    (hroute : glbAddPacketRoute raw table ctx cfg = .ok routed) :
    routed.fields = ctx.fields := by
  obtain ⟨added⟩ := glbAddPacketRoute_eq_ok_iff.mp hroute
  rw [added.hrouted]

/-- The route of a packet whose fields agree with those of another on what
the configuration selects. -/
theorem glbCalculatePacketRoute_withFields (config : DirectorConfig)
    (raw : Bytes) (table : ℕ) {packet packet' : Bytes}
    {fields fields' : PacketFields}
    (hfields : glbExtractPacketFields .dpdk packet = some fields)
    (hfields' : glbExtractPacketFields .dpdk packet' = some fields')
    (hether : fields.etherType = fields'.etherType)
    (hagree : config.AgreeOn fields.tuple fields'.tuple) :
    glbCalculatePacketRoute config raw table packet' =
      (glbCalculatePacketRoute config raw table packet).map
        (·.withFields fields') := by
  have hfirst := glbAddPacketRoute_withFields raw table
    (show ({ fields, ipv4Hops := [], pktHash := 0 } :
      RouteContext).fields.etherType = fields'.etherType from hether)
    hagree.1
  unfold glbCalculatePacketRoute
  rw [hfields, hfields']
  show (glbAddPacketRoute raw table _ _ >>= _) =
    (glbAddPacketRoute raw table _ _ >>= _).map _
  rw [show ({ fields := fields', ipv4Hops := [], pktHash := 0 } :
      RouteContext) = ({ fields, ipv4Hops := [], pktHash := 0 } :
        RouteContext).withFields fields' from rfl, hfirst]
  refine map_bind_map_congr fun ctx hctx => ?_
  have hsame := glbAddPacketRoute_fields hctx
  cases halt : config.useAltHashFields with
  | false => rfl
  | true =>
      exact glbAddPacketRoute_withFields raw table (hsame ▸ hether)
        (hsame ▸ hagree.2 halt)

/-! ## The outer source port -/

def udpSrcPortOffset : ℕ := ethernetHdrSize + ipv4HdrSize

theorem fieldU16_glbEncapsulatePacket (config : DirectorConfig)
    (ctx : RouteContext) :
    fieldU16 udpSrcPortOffset (glbEncapsulatePacket config ctx) =
      htons (outerSrcPort ctx) := by
  have hfront : (encapEthernet config ++ encapIpv4 config ctx).length =
      udpSrcPortOffset := by
    rw [List.length_append, encapEthernet_length, encapIpv4_length]
    rfl
  have hsplit : glbEncapsulatePacket config ctx =
      (encapEthernet config ++ encapIpv4 config ctx) ++
        (u16le (htons (outerSrcPort ctx)) ++
          ((encapUdp ctx).drop 2 ++ (encapGue ctx ++ encapHops ctx))) := by
    have hudp : encapUdp ctx =
        u16le (htons (outerSrcPort ctx)) ++ (encapUdp ctx).drop 2 := rfl
    rw [glbEncapsulatePacket, List.append_assoc, ← List.append_assoc
      (u16le (htons (outerSrcPort ctx))), ← hudp]
  have hslice := slice_middle _ (u16le (htons (outerSrcPort ctx)))
    ((encapUdp ctx).drop 2 ++ (encapGue ctx ++ encapHops ctx))
    hfront (u16le_length _)
  rw [← hsplit] at hslice
  rw [fieldU16, (slice_eq_some_iff.mp hslice).2, wordU16_u16le]

theorem outerSrcPort_withFields {ctx : RouteContext} {fields : PacketFields}
    (hhint : ctx.fields.flowHashHint = fields.flowHashHint) :
    outerSrcPort (ctx.withFields fields) = outerSrcPort ctx := by
  unfold outerSrcPort
  rw [hhint]
  rfl

/-! ## Affinity -/

/-- Packets of flows that agree on the selected fields get the same hops; if
they are of one flow, also the same outer source port. -/
theorem flow_affinity (config : DirectorConfig) (raw : Bytes) (table : ℕ)
    {family : IpFamily} {packet packet' : Bytes} {tuple tuple' : FlowTuple}
    (hflow : FlowPacket family packet tuple)
    (hflow' : FlowPacket family packet' tuple') :
    (config.AgreeOn tuple tuple' →
      (glbCalculatePacketRoute config raw table packet').map
          RouteContext.ipv4Hops =
        (glbCalculatePacketRoute config raw table packet).map
          RouteContext.ipv4Hops) ∧
    (tuple = tuple' →
      (glbCalculatePacketRoute config raw table packet').map
          (fun ctx => fieldU16 udpSrcPortOffset
            (glbEncapsulatePacket config ctx)) =
        (glbCalculatePacketRoute config raw table packet).map
          (fun ctx => fieldU16 udpSrcPortOffset
            (glbEncapsulatePacket config ctx))) := by
  obtain ⟨hfields, htuple, hhint⟩ := hflow.parsed .dpdk
  obtain ⟨hfields', htuple', hhint'⟩ := hflow'.parsed .dpdk
  have hroute : config.AgreeOn tuple tuple' →
      glbCalculatePacketRoute config raw table packet' =
        (glbCalculatePacketRoute config raw table packet).map
          (·.withFields (family.parsedFields packet')) := by
    intro hagree
    rw [← htuple, ← htuple'] at hagree
    exact glbCalculatePacketRoute_withFields config raw table hfields
      hfields' rfl hagree
  constructor
  · intro hagree
    rw [hroute hagree]
    exact map_map_congr fun ctx hctx => rfl
  · rintro rfl
    rw [hroute (.refl config tuple)]
    refine map_map_congr fun ctx hctx => ?_
    have hctxFields : ctx.fields = family.parsedFields packet :=
      Option.some.inj ((route_spec hctx).1.symm.trans hfields)
    rw [fieldU16_glbEncapsulatePacket, fieldU16_glbEncapsulatePacket,
      outerSrcPort_withFields]
    rw [hctxFields]
    exact hhint.trans hhint'.symm

/-- Fragmentation needed, sent by 10.9.9.9 for a reply to `samplePacket`. -/
def sampleFragNeeded : Bytes :=
  [2, 0, 0, 0, 0, 1, 2, 0, 0, 0, 0, 2, 0x08, 0x00,
    0x45, 0, 0, 56, 0, 7, 0, 0, 60, 1, 0, 0, 10, 9, 9, 9, 1, 1, 1, 1,
    3, 4, 0, 0, 0, 0, 5, 0xdc,
    0x45, 0, 5, 0xdc, 0, 0, 0x40, 0, 63, 6, 0, 0, 1, 1, 1, 1,
    192, 168, 0, 4, 0, 80, 0x30, 0x39, 0, 0, 0, 1]

theorem samplePacket_plain : PlainPacket .ipv4 samplePacket where
  hether := by decide
  htransport := ⟨by decide, by decide, by decide⟩

theorem sampleFragNeeded_pathMtu :
    PathMtuPacket .ipv4 sampleFragNeeded where
  hether := by decide
  hoptions := by decide
  hproto := by decide
  htype := by decide
  hquoted := ⟨by decide, by decide, by decide⟩

theorem flow_affinity_sampleFragNeeded :
    (glbCalculatePacketRoute migratingDirector
        (builtFile zeroGarbage mergeSortByHash [sampleInput threeSlots]) 0
        sampleFragNeeded).map RouteContext.ipv4Hops =
      .ok [sampleNode 3, sampleNode 2, sampleNode 2, sampleNode 1] := by
  obtain ⟨pktHash, hroute⟩ := threeRoot_route
  have htuple : headerTuple .ipv4 samplePacket ethernetHdrSize =
      (headerTuple .ipv4 sampleFragNeeded
        IpFamily.ipv4.quotedOffset).swap := by decide
  have haffinity := flow_affinity migratingDirector
    (builtFile zeroGarbage mergeSortByHash [sampleInput threeSlots]) 0
    (.plain samplePacket_plain) (.pathMtu sampleFragNeeded_pathMtu)
  rw [haffinity.1 (htuple ▸ .refl migratingDirector _), hroute]
  rfl

end GlbDirector
