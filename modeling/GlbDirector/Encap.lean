import GlbDirector.FwdConfig
import GlbDirector.PacketParsing

/-!
# The DPDK director (`glb_encap.c`, `glb_encap_dpdk.c`)

A packet is hashed into a row of its table; the row's two backends are the
hops, and the alternative hash fields add a second pair.  The first hop becomes
the outer destination, the others follow in the GUE header.
-/

namespace GlbDirector

open ByteCodec ExceptLoops

def directorGuePort : UInt16 := 19523
def glbMaxHops : ℕ := 4
def glbFmtTableHashmask : UInt64 := 0xffff

structure DirectorConfig where
  localEtherAddr : ByteVec 6
  gatewayEtherAddr : ByteVec 6
  localIpAddr : UInt32
  hashFields : HashFields
  useAltHashFields : Bool
  altHashFields : HashFields

structure RouteContext where
  fields : PacketFields
  ipv4Hops : List UInt32
  pktHash : UInt64

inductive RouteError where
  | unparsed
  | tooManyHops
  | tableOutOfRange
  /-- A read outside the loaded forwarding table. -/
  | outsideConfig
  deriving DecidableEq, Repr

def orFail {α : Type} (value : Option α) (error : RouteError) :
    Except RouteError α :=
  match value with
  | some result => .ok result
  | none => .error error

/-! ## Routes -/

/-- The union's `ipv4_addr`. -/
def FwdBackend.ipv4Addr (backend : FwdBackend) : UInt32 :=
  wordU32 (backend.ipv6Addr.take 4)

def glbAddPacketRoute (raw : Bytes) (table : ℕ) (ctx : RouteContext)
    (cfg : HashFields) : Except RouteError RouteContext := do
  let secureKey ← orFail (tableSecureKey raw table) .outsideConfig
  let pktHash := glbComputeHash .dpdk ctx.fields secureKey cfg
  let hashIdx := (pktHash &&& glbFmtTableHashmask).toNat
  let entry ← orFail (tableEntry raw table hashIdx) .outsideConfig
  if ctx.ipv4Hops.length + 2 > glbMaxHops then
    .error .tooManyHops
  else do
    let primary ← orFail (tableBackend raw table entry.primary.toNat)
      .outsideConfig
    let secondary ← orFail (tableBackend raw table entry.secondary.toNat)
      .outsideConfig
    return { ctx with
      pktHash := if ctx.ipv4Hops.length = 0 then pktHash else ctx.pktHash
      ipv4Hops := ctx.ipv4Hops ++ [primary.ipv4Addr, secondary.ipv4Addr] }

def glbCalculatePacketRoute (config : DirectorConfig) (raw : Bytes)
    (table : ℕ) (packet : Bytes) : Except RouteError RouteContext := do
  let fields ← orFail (glbExtractPacketFields .dpdk packet) .unparsed
  let ctx ← glbAddPacketRoute raw table
    { fields, ipv4Hops := [], pktHash := 0 } config.hashFields
  if config.useAltHashFields then
    glbAddPacketRoute raw table ctx config.altHashFields
  else
    return ctx

/-! ## Encapsulation -/

/-- `ROUTE_CONTEXT_ENCAP_SIZE` -/
def routeContextEncapSize (ctx : RouteContext) : ℕ :=
  ethernetHdrSize + ipv4HdrSize + udpHdrSize + gueHdrSize +
    4 * (ctx.ipv4Hops.length - 1)

def outerUdpLength (ctx : RouteContext) : UInt16 :=
  UInt16.ofNat (udpHdrSize + gueHdrSize + 4 * (ctx.ipv4Hops.length - 1) +
    ctx.fields.ipTotalLength.toNat)

def outerTotalLength (ctx : RouteContext) : UInt16 :=
  UInt16.ofNat (ipv4HdrSize + udpHdrSize + gueHdrSize +
    4 * (ctx.ipv4Hops.length - 1) + ctx.fields.ipTotalLength.toNat)

def outerSrcPort (ctx : RouteContext) : UInt16 :=
  0x8000 ||| ((ctx.pktHash ^^^ ctx.fields.flowHashHint.toUInt64) &&&
    0x7fff).toUInt16

def encapEthernet (config : DirectorConfig) : Bytes :=
  config.gatewayEtherAddr.val ++ (config.localEtherAddr.val ++
    u16le (htons etherTypeIpv4))

def encapIpv4 (config : DirectorConfig) (ctx : RouteContext) : Bytes :=
  [0x45, 0] ++ (u16le (htons (outerTotalLength ctx)) ++ (u16le 0 ++
    (u16le (htons 0x4000) ++ ([64, ipProtoUdp] ++ (u16le 0 ++
      (u32le config.localIpAddr ++ u32le (ctx.ipv4Hops.getD 0 0)))))))

def encapUdp (ctx : RouteContext) : Bytes :=
  u16le (htons (outerSrcPort ctx)) ++ (u16le (htons directorGuePort) ++
    (u16le (htons (outerUdpLength ctx)) ++ u16le 0))

def encapGue (ctx : RouteContext) : Bytes :=
  [UInt8.ofNat (1 + (ctx.ipv4Hops.length - 1)), ctx.fields.gueIpproto] ++
    (u16le 0 ++ (u16le 0 ++
      [0, UInt8.ofNat (ctx.ipv4Hops.length - 1)]))

def encapHops (ctx : RouteContext) : Bytes :=
  ((ctx.ipv4Hops.drop 1).map u32le).flatten

/-- The bytes `glb_encapsulate_packet` stores from `eth_hdr` on. -/
def glbEncapsulatePacket (config : DirectorConfig) (ctx : RouteContext) :
    Bytes :=
  encapEthernet config ++ (encapIpv4 config ctx ++ (encapUdp ctx ++
    (encapGue ctx ++ encapHops ctx)))

/-- The two checksum routines of the DPDK library. -/
structure RteChecksums where
  ipv4UdptcpCksum : Bytes → UInt16
  ipv4Cksum : Bytes → UInt16

def ipv4ChecksumOffset : ℕ := ethernetHdrSize + 10
def udpChecksumOffset : ℕ := ethernetHdrSize + ipv4HdrSize + 6

def glbChecksumOffloading (rte : RteChecksums) (frame : Bytes) : Bytes :=
  let withUdp := patch udpChecksumOffset
    (u16le (rte.ipv4UdptcpCksum (frame.drop ethernetHdrSize))) frame
  patch ipv4ChecksumOffset
    (u16le (rte.ipv4Cksum ((withUdp.drop ethernetHdrSize).take ipv4HdrSize)))
    withUdp

/-- The frame sent for a packet.  `rte_pktmbuf_adj` drops the Ethernet header
and `rte_pktmbuf_prepend` makes room, which is taken as zeroed. -/
def glbEncapsulatePacketDpdk (rte : RteChecksums) (config : DirectorConfig)
    (raw packet : Bytes) (table : ℕ) : Except RouteError Bytes := do
  let num ← orFail (numTables raw) .outsideConfig
  if table ≥ num.toNat then
    .error .tableOutOfRange
  else do
    let ctx ← glbCalculatePacketRoute config raw table packet
    let room := List.replicate (routeContextEncapSize ctx) 0
    let frame := patch 0 (glbEncapsulatePacket config ctx)
      (room ++ packet.drop ethernetHdrSize)
    return glbChecksumOffloading rte frame

/-! ## Sizes -/

theorem encapEthernet_length (config : DirectorConfig) :
    (encapEthernet config).length = ethernetHdrSize := by
  simp [encapEthernet, config.gatewayEtherAddr.2, config.localEtherAddr.2,
    ethernetHdrSize]

theorem encapIpv4_length (config : DirectorConfig) (ctx : RouteContext) :
    (encapIpv4 config ctx).length = ipv4HdrSize := by
  simp [encapIpv4, ipv4HdrSize]

theorem encapUdp_length (ctx : RouteContext) :
    (encapUdp ctx).length = udpHdrSize := by
  simp [encapUdp, udpHdrSize]

theorem encapGue_length (ctx : RouteContext) :
    (encapGue ctx).length = gueHdrSize := by
  simp [encapGue, gueHdrSize]

theorem encapHops_length (ctx : RouteContext) :
    (encapHops ctx).length = 4 * (ctx.ipv4Hops.length - 1) := by
  rw [encapHops, flatten_map_length u32le_length, List.length_drop]

/-- The macro reserves exactly the bytes that are written. -/
theorem glbEncapsulatePacket_length (config : DirectorConfig)
    (ctx : RouteContext) :
    (glbEncapsulatePacket config ctx).length =
      routeContextEncapSize ctx := by
  simp only [glbEncapsulatePacket, List.length_append,
    encapEthernet_length, encapIpv4_length, encapUdp_length,
    encapGue_length, encapHops_length, routeContextEncapSize]
  omega

/-! ## What a route is -/

theorem orFail_eq_ok_iff {α : Type} {value : Option α} {error : RouteError}
    {result : α} : orFail value error = .ok result ↔ value = some result := by
  cases value with
  | none => simp [orFail]
  | some found => simp [orFail]

/-- The row a packet is hashed to. -/
def hashIdx (build : ParserBuild) (fields : PacketFields) (secret : Bytes)
    (cfg : HashFields) : ℕ :=
  (glbComputeHash build fields secret cfg &&& glbFmtTableHashmask).toNat

/-- One successful call of `glb_add_packet_route`. -/
structure AddedRoute (raw : Bytes) (table : ℕ) (cfg : HashFields)
    (ctx routed : RouteContext) where
  secureKey : Bytes
  entry : FwdEntry
  primary : FwdBackend
  secondary : FwdBackend
  hkey : tableSecureKey raw table = some secureKey
  hentry : tableEntry raw table
    (hashIdx .dpdk ctx.fields secureKey cfg) = some entry
  hroom : ctx.ipv4Hops.length + 2 ≤ glbMaxHops
  hprimary : tableBackend raw table entry.primary.toNat = some primary
  hsecondary : tableBackend raw table entry.secondary.toNat =
    some secondary
  hrouted : routed = { ctx with
    pktHash := if ctx.ipv4Hops.length = 0 then
        glbComputeHash .dpdk ctx.fields secureKey cfg
      else ctx.pktHash
    ipv4Hops := ctx.ipv4Hops ++ [primary.ipv4Addr, secondary.ipv4Addr] }

theorem glbAddPacketRoute_eq_ok_iff {raw : Bytes} {table : ℕ}
    {ctx routed : RouteContext} {cfg : HashFields} :
    glbAddPacketRoute raw table ctx cfg = .ok routed ↔
      Nonempty (AddedRoute raw table cfg ctx routed) := by
  unfold glbAddPacketRoute
  simp only [bind_eq_ok_iff, orFail_eq_ok_iff]
  constructor
  · rintro ⟨secureKey, hkey, entry, hentry, hroute⟩
    split at hroute
    · cases hroute
    · rename_i hroom
      simp only [bind_eq_ok_iff, orFail_eq_ok_iff] at hroute
      obtain ⟨primary, hprimary, secondary, hsecondary, hrouted⟩ := hroute
      exact ⟨⟨secureKey, entry, primary, secondary, hkey, hentry,
        not_lt.mp hroom, hprimary, hsecondary,
        (Except.ok.inj hrouted).symm⟩⟩
  · rintro ⟨added⟩
    refine ⟨added.secureKey, added.hkey, added.entry, added.hentry, ?_⟩
    rw [if_neg (not_lt.mpr added.hroom)]
    simp only [bind_eq_ok_iff, orFail_eq_ok_iff]
    exact ⟨added.primary, added.hprimary, added.secondary,
      added.hsecondary, congrArg Except.ok added.hrouted.symm⟩

theorem glbCalculatePacketRoute_eq_ok_iff {config : DirectorConfig}
    {raw packet : Bytes} {table : ℕ} {routed : RouteContext} :
    glbCalculatePacketRoute config raw table packet = .ok routed ↔
      ∃ fields first, glbExtractPacketFields .dpdk packet = some fields ∧
        glbAddPacketRoute raw table
          { fields, ipv4Hops := [], pktHash := 0 } config.hashFields =
            .ok first ∧
        (if config.useAltHashFields then
          glbAddPacketRoute raw table first config.altHashFields = .ok routed
        else first = routed) := by
  unfold glbCalculatePacketRoute
  simp only [bind_eq_ok_iff, orFail_eq_ok_iff]
  cases config.useAltHashFields with
  | true => simp
  | false =>
      simp only [Bool.false_eq_true, if_false]
      constructor
      · rintro ⟨fields, hfields, first, hfirst, hrouted⟩
        exact ⟨fields, first, hfields, hfirst, Except.ok.inj hrouted⟩
      · rintro ⟨fields, first, hfields, hfirst, rfl⟩
        exact ⟨fields, hfields, first, hfirst, rfl⟩

/-- A route has the hops of one row, or of two. -/
theorem route_spec {config : DirectorConfig} {raw packet : Bytes}
    {table : ℕ} {routed : RouteContext}
    (hroute : glbCalculatePacketRoute config raw table packet =
      .ok routed) :
    glbExtractPacketFields .dpdk packet = some routed.fields ∧
      routed.ipv4Hops.length = if config.useAltHashFields then 4 else 2 := by
  obtain ⟨fields, first, hfields, hfirst, hrest⟩ :=
    glbCalculatePacketRoute_eq_ok_iff.mp hroute
  obtain ⟨added⟩ := glbAddPacketRoute_eq_ok_iff.mp hfirst
  have hfirstFields : first.fields = fields := by rw [added.hrouted]
  have hfirstHops : first.ipv4Hops.length = 2 := by
    rw [added.hrouted]
    rfl
  cases halt : config.useAltHashFields with
  | false =>
      rw [halt, if_neg Bool.false_ne_true] at hrest
      subst hrest
      exact ⟨hfields.trans (congrArg some hfirstFields.symm), hfirstHops⟩
  | true =>
      rw [halt, if_pos rfl] at hrest
      obtain ⟨second⟩ := glbAddPacketRoute_eq_ok_iff.mp hrest
      rw [second.hrouted]
      exact ⟨hfields.trans (congrArg some hfirstFields.symm),
        by simp [hfirstHops]⟩

theorem route_hops_le {config : DirectorConfig} {raw packet : Bytes}
    {table : ℕ} {routed : RouteContext}
    (hroute : glbCalculatePacketRoute config raw table packet =
      .ok routed) : routed.ipv4Hops.length ≤ glbMaxHops := by
  rw [(route_spec hroute).2]
  split <;> decide

theorem patch_room {header room : Bytes} (inner : Bytes)
    (hroom : header.length = room.length) :
    patch 0 header (room ++ inner) = header ++ inner :=
  show patch 0 header ([] ++ (room ++ inner)) = [] ++ (header ++ inner) from
    patch_middle inner rfl hroom

end GlbDirector
