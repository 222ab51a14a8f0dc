import Mathlib.Data.UInt
import GlbDirector.Encap

/-!
# The XDP director (`bpf/glb_encap.c`, `main.go`)

The loader expands the forwarding table into BPF maps and the program looks
each packet up in them.  A lookup in `config_bits`, an array map of five
values, never fails; the counters and traces of the program are left out.
-/

namespace GlbDirector

open ByteCodec

def bpfMaxBinds : ℕ := 4096
def glbTablesMaxEntries : ℕ := 4096
def glbGuePort : UInt16 := 19523

structure GlbBind where
  ipv4 : UInt32
  ipv6 : Bytes
  proto : UInt16
  port : UInt16
  deriving DecidableEq

/-- The rows of an inner map, primary and secondary hop. -/
abbrev XdpTable := List (UInt32 × UInt32)

structure XdpMaps where
  configBits : Fin 5 → Bytes
  glbBinds : List (GlbBind × UInt32)
  glbTables : ℕ → Option XdpTable
  glbTableSecrets : ℕ → Option Bytes

/-! The entries of `config_bits` that the program reads. -/

abbrev gatewayMacBit : Fin 5 := 0
abbrev sourceIpBit : Fin 5 := 1
abbrev hashFieldsBit : Fin 5 := 3
abbrev altHashFieldsBit : Fin 5 := 4

/-! ## `SyncConfigMap` -/

/-- `GLBDirectorConfig`, with the two addresses parsed. -/
structure XdpConfig where
  outboundGatewayMac : ByteVec 6
  outboundSourceIp : ByteVec 4
  forwardIcmpPingResponses : Bool
  hashFields : Option HashFields
  altHashFields : Option HashFields

def defaultHashFields : HashFields := ⟨true, false, false, false⟩
def noHashFields : HashFields := ⟨false, false, false, false⟩

/-- The maps of a program that was just loaded. -/
def freshMaps : XdpMaps where
  configBits _ := List.replicate 6 0
  glbBinds := []
  glbTables _ := none
  glbTableSecrets i :=
    if i < glbTablesMaxEntries then some (List.replicate 16 0) else none

def boolToC (a : Bool) : UInt8 := if a then 1 else 0

def hashFieldsBytes (fields : HashFields) : Bytes :=
  [boolToC fields.srcAddr, boolToC fields.dstAddr, boolToC fields.srcPort,
    boolToC fields.dstPort, 0, 0]

/-- The first three values share one buffer. -/
def syncConfigMap (config : XdpConfig) (maps : XdpMaps) : XdpMaps :=
  let mac := config.outboundGatewayMac.val
  let source := config.outboundSourceIp.val ++ mac.drop 4
  let icmp := boolToC config.forwardIcmpPingResponses :: source.drop 1
  { maps with
    configBits := ![mac, source, icmp,
      hashFieldsBytes (config.hashFields.getD defaultHashFields),
      hashFieldsBytes (config.altHashFields.getD noHashFields)] }

/-! ## `ReloadForwardingTable` -/

inductive LoadError where
  /-- `create_glb_fwd_config` exits. -/
  | badConfig
  | indexOutOfRange
  | maxBindsReached
  | mapPut
  deriving DecidableEq, Repr

def orLoadError {α : Type} (value : Option α) (error : LoadError) :
    Except LoadError α :=
  match value with
  | some result => .ok result
  | none => .error error

/-- Go checks the index against the array of `GLB_FMT_MAX_NUM_BACKENDS`. -/
def backendIpv4 (raw : Bytes) (table : ℕ) (index : UInt32) :
    Except LoadError UInt32 :=
  if index.toNat < glbFmtMaxNumBackends then do
    let backend ← orLoadError (tableBackend raw table index.toNat) .badConfig
    return backend.ipv4Addr
  else .error .indexOutOfRange

def rowIps (raw : Bytes) (table e : ℕ) : Except LoadError (UInt32 × UInt32) :=
  do
    let entry ← orLoadError (tableEntry raw table e) .badConfig
    let primary ← backendIpv4 raw table entry.primary
    let secondary ← backendIpv4 raw table entry.secondary
    return (primary, secondary)

def loadRows (raw : Bytes) (table : ℕ) : Except LoadError XdpTable :=
  (List.range glbFmtTableEntries).mapM (rowIps raw table)

def getBindIpv4 (bind : FwdBind) : UInt32 :=
  if bind.family = familyIpv4 then wordU32 (bind.ipv6Addr.take 4) else 0

def getBindIpv6 (bind : FwdBind) : Bytes :=
  if bind.family = familyIpv6 then bind.ipv6Addr else List.replicate 16 0

def getBindIcmpProto (bind : FwdBind) : UInt16 :=
  if bind.family = familyIpv4 then ipProtoIcmpv4.toUInt16
  else ipProtoIcmpv6.toUInt16

/-- `Put` on `glb_binds` replaces a value or takes a free entry. -/
def putBind (key : GlbBind) (tableIndex : UInt32)
    (binds : List (GlbBind × UInt32)) :
    Except LoadError (List (GlbBind × UInt32)) :=
  if binds.any fun entry => entry.1 = key then
    .ok (binds.map fun entry =>
      if entry.1 = key then (key, tableIndex) else entry)
  else if binds.length < bpfMaxBinds then .ok (binds ++ [(key, tableIndex)])
  else .error .mapPut

/-- The loop over the ports of a bind; `left` is what `total_binds_count` is
short of `max_binds`, and the port is a `uint16`. -/
def putBindPorts (bind : FwdBind) (tableIndex : UInt32) :
    ℕ → UInt16 → List (GlbBind × UInt32) →
      Except LoadError (List (GlbBind × UInt32) × ℕ)
  | 0, p, binds =>
      if p ≤ bind.portEnd then .error .maxBindsReached else .ok (binds, 0)
  | left + 1, p, binds =>
      if p ≤ bind.portEnd then do
        let binds ← putBind
          { ipv4 := getBindIpv4 bind, ipv6 := getBindIpv6 bind
            proto := bind.proto.toUInt16, port := htons p } tableIndex binds
        putBindPorts bind tableIndex left (p + 1) binds
      else .ok (binds, left + 1)

def loadBind (raw : Bytes) (table : ℕ)
    (state : List (GlbBind × UInt32) × ℕ) (b : ℕ) :
    Except LoadError (List (GlbBind × UInt32) × ℕ) := do
  let bind ← orLoadError (tableBind raw table b) .badConfig
  let (binds, left) ← putBindPorts bind (UInt32.ofNat table) state.2
    bind.portStart state.1
  if left = 0 then
    .error .maxBindsReached
  else do
    let binds ← putBind
      { ipv4 := getBindIpv4 bind, ipv6 := getBindIpv6 bind
        proto := getBindIcmpProto bind, port := 0 } (UInt32.ofNat table) binds
    return (binds, left - 1)

def loadTable (raw : Bytes) (state : XdpMaps × ℕ) (i : ℕ) :
    Except LoadError (XdpMaps × ℕ) := do
  let rows ← loadRows raw i
  if i ≥ glbTablesMaxEntries then
    .error .mapPut
  else do
    let secret ← orLoadError (tableSecureKey raw i) .badConfig
    let numBinds ← orLoadError (tableNumBinds raw i) .badConfig
    let (binds, left) ← (List.range numBinds.toNat).foldlM (loadBind raw i)
      (state.1.glbBinds, state.2)
    return ({ state.1 with
      glbBinds := binds
      glbTables := Function.update state.1.glbTables i (some rows)
      glbTableSecrets :=
        Function.update state.1.glbTableSecrets i (some secret) }, left)

def reloadForwardingTable (raw : Bytes) (maps : XdpMaps) :
    Except LoadError XdpMaps := do
  if checkConfig raw ≠ some (.ok ()) then
    .error .badConfig
  else do
    let num ← orLoadError (numTables raw) .badConfig
    let (maps, _) ← (List.range num.toNat).foldlM (loadTable raw)
      (maps, bpfMaxBinds)
    return maps

/-! ## The program -/

inductive XdpAction where
  | pass
  | drop
  | tx (frame : Bytes)
  deriving DecidableEq

def readHashFields (value : Bytes) : HashFields where
  srcAddr := fieldU8 0 value ≠ 0
  dstAddr := fieldU8 1 value ≠ 0
  srcPort := fieldU8 2 value ≠ 0
  dstPort := fieldU8 3 value ≠ 0

def packetBind (fields : PacketFields) : GlbBind where
  ipv4 := if fields.etherType = etherTypeIpv4 then wordU32 fields.dstAddr
    else 0
  ipv6 := if fields.etherType = etherTypeIpv4 then List.replicate 16 0
    else fields.dstAddr
  proto := fields.originalIpproto.toUInt16
  port := fields.dstPort

def lookupBind (binds : List (GlbBind × UInt32)) (key : GlbBind) :
    Option UInt32 :=
  (binds.find? fun entry => entry.1 = key).map Prod.snd

def computeIpv4Checksum (iph : Bytes) : UInt16 :=
  let csum : UInt64 := ((List.range 10).map fun i =>
    (fieldU16 (2 * i) iph).toUInt64).sum
  let csum : UInt64 := (csum &&& (0xffff : UInt64)) + (csum >>> (16 : UInt64))
  (~~~csum).toUInt16

def xdpEthernet (maps : XdpMaps) (ctx : RouteContext) : Bytes :=
  maps.configBits 0 ++ (ctx.fields.origDstMac ++ u16le (htons etherTypeIpv4))

def xdpIpv4 (maps : XdpMaps) (ctx : RouteContext) (checksum : UInt16) :
    Bytes :=
  [0x45, 0] ++ (u16le (htons (UInt16.ofNat (ipv4HdrSize + udpHdrSize +
      gueHdrSize + 4 * (ctx.ipv4Hops.length - 1) +
      ctx.fields.ipTotalLength.toNat))) ++ (u16le 0 ++
    (u16le (htons 0x4000) ++ ([64, ipProtoUdp] ++ (u16le checksum ++
      (u32le (fieldU32 0 (maps.configBits 1)) ++
        u32le (ctx.ipv4Hops.getD 0 0)))))))

def xdpUdp (ctx : RouteContext) : Bytes :=
  u16le (htons (0x8000 ||| ((ctx.pktHash ^^^
      ctx.fields.flowHashHint.toUInt64) &&& 0x7fff).toUInt16)) ++
    (u16le (htons glbGuePort) ++
      (u16le (htons (UInt16.ofNat (udpHdrSize + gueHdrSize +
        4 * (ctx.ipv4Hops.length - 1) + ctx.fields.ipTotalLength.toNat))) ++
        u16le 0))

def xdpGue (ctx : RouteContext) : Bytes :=
  [UInt8.ofNat (1 + (ctx.ipv4Hops.length - 1)), ctx.fields.gueIpproto] ++
    (u16le 0 ++ (u16le 0 ++
      [0, UInt8.ofNat (ctx.ipv4Hops.length - 1)]))

def xdpHeader (maps : XdpMaps) (ctx : RouteContext) : Bytes :=
  xdpEthernet maps ctx ++ (xdpIpv4 maps ctx
    (computeIpv4Checksum (xdpIpv4 maps ctx 0)) ++ (xdpUdp ctx ++ xdpGue ctx))

def xdpHopsOffset : ℕ := ethernetHdrSize + ipv4HdrSize + udpHdrSize + gueHdrSize

/-- One of the three unrolled hop copies. -/
def storeHop (ctx : RouteContext) (index : ℕ) (data : Bytes) : Bytes :=
  if index ≤ ctx.ipv4Hops.length - 1 ∧
      xdpHopsOffset + 4 * index ≤ data.length then
    patch (xdpHopsOffset + 4 * (index - 1))
      (u32le (ctx.ipv4Hops.getD index 0)) data
  else data

/-- `glb_encapsulate_packet` on the packet buffer.  The verifier guards for
the single headers are weaker than the one for the hops. -/
def xdpGlbEncapsulatePacket (maps : XdpMaps) (ctx : RouteContext)
    (data : Bytes) : XdpAction :=
  if xdpHopsOffset + 4 * (ctx.ipv4Hops.length - 1) > data.length then .drop
  else
    .tx (storeHop ctx 3 (storeHop ctx 2 (storeHop ctx 1
      (patch 0 (xdpHeader maps ctx) data))))

/-- The rest of `xdp_glb_director_process` once the route is known;
`bpf_xdp_adjust_head` succeeds and its new bytes are taken as zeroed. -/
def xdpSend (maps : XdpMaps) (ctx : RouteContext) (packet : Bytes) :
    XdpAction :=
  let data := List.replicate
    (routeContextEncapSize ctx - ethernetHdrSize) 0 ++ packet
  if routeContextEncapSize ctx > data.length then .drop
  else xdpGlbEncapsulatePacket maps ctx data

def xdpRow (table : XdpTable) (hash : UInt64) : Option (UInt32 × UInt32) :=
  table[(hash &&& glbFmtTableHashmask).toNat]?

/-- The hops of a packet from the lookup in `glb_tables` on; `none` where the
program passes it. -/
def xdpRoute (maps : XdpMaps) (fields : PacketFields) (tableId : UInt32) :
    Option RouteContext := do
  let table ← maps.glbTables tableId.toNat
  let secret ← maps.glbTableSecrets tableId.toNat
  let hash := glbComputeHash .xdp fields secret
    (readHashFields (maps.configBits 3))
  let row ← xdpRow table hash
  let ctx : RouteContext :=
    { fields, ipv4Hops := [row.1, row.2], pktHash := hash }
  let alt := readHashFields (maps.configBits 4)
  if alt.dstAddr || alt.dstPort || alt.srcAddr || alt.srcPort then do
    let row ← xdpRow table (glbComputeHash .xdp fields secret alt)
    return { ctx with ipv4Hops := ctx.ipv4Hops ++ [row.1, row.2] }
  else
    return ctx

/-- `xdp_glb_director_process` once the bind has given a table. -/
def xdpProcessTable (maps : XdpMaps) (packet : Bytes)
    (fields : PacketFields) (tableId : UInt32) : XdpAction :=
  match xdpRoute maps fields tableId with
  | none => .pass
  | some ctx => xdpSend maps ctx packet

def xdpGlbDirectorProcess (maps : XdpMaps) (packet : Bytes) : XdpAction :=
  match glbExtractPacketFields .xdp packet with
  | none => .pass
  | some fields =>
      match lookupBind maps.glbBinds (packetBind fields) with
      | none => .pass
      | some tableId => xdpProcessTable maps packet fields tableId

end GlbDirector
