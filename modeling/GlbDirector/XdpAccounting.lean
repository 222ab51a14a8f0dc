import GlbDirector.XdpEquivalence

/-!
# The counters of the XDP director (`glb_stats.h`)

The program with its counters, over lookups that may return `NULL` and a
`bpf_xdp_adjust_head` that may fail or leave anything in the new bytes.  A
parsed packet has an Ethernet header, so the moved start leaves room for the
whole encapsulation and none of the guards for the verifier drops a packet.
Every packet is therefore counted under one outcome, and the sums over the
outcomes follow for whole runs.
-/

namespace GlbDirector

open ByteCodec

/-! ## Counters -/

structure GlbGlobalStats where
  processed : UInt64 := 0
  unknownFormat : UInt64 := 0
  noMatchingBind : UInt64 := 0
  matched : UInt64 := 0
  encapsulated : UInt64 := 0
  encapsulatedBytes : UInt64 := 0
  errorTable : UInt64 := 0
  errorSecret : UInt64 := 0
  errorHashConfig : UInt64 := 0
  errorMissingRow : UInt64 := 0
  errorCreatingSpace : UInt64 := 0
  errorMissingGatewayMac : UInt64 := 0
  errorMissingSourceAddress : UInt64 := 0
  deriving DecidableEq

inductive GlbCounter where
  | processed
  | unknownFormat
  | noMatchingBind
  | matched
  | encapsulated
  | encapsulatedBytes
  | errorTable
  | errorSecret
  | errorHashConfig
  | errorMissingRow
  | errorCreatingSpace
  | errorMissingGatewayMac
  | errorMissingSourceAddress
  deriving DecidableEq

/-- One `+=` on a counter. -/
structure CounterRaise where
  counter : GlbCounter
  amount : UInt64
  deriving DecidableEq

def GlbGlobalStats.raise (stats : GlbGlobalStats) :
    CounterRaise → GlbGlobalStats
  | ⟨.processed, amount⟩ =>
      { stats with processed := stats.processed + amount }
  | ⟨.unknownFormat, amount⟩ =>
      { stats with unknownFormat := stats.unknownFormat + amount }
  | ⟨.noMatchingBind, amount⟩ =>
      { stats with noMatchingBind := stats.noMatchingBind + amount }
  | ⟨.matched, amount⟩ => { stats with matched := stats.matched + amount }
  | ⟨.encapsulated, amount⟩ =>
      { stats with encapsulated := stats.encapsulated + amount }
  | ⟨.encapsulatedBytes, amount⟩ =>
      { stats with encapsulatedBytes := stats.encapsulatedBytes + amount }
  | ⟨.errorTable, amount⟩ =>
      { stats with errorTable := stats.errorTable + amount }
  | ⟨.errorSecret, amount⟩ =>
      { stats with errorSecret := stats.errorSecret + amount }
  | ⟨.errorHashConfig, amount⟩ =>
      { stats with errorHashConfig := stats.errorHashConfig + amount }
  | ⟨.errorMissingRow, amount⟩ =>
      { stats with errorMissingRow := stats.errorMissingRow + amount }
  | ⟨.errorCreatingSpace, amount⟩ =>
      { stats with errorCreatingSpace := stats.errorCreatingSpace + amount }
  | ⟨.errorMissingGatewayMac, amount⟩ =>
      { stats with
        errorMissingGatewayMac := stats.errorMissingGatewayMac + amount }
  | ⟨.errorMissingSourceAddress, amount⟩ =>
      { stats with
        errorMissingSourceAddress :=
          stats.errorMissingSourceAddress + amount }

def GlbGlobalStats.raiseAll (stats : GlbGlobalStats)
    (raises : List CounterRaise) : GlbGlobalStats :=
  raises.foldl GlbGlobalStats.raise stats

/-! ## The program with its counters -/

/-- What the program finds while it handles one packet: the maps, which of the
lookups of `glb_global_packet_counters` and `config_bits` succeed, and the new
bytes that `bpf_xdp_adjust_head` puts in front when it returns 0. -/
structure XdpEnv where
  maps : XdpMaps
  counters : Bool
  found : Fin 5 → Bool
  adjustHead : (size : ℕ) → Option (ByteVec size)

def XdpEnv.configBits (env : XdpEnv) (bit : Fin 5) : Option Bytes :=
  if env.found bit then some (env.maps.configBits bit) else none

/-- `glb_encapsulate_packet`, guard by guard, with the counters it raises. -/
def countedEncapsulatePacket (env : XdpEnv) (ctx : RouteContext)
    (data : Bytes) : XdpAction × List CounterRaise :=
  match env.configBits gatewayMacBit with
  | none => (.drop, [⟨.errorMissingGatewayMac, 1⟩])
  | some _ =>
      if ethernetHdrSize + ipv4HdrSize > data.length then (.drop, [])
      else
        match env.configBits sourceIpBit with
        | none => (.drop, [⟨.errorMissingSourceAddress, 1⟩])
        | some _ =>
            if ethernetHdrSize + ipv4HdrSize + udpHdrSize > data.length then
              (.drop, [])
            else if xdpHopsOffset > data.length then (.drop, [])
            else if xdpHopsOffset + 4 * (ctx.ipv4Hops.length - 1) >
                data.length then (.drop, [])
            else
              let frame := storeHop ctx 3 (storeHop ctx 2 (storeHop ctx 1
                (patch 0 (xdpHeader env.maps ctx) data)))
              (.tx frame, [⟨.encapsulated, 1⟩, ⟨.encapsulatedBytes,
                (ntohs (fieldU16 (ethernetHdrSize + 2) frame)).toUInt64 +
                  UInt64.ofNat ethernetHdrSize⟩])

/-- From `bpf_xdp_adjust_head` on. -/
def countedSend (env : XdpEnv) (ctx : RouteContext) (packet : Bytes) :
    XdpAction × List CounterRaise :=
  match env.adjustHead (routeContextEncapSize ctx - ethernetHdrSize) with
  | none => (.drop, [⟨.errorCreatingSpace, 1⟩])
  | some space =>
      let data := space.val ++ packet
      if routeContextEncapSize ctx > data.length then (.drop, [])
      else countedEncapsulatePacket env ctx data

/-- From the lookup of the second hash configuration on. -/
def countedAltRow (env : XdpEnv) (table : XdpTable) (secret : Bytes)
    (ctx : RouteContext) (packet : Bytes) : XdpAction × List CounterRaise :=
  match env.configBits altHashFieldsBit with
  | none => (.pass, [⟨.errorHashConfig, 1⟩])
  | some value =>
      let alt := readHashFields value
      if alt.dstAddr || alt.dstPort || alt.srcAddr || alt.srcPort then
        match xdpRow table (glbComputeHash .xdp ctx.fields secret alt) with
        | none => (.pass, [⟨.errorMissingRow, 1⟩])
        | some row =>
            countedSend env
              { ctx with ipv4Hops := ctx.ipv4Hops ++ [row.1, row.2] } packet
      else countedSend env ctx packet

/-- From the lookup in `glb_tables` on. -/
def countedTable (env : XdpEnv) (fields : PacketFields) (tableId : UInt32)
    (packet : Bytes) : XdpAction × List CounterRaise :=
  match env.maps.glbTables tableId.toNat with
  | none => (.pass, [⟨.errorTable, 1⟩])
  | some table =>
      match env.maps.glbTableSecrets tableId.toNat with
      | none => (.pass, [⟨.errorSecret, 1⟩])
      | some secret =>
          match env.configBits hashFieldsBit with
          | none => (.pass, [⟨.errorHashConfig, 1⟩])
          | some value =>
              let hash := glbComputeHash .xdp fields secret
                (readHashFields value)
              match xdpRow table hash with
              | none => (.pass, [⟨.errorMissingRow, 1⟩])
              | some row =>
                  countedAltRow env table secret
                    { fields, ipv4Hops := [row.1, row.2], pktHash := hash }
                    packet

/-- `xdp_glb_director_process`, with the counters it raises in this order. -/
def countedProcess (env : XdpEnv) (packet : Bytes) :
    XdpAction × List CounterRaise :=
  if env.counters then
    match glbExtractPacketFields .xdp packet with
    | none => (.pass, [⟨.processed, 1⟩, ⟨.unknownFormat, 1⟩])
    | some fields =>
        match lookupBind env.maps.glbBinds (packetBind fields) with
        | none => (.pass, [⟨.processed, 1⟩, ⟨.noMatchingBind, 1⟩])
        | some tableId =>
            let result := countedTable env fields tableId packet
            (result.1, [⟨.processed, 1⟩, ⟨.matched, 1⟩] ++ result.2)
  else (.pass, [])

def countedDirectorProcess (env : XdpEnv) (packet : Bytes)
    (stats : GlbGlobalStats) : XdpAction × GlbGlobalStats :=
  let result := countedProcess env packet
  (result.1, stats.raiseAll result.2)

/-- The counters of a CPU after a sequence of packets. -/
def countedRun (stats : GlbGlobalStats) (packets : List (XdpEnv × Bytes)) :
    GlbGlobalStats :=
  packets.foldl (fun stats packet =>
    (countedDirectorProcess packet.1 packet.2 stats).2) stats

/-! ## Without failures it is the program of `XdpDirector` -/

/-- Every lookup finds its value and the new bytes are zero. -/
def XdpMaps.env (maps : XdpMaps) : XdpEnv where
  maps := maps
  counters := true
  found _ := true
  adjustHead size := some (ByteVec.zero size)

theorem XdpMaps.env_configBits (maps : XdpMaps) (bit : Fin 5) :
    maps.env.configBits bit = some (maps.configBits bit) := rfl

theorem countedEncapsulatePacket_action (maps : XdpMaps) (ctx : RouteContext)
    (data : Bytes) :
    (countedEncapsulatePacket maps.env ctx data).1 =
      xdpGlbEncapsulatePacket maps ctx data := by
  have hipv4 : ethernetHdrSize + ipv4HdrSize ≤ xdpHopsOffset := by decide
  have hudp : ethernetHdrSize + ipv4HdrSize + udpHdrSize ≤ xdpHopsOffset := by
    decide
  simp only [countedEncapsulatePacket, XdpMaps.env_configBits,
    xdpGlbEncapsulatePacket]
  by_cases hguard : xdpHopsOffset + 4 * (ctx.ipv4Hops.length - 1) >
      data.length
  · rw [if_pos hguard]
    split
    · rfl
    · split
      · rfl
      · split
        · rfl
        · rfl
  · rw [if_neg hguard, if_neg (by omega), if_neg (by omega),
      if_neg (by omega), if_neg hguard]
    rfl

theorem countedSend_action (maps : XdpMaps) (ctx : RouteContext)
    (packet : Bytes) :
    (countedSend maps.env ctx packet).1 = xdpSend maps ctx packet := by
  show (if _ then _ else _ : XdpAction × List CounterRaise).1 = _
  rw [apply_ite Prod.fst, countedEncapsulatePacket_action]
  rfl

theorem countedTable_action (maps : XdpMaps) (fields : PacketFields)
    (tableId : UInt32) (packet : Bytes) :
    (countedTable maps.env fields tableId packet).1 =
      xdpProcessTable maps packet fields tableId := by
  unfold xdpProcessTable xdpRoute countedTable
  cases htable : maps.glbTables tableId.toNat with
  | none =>
      rw [show maps.env.maps = maps from rfl, htable]
      rfl
  | some table =>
      cases hsecret : maps.glbTableSecrets tableId.toNat with
      | none =>
          rw [show maps.env.maps = maps from rfl, htable, hsecret]
          rfl
      | some secret =>
          simp only [show maps.env.maps = maps from rfl, htable, hsecret,
            XdpMaps.env_configBits, Option.bind_eq_bind, Option.bind_some]
          cases hrow : xdpRow table (glbComputeHash .xdp fields secret
              (readHashFields (maps.configBits 3))) with
          | none => rfl
          | some row =>
              simp only [countedAltRow, XdpMaps.env_configBits,
                Option.bind_some]
              split
              · cases xdpRow table (glbComputeHash .xdp fields secret
                    (readHashFields (maps.configBits 4))) with
                | none => rfl
                | some alt => exact countedSend_action maps _ packet
              · exact countedSend_action maps _ packet

theorem countedDirectorProcess_action (maps : XdpMaps) (packet : Bytes)
    (stats : GlbGlobalStats) :
    (countedDirectorProcess maps.env packet stats).1 =
      xdpGlbDirectorProcess maps packet := by
  show (countedProcess maps.env packet).1 = _
  unfold countedProcess xdpGlbDirectorProcess
  rw [if_pos (show maps.env.counters = true from rfl)]
  cases glbExtractPacketFields .xdp packet with
  | none => rfl
  | some fields =>
      simp only [show maps.env.maps = maps from rfl]
      cases lookupBind maps.glbBinds (packetBind fields) with
      | none => rfl
      | some tableId => exact countedTable_action maps fields tableId packet

/-! ## Outcomes -/

/-- How the program ends for a packet that matches a bind. -/
inductive MatchedOutcome where
  | errorTable
  | errorSecret
  | errorHashConfig
  | errorMissingRow
  | errorCreatingSpace
  | errorMissingGatewayMac
  | errorMissingSourceAddress
  | encapsulated (bytes : UInt64)
  deriving DecidableEq

inductive PacketOutcome where
  | unknownFormat
  | noMatchingBind
  | matched (outcome : MatchedOutcome)
  deriving DecidableEq

def MatchedOutcome.count (stats : GlbGlobalStats) :
    MatchedOutcome → GlbGlobalStats
  | errorTable => { stats with errorTable := stats.errorTable + 1 }
  | errorSecret => { stats with errorSecret := stats.errorSecret + 1 }
  | errorHashConfig =>
      { stats with errorHashConfig := stats.errorHashConfig + 1 }
  | errorMissingRow =>
      { stats with errorMissingRow := stats.errorMissingRow + 1 }
  | errorCreatingSpace =>
      { stats with errorCreatingSpace := stats.errorCreatingSpace + 1 }
  | errorMissingGatewayMac =>
      { stats with
        errorMissingGatewayMac := stats.errorMissingGatewayMac + 1 }
  | errorMissingSourceAddress =>
      { stats with
        errorMissingSourceAddress := stats.errorMissingSourceAddress + 1 }
  | encapsulated bytes =>
      { stats with
        encapsulated := stats.encapsulated + 1
        encapsulatedBytes := stats.encapsulatedBytes + bytes }

/-- The counters after a packet with this outcome. -/
def PacketOutcome.count (stats : GlbGlobalStats) :
    PacketOutcome → GlbGlobalStats
  | unknownFormat =>
      { stats with
        processed := stats.processed + 1
        unknownFormat := stats.unknownFormat + 1 }
  | noMatchingBind =>
      { stats with
        processed := stats.processed + 1
        noMatchingBind := stats.noMatchingBind + 1 }
  | matched outcome =>
      outcome.count { stats with
        processed := stats.processed + 1
        matched := stats.matched + 1 }

/-- The counters raised for the outcome, in the order of the program. -/
def MatchedOutcome.raises : MatchedOutcome → List CounterRaise
  | errorTable => [⟨.errorTable, 1⟩]
  | errorSecret => [⟨.errorSecret, 1⟩]
  | errorHashConfig => [⟨.errorHashConfig, 1⟩]
  | errorMissingRow => [⟨.errorMissingRow, 1⟩]
  | errorCreatingSpace => [⟨.errorCreatingSpace, 1⟩]
  | errorMissingGatewayMac => [⟨.errorMissingGatewayMac, 1⟩]
  | errorMissingSourceAddress => [⟨.errorMissingSourceAddress, 1⟩]
  | encapsulated bytes => [⟨.encapsulated, 1⟩, ⟨.encapsulatedBytes, bytes⟩]

def PacketOutcome.raises : PacketOutcome → List CounterRaise
  | unknownFormat => [⟨.processed, 1⟩, ⟨.unknownFormat, 1⟩]
  | noMatchingBind => [⟨.processed, 1⟩, ⟨.noMatchingBind, 1⟩]
  | matched outcome => [⟨.processed, 1⟩, ⟨.matched, 1⟩] ++ outcome.raises

theorem MatchedOutcome.raiseAll_raises (outcome : MatchedOutcome)
    (stats : GlbGlobalStats) :
    stats.raiseAll outcome.raises = outcome.count stats := by
  cases outcome <;> rfl

theorem PacketOutcome.raiseAll_raises (outcome : PacketOutcome)
    (stats : GlbGlobalStats) :
    stats.raiseAll outcome.raises = outcome.count stats := by
  cases outcome with
  | unknownFormat => rfl
  | noMatchingBind => rfl
  | matched outcome => exact outcome.raiseAll_raises _

/-- The outcome that the counters before and after a matched packet show. -/
def MatchedOutcome.shown (stats stats' : GlbGlobalStats) : MatchedOutcome :=
  if stats'.errorTable ≠ stats.errorTable then errorTable
  else if stats'.errorSecret ≠ stats.errorSecret then errorSecret
  else if stats'.errorHashConfig ≠ stats.errorHashConfig then errorHashConfig
  else if stats'.errorMissingRow ≠ stats.errorMissingRow then errorMissingRow
  else if stats'.errorCreatingSpace ≠ stats.errorCreatingSpace then
    errorCreatingSpace
  else if stats'.errorMissingGatewayMac ≠ stats.errorMissingGatewayMac then
    errorMissingGatewayMac
  else if stats'.errorMissingSourceAddress ≠
      stats.errorMissingSourceAddress then
    errorMissingSourceAddress
  else encapsulated (stats'.encapsulatedBytes - stats.encapsulatedBytes)

theorem MatchedOutcome.shown_count (stats : GlbGlobalStats)
    (outcome : MatchedOutcome) :
    shown stats (outcome.count stats) = outcome := by
  have hbytes : ∀ bytes, stats.encapsulatedBytes + bytes -
      stats.encapsulatedBytes = bytes := by
    intro bytes
    rw [UInt64.add_comm, UInt64.add_sub_cancel]
  cases outcome <;> simp [MatchedOutcome.shown, MatchedOutcome.count, hbytes]

theorem MatchedOutcome.count_injective (stats : GlbGlobalStats) :
    Function.Injective (MatchedOutcome.count stats) :=
  Function.LeftInverse.injective (MatchedOutcome.shown_count stats)

theorem MatchedOutcome.count_matched (stats : GlbGlobalStats)
    (outcome : MatchedOutcome) :
    (outcome.count stats).matched = stats.matched := by
  cases outcome <;> rfl

theorem PacketOutcome.count_injective (stats : GlbGlobalStats) :
    Function.Injective (PacketOutcome.count stats) := by
  have hmatched : ∀ outcome : MatchedOutcome,
      ((PacketOutcome.matched outcome).count stats).matched =
        stats.matched + 1 := by
    intro outcome
    exact outcome.count_matched _
  intro outcome outcome' hsame
  have hfield := congrArg GlbGlobalStats.matched hsame
  cases outcome with
  | unknownFormat =>
      cases outcome' with
      | unknownFormat => rfl
      | noMatchingBind => simp [PacketOutcome.count] at hsame
      | matched outcome' =>
          rw [hmatched] at hfield
          simp [PacketOutcome.count] at hfield
  | noMatchingBind =>
      cases outcome' with
      | unknownFormat => simp [PacketOutcome.count] at hsame
      | noMatchingBind => rfl
      | matched outcome' =>
          rw [hmatched] at hfield
          simp [PacketOutcome.count] at hfield
  | matched outcome =>
      cases outcome' with
      | unknownFormat =>
          rw [hmatched] at hfield
          simp [PacketOutcome.count] at hfield
      | noMatchingBind =>
          rw [hmatched] at hfield
          simp [PacketOutcome.count] at hfield
      | matched outcome' =>
          exact congrArg _ (MatchedOutcome.count_injective _ hsame)

/-! ## Every packet has an outcome -/

section Packet

variable (env : XdpEnv) {ctx : RouteContext}

/-- No guard stops a buffer with room for the encapsulation. -/
theorem exists_encapsulate_outcome {data : Bytes}
    (hroom : routeContextEncapSize ctx ≤ data.length) :
    ∃ outcome : MatchedOutcome,
      (countedEncapsulatePacket env ctx data).2 = outcome.raises := by
  have hsize : routeContextEncapSize ctx =
      xdpHopsOffset + 4 * (ctx.ipv4Hops.length - 1) := rfl
  have hipv4 : ethernetHdrSize + ipv4HdrSize ≤ xdpHopsOffset := by decide
  have hudp : ethernetHdrSize + ipv4HdrSize + udpHdrSize ≤ xdpHopsOffset := by
    decide
  unfold countedEncapsulatePacket
  split
  · exact ⟨.errorMissingGatewayMac, rfl⟩
  · rw [if_neg (by omega)]
    split
    · exact ⟨.errorMissingSourceAddress, rfl⟩
    · rw [if_neg (by omega), if_neg (by omega), if_neg (by omega)]
      exact ⟨.encapsulated _, rfl⟩

theorem exists_send_outcome {packet : Bytes}
    (hethernet : ethernetHdrSize ≤ packet.length) :
    ∃ outcome : MatchedOutcome,
      (countedSend env ctx packet).2 = outcome.raises := by
  unfold countedSend
  split
  · exact ⟨.errorCreatingSpace, rfl⟩
  · rename_i space _
    have hroom : routeContextEncapSize ctx ≤ (space.val ++ packet).length := by
      rw [List.length_append, space.property]
      omega
    simp only
    rw [if_neg (Nat.not_lt.mpr hroom)]
    exact exists_encapsulate_outcome env hroom

theorem exists_table_outcome {packet : Bytes} (fields : PacketFields)
    (tableId : UInt32) (hethernet : ethernetHdrSize ≤ packet.length) :
    ∃ outcome : MatchedOutcome,
      (countedTable env fields tableId packet).2 = outcome.raises := by
  unfold countedTable
  split
  · exact ⟨.errorTable, rfl⟩
  · split
    · exact ⟨.errorSecret, rfl⟩
    · split
      · exact ⟨.errorHashConfig, rfl⟩
      · simp only
        split
        · exact ⟨.errorMissingRow, rfl⟩
        · unfold countedAltRow
          split
          · exact ⟨.errorHashConfig, rfl⟩
          · simp only
            split
            · split
              · exact ⟨.errorMissingRow, rfl⟩
              · exact exists_send_outcome env hethernet
            · exact exists_send_outcome env hethernet

theorem exists_packet_outcome (packet : Bytes)
    (hcounters : env.counters = true) :
    ∃ outcome : PacketOutcome,
      (countedProcess env packet).2 = outcome.raises := by
  unfold countedProcess
  rw [if_pos hcounters]
  cases hfields : glbExtractPacketFields .xdp packet with
  | none => exact ⟨.unknownFormat, rfl⟩
  | some fields =>
      have hethernet := (glbExtractPacketFields_etherType hfields).1
      simp only
      cases lookupBind env.maps.glbBinds (packetBind fields) with
      | none => exact ⟨.noMatchingBind, rfl⟩
      | some tableId =>
          obtain ⟨outcome, houtcome⟩ :=
            exists_table_outcome env fields tableId hethernet
          exact ⟨.matched outcome, congrArg (_ ++ ·) houtcome⟩

/-- Which counters are raised does not depend on their values. -/
theorem exists_counted_outcome (packet : Bytes)
    (hcounters : env.counters = true) :
    ∃ outcome : PacketOutcome, ∀ stats,
      (countedDirectorProcess env packet stats).2 = outcome.count stats := by
  obtain ⟨outcome, houtcome⟩ := exists_packet_outcome env packet hcounters
  refine ⟨outcome, fun stats => ?_⟩
  rw [← outcome.raiseAll_raises, ← houtcome]
  rfl

end Packet

/-! ## Runs -/

/-- The two sums of the counters. -/
structure Balanced (stats : GlbGlobalStats) : Prop where
  hprocessed : stats.processed =
    stats.unknownFormat + stats.noMatchingBind + stats.matched
  hmatched : stats.matched =
    stats.encapsulated + stats.errorTable + stats.errorSecret +
      stats.errorHashConfig + stats.errorMissingRow +
      stats.errorCreatingSpace + stats.errorMissingGatewayMac +
      stats.errorMissingSourceAddress

theorem Balanced.count {stats : GlbGlobalStats} (hbalanced : Balanced stats)
    (outcome : PacketOutcome) : Balanced (outcome.count stats) := by
  obtain ⟨hprocessed, hmatched⟩ := hbalanced
  cases outcome with
  | unknownFormat =>
      refine ⟨?_, hmatched⟩
      simp only [PacketOutcome.count, hprocessed]
      ac_rfl
  | noMatchingBind =>
      refine ⟨?_, hmatched⟩
      simp only [PacketOutcome.count, hprocessed]
      ac_rfl
  | matched outcome =>
      cases outcome <;>
        (constructor
         · simp only [PacketOutcome.count, MatchedOutcome.count, hprocessed]
           ac_rfl
         · simp only [PacketOutcome.count, MatchedOutcome.count, hmatched]
           ac_rfl)

theorem Balanced.process {stats : GlbGlobalStats}
    (hbalanced : Balanced stats) (env : XdpEnv) (packet : Bytes) :
    Balanced (countedDirectorProcess env packet stats).2 := by
  by_cases hcounters : env.counters = true
  · obtain ⟨outcome, houtcome⟩ := exists_counted_outcome env packet hcounters
    rw [houtcome]
    exact hbalanced.count outcome
  · unfold countedDirectorProcess countedProcess
    rw [if_neg hcounters]
    exact hbalanced

theorem Balanced.run {stats : GlbGlobalStats} (hbalanced : Balanced stats)
    (packets : List (XdpEnv × Bytes)) :
    Balanced (countedRun stats packets) := by
  induction packets generalizing stats with
  | nil => exact hbalanced
  | cons packet packets ih => exact ih (hbalanced.process packet.1 packet.2)

theorem xdp_packet_accounting
    (packets : List (XdpEnv × Bytes)) :
    (countedRun {} packets).processed =
      (countedRun {} packets).unknownFormat +
        (countedRun {} packets).noMatchingBind +
        (countedRun {} packets).matched ∧
    (countedRun {} packets).matched =
      (countedRun {} packets).encapsulated +
        (countedRun {} packets).errorTable +
        (countedRun {} packets).errorSecret +
        (countedRun {} packets).errorHashConfig +
        (countedRun {} packets).errorMissingRow +
        (countedRun {} packets).errorCreatingSpace +
        (countedRun {} packets).errorMissingGatewayMac +
        (countedRun {} packets).errorMissingSourceAddress ∧
    ∀ (env : XdpEnv) (packet : Bytes) (stats : GlbGlobalStats),
      env.counters = true →
      ∃! outcome : PacketOutcome,
        (countedDirectorProcess env packet stats).2 = outcome.count stats := by
  have hstart : Balanced {} := ⟨by decide, by decide⟩
  have hbalanced := hstart.run packets
  refine ⟨hbalanced.hprocessed, hbalanced.hmatched, ?_⟩
  intro env packet stats hcounters
  obtain ⟨outcome, houtcome⟩ := exists_counted_outcome env packet hcounters
  refine ⟨outcome, houtcome stats, fun other hother => ?_⟩
  exact PacketOutcome.count_injective stats
    (hother.symm.trans (houtcome stats))

/-! ## A packet that is encapsulated -/

/-- All rows name the same two proxies. -/
def twoHopRows : XdpTable :=
  List.replicate glbFmtTableEntries
    (wordU32 [10, 0, 0, 1], wordU32 [10, 0, 0, 2])

def servingMaps : XdpMaps :=
  { syncConfigMap migratingXdp freshMaps with
    glbBinds := [(⟨wordU32 [1, 1, 1, 1], List.replicate 16 0, 6,
      htons 80⟩, 0)]
    glbTables := fun _ => some twoHopRows }

theorem xdpRow_twoHopRows (hash : UInt64) :
    xdpRow twoHopRows hash =
      some (wordU32 [10, 0, 0, 1], wordU32 [10, 0, 0, 2]) := by
  have hlt : (hash &&& glbFmtTableHashmask).toNat < glbFmtTableEntries := by
    rw [UInt64.toNat_and]
    exact Nat.and_lt_two_pow _ (n := 16) (by decide)
  rw [xdpRow, twoHopRows, List.getElem?_replicate, if_pos hlt]

/-- With every lookup found, what is sent is counted as encapsulated. -/
theorem countedSend_env (maps : XdpMaps) (ctx : RouteContext) {packet : Bytes}
    (hethernet : ethernetHdrSize ≤ packet.length) :
    ∃ bytes, (countedSend maps.env ctx packet).2 =
      (MatchedOutcome.encapsulated bytes).raises := by
  have hadjust (size : ℕ) :
      maps.env.adjustHead size = some (ByteVec.zero size) := rfl
  have hsize : routeContextEncapSize ctx =
      xdpHopsOffset + 4 * (ctx.ipv4Hops.length - 1) := rfl
  have hipv4 : ethernetHdrSize + ipv4HdrSize ≤ xdpHopsOffset := by decide
  have hudp : ethernetHdrSize + ipv4HdrSize + udpHdrSize ≤ xdpHopsOffset := by
    decide
  simp only [countedSend, hadjust, countedEncapsulatePacket,
    XdpMaps.env_configBits, List.length_append, (ByteVec.zero _).property]
  rw [if_neg (by omega), if_neg (by omega), if_neg (by omega),
    if_neg (by omega), if_neg (by omega)]
  exact ⟨_, rfl⟩

theorem countedProcess_samplePacket :
    ∃ bytes, (countedProcess servingMaps.env samplePacket).2 =
      (PacketOutcome.matched (.encapsulated bytes)).raises := by
  obtain ⟨fields, hfields⟩ : ∃ fields,
      glbExtractPacketFields .xdp samplePacket = some fields :=
    Option.isSome_iff_exists.mp (by decide +kernel)
  have hbind : (glbExtractPacketFields .xdp samplePacket).bind (fun fields =>
      lookupBind servingMaps.env.maps.glbBinds (packetBind fields)) =
        some 0 := by
    decide +kernel
  rw [hfields, Option.bind_some] at hbind
  have htable : servingMaps.env.maps.glbTables (0 : UInt32).toNat =
      some twoHopRows := rfl
  have hsecret : servingMaps.env.maps.glbTableSecrets (0 : UInt32).toNat =
      some (List.replicate 16 0) := rfl
  have halt : (readHashFields
      (servingMaps.configBits altHashFieldsBit)).srcAddr = true := by
    decide +kernel
  unfold countedProcess
  rw [if_pos (show servingMaps.env.counters = true from rfl), hfields]
  simp only [hbind, countedTable, htable, hsecret, XdpMaps.env_configBits,
    xdpRow_twoHopRows, countedAltRow, halt, Bool.or_true, Bool.true_or,
    if_true]
  obtain ⟨bytes, hbytes⟩ := countedSend_env servingMaps ⟨fields, _, _⟩
    (show ethernetHdrSize ≤ samplePacket.length by decide)
  exact ⟨bytes, congrArg (_ ++ ·) hbytes⟩

theorem xdp_packet_accounting_samplePacket :
    servingMaps.env.counters = true ∧
      (countedDirectorProcess servingMaps.env samplePacket
        {}).2.encapsulated = 1 ∧
      ∃! outcome : PacketOutcome,
        (countedDirectorProcess servingMaps.env samplePacket {}).2 =
          outcome.count {} := by
  refine ⟨rfl, ?_,
    (xdp_packet_accounting []).2.2 servingMaps.env samplePacket {} rfl⟩
  obtain ⟨bytes, hbytes⟩ := countedProcess_samplePacket
  show (GlbGlobalStats.raiseAll {} (countedProcess servingMaps.env
    samplePacket).2).encapsulated = 1
  rw [hbytes]
  rfl

end GlbDirector
