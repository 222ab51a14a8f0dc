import GlbDirector.ProxyTransitions
import GlbDirector.SameFlow

/-!
# Connections across table changes

A cluster is a director with its current table and the sockets of the proxies.
While it runs, one proxy at a time may be added, drained, removed or change its
health, clients open connections and proxies close them.  The proxy that accepts
a SYN is the primary of its row, so at most the changing proxy ever undercuts
it; hence it stays one of the two hops of every later table it is part of, and
the second-chance walk finds it.
-/

namespace GlbDirector

open ByteCodec RankedPair FallbackChain

/-! ## Connections and sockets -/

/-- A connection, by the tuple of its client-to-VIP direction. -/
structure Connection where
  family : IpFamily
  tuple : FlowTuple
  deriving DecidableEq

/-- A TCP packet of the connection or a path-MTU error about it, with what a
proxy finds in it. -/
structure Connection.Packet (conn : Connection) (packet : Bytes)
    (ip : InnerIp) (th : Bytes) : Prop where
  hflow : FlowPacket conn.family packet conn.tuple
  hwalk : (conn.family.parsedFields packet).innerPacket
    (packet.drop ethernetHdrSize) = .flow ip th

/-- A kernel whose established sockets are those of `opened`. -/
def LocalStack.withSockets (kernel : LocalStack) (opened : Connection → Bool) :
    LocalStack :=
  { kernel with
    lookupEstablished := fun saddr source daddr dest =>
      opened ⟨.ipv4, ⟨u32le saddr, u32le daddr, source, dest⟩⟩
    lookupEstablished6 := fun saddr source daddr hnum =>
      opened ⟨.ipv6, ⟨saddr, daddr, source, htons hnum⟩⟩ }

/-- No listener of the node asks for SYN cookies. -/
structure LocalStack.NoCookies (stack : LocalStack) : Prop where
  v4 : ∀ saddr source daddr dest,
    wantCookie (stack.lookupListener saddr source daddr dest) = false
  v6 : ∀ saddr source daddr dest,
    wantCookie (stack.lookupListener6 saddr source daddr dest) = false

theorem isValidLocally_of_noCookies {stack : LocalStack}
    (hcookies : stack.NoCookies) (ip : InnerIp) (th : Bytes) :
    isValidLocally stack ip th =
      stack.established ip.family (ip.tuple th) := by
  cases hestablished : stack.established ip.family (ip.tuple th) with
  | true => exact isValidLocally_of_established hestablished
  | false =>
      have hunknown : ¬ stack.established ip.family (ip.tuple th) = true := by
        rw [hestablished]
        decide
      cases ip with
      | v4 iph =>
          refine (if_neg hunknown).trans ?_
          simp only [hcookies.v4, Bool.false_and, ite_self]
      | v6 iph =>
          refine (if_neg hunknown).trans ?_
          simp only [hcookies.v6, Bool.false_and, ite_self]

section Packet

variable {conn : Connection} {packet th : Bytes} {ip : InnerIp}

theorem FlowPacket.addr_length {family : IpFamily} {tuple : FlowTuple}
    (hflow : FlowPacket family packet tuple) :
    tuple.srcAddr.length = family.addrSize ∧
      tuple.dstAddr.length = family.addrSize := by
  have hinside (base : ℕ)
      (hports : base + family.hdrSize + l4PortsHdrSize ≤ packet.length) :
      (headerTuple family packet base).srcAddr.length = family.addrSize ∧
        (headerTuple family packet base).dstAddr.length =
          family.addrSize := by
    have hsize : family.dstOffset + family.addrSize = family.hdrSize := by
      cases family <;> rfl
    rw [IpFamily.dstOffset] at hsize
    simp only [headerTuple, fieldBytes, IpFamily.dstOffset, List.length_take,
      List.length_drop]
    omega
  cases hflow with
  | plain hplain => exact hinside _ hplain.htransport.hports
  | pathMtu herror => exact (hinside _ herror.hquoted.hports).symm

/-- The proxy looks a packet of a flow up by the flow's tuple. -/
theorem FlowPacket.walked_tuple {family : IpFamily} {tuple : FlowTuple}
    (hflow : FlowPacket family packet tuple)
    (hwalk : (family.parsedFields packet).innerPacket
      (packet.drop ethernetHdrSize) = .flow ip th) :
    ip.tuple th = tuple := by
  obtain ⟨hfields, htuple, _⟩ := hflow.parsed .dpdk
  rw [← family.parsedFields_tuple] at htuple
  refine Eq.trans (Eq.symm ?_) htuple
  cases hflow with
  | plain hplain =>
      exact same_flow_of_noOptions hplain.hether hfields hwalk
        hplain.htransport.hoptions
        fun hicmp => absurd hicmp hplain.htransport.not_icmp
  | pathMtu herror =>
      exact same_flow_of_noOptions herror.hether hfields hwalk
        herror.hoptions fun _ => herror.hquoted.hoptions

/-- A walk through IPv4 headers yields an IPv4 header. -/
theorem innerIpv4_family {skb : Bytes} {ofs : ℕ}
    (hwalk : innerIpv4 skb ofs = .flow ip th) : ip.family = .ipv4 := by
  unfold innerIpv4 at hwalk
  dsimp only at hwalk
  repeat' split at hwalk
  all_goals cases hwalk
  all_goals rfl

theorem innerIpv6_family {skb : Bytes} {ofs : ℕ}
    (hwalk : innerIpv6 skb ofs = .flow ip th) : ip.family = .ipv6 := by
  unfold innerIpv6 at hwalk
  dsimp only at hwalk
  repeat' split at hwalk
  all_goals cases hwalk
  all_goals rfl

theorem walked_family {family : IpFamily}
    (hwalk : (family.parsedFields packet).innerPacket
      (packet.drop ethernetHdrSize) = .flow ip th) :
    ip.family = family := by
  cases family with
  | ipv4 => exact innerIpv4_family hwalk
  | ipv6 => exact innerIpv6_family hwalk

theorem Connection.Packet.isValidLocally_iff
    (hpacket : conn.Packet packet ip th) {kernel : LocalStack}
    (hcookies : kernel.NoCookies) (opened : Connection → Bool) :
    isValidLocally (kernel.withSockets opened) ip th = opened conn := by
  have hsockets : (kernel.withSockets opened).NoCookies :=
    ⟨hcookies.v4, hcookies.v6⟩
  rw [isValidLocally_of_noCookies hsockets, walked_family hpacket.hwalk,
    hpacket.hflow.walked_tuple hpacket.hwalk]
  obtain ⟨family, tuple⟩ := conn
  obtain ⟨hsrc, hdst⟩ := hpacket.hflow.addr_length
  cases family with
  | ipv4 =>
      show opened ⟨.ipv4, ⟨u32le (wordU32 tuple.srcAddr),
        u32le (wordU32 tuple.dstAddr), tuple.srcPort, tuple.dstPort⟩⟩ = _
      rw [u32le_wordU32 hsrc, u32le_wordU32 hdst]
  | ipv6 =>
      show opened ⟨.ipv6, ⟨tuple.srcAddr, tuple.dstAddr, tuple.srcPort,
        htons (ntohs tuple.dstPort)⟩⟩ = _
      rw [htons, ntohs_ntohs]

end Packet

/-! ## The cluster -/

/-- What stays the same while one proxy changes: the director, the kernels of
the proxies, the two keys of the table and its settled backends.  In the rows
of `rows` no two keys collide. -/
structure Episode where
  config : DirectorConfig
  hsingle : config.useAltHashFields = false
  rte : RteChecksums
  kernel : UInt32 → LocalStack
  hcookies : ∀ node, (kernel node).NoCookies
  seed : ByteVec 16
  hashKey : ByteVec 16
  front : List LoadedBackend
  back : List LoadedBackend
  hsettled : ∀ backend ∈ front ++ back, backend.Settled
  rows : ℕ → Prop

def Episode.addresses (episode : Episode) : Finset Address :=
  ((episode.front ++ episode.back).map LoadedBackend.address).toFinset

/-- A table that `build-config` has written from the settled backends and at
most one proxy in any state and health. -/
structure Deployment (episode : Episode) where
  garbage : StackGarbage
  sort : BackendSort
  root : Json
  writes : List Bytes
  inputs : List TableInput
  table : ℕ
  input : TableInput
  guest : Option LoadedBackend
  hbuild : buildConfig garbage sort root = .ok writes
  hinputs : buildInputs garbage root = .ok inputs
  hnum : inputs.length < 2 ^ 32
  hinput : inputs[table]? = some input
  hseed : input.seed = episode.seed
  hhashKey : input.hashKey = episode.hashKey
  hused : input.backends.used =
    episode.front ++ guest.toList ++ episode.back
  hipv4 : ∀ backend ∈ input.backends.used,
    ∃ octets, backend.address = .v4 octets
  hnodup : (input.backends.used.map LoadedBackend.address).Nodup
  htwo : 2 ≤ input.available.length
  hdistinct : ∀ r, episode.rows r → input.KeysDistinct r

structure Cluster (episode : Episode) where
  deployed : Deployment episode
  sockets : UInt32 → Connection → Bool

variable {episode : Episode}

def Deployment.file (deployed : Deployment episode) : Bytes :=
  fileOf deployed.writes

namespace Cluster

def nodes (cluster : Cluster episode) (node : UInt32) : LocalStack :=
  (episode.kernel node).withSockets (cluster.sockets node)

/-- The director sends the packet on, and the proxies it visits leave it with
`node`. -/
def Delivers (cluster : Cluster episode) (packet : Bytes) (node : UInt32) :
    Prop :=
  ∃ sent, glbEncapsulatePacketDpdk episode.rte episode.config
      cluster.deployed.file packet cluster.deployed.table = .ok sent ∧
    ∀ extra, deliver cluster.nodes (2 + extra) (sent.drop ethernetHdrSize) =
      .accepted node

def setSocket (cluster : Cluster episode) (node : UInt32)
    (conn : Connection) (opened : Bool) : Cluster episode :=
  { cluster with
    sockets := Function.update cluster.sockets node
      (Function.update (cluster.sockets node) conn opened) }

end Cluster

/-- The fields of a connection's packets that a hash can select. -/
def Connection.fields (conn : Connection) : PacketFields where
  etherType := conn.family.etherType
  origDstMac := []
  ipTotalLength := 0
  srcAddr := conn.tuple.srcAddr
  dstAddr := conn.tuple.dstAddr
  srcPort := conn.tuple.srcPort
  dstPort := conn.tuple.dstPort
  flowHashHint := 0
  gueIpproto := conn.family.gueProto
  originalIpproto := ipProtoTcp

def Episode.row (episode : Episode) (conn : Connection) : ℕ :=
  hashIdx .dpdk conn.fields episode.hashKey.val episode.config.hashFields

inductive ClusterStep : Cluster episode → Cluster episode → Prop where
  | deploy (cluster : Cluster episode) (deployed : Deployment episode) :
      ClusterStep cluster { cluster with deployed }
  /-- A SYN of a connection that no proxy knows. -/
  | accept (cluster : Cluster episode) {conn : Connection} {packet th : Bytes}
      {ip : InnerIp} {node : UInt32} (hpacket : conn.Packet packet ip th)
      (hsyn : tcpSyn th = true) (hrow : episode.rows (episode.row conn))
      (hfresh : ∀ node, cluster.sockets node conn = false)
      (hdelivers : cluster.Delivers packet node) :
      ClusterStep cluster (cluster.setSocket node conn true)
  | close (cluster : Cluster episode) (node : UInt32) (conn : Connection) :
      ClusterStep cluster (cluster.setSocket node conn false)

/-! ## Routes of the deployed table -/

section Deployed

variable {conn : Connection} {packet th : Bytes} {ip : InnerIp}

theorem Connection.Packet.extracted (hpacket : conn.Packet packet ip th) :
    glbExtractPacketFields .dpdk packet =
      some (conn.family.parsedFields packet) :=
  (hpacket.hflow.parsed .dpdk).1

/-- All packets of a connection are hashed to its row. -/
theorem Connection.Packet.rowOf_eq (hpacket : conn.Packet packet ip th)
    {input : TableInput} (hhashKey : input.hashKey = episode.hashKey) :
    input.rowOf (conn.family.parsedFields packet)
      episode.config.hashFields = episode.row conn := by
  obtain ⟨_, htuple, _⟩ := hpacket.hflow.parsed .dpdk
  have hfields : (conn.family.parsedFields packet).tuple =
      conn.fields.tuple :=
    (conn.family.parsedFields_tuple packet).trans htuple
  unfold TableInput.rowOf Episode.row hashIdx
  rw [hhashKey, glbComputeHash_congr
    (show (conn.family.parsedFields packet).etherType =
      conn.fields.etherType from rfl) (hfields ▸ .refl _ _)]

theorem Deployment.file_eq (deployed : Deployment episode) :
    deployed.file =
      builtFile deployed.garbage deployed.sort deployed.inputs := by
  obtain ⟨inputs, hinputs, hfile⟩ := buildConfig_ok deployed.hbuild
  obtain rfl : inputs = deployed.inputs :=
    Except.ok.inj (hinputs.symm.trans deployed.hinputs)
  exact hfile

theorem Deployment.encapsulated (deployed : Deployment episode)
    {ctx : RouteContext}
    (hroute : glbCalculatePacketRoute episode.config
      (builtFile deployed.garbage deployed.sort deployed.inputs)
      deployed.table packet = .ok ctx) :
    glbEncapsulatePacketDpdk episode.rte episode.config deployed.file packet
        deployed.table =
      .ok (glbChecksumOffloading episode.rte (glbEncapsulatePacket
        episode.config ctx ++ packet.drop ethernetHdrSize)) := by
  have htable : deployed.table <
      (UInt32.ofNat deployed.inputs.length).toNat := by
    obtain ⟨hlt, _⟩ := List.getElem?_eq_some_iff.mp deployed.hinput
    rwa [UInt32.toNat_ofNat', Nat.mod_eq_of_lt deployed.hnum]
  have hnum : numTables (builtFile deployed.garbage deployed.sort
      deployed.inputs) = some (UInt32.ofNat deployed.inputs.length) :=
    numTables_configFile _ _
  rw [deployed.file_eq, glbEncapsulatePacketDpdk_frame episode.rte hnum
    htable hroute, glbEncapsulatePacket_frame episode.config ctx (route_hops_le hroute),
    glbChecksumOffloading_frame]

theorem Deployment.mem_used_iff (deployed : Deployment episode)
    (backend : LoadedBackend) :
    backend ∈ deployed.input.backends.used ↔
      backend ∈ episode.front ++ episode.back ∨
        backend ∈ deployed.guest.toList := by
  rw [deployed.hused]
  simp only [List.mem_append]
  tauto

theorem Deployment.addresses_subset (deployed : Deployment episode) :
    episode.addresses ⊆ deployed.input.addresses := by
  intro address hmem
  obtain ⟨backend, hbackend, rfl⟩ :=
    List.mem_map.mp (List.mem_toFinset.mp hmem)
  refine mem_addresses_iff.mpr ⟨backend,
    (deployed.mem_used_iff backend).mpr (Or.inl hbackend), ?_, rfl⟩
  rw [(episode.hsettled backend hbackend).1]
  decide

/-- Besides the settled backends at most the guest is available. -/
theorem Deployment.exists_guest (deployed : Deployment episode) :
    ∃ guest, ∀ address ∈ deployed.input.addresses,
      address ∈ episode.addresses ∨ address = guest := by
  have hmem : ∀ address ∈ deployed.input.addresses,
      address ∈ episode.addresses ∨
        ∃ backend ∈ deployed.guest.toList, backend.address = address := by
    intro address hmem
    obtain ⟨backend, hused, _, rfl⟩ := mem_addresses_iff.mp hmem
    rcases (deployed.mem_used_iff backend).mp hused with hsettled | hguest
    · exact Or.inl (List.mem_toFinset.mpr (List.mem_map_of_mem hsettled))
    · exact Or.inr ⟨backend, hguest, rfl⟩
  cases hguest : deployed.guest with
  | none =>
      refine ⟨.v4 (ByteVec.zero 4), fun address haddress => ?_⟩
      rcases hmem address haddress with hsettled | ⟨backend, hin, _⟩
      · exact Or.inl hsettled
      · rw [hguest] at hin
        exact absurd hin List.not_mem_nil
  | some guest =>
      refine ⟨guest.address, fun address haddress => ?_⟩
      rcases hmem address haddress with hsettled | ⟨backend, hin, rfl⟩
      · exact Or.inl hsettled
      · rw [hguest, Option.toList_some, List.mem_singleton] at hin
        exact Or.inr (by rw [hin])

/-- The guest does not have the address of a settled backend. -/
theorem Deployment.guest_address_notMem (deployed : Deployment episode)
    {guest : LoadedBackend} (hguest : deployed.guest = some guest) :
    guest.address ∉ episode.addresses := by
  have hnodup := deployed.hnodup
  have hperm : (episode.front ++ deployed.guest.toList ++
      episode.back).Perm
        (guest :: (episode.front ++ episode.back)) := by
    rw [hguest, Option.toList_some, List.append_assoc]
    exact List.perm_middle
  rw [deployed.hused, (hperm.map LoadedBackend.address).nodup_iff] at hnodup
  intro hmem
  exact (List.nodup_cons.mp hnodup).1 (List.mem_toFinset.mp hmem)

theorem Ranked.primary_mem {input : TableInput} {r : ℕ}
    {ranked : List SortableBackend} {p s : LoadedBackend × ℕ}
    {rest : List (LoadedBackend × ℕ)}
    (hranked : Ranked input r ranked (p :: s :: rest)) :
    (emittedPair p s).1 ∈ input.backends.used ∧
      (emittedPair p s).1.state ≠ .inactive := by
  unfold emittedPair
  split
  · exact hranked.second_mem
  · exact hranked.first_mem

/-- The primary of a row keeps its place in the row. -/
theorem Deployment.keeps_primary (deployed : Deployment episode) {r : ℕ}
    (hrow : episode.rows r) {ranked : List SortableBackend}
    {p s : LoadedBackend × ℕ} {rest : List (LoadedBackend × ℕ)}
    (hranked : Ranked deployed.input r ranked (p :: s :: rest)) :
    Keeps (rendezvousKey episode.seed r) episode.addresses
      (emittedPair p s).1.address := by
  have hdistinct := deployed.hdistinct r hrow
  have hpair : (emittedPair p s).1.address ∈
      twoSmallest (rendezvousKey deployed.input.seed r)
        deployed.input.addresses := by
    rw [hranked.twoSmallest_eq hdistinct, emittedPair]
    split <;> simp
  have hguest : ∀ backend ∈ deployed.guest.toList,
      deployed.guest.toList = [backend] := by
    intro backend hmem
    rw [Option.mem_toList.mp hmem, Option.toList_some]
  rw [← deployed.hseed]
  refine keeps_of_mem_twoSmallest deployed.addresses_subset hpair ?_
  intro hsettled address haddress
  obtain ⟨backend, hbackend, rfl⟩ :=
    List.mem_map.mp (List.mem_toFinset.mp haddress)
  rcases primary_cases hranked hdistinct episode.hsettled hguest
    deployed.mem_used_iff with ⟨_, hleast⟩ | ⟨hprimary, _⟩
  · exact hleast backend hbackend
  · refine absurd hsettled (deployed.guest_address_notMem ?_)
    exact Option.mem_toList.mp (hprimary ▸ List.mem_singleton_self _)

/-- The first hop keeps a SYN. -/
theorem deliver_frame_syn (nodes : UInt32 → LocalStack)
    (hsyn : tcpSyn th = true) (visits : ℕ) {frame : GueFrame}
    (hflow : frame.innerPacket = .flow ip th) :
    deliver nodes (visits + 1) frame.bytes = .accepted frame.daddr := by
  have hverdict (stack : LocalStack) :
      glbredirectTg4 stack frame.bytes = .xtContinue := by
    rw [frame.glbredirectTg4_bytes, hflow, handleInner,
      glbredirectHandleInnerTcpGeneric, if_pos hsyn]
  rw [deliver]
  simp only [hverdict, fieldU32_daddr]

theorem deliver_encapsulated_syn (nodes : UInt32 → LocalStack)
    (rte : RteChecksums) (config : DirectorConfig) {ctx : RouteContext}
    (hhops : ctx.ipv4Hops.length ≤ glbMaxHops) {inner : Bytes}
    (hflow : ctx.fields.innerPacket inner = .flow ip th)
    (hsyn : tcpSyn th = true) (visits : ℕ) :
    deliver nodes (visits + 1) ((glbChecksumOffloading rte
        (glbEncapsulatePacket config ctx ++ inner)).drop ethernetHdrSize) =
      .accepted (ctx.ipv4Hops.getD 0 0) := by
  rw [glbEncapsulatePacket_frame config ctx hhops,
    glbChecksumOffloading_frame, drop_encapEthernet]
  exact deliver_frame_syn nodes hsyn visits hflow

/-- A SYN stays with the primary of its row. -/
theorem delivers_syn_iff (cluster : Cluster episode)
    (hpacket : conn.Packet packet ip th) (hsyn : tcpSyn th = true) :
    ∃ ranked p s rest,
      Ranked cluster.deployed.input (episode.row conn) ranked
        (p :: s :: rest) ∧
      ∀ node, cluster.Delivers packet node ↔
        node = (emittedPair p s).1.address.ipv4Addr := by
  obtain ⟨ranked, p, s, rest, hranked, _, pktHash, hroute⟩ :=
    glbCalculatePacketRoute_builtFile cluster.deployed.garbage
      cluster.deployed.sort cluster.deployed.hinput cluster.deployed.htwo
      episode.hsingle hpacket.extracted
  rw [hpacket.rowOf_eq cluster.deployed.hhashKey] at hranked
  refine ⟨ranked, p, s, rest, hranked, fun node => ?_⟩
  have hsent := cluster.deployed.encapsulated hroute
  have hdeliver := deliver_encapsulated_syn cluster.nodes episode.rte
    episode.config (route_hops_le hroute) hpacket.hwalk hsyn
  constructor
  · rintro ⟨sent, hsent', hnode⟩
    obtain rfl := Except.ok.inj (hsent'.symm.trans hsent)
    exact Delivery.accepted.inj ((hnode 0).symm.trans (hdeliver 1))
  · rintro rfl
    refine ⟨_, hsent, fun extra => ?_⟩
    rw [show 2 + extra = 1 + extra + 1 by omega]
    exact hdeliver (1 + extra)

end Deployed

/-! ## Where connections live -/

theorem ipv4Addr_v4_inj {octets octets' : ByteVec 4}
    (heq : (Address.v4 octets).ipv4Addr = (Address.v4 octets').ipv4Addr) :
    octets = octets' := by
  have hword : ∀ octets : ByteVec 4,
      u32le (Address.v4 octets).ipv4Addr = octets.val := by
    intro octets
    have htake : (Address.v4 octets).union.val.take 4 = octets.val :=
      List.take_left' octets.2
    rw [Address.ipv4Addr, htake, u32le_wordU32 octets.2]
  apply Subtype.ext
  rw [← hword octets, ← hword octets', heq]

/-- Every open connection is on one proxy, which stays one of the two hops of
its row as long as it is available. -/
structure Cluster.Kept (cluster : Cluster episode) : Prop where
  unique : ∀ conn node node', cluster.sockets node conn = true →
    cluster.sockets node' conn = true → node = node'
  rows : ∀ conn node, cluster.sockets node conn = true →
    episode.rows (episode.row conn)
  owner : ∀ conn node, cluster.sockets node conn = true →
    ∃ octets, (Address.v4 octets).ipv4Addr = node ∧
      Keeps (rendezvousKey episode.seed (episode.row conn))
        episode.addresses (.v4 octets)

theorem Cluster.setSocket_eq_true_iff {cluster : Cluster episode}
    {node node' : UInt32} {conn conn' : Connection} {opened : Bool} :
    (cluster.setSocket node conn opened).sockets node' conn' = true ↔
      if node' = node ∧ conn' = conn then opened = true
      else cluster.sockets node' conn' = true := by
  by_cases hnode : node' = node
  · subst hnode
    by_cases hconn : conn' = conn
    · subst hconn
      simp [Cluster.setSocket]
    · simp [Cluster.setSocket, hconn]
  · simp [Cluster.setSocket, hnode]

theorem Cluster.Kept.close {cluster : Cluster episode}
    (hkept : cluster.Kept) (node : UInt32) (conn : Connection) :
    (cluster.setSocket node conn false).Kept := by
  have hopen : ∀ conn' node',
      (cluster.setSocket node conn false).sockets node' conn' = true →
        cluster.sockets node' conn' = true := by
    intro conn' node' hsocket
    rw [Cluster.setSocket_eq_true_iff] at hsocket
    split at hsocket
    · cases hsocket
    · exact hsocket
  exact ⟨fun conn' node' node'' h h' =>
      hkept.unique conn' node' node'' (hopen _ _ h) (hopen _ _ h'),
    fun conn' node' h => hkept.rows conn' node' (hopen _ _ h),
    fun conn' node' h => hkept.owner conn' node' (hopen _ _ h)⟩

theorem Cluster.Kept.accept {cluster : Cluster episode}
    (hkept : cluster.Kept) {conn : Connection} {node : UInt32}
    (hfresh : ∀ node, cluster.sockets node conn = false)
    (hrow : episode.rows (episode.row conn))
    (howner : ∃ octets, (Address.v4 octets).ipv4Addr = node ∧
      Keeps (rendezvousKey episode.seed (episode.row conn))
        episode.addresses (.v4 octets)) :
    (cluster.setSocket node conn true).Kept := by
  have hopen : ∀ conn' node',
      (cluster.setSocket node conn true).sockets node' conn' = true →
        (node' = node ∧ conn' = conn) ∨
          (conn' ≠ conn ∧ cluster.sockets node' conn' = true) := by
    intro conn' node' hsocket
    rw [Cluster.setSocket_eq_true_iff] at hsocket
    split at hsocket
    · rename_i hsame
      exact Or.inl hsame
    · refine Or.inr ⟨?_, hsocket⟩
      rintro rfl
      rw [hfresh] at hsocket
      cases hsocket
  constructor
  · intro conn' node' node'' h h'
    rcases hopen _ _ h with ⟨rfl, rfl⟩ | ⟨hne, hold⟩
    · rcases hopen _ _ h' with ⟨rfl, _⟩ | ⟨hne, _⟩
      · rfl
      · exact absurd rfl hne
    · rcases hopen _ _ h' with ⟨_, rfl⟩ | ⟨_, hold'⟩
      · exact absurd rfl hne
      · exact hkept.unique conn' node' node'' hold hold'
  · intro conn' node' h
    rcases hopen _ _ h with ⟨rfl, rfl⟩ | ⟨_, hold⟩
    · exact hrow
    · exact hkept.rows conn' node' hold
  · intro conn' node' h
    rcases hopen _ _ h with ⟨rfl, rfl⟩ | ⟨_, hold⟩
    · exact howner
    · exact hkept.owner conn' node' hold

theorem ClusterStep.kept {cluster cluster' : Cluster episode}
    (hstep : ClusterStep cluster cluster') (hkept : cluster.Kept) :
    cluster'.Kept := by
  cases hstep with
  | deploy deployed => exact ⟨hkept.unique, hkept.rows, hkept.owner⟩
  | close node conn => exact hkept.close node conn
  | @accept conn packet th ip node hpacket hsyn hrow hfresh hdelivers =>
      obtain ⟨ranked, p, s, rest, hranked, hiff⟩ :=
        delivers_syn_iff cluster hpacket hsyn
      obtain rfl := (hiff node).mp hdelivers
      refine hkept.accept hfresh hrow ?_
      have hkeeps := cluster.deployed.keeps_primary hrow hranked
      obtain ⟨octets, haddress⟩ :=
        cluster.deployed.hipv4 _ hranked.primary_mem.1
      rw [haddress] at hkeeps ⊢
      exact ⟨octets, rfl, hkeeps⟩

theorem run_kept {start cluster : Cluster episode}
    (hstart : ∀ node conn, start.sockets node conn = false)
    (hrun : Relation.ReflTransGen ClusterStep start cluster) :
    cluster.Kept := by
  induction hrun with
  | refl =>
      have hnone : ∀ conn node, ¬ start.sockets node conn = true := by
        intro conn node hsocket
        rw [hstart] at hsocket
        cases hsocket
      exact ⟨fun conn node _ h => absurd h (hnone conn node),
        fun conn node h => absurd h (hnone conn node),
        fun conn node h => absurd h (hnone conn node)⟩
  | tail _ hstep ih => exact hstep.kept ih

/-- While the director's table changes around one proxy, a connection stays
with the proxy that accepted it: every later packet of it, and every path-MTU
error about it, reaches that proxy as long as it is in the table. -/
theorem connection_stays_on_proxy
    {start cluster : Cluster episode}
    (hstart : ∀ node conn, start.sockets node conn = false)
    (hrun : Relation.ReflTransGen ClusterStep start cluster)
    {conn : Connection} {node : UInt32}
    (hopen : cluster.sockets node conn = true)
    {backend : LoadedBackend}
    (hbackend : backend ∈ cluster.deployed.input.backends.used)
    (hstate : backend.state ≠ .inactive)
    (hnode : backend.address.ipv4Addr = node)
    {packet th : Bytes} {ip : InnerIp} (hpacket : conn.Packet packet ip th)
    (hsyn : tcpSyn th = false) :
    cluster.Delivers packet node := by
  have hkept := run_kept hstart hrun
  obtain ⟨octets, howner, hkeeps⟩ := hkept.owner conn node hopen
  obtain ⟨octets', haddress⟩ := cluster.deployed.hipv4 backend hbackend
  obtain rfl : octets = octets' :=
    ipv4Addr_v4_inj (howner.trans (hnode.symm.trans (by rw [haddress])))
  have hmember : Address.v4 octets ∈ cluster.deployed.input.addresses :=
    mem_addresses_iff.mpr ⟨backend, hbackend, hstate, haddress⟩
  obtain ⟨guest, hguest⟩ := cluster.deployed.exists_guest
  have hpair := hkeeps.mem_twoSmallest hguest hmember
  have hrow := hpacket.rowOf_eq cluster.deployed.hhashKey
  rw [← hrow, ← cluster.deployed.hseed] at hpair
  have hdistinct := cluster.deployed.hdistinct _ (hkept.rows conn node hopen)
  rw [← hrow] at hdistinct
  have hvalid : ∀ other, isValidLocally (cluster.nodes other) ip th = true ↔
      other = (Address.v4 octets).ipv4Addr := by
    intro other
    rw [Cluster.nodes, hpacket.isValidLocally_iff (episode.hcookies other),
      howner]
    constructor
    · exact fun hsocket => hkept.unique conn other node hsocket hopen
    · rintro rfl
      exact hopen
  have hdeliver := deliver_builtFile cluster.deployed.garbage
    cluster.deployed.sort cluster.deployed.hinput cluster.deployed.htwo
    episode.hsingle hpacket.extracted hdistinct hpair hpacket.hwalk hsyn
    hvalid episode.rte
  obtain ⟨ctx, hroute, _⟩ := hdeliver 0
  refine ⟨_, cluster.deployed.encapsulated hroute, fun extra => ?_⟩
  obtain ⟨ctx', hroute', haccepted⟩ := hdeliver extra
  obtain rfl := Except.ok.inj (hroute'.symm.trans hroute)
  rw [howner] at haccepted
  exact haccepted

/-! A connection to one of two proxies, while a third is added. -/

def sampleConnection : Connection where
  family := .ipv4
  tuple := headerTuple .ipv4 samplePacket ethernetHdrSize

def sampleSyn : Bytes := patch 47 [0x02] samplePacket

theorem samplePacket_connection :
    sampleConnection.Packet samplePacket (.v4 (sampleTcp.take 20))
      (sampleTcp.drop 20) where
  hflow := .plain samplePacket_plain
  hwalk := rfl

theorem sampleSyn_plain : PlainPacket .ipv4 sampleSyn where
  hether := by decide
  htransport := ⟨by decide, by decide, by decide⟩

theorem sampleSyn_connection :
    sampleConnection.Packet sampleSyn (.v4 (sampleTcp.take 20))
      (patch 13 [0x02] (sampleTcp.drop 20)) where
  hflow := by
    have htuple : sampleConnection.tuple =
        headerTuple .ipv4 sampleSyn ethernetHdrSize := by decide
    rw [htuple]
    exact .plain sampleSyn_plain
  hwalk := rfl

def sampleEpisode : Episode where
  config := sampleDirector
  hsingle := rfl
  rte := ⟨fun _ => 0, fun _ => 0⟩
  kernel := ownedBy 0
  hcookies := fun _ => ⟨fun _ _ _ _ => rfl, fun _ _ _ _ => rfl⟩
  seed := (sampleInput twoSlots).seed
  hashKey := (sampleInput twoSlots).hashKey
  front := twoSlots.used
  back := []
  hsettled := by simp [twoSlots, LoadedBackend.Settled]
  rows := fun r => r = 27314

theorem sampleEpisode_row : sampleEpisode.row sampleConnection = 27314 := by
  change hashIdx .dpdk sampleConnection.fields (sampleInput
    twoSlots).hashKey.val sampleDirector.hashFields = 27314
  decide +kernel

theorem exists_sampleDeployment {root : Json}
    {slots : Slots maxNumBackends LoadedBackend}
    {guest : Option LoadedBackend}
    (hinputs : buildInputs zeroGarbage root = .ok [sampleInput slots])
    (hused : slots.used = twoSlots.used ++ guest.toList ++ [])
    (hipv4 : ∀ backend ∈ slots.used, ∃ octets, backend.address = .v4 octets)
    (hnodup : (slots.used.map LoadedBackend.address).Nodup)
    (htwo : 2 ≤ (sampleInput slots).available.length)
    (hdistinct : (sampleInput slots).KeysDistinct 27314) :
    ∃ deployed : Deployment sampleEpisode,
      deployed.input = sampleInput slots := by
  obtain ⟨writes, hbuild, _⟩ := buildConfig_of_inputs mergeSortByHash hinputs
  exact ⟨{
    garbage := zeroGarbage
    sort := mergeSortByHash
    root := root
    writes := writes
    inputs := [sampleInput slots]
    table := 0
    input := sampleInput slots
    guest := guest
    hbuild := hbuild
    hinputs := hinputs
    hnum := show 1 < 2 ^ 32 by decide
    hinput := rfl
    hseed := rfl
    hhashKey := rfl
    hused := hused
    hipv4 := hipv4
    hnodup := hnodup
    htwo := htwo
    hdistinct := fun r hrow => hrow ▸ hdistinct }, rfl⟩

theorem connection_stays_on_proxy_joinedRoot :
    ∃ (start cluster : Cluster sampleEpisode) (node : UInt32),
      (∀ node conn, start.sockets node conn = false) ∧
      Relation.ReflTransGen ClusterStep start cluster ∧
      start.deployed.input = sampleInput twoSlots ∧
      cluster.deployed.input = sampleInput joinedSlots ∧
      cluster.sockets node sampleConnection = true ∧
      cluster.Delivers samplePacket node := by
  obtain ⟨two, htwo⟩ := exists_sampleDeployment
    (buildInputs_twoRoot zeroGarbage)
    (show twoSlots.used = _ ++ none.toList ++ [] from rfl)
    (by simp [twoSlots, sampleAddress]) (by decide) (by decide)
    (by decide +kernel)
  obtain ⟨joined, hjoined⟩ := exists_sampleDeployment
    (buildInputs_joinedRoot zeroGarbage)
    (show joinedSlots.used = _ ++ (some ⟨sampleAddress 3, .filling,
      true⟩).toList ++ [] from rfl)
    (by simp [joinedSlots, sampleAddress]) (by decide) (by decide)
    (by decide +kernel)
  let start : Cluster sampleEpisode := ⟨two, fun _ _ => false⟩
  obtain ⟨ranked, p, s, rest, hranked, hiff⟩ :=
    delivers_syn_iff start sampleSyn_connection (by decide)
  obtain ⟨hmem, hstate⟩ := hranked.primary_mem
  let node := (emittedPair p s).1.address.ipv4Addr
  have haccept : ClusterStep start
      (start.setSocket node sampleConnection true) :=
    .accept start sampleSyn_connection (by decide) sampleEpisode_row
      (fun _ => rfl) ((hiff node).mpr rfl)
  have hopen : (start.setSocket node sampleConnection true).sockets node
      sampleConnection = true := by
    rw [Cluster.setSocket_eq_true_iff, if_pos ⟨rfl, rfl⟩]
  refine ⟨start, _, node, fun _ _ => rfl,
    .tail (.single haccept) (.deploy _ joined), htwo, hjoined, hopen, ?_⟩
  have hmem' : (emittedPair p s).1 ∈ joined.input.backends.used := by
    rw [hjoined]
    rw [show start.deployed.input = _ from htwo] at hmem
    exact List.mem_append_left _ hmem
  exact connection_stays_on_proxy (fun _ _ => rfl)
    (.tail (.single haccept) (.deploy _ joined)) hopen hmem' hstate rfl
    samplePacket_connection (by decide)

end GlbDirector
