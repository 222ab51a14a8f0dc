import GlbDirector.Encap
import GlbDirector.RendezvousRows

/-!
# Routes through a built file

On a file the builder wrote, a packet that parses is always routed: its hops
are the addresses of the pair its row names, in the order the builder emits.
-/

namespace GlbDirector

open ByteCodec

def Address.ipv4Addr (address : Address) : UInt32 :=
  wordU32 (address.union.val.take 4)

/-- The two backends of a row, primary first. -/
def emittedPair (p s : LoadedBackend × ℕ) : LoadedBackend × LoadedBackend :=
  if swapPair p.1.entry s.1.entry then (s.1, p.1) else (p.1, s.1)

theorem hashIdx_lt (build : ParserBuild) (fields : PacketFields)
    (secret : Bytes) (cfg : HashFields) :
    hashIdx build fields secret cfg < tableEntries := by
  rw [hashIdx, UInt64.toNat_and]
  exact Nat.and_lt_two_pow _ (n := 16) (by decide)

/-- The row of a table that a packet is hashed to. -/
def TableInput.rowOf (input : TableInput) (fields : PacketFields)
    (cfg : HashFields) : ℕ :=
  hashIdx .dpdk fields input.hashKey.val cfg

section Routes

variable (garbage : StackGarbage) (sort : BackendSort)
variable {inputs : List TableInput} {t : ℕ} {input : TableInput}

theorem tableSecureKey_builtFile (hinput : inputs[t]? = some input) :
    tableSecureKey (builtFile garbage sort inputs) t =
      some input.hashKey.val :=
  tableSecureKey_configFile _ (builtFile_image garbage sort hinput)

theorem tableBackend_builtFile (hinput : inputs[t]? = some input)
    {placed : LoadedBackend × ℕ} (hplaced : placed ∈ input.available) :
    tableBackend (builtFile garbage sort inputs) t
        (UInt32.ofNat placed.2).toNat = some placed.1.entry.view := by
  rw [index_toNat_of_mem_available hplaced]
  exact tableBackend_configFile _ (builtFile_image garbage sort hinput)
    (outBackends_getElem? (mem_available_iff.mp hplaced).1)

theorem glbAddPacketRoute_builtFile (hinput : inputs[t]? = some input)
    (htwo : 2 ≤ input.available.length) (ctx : RouteContext)
    (cfg : HashFields) (hroom : ctx.ipv4Hops.length + 2 ≤ glbMaxHops) :
    ∃ ranked p s rest,
      Ranked input (input.rowOf ctx.fields cfg) ranked (p :: s :: rest) ∧
      tableEntry (builtFile garbage sort inputs) t
        (input.rowOf ctx.fields cfg) = some (emitPair p s) ∧
      ∃ pktHash, glbAddPacketRoute (builtFile garbage sort inputs) t ctx
          cfg = .ok { ctx with
            pktHash
            ipv4Hops := ctx.ipv4Hops ++
              [(emittedPair p s).1.address.ipv4Addr,
                (emittedPair p s).2.address.ipv4Addr] } := by
  obtain ⟨ranked, p, s, rest, _, hranked, hentry⟩ := builtFile_pair garbage
    sort hinput (hashIdx_lt .dpdk ctx.fields input.hashKey.val cfg) htwo
  have hp := tableBackend_builtFile garbage sort hinput
    (hranked.perm.mem_iff.mp (show p ∈ p :: s :: rest by simp))
  have hs := tableBackend_builtFile garbage sort hinput
    (hranked.perm.mem_iff.mp (show s ∈ p :: s :: rest by simp))
  have hkey := tableSecureKey_builtFile garbage sort hinput
  refine ⟨ranked, p, s, rest, hranked, hentry,
    if ctx.ipv4Hops.length = 0 then
      glbComputeHash .dpdk ctx.fields input.hashKey.val cfg
    else ctx.pktHash, glbAddPacketRoute_eq_ok_iff.mpr ⟨?_⟩⟩
  by_cases hswap : swapPair p.1.entry s.1.entry = true
  · have hemit : emitPair p s =
        ⟨UInt32.ofNat s.2, UInt32.ofNat p.2⟩ := if_pos hswap
    rw [hemit] at hentry
    exact ⟨_, _, _, _, hkey, hentry, hroom, hs, hp, by
      rw [emittedPair, if_pos hswap]; rfl⟩
  · have hemit : emitPair p s =
        ⟨UInt32.ofNat p.2, UInt32.ofNat s.2⟩ := if_neg hswap
    rw [hemit] at hentry
    exact ⟨_, _, _, _, hkey, hentry, hroom, hp, hs, by
      rw [emittedPair, if_neg hswap]; rfl⟩

/-- With one set of hash fields the hops are the two backends of the row. -/
theorem glbCalculatePacketRoute_builtFile (hinput : inputs[t]? = some input)
    (htwo : 2 ≤ input.available.length) {config : DirectorConfig}
    (hsingle : config.useAltHashFields = false) {packet : Bytes}
    {fields : PacketFields}
    (hfields : glbExtractPacketFields .dpdk packet = some fields) :
    ∃ ranked p s rest,
      Ranked input (input.rowOf fields config.hashFields) ranked
        (p :: s :: rest) ∧
      tableEntry (builtFile garbage sort inputs) t
        (input.rowOf fields config.hashFields) = some (emitPair p s) ∧
      ∃ pktHash, glbCalculatePacketRoute config
          (builtFile garbage sort inputs) t packet = .ok {
            fields, pktHash
            ipv4Hops := [(emittedPair p s).1.address.ipv4Addr,
              (emittedPair p s).2.address.ipv4Addr] } := by
  have hroom : ([] : List UInt32).length + 2 ≤ glbMaxHops := by decide
  obtain ⟨ranked, p, s, rest, hranked, hentry, pktHash, hroute⟩ :=
    glbAddPacketRoute_builtFile garbage sort hinput htwo
      { fields, ipv4Hops := [], pktHash := 0 } config.hashFields hroom
  refine ⟨ranked, p, s, rest, hranked, hentry, pktHash,
    glbCalculatePacketRoute_eq_ok_iff.mpr
      ⟨fields, _, hfields, hroute, ?_⟩⟩
  rw [hsingle, if_neg Bool.false_ne_true]
  rfl

/-- The alternative hash fields append the two backends of a second row. -/
theorem glbCalculatePacketRoute_builtFile_alt
    (hinput : inputs[t]? = some input) (htwo : 2 ≤ input.available.length)
    {config : DirectorConfig} (halt : config.useAltHashFields = true)
    {packet : Bytes} {fields : PacketFields}
    (hfields : glbExtractPacketFields .dpdk packet = some fields) :
    ∃ ranked p s rest ranked' p' s' rest',
      Ranked input (input.rowOf fields config.hashFields) ranked
        (p :: s :: rest) ∧
      Ranked input (input.rowOf fields config.altHashFields) ranked'
        (p' :: s' :: rest') ∧
      ∃ pktHash, glbCalculatePacketRoute config
          (builtFile garbage sort inputs) t packet = .ok {
            fields, pktHash
            ipv4Hops := [(emittedPair p s).1.address.ipv4Addr,
              (emittedPair p s).2.address.ipv4Addr,
              (emittedPair p' s').1.address.ipv4Addr,
              (emittedPair p' s').2.address.ipv4Addr] } := by
  have hroom : ([] : List UInt32).length + 2 ≤ glbMaxHops := by decide
  obtain ⟨ranked, p, s, rest, hranked, _, pktHash, hroute⟩ :=
    glbAddPacketRoute_builtFile garbage sort hinput htwo
      { fields, ipv4Hops := [], pktHash := 0 } config.hashFields hroom
  obtain ⟨ranked', p', s', rest', hranked', _, pktHash', hroute'⟩ :=
    glbAddPacketRoute_builtFile garbage sort hinput htwo
      { fields, pktHash
        ipv4Hops := [] ++ [(emittedPair p s).1.address.ipv4Addr,
          (emittedPair p s).2.address.ipv4Addr] }
      config.altHashFields (by rfl)
  refine ⟨ranked, p, s, rest, ranked', p', s', rest', hranked, hranked',
    pktHash', glbCalculatePacketRoute_eq_ok_iff.mpr
      ⟨fields, _, hfields, hroute, ?_⟩⟩
  rw [halt, if_pos rfl]
  exact hroute'

end Routes

end GlbDirector
