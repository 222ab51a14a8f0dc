import GlbDirector.RedirectChain

/-!
# Changes to one proxy

The documented state machine moves one proxy at a time while all others are
active and healthy.  A step changes the set of available backends by at most
that proxy, and a proxy that leaves was draining and so no primary; the primary
of a row therefore stays one of its two smallest members.
-/

namespace GlbDirector

open ByteCodec RankedPair FallbackChain

/-! ## Steps of the state machine -/

/-- The entry of one proxy before and after a step; a proxy that is not in the
table has no entry, or an inactive one. -/
inductive ProxyStep : List LoadedBackend → List LoadedBackend → Prop where
  | add (address : Address) (healthy : Bool) :
      ProxyStep [] [⟨address, .filling, healthy⟩]
  | addInactive (address : Address) (healthy : Bool) :
      ProxyStep [⟨address, .inactive, healthy⟩]
        [⟨address, .filling, healthy⟩]
  | ready (address : Address) (healthy : Bool) :
      ProxyStep [⟨address, .filling, healthy⟩] [⟨address, .active, healthy⟩]
  | drain (address : Address) (healthy : Bool) :
      ProxyStep [⟨address, .active, healthy⟩] [⟨address, .draining, healthy⟩]
  | fill (address : Address) (healthy : Bool) :
      ProxyStep [⟨address, .draining, healthy⟩]
        [⟨address, .filling, healthy⟩]
  | remove (address : Address) (healthy : Bool) :
      ProxyStep [⟨address, .draining, healthy⟩] []
  | removeInactive (address : Address) (healthy : Bool) :
      ProxyStep [⟨address, .draining, healthy⟩]
        [⟨address, .inactive, healthy⟩]
  | health (address : Address) (state : BackendState) (healthy : Bool) :
      ProxyStep [⟨address, state, healthy⟩] [⟨address, state, !healthy⟩]

def LoadedBackend.Settled (backend : LoadedBackend) : Prop :=
  backend.state = .active ∧ backend.healthy = true

/-- The builder would not demote this backend. -/
def LoadedBackend.Good (backend : LoadedBackend) : Prop :=
  ¬ (backend.state = .draining ∨ backend.healthy = false)

theorem LoadedBackend.Settled.good {backend : LoadedBackend}
    (hsettled : backend.Settled) : backend.Good := by
  simp [LoadedBackend.Good, hsettled.1, hsettled.2]

/-! ## The loaded part of a table -/

/-- What a step does to the backends that fit into the table: `others` keep
their entries, and a removal may make room for one entry more. -/
inductive LoadedStep :
    List LoadedBackend → List LoadedBackend → List LoadedBackend → Prop where
  | step {old new : List LoadedBackend} (hstep : ProxyStep old new) :
      LoadedStep old new []
  | unseen : LoadedStep [] [] []
  | shift (address : Address) (healthy : Bool) {last : LoadedBackend}
      (hlast : last.Settled) :
      LoadedStep [⟨address, .draining, healthy⟩] [] [last]

theorem ProxyStep.entries {old new : List LoadedBackend}
    (hstep : ProxyStep old new) :
    (old.length = 1 ∧ new.length = 1) ∨ (old = [] ∧ new.length = 1) ∨
      ∃ address healthy,
        old = [⟨address, .draining, healthy⟩] ∧ new = [] := by
  cases hstep with
  | add address healthy => exact Or.inr (Or.inl ⟨rfl, rfl⟩)
  | remove address healthy =>
      exact Or.inr (Or.inr ⟨address, healthy, rfl, rfl⟩)
  | _ => exact Or.inl ⟨rfl, rfl⟩

theorem take_context (front middle back : List LoadedBackend) (size : ℕ) :
    (front ++ middle ++ back).take size =
      front.take size ++ middle.take (size - front.length) ++
        back.take (size - front.length - middle.length) := by
  rw [List.take_append, List.take_append, List.length_append, Nat.sub_sub]

theorem loaded_step {front old new back : List LoadedBackend}
    (hstep : ProxyStep old new)
    (hsettled : ∀ backend ∈ front ++ back, backend.Settled) {size : ℕ}
    (hroom : (front ++ new ++ back).length ≤
      max size (front ++ old ++ back).length) :
    ∃ others old' new' extra : List LoadedBackend,
      LoadedStep old' new' extra ∧
      (∀ backend ∈ others, backend.Settled) ∧
      (∀ backend, backend ∈ (front ++ old ++ back).take size ↔
        backend ∈ others ∨ backend ∈ old') ∧
      ∀ backend, backend ∈ (front ++ new ++ back).take size ↔
        backend ∈ others ∨ backend ∈ new' ∨ backend ∈ extra := by
  have hothers (kept : ℕ) : ∀ backend ∈ front.take size ++ back.take kept,
      backend.Settled := by
    intro backend hmem
    apply hsettled
    rcases List.mem_append.mp hmem with hmem | hmem
    · exact List.mem_append_left _ (List.mem_of_mem_take hmem)
    · exact List.mem_append_right _ (List.mem_of_mem_take hmem)
  simp only [List.length_append] at hroom
  rw [take_context, take_context]
  rcases Nat.eq_zero_or_pos (size - front.length) with hfull | hspace
  · refine ⟨front.take size ++ back.take 0, [], [], [], .unseen,
      hothers 0, ?_, ?_⟩
    · simp [hfull]
    · simp [hfull]
  · rcases hstep.entries with ⟨hold, hnew⟩ | ⟨rfl, hnew⟩ |
      ⟨address, healthy, rfl, rfl⟩
    · refine ⟨_, old, new, [], .step hstep,
        hothers (size - front.length - 1), ?_, ?_⟩
      · intro backend
        rw [List.take_of_length_le (by omega : old.length ≤ _), hold]
        simp only [List.mem_append]
        tauto
      · intro backend
        rw [List.take_of_length_le (by omega : new.length ≤ _), hnew]
        simp only [List.mem_append, List.not_mem_nil]
        tauto
    · rw [hnew, List.length_nil] at hroom
      refine ⟨_, [], new, [], .step hstep,
        hothers (size - front.length), ?_, ?_⟩
      · simp
      · intro backend
        rw [List.take_of_length_le (by omega : new.length ≤ _), hnew,
          List.take_of_length_le (by omega : back.length ≤ _),
          List.take_of_length_le (by omega : back.length ≤ _)]
        simp only [List.mem_append, List.not_mem_nil]
        tauto
    · obtain ⟨kept, hkept⟩ : ∃ kept, size - front.length = kept + 1 :=
        ⟨size - front.length - 1, by omega⟩
      rw [hkept]
      have hold : ∀ backend : LoadedBackend, backend ∈ front.take size ++
          [⟨address, .draining, healthy⟩].take (kept + 1) ++
            back.take (kept + 1 - 1) ↔
          backend ∈ front.take size ++ back.take kept ∨
            backend ∈ [⟨address, .draining, healthy⟩] := by
        intro backend
        rw [List.take_succ_cons, List.take_nil, Nat.add_sub_cancel]
        simp only [List.mem_append]
        tauto
      cases hlast : back[kept]? with
      | none =>
          refine ⟨_, _, [], [], .step hstep, hothers kept, hold, ?_⟩
          intro backend
          simp [List.take_add_one, hlast]
      | some last =>
          have hsettledLast := hsettled last
            (List.mem_append_right _ (List.mem_of_getElem? hlast))
          refine ⟨_, _, [], [last], .shift address healthy hsettledLast,
            hothers kept, hold, ?_⟩
          intro backend
          simp [List.take_add_one, hlast, or_assoc]

theorem LoadedStep.old_eq {old new extra : List LoadedBackend}
    (hstep : LoadedStep old new extra) {backend : LoadedBackend}
    (hmem : backend ∈ old) : old = [backend] := by
  cases hstep with
  | step hstep => cases hstep <;> simp_all
  | unseen => cases hmem
  | shift address healthy hlast => simp_all

/-- A proxy that could be primary keeps its place. -/
theorem LoadedStep.keeps {new extra : List LoadedBackend}
    {backend : LoadedBackend} (hstep : LoadedStep [backend] new extra)
    (hgood : backend.Good) (hin : backend.state ≠ .inactive) :
    ∃ kept : LoadedBackend, new = [kept] ∧ extra = [] ∧
      kept.address = backend.address ∧ kept.state ≠ .inactive := by
  unfold LoadedBackend.Good at hgood
  cases hstep with
  | shift address healthy hlast => simp at hgood
  | step hstep =>
      cases hstep with
      | addInactive address healthy => exact absurd rfl hin
      | ready address healthy => exact ⟨_, rfl, rfl, rfl, by simp⟩
      | drain address healthy => exact ⟨_, rfl, rfl, rfl, by simp⟩
      | fill address healthy => simp at hgood
      | remove address healthy => simp at hgood
      | removeInactive address healthy => simp at hgood
      | health address state healthy => exact ⟨_, rfl, rfl, rfl, hin⟩

/-- At most one proxy joins those that keep their entries. -/
theorem LoadedStep.joins {old new extra : List LoadedBackend}
    (hstep : LoadedStep old new extra) :
    ∃ joined : Address, ∀ backend : LoadedBackend,
      backend ∈ new ∨ backend ∈ extra → backend.address = joined := by
  cases hstep with
  | unseen => exact ⟨.v4 (ByteVec.zero 4), by simp⟩
  | @shift _ _ last hlast => exact ⟨last.address, by simp⟩
  | step hstep =>
      cases hstep with
      | remove address healthy => exact ⟨address, by simp⟩
      | _ address => exact ⟨address, by simp⟩

/-! ## The primary of a row -/

theorem mem_addresses_iff {input : TableInput} {address : Address} :
    address ∈ input.addresses ↔ ∃ backend ∈ input.backends.used,
      backend.state ≠ .inactive ∧ backend.address = address := by
  simp only [TableInput.addresses, List.mem_toFinset, List.mem_map]
  constructor
  · rintro ⟨⟨backend, i⟩, hmem, rfl⟩
    obtain ⟨hused, hstate⟩ := mem_available_iff.mp hmem
    exact ⟨backend, List.mem_of_getElem? hused, hstate, rfl⟩
  · rintro ⟨backend, hmem, hstate, rfl⟩
    obtain ⟨i, hused⟩ := List.mem_iff_getElem?.mp hmem
    exact ⟨(backend, i), mem_available_iff.mpr ⟨hused, hstate⟩, rfl⟩

section Primary

variable {input : TableInput} {r : ℕ} {ranked : List SortableBackend}
variable {p s : LoadedBackend × ℕ} {rest : List (LoadedBackend × ℕ)}

theorem Ranked.first_mem (hranked : Ranked input r ranked (p :: s :: rest)) :
    p.1 ∈ input.backends.used ∧ p.1.state ≠ .inactive := by
  have hp : p ∈ input.available := hranked.perm.mem_iff.mp (by simp)
  exact ⟨List.mem_of_getElem? (mem_available_iff.mp hp).1,
    (mem_available_iff.mp hp).2⟩

theorem Ranked.second_mem (hranked : Ranked input r ranked (p :: s :: rest)) :
    s.1 ∈ input.backends.used ∧ s.1.state ≠ .inactive := by
  have hs : s ∈ input.available := hranked.perm.mem_iff.mp (by simp)
  exact ⟨List.mem_of_getElem? (mem_available_iff.mp hs).1,
    (mem_available_iff.mp hs).2⟩

theorem Ranked.mem_order (hranked : Ranked input r ranked (p :: s :: rest))
    {backend : LoadedBackend} (hmem : backend ∈ input.backends.used)
    (hstate : backend.state ≠ .inactive) :
    ∃ i, (backend, i) ∈ p :: s :: rest := by
  obtain ⟨i, hused⟩ := List.mem_iff_getElem?.mp hmem
  exact ⟨i, hranked.perm.mem_iff.mpr (mem_available_iff.mpr ⟨hused, hstate⟩)⟩

/-- The primary is the smallest of the settled backends, unless it is the
remaining one and nothing speaks against it. -/
theorem primary_cases (hranked : Ranked input r ranked (p :: s :: rest))
    (hdistinct : input.KeysDistinct r) {others old : List LoadedBackend}
    (hsettled : ∀ backend ∈ others, backend.Settled)
    (hold : ∀ backend ∈ old, old = [backend])
    (hused : ∀ backend, backend ∈ input.backends.used ↔
      backend ∈ others ∨ backend ∈ old) :
    ((emittedPair p s).1 ∈ others ∧ ∀ backend ∈ others,
      rendezvousKey input.seed r (emittedPair p s).1.address ≤
        rendezvousKey input.seed r backend.address) ∨
      (old = [(emittedPair p s).1] ∧ (emittedPair p s).1.Good ∧
        (emittedPair p s).1.state ≠ .inactive) := by
  obtain ⟨hpMem, hpState⟩ := hranked.first_mem
  obtain ⟨hsMem, hsState⟩ := hranked.second_mem
  have hsorted := hranked.strictly_sorted hdistinct
  obtain ⟨hfirst, hsecond⟩ := List.pairwise_cons.mp hsorted
  have hrest := (List.pairwise_cons.mp hsecond).1
  have horder : ∀ backend ∈ others, ∃ i, (backend, i) ∈ p :: s :: rest :=
    fun backend hmem => hranked.mem_order
      ((hused backend).mpr (Or.inl hmem))
      (by rw [(hsettled backend hmem).1]; decide)
  by_cases hgood : p.1.Good
  · have hswap : ¬ swapPair p.1.entry s.1.entry = true := by
      rw [swapPair_entry_iff hpState]
      exact fun h => hgood h.1
    rw [emittedPair, if_neg hswap]
    rcases (hused p.1).mp hpMem with hp | hp
    · refine Or.inl ⟨hp, fun backend hmem => ?_⟩
      obtain ⟨i, hi⟩ := horder backend hmem
      rcases List.mem_cons.mp hi with rfl | hi
      · exact le_rfl
      · exact (hfirst _ hi).le
    · exact Or.inr ⟨hold _ hp, hgood, hpState⟩
  · have hpOther : p.1 ∉ others := fun hmem => hgood (hsettled _ hmem).good
    have hpOld : old = [p.1] :=
      hold _ (((hused p.1).mp hpMem).resolve_left hpOther)
    have hne : s.1 ≠ p.1 := by
      intro heq
      have hlt := hfirst s (by simp)
      rw [heq] at hlt
      exact absurd hlt (lt_irrefl _)
    have hs : s.1 ∈ others := by
      rcases (hused s.1).mp hsMem with hs | hs
      · exact hs
      · rw [hpOld, List.mem_singleton] at hs
        exact absurd hs hne
    have hswap : swapPair p.1.entry s.1.entry = true := by
      rw [swapPair_entry_iff hpState]
      exact ⟨not_not.mp hgood, (hsettled _ hs).1⟩
    rw [emittedPair, if_pos hswap]
    refine Or.inl ⟨hs, fun backend hmem => ?_⟩
    obtain ⟨i, hi⟩ := horder backend hmem
    rcases List.mem_cons.mp hi with heq | hi
    · exact absurd hmem (by rw [← heq] at hpOther; exact hpOther)
    · rcases List.mem_cons.mp hi with heq | hi
      · rw [← heq]
      · exact (hrest _ hi).le

/-- The primary before a step is among the two smallest after it. -/
theorem primary_mem_twoSmallest
    (hranked : Ranked input r ranked (p :: s :: rest))
    (hdistinct : input.KeysDistinct r) {input' : TableInput}
    {others old new extra : List LoadedBackend}
    (hstep : LoadedStep old new extra)
    (hsettled : ∀ backend ∈ others, backend.Settled)
    (hused : ∀ backend, backend ∈ input.backends.used ↔
      backend ∈ others ∨ backend ∈ old)
    (hused' : ∀ backend, backend ∈ input'.backends.used ↔
      backend ∈ others ∨ backend ∈ new ∨ backend ∈ extra) :
    (emittedPair p s).1.address ∈
      twoSmallest (rendezvousKey input.seed r) input'.addresses := by
  have hactive : ∀ backend ∈ others, backend.state ≠ .inactive := by
    intro backend hmem
    rw [(hsettled backend hmem).1]
    decide
  rcases primary_cases hranked hdistinct hsettled
      (fun backend hmem => hstep.old_eq hmem) hused with
    ⟨hprimary, hleast⟩ | ⟨hold, hgood, hstate⟩
  · obtain ⟨joined, hjoined⟩ := hstep.joins
    apply mem_twoSmallest_of_smaller_subset (z := joined)
    · exact mem_addresses_iff.mpr ⟨_, (hused' _).mpr (Or.inl hprimary),
        hactive _ hprimary, rfl⟩
    · intro address hmem hlt
      obtain ⟨backend, hbackend, _, rfl⟩ := mem_addresses_iff.mp hmem
      rcases (hused' backend).mp hbackend with hother | hnew
      · exact absurd hlt (hleast backend hother).not_gt
      · exact hjoined backend hnew
  · subst hold
    obtain ⟨kept, rfl, rfl, hkept, hkeptState⟩ := hstep.keeps hgood hstate
    have haddresses : input'.addresses = input.addresses := by
      ext address
      simp only [mem_addresses_iff, hused, hused', List.mem_singleton,
        List.not_mem_nil, or_false]
      constructor
      · rintro ⟨backend, hmem | rfl, hbackend, rfl⟩
        · exact ⟨backend, Or.inl hmem, hbackend, rfl⟩
        · exact ⟨_, Or.inr rfl, hstate, hkept.symm⟩
      · rintro ⟨backend, hmem | rfl, hbackend, rfl⟩
        · exact ⟨backend, Or.inl hmem, hbackend, rfl⟩
        · exact ⟨kept, Or.inr rfl, hkeptState, hkept⟩
    rw [haddresses, hranked.twoSmallest_eq hdistinct, emittedPair]
    split <;> simp

end Primary

theorem inactive_le_one {front middle back : List LoadedBackend}
    (hmiddle : middle.length ≤ 1)
    (hsettled : ∀ backend ∈ front ++ back, backend.Settled) :
    ((front ++ middle ++ back).filter
      fun backend => !decide (backend.state ≠ .inactive)).length ≤ 1 := by
  have hnone : ∀ part : List LoadedBackend,
      (∀ backend ∈ part, backend ∈ front ++ back) →
        part.filter (fun backend => !decide (backend.state ≠ .inactive)) =
          [] := by
    intro part hpart
    refine List.filter_eq_nil_iff.mpr fun backend hmem => ?_
    simp [(hsettled backend (hpart backend hmem)).1]
  rw [List.filter_append, List.filter_append,
    hnone front (fun _ hmem => List.mem_append_left _ hmem),
    hnone back (fun _ hmem => List.mem_append_right _ hmem),
    List.nil_append, List.append_nil]
  exact (List.length_filter_le _ _).trans hmiddle

/-- Two backends that are not inactive leave two available ones, however many
fit into the table. -/
theorem two_le_available {input : TableInput}
    {front middle back : List LoadedBackend} (hmiddle : middle.length ≤ 1)
    (hsettled : ∀ backend ∈ front ++ back, backend.Settled)
    (hused : input.backends.used =
      (front ++ middle ++ back).take maxNumBackends)
    (htwo : 2 ≤ ((front ++ middle ++ back).filter
      fun backend => backend.state ≠ .inactive).length) :
    2 ≤ input.available.length := by
  have hlength : input.available.length = (input.backends.used.filter
      fun backend => backend.state ≠ .inactive).length := by
    rw [← availableFrom_map_fst 0, List.length_map]
    rfl
  rw [hlength, hused]
  by_cases hfits : (front ++ middle ++ back).length ≤ maxNumBackends
  · rwa [List.take_of_length_le hfits]
  · have hsplit := List.length_eq_length_filter_add
      (l := (front ++ middle ++ back).take maxNumBackends)
      (fun backend => decide (backend.state ≠ .inactive))
    have hinactive := ((List.take_sublist maxNumBackends
      (front ++ middle ++ back)).filter
        fun backend => !decide (backend.state ≠ .inactive)).length_le
    have hone := inactive_le_one hmiddle hsettled
    rw [List.length_take, min_eq_left (not_le.mp hfits).le] at hsplit
    simp only [maxNumBackends] at hsplit hinactive ⊢
    omega

theorem ProxyStep.length_le {old new : List LoadedBackend}
    (hstep : ProxyStep old new) : old.length ≤ 1 ∧ new.length ≤ 1 := by
  cases hstep <;> simp

theorem used_emitPair_primary {input : TableInput}
    {p s : LoadedBackend × ℕ} (hp : p ∈ input.available)
    (hs : s ∈ input.available) :
    input.backends.used[(emitPair p s).primary.toNat]? =
      some (emittedPair p s).1 := by
  unfold emitPair emittedPair
  split
  · rw [index_toNat_of_mem_available hs]
    exact (mem_available_iff.mp hs).1
  · rw [index_toNat_of_mem_available hp]
    exact (mem_available_iff.mp hp).1

/-- A connection on a backend of its row is delivered to that backend. -/
theorem deliver_builtFile (garbage : StackGarbage) (sort : BackendSort)
    {inputs : List TableInput} {t : ℕ} {input : TableInput}
    (hinput : inputs[t]? = some input) (htwo : 2 ≤ input.available.length)
    {config : DirectorConfig} (hsingle : config.useAltHashFields = false)
    {packet : Bytes} {fields : PacketFields}
    (hfields : glbExtractPacketFields .dpdk packet = some fields)
    (hdistinct : input.KeysDistinct (input.rowOf fields config.hashFields))
    {owner : Address}
    (howner : owner ∈ twoSmallest (rendezvousKey input.seed
      (input.rowOf fields config.hashFields)) input.addresses)
    {nodes : UInt32 → LocalStack} {ip : InnerIp} {th : Bytes}
    (hflow : fields.innerPacket (packet.drop ethernetHdrSize) =
      .flow ip th)
    (hsyn : tcpSyn th = false)
    (hvalid : ∀ node, isValidLocally (nodes node) ip th = true ↔
      node = owner.ipv4Addr) (rte : RteChecksums) (extra : ℕ) :
    ∃ ctx, glbCalculatePacketRoute config (builtFile garbage sort inputs) t
        packet = .ok ctx ∧
      deliver nodes (2 + extra) ((glbChecksumOffloading rte
        (glbEncapsulatePacket config ctx ++
          packet.drop ethernetHdrSize)).drop ethernetHdrSize) =
        .accepted owner.ipv4Addr := by
  obtain ⟨ranked, p, s, rest, hranked, _, pktHash, hroute⟩ :=
    glbCalculatePacketRoute_builtFile garbage sort hinput htwo hsingle
      hfields
  refine ⟨_, hroute, ?_⟩
  have hdeliver := deliver_encapsulated nodes rte config
    (route_hops_le hroute) hflow hsyn extra
  refine hdeliver.trans (congrArg Delivery.accepted ?_)
  rw [hranked.twoSmallest_eq hdistinct, Finset.mem_insert,
    Finset.mem_singleton] at howner
  refine accepting_pair hvalid ?_
  change _ = (emittedPair p s).1.address.ipv4Addr ∨
    _ = (emittedPair p s).2.address.ipv4Addr
  unfold emittedPair
  split
  · exact howner.symm.imp (congrArg _) (congrArg _)
  · exact howner.imp (congrArg _) (congrArg _)

/-- The primary of a row survives a step of the state machine on one proxy,
if the step does not push the table beyond its capacity, and packets of its
connections are still delivered to it. -/
theorem primary_survives_step
    {garbage garbage' : StackGarbage} {sort sort' : BackendSort}
    {root root' : Json} {writes writes' : List Bytes}
    (hbuild : buildConfig garbage sort root = .ok writes)
    (hbuild' : buildConfig garbage' sort' root' = .ok writes')
    {inputs inputs' : List TableInput}
    (hinputs : buildInputs garbage root = .ok inputs)
    (hinputs' : buildInputs garbage' root' = .ok inputs')
    {t t' : ℕ} {input input' : TableInput}
    (hinput : inputs[t]? = some input)
    (hinput' : inputs'[t']? = some input')
    (hseed : input'.seed = input.seed)
    {front old new back : List LoadedBackend} (hstep : ProxyStep old new)
    (hsettled : ∀ backend ∈ front ++ back, backend.Settled)
    (hused : input.backends.used =
      (front ++ old ++ back).take maxNumBackends)
    (hused' : input'.backends.used =
      (front ++ new ++ back).take maxNumBackends)
    (hroom : (front ++ new ++ back).length ≤
      max maxNumBackends (front ++ old ++ back).length)
    (htwo : 2 ≤ ((front ++ old ++ back).filter
      fun backend => backend.state ≠ .inactive).length)
    (htwo' : 2 ≤ ((front ++ new ++ back).filter
      fun backend => backend.state ≠ .inactive).length)
    {r : ℕ} (hr : r < tableEntries) (hdistinct : input.KeysDistinct r)
    (hdistinct' : input'.KeysDistinct r) :
    ∃ entry primary pair,
      tableEntry (fileOf writes) t r = some entry ∧
      input.backends.used[entry.primary.toNat]? = some primary ∧
      rowAddresses (fileOf writes') t' r input' = some pair ∧
      primary.address ∈ pair ∧
      ∀ (rte : RteChecksums) (config : DirectorConfig)
        (nodes : UInt32 → LocalStack) (packet : Bytes)
        (fields : PacketFields) (ip : InnerIp) (th : Bytes) (extra : ℕ),
        config.useAltHashFields = false →
        glbExtractPacketFields .dpdk packet = some fields →
        input'.rowOf fields config.hashFields = r →
        fields.innerPacket (packet.drop ethernetHdrSize) = .flow ip th →
        tcpSyn th = false →
        (∀ node, isValidLocally (nodes node) ip th = true ↔
          node = primary.address.ipv4Addr) →
        ∃ ctx, glbCalculatePacketRoute config (fileOf writes') t' packet =
            .ok ctx ∧
          deliver nodes (2 + extra) ((glbChecksumOffloading rte
            (glbEncapsulatePacket config ctx ++
              packet.drop ethernetHdrSize)).drop ethernetHdrSize) =
            .accepted primary.address.ipv4Addr := by
  obtain ⟨built, hbuilt, hfile⟩ := buildConfig_ok hbuild
  obtain ⟨built', hbuilt', hfile'⟩ := buildConfig_ok hbuild'
  obtain rfl : built = inputs := Except.ok.inj (hbuilt.symm.trans hinputs)
  obtain rfl : built' = inputs' :=
    Except.ok.inj (hbuilt'.symm.trans hinputs')
  have havailable := two_le_available hstep.length_le.1 hsettled hused htwo
  have havailable' :=
    two_le_available hstep.length_le.2 hsettled hused' htwo'
  obtain ⟨ranked, p, s, rest, _, hranked, hentry⟩ :=
    builtFile_pair garbage sort hinput hr havailable
  have hp : p ∈ input.available := hranked.perm.mem_iff.mp (by simp)
  have hs : s ∈ input.available := hranked.perm.mem_iff.mp (by simp)
  obtain ⟨others, old', new', extra, hloaded, hothers, hmem, hmem'⟩ :=
    loaded_step hstep hsettled hroom
  rw [← hused] at hmem
  rw [← hused'] at hmem'
  have hprimary := primary_mem_twoSmallest hranked hdistinct hloaded
    hothers hmem hmem'
  rw [← hseed] at hprimary
  have hpair := builtFile_rowAddresses garbage' sort' hinput' hr havailable'
    hdistinct'
  rw [hfile, hfile']
  refine ⟨_, _, _, hentry, used_emitPair_primary hp hs, hpair, hprimary, ?_⟩
  rintro rte config nodes packet fields ip th extra hsingle hfields rfl
    hflow hsyn hvalid
  exact deliver_builtFile garbage' sort' hinput' havailable' hsingle hfields
    hdistinct' hprimary hflow hsyn hvalid rte extra

def twoSlots : Slots maxNumBackends LoadedBackend where
  count := 2
  used := [⟨sampleAddress 1, .active, true⟩, ⟨sampleAddress 2, .active, true⟩]
  used_length := by decide

def twoRoot : Json :=
  sampleRoot [sampleTable [sampleBackend "10.0.0.1" "active" true,
    sampleBackend "10.0.0.2" "active" true]]

def joinedSlots : Slots maxNumBackends LoadedBackend where
  count := 3
  used := [⟨sampleAddress 1, .active, true⟩, ⟨sampleAddress 2, .active, true⟩,
    ⟨sampleAddress 3, .filling, true⟩]
  used_length := by decide

def joinedRoot : Json :=
  sampleRoot [sampleTable [sampleBackend "10.0.0.1" "active" true,
    sampleBackend "10.0.0.2" "active" true,
    sampleBackend "10.0.0.3" "filling" true]]

theorem buildInputs_twoRoot (garbage : StackGarbage) :
    buildInputs garbage twoRoot = .ok [sampleInput twoSlots] :=
  buildInputs_sample (by decide +kernel) garbage

theorem buildInputs_joinedRoot (garbage : StackGarbage) :
    buildInputs garbage joinedRoot = .ok [sampleInput joinedSlots] :=
  buildInputs_sample (by decide +kernel) garbage

theorem primary_survives_step_joinedRoot :
    ∃ writes writes' entry primary pair,
      buildConfig zeroGarbage mergeSortByHash twoRoot = .ok writes ∧
      buildConfig zeroGarbage mergeSortByHash joinedRoot = .ok writes' ∧
      tableEntry (fileOf writes) 0 27314 = some entry ∧
      (sampleInput twoSlots).backends.used[entry.primary.toNat]? =
        some primary ∧
      rowAddresses (fileOf writes') 0 27314 (sampleInput joinedSlots) =
        some pair ∧
      primary.address ∈ pair ∧
      ∀ rte, ∃ ctx, glbCalculatePacketRoute sampleDirector (fileOf writes')
          0 samplePacket = .ok ctx ∧
        deliver (ownedBy primary.address.ipv4Addr) 2
          ((glbChecksumOffloading rte (glbEncapsulatePacket sampleDirector
            ctx ++ samplePacket.drop ethernetHdrSize)).drop
              ethernetHdrSize) =
          .accepted primary.address.ipv4Addr := by
  obtain ⟨writes, hbuild, _⟩ := buildConfig_of_inputs mergeSortByHash
    (buildInputs_twoRoot zeroGarbage)
  obtain ⟨writes', hbuild', _⟩ := buildConfig_of_inputs mergeSortByHash
    (buildInputs_joinedRoot zeroGarbage)
  have hsettled : ∀ backend ∈ [⟨sampleAddress 1, .active, true⟩,
      ⟨sampleAddress 2, .active, true⟩] ++ ([] : List LoadedBackend),
        backend.Settled := by
    simp [LoadedBackend.Settled]
  obtain ⟨entry, primary, pair, hentry, hprimary, hpair, hmem, hdeliver⟩ :=
    primary_survives_step hbuild hbuild' (buildInputs_twoRoot zeroGarbage)
      (buildInputs_joinedRoot zeroGarbage)
      (show [sampleInput twoSlots][0]? = some (sampleInput twoSlots) from rfl)
      (show [sampleInput joinedSlots][0]? =
        some (sampleInput joinedSlots) from rfl) rfl
      (ProxyStep.add (sampleAddress 3) true) hsettled rfl rfl (by decide)
      (by decide) (by decide) (show 27314 < tableEntries by decide)
      (by decide +kernel) (by decide +kernel)
  refine ⟨writes, writes', entry, primary, pair, hbuild, hbuild', hentry,
    hprimary, hpair, hmem, fun rte => ?_⟩
  exact hdeliver rte sampleDirector (ownedBy primary.address.ipv4Addr)
    samplePacket sampleFields _ _ 0 rfl glbExtractPacketFields_sample
    (by decide +kernel) (show _ = InnerPacket.flow (.v4 (sampleTcp.take 20))
      (sampleTcp.drop 20) from rfl) (by decide)
    (fun node => by rw [isValidLocally_ownedBy, decide_eq_true_eq])

/-! ## A full table -/

theorem keysDistinct_of_nodup {input : TableInput} {r : ℕ}
    (hnodup : ((input.backends.used.map LoadedBackend.address).map
      (rendezvousKey input.seed r)).Nodup) : input.KeysDistinct r := by
  have hsublist : (input.available.map Prod.fst).Sublist
      input.backends.used := by
    rw [TableInput.available, availableFrom_map_fst]
    exact List.filter_sublist
  have hkeys := ((hsublist.map LoadedBackend.address).map
    (rendezvousKey input.seed r)).nodup hnodup
  rw [List.map_map, List.map_map] at hkeys
  exact List.pairwise_map.mp hkeys

/-- The last octets of the full table; row 0 ranks 166 first. -/
def fullOctets : List ℕ := (List.range 256).map fun i => (i + 167) % 256

def fullBackends : List Json := fullOctets.map (numberedBackend "active")

def fullLoaded : List LoadedBackend :=
  fullOctets.map fun last => ⟨numberedAddress last, .active, true⟩

def newcomer : LoadedBackend := ⟨sampleAddress 1, .filling, true⟩

def fullSlots : Slots maxNumBackends LoadedBackend where
  count := 256
  used := fullLoaded
  used_length := by decide +kernel

def pushedSlots : Slots maxNumBackends LoadedBackend where
  count := 257
  used := (newcomer :: fullLoaded).take maxNumBackends
  used_length := by decide +kernel

def pushedBackends : List Json :=
  sampleBackend "10.0.0.1" "filling" true :: fullBackends

theorem buildInputs_full (garbage : StackGarbage) :
    buildInputs garbage (sampleRoot [sampleTable fullBackends]) =
      .ok [sampleInput fullSlots] :=
  buildInputs_sample (by decide +kernel) garbage

theorem buildInputs_pushed (garbage : StackGarbage) :
    buildInputs garbage (sampleRoot [sampleTable pushedBackends]) =
      .ok [sampleInput pushedSlots] :=
  buildInputs_sample (by decide +kernel) garbage

theorem fullLoaded_settled : ∀ backend ∈ fullLoaded, backend.Settled := by
  intro backend hmem
  obtain ⟨last, _, rfl⟩ := List.mem_map.mp hmem
  exact ⟨rfl, rfl⟩

theorem fullLoaded_mem : ⟨numberedAddress 166, .active, true⟩ ∈ fullLoaded :=
  List.mem_map.mpr ⟨166, by decide, rfl⟩

/-- Row 0 of the full table has distinct keys, and 166 has the least. -/
theorem full_keys :
    (((newcomer :: fullLoaded).map LoadedBackend.address).map
      (rendezvousKey (sampleInput fullSlots).seed 0)).Nodup ∧
    ∀ address ∈ fullLoaded.map LoadedBackend.address,
      rendezvousKey (sampleInput fullSlots).seed 0 (numberedAddress 166) ≤
        rendezvousKey (sampleInput fullSlots).seed 0 address := by
  decide +kernel

theorem full_keysDistinct : (sampleInput fullSlots).KeysDistinct 0 :=
  keysDistinct_of_nodup (List.nodup_cons.mp full_keys.1).2

theorem pushed_keysDistinct : (sampleInput pushedSlots).KeysDistinct 0 :=
  keysDistinct_of_nodup ((((List.take_sublist maxNumBackends
    (newcomer :: fullLoaded)).map _).map _).nodup full_keys.1)

theorem pushed_drops_last :
    ∀ backend ∈ (sampleInput pushedSlots).backends.used,
      backend.address ≠ numberedAddress 166 := by
  decide +kernel

theorem full_primary {ranked : List SortableBackend}
    {p s : LoadedBackend × ℕ} {rest : List (LoadedBackend × ℕ)}
    (hranked : Ranked (sampleInput fullSlots) 0 ranked (p :: s :: rest)) :
    (emittedPair p s).1.address = numberedAddress 166 := by
  have hused : ∀ backend, backend ∈ (sampleInput fullSlots).backends.used ↔
      backend ∈ fullLoaded ∨ backend ∈ [] :=
    fun backend => ⟨Or.inl, fun h => h.resolve_right List.not_mem_nil⟩
  rcases primary_cases hranked full_keysDistinct fullLoaded_settled
    (fun _ hmem => absurd hmem List.not_mem_nil) hused with
    ⟨hmem, hleast⟩ | ⟨hold, _⟩
  · have haddress := List.mem_map_of_mem (f := LoadedBackend.address) hmem
    have hkey := le_antisymm (hleast _ fullLoaded_mem)
      (full_keys.2 _ haddress)
    exact List.inj_on_of_nodup_map (List.nodup_cons.mp full_keys.1).2
      haddress (List.mem_map_of_mem (f := LoadedBackend.address)
        fullLoaded_mem) hkey
  · cases hold

/-- Adding a proxy in front of 256 others drops the last of them from the
table, and with it the primary of row 0. -/
theorem full_table_loses_primary :
    ∃ writes writes' entry primary pair,
      buildConfig zeroGarbage mergeSortByHash
        (sampleRoot [sampleTable fullBackends]) = .ok writes ∧
      buildConfig zeroGarbage mergeSortByHash
        (sampleRoot [sampleTable pushedBackends]) = .ok writes' ∧
      buildInputs zeroGarbage (sampleRoot [sampleTable fullBackends]) =
        .ok [sampleInput fullSlots] ∧
      buildInputs zeroGarbage (sampleRoot [sampleTable pushedBackends]) =
        .ok [sampleInput pushedSlots] ∧
      (sampleInput fullSlots).backends.used = fullLoaded ∧
      (sampleInput pushedSlots).backends.used =
        (newcomer :: fullLoaded).take maxNumBackends ∧
      ProxyStep [] [newcomer] ∧
      (∀ backend ∈ fullLoaded, backend.Settled) ∧
      ((newcomer :: fullLoaded).map LoadedBackend.address).Nodup ∧
      (sampleInput fullSlots).KeysDistinct 0 ∧
      (sampleInput pushedSlots).KeysDistinct 0 ∧
      tableEntry (fileOf writes) 0 0 = some entry ∧
      (sampleInput fullSlots).backends.used[entry.primary.toNat]? =
        some primary ∧
      rowAddresses (fileOf writes') 0 0 (sampleInput pushedSlots) =
        some pair ∧
      primary.address ∉ pair := by
  have hinput : [sampleInput fullSlots][0]? =
      some (sampleInput fullSlots) := rfl
  have hinput' : [sampleInput pushedSlots][0]? =
      some (sampleInput pushedSlots) := rfl
  have hrow : 0 < tableEntries := by decide
  obtain ⟨writes, hbuild, hfile⟩ := buildConfig_of_inputs mergeSortByHash
    (buildInputs_full zeroGarbage)
  obtain ⟨writes', hbuild', hfile'⟩ := buildConfig_of_inputs mergeSortByHash
    (buildInputs_pushed zeroGarbage)
  obtain ⟨ranked, p, s, rest, _, hranked, hentry⟩ := builtFile_pair
    zeroGarbage mergeSortByHash hinput hrow (by decide +kernel)
  have hp : p ∈ (sampleInput fullSlots).available :=
    hranked.perm.mem_iff.mp (by simp)
  have hs : s ∈ (sampleInput fullSlots).available :=
    hranked.perm.mem_iff.mp (by simp)
  have hpair := builtFile_rowAddresses zeroGarbage mergeSortByHash hinput'
    hrow (by decide +kernel) pushed_keysDistinct
  rw [← hfile] at hentry
  rw [← hfile'] at hpair
  refine ⟨writes, writes', emitPair p s, (emittedPair p s).1, _, hbuild,
    hbuild', buildInputs_full zeroGarbage, buildInputs_pushed zeroGarbage,
    rfl, rfl, .add (sampleAddress 1) true, fullLoaded_settled,
    List.Nodup.of_map _ full_keys.1, full_keysDistinct,
    pushed_keysDistinct, hentry, used_emitPair_primary hp hs, hpair, ?_⟩
  rw [full_primary hranked]
  intro hmem
  obtain ⟨backend, hused, _, haddress⟩ :=
    mem_addresses_iff.mp (Finset.mem_filter.mp hmem).1
  exact pushed_drops_last backend hused haddress

end GlbDirector
