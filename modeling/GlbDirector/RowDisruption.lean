import GlbDirector.ProxyTransitions

/-!
# What a change of backends leaves alone

Two tables with one seed may differ in any number of backends.  A row loses a
backend that is still available only to a backend that was not available
before, and a row whose two backends are untouched and that gains no newcomer
is the same row, primary and secondary in the same places.
-/

namespace GlbDirector

open ByteCodec RankedPair

/-! ## The backends of a row -/

/-- The two backends that row `r` of table `t` names, primary first. -/
def rowBackends (file : Bytes) (t r : ℕ) (input : TableInput) :
    Option (LoadedBackend × LoadedBackend) := do
  let entry ← tableEntry file t r
  let primary ← input.backends.used[entry.primary.toNat]?
  let secondary ← input.backends.used[entry.secondary.toNat]?
  return (primary, secondary)

theorem rowBackends_mem {file : Bytes} {t r : ℕ} {input : TableInput}
    {row : LoadedBackend × LoadedBackend}
    (hrow : rowBackends file t r input = some row) :
    row.1 ∈ input.backends.used ∧ row.2 ∈ input.backends.used := by
  simp only [rowBackends, Option.bind_eq_bind, Option.bind_eq_some_iff,
    Option.pure_def, Option.some.injEq] at hrow
  obtain ⟨entry, _, primary, hprimary, secondary, hsecondary, rfl⟩ := hrow
  exact ⟨List.mem_of_getElem? hprimary, List.mem_of_getElem? hsecondary⟩

theorem rowBackends_of_entry {file : Bytes} {t r : ℕ} {input : TableInput}
    {p s : LoadedBackend × ℕ} (hp : p ∈ input.available)
    (hs : s ∈ input.available)
    (hentry : tableEntry file t r = some (emitPair p s)) :
    rowBackends file t r input = some (emittedPair p s) := by
  have hpUsed := (mem_available_iff.mp hp).1
  have hsUsed := (mem_available_iff.mp hs).1
  unfold rowBackends emittedPair
  rw [hentry]
  unfold emitPair
  split <;>
    simp [index_toNat_of_mem_available hp, index_toNat_of_mem_available hs,
      hpUsed, hsUsed]

section Emitted

variable (holds : LoadedBackend → Prop) {p s : LoadedBackend × ℕ}

theorem emittedPair_or :
    holds (emittedPair p s).1 ∨ holds (emittedPair p s).2 ↔
      holds p.1 ∨ holds s.1 := by
  unfold emittedPair
  split
  · exact or_comm
  · exact Iff.rfl

theorem emittedPair_and :
    holds (emittedPair p s).1 ∧ holds (emittedPair p s).2 ↔
      holds p.1 ∧ holds s.1 := by
  unfold emittedPair
  split
  · exact and_comm
  · exact Iff.rfl

end Emitted

/-- A row ranks `p` first and `s` second. -/
structure RanksFirst (input : TableInput) (r : ℕ)
    (p s : LoadedBackend) : Prop where
  hp : p ∈ input.backends.used ∧ p.state ≠ .inactive
  hs : s ∈ input.backends.used ∧ s.state ≠ .inactive
  hlt : rendezvousKey input.seed r p.address <
    rendezvousKey input.seed r s.address
  hpair : twoSmallest (rendezvousKey input.seed r) input.addresses =
    {p.address, s.address}

theorem builtFile_rowBackends (garbage : StackGarbage) (sort : BackendSort)
    {inputs : List TableInput} {t r : ℕ} {input : TableInput}
    (hinput : inputs[t]? = some input) (hr : r < tableEntries)
    (htwo : 2 ≤ input.available.length) (hdistinct : input.KeysDistinct r) :
    ∃ p s : LoadedBackend × ℕ, RanksFirst input r p.1 s.1 ∧
      rowBackends (builtFile garbage sort inputs) t r input =
        some (emittedPair p s) := by
  obtain ⟨ranked, p, s, rest, _, hranked, hentry⟩ :=
    builtFile_pair garbage sort hinput hr htwo
  have hfirst := (List.pairwise_cons.mp
    (hranked.strictly_sorted hdistinct)).1
  refine ⟨p, s, ⟨hranked.first_mem, hranked.second_mem,
    hfirst s List.mem_cons_self, hranked.twoSmallest_eq hdistinct⟩, ?_⟩
  exact rowBackends_of_entry (hranked.perm.mem_iff.mp (by simp))
    (hranked.perm.mem_iff.mp (by simp)) hentry

/-- Where the keys differ, an address belongs to one available backend. -/
theorem TableInput.KeysDistinct.eq_of_address {input : TableInput} {r : ℕ}
    (hdistinct : input.KeysDistinct r) {backend other : LoadedBackend}
    (hbackend : backend ∈ input.backends.used ∧ backend.state ≠ .inactive)
    (hother : other ∈ input.backends.used ∧ other.state ≠ .inactive)
    (haddress : backend.address = other.address) : backend = other := by
  obtain ⟨i, hi⟩ := List.mem_iff_getElem?.mp hbackend.1
  obtain ⟨j, hj⟩ := List.mem_iff_getElem?.mp hother.1
  have hmem : (backend, i) ∈ input.available :=
    mem_available_iff.mpr ⟨hi, hbackend.2⟩
  have hmem' : (other, j) ∈ input.available :=
    mem_available_iff.mpr ⟨hj, hother.2⟩
  have hnodup : (input.available.map fun placed =>
      rendezvousKey input.seed r placed.1.address).Nodup :=
    List.pairwise_map.mpr hdistinct
  have heq := List.inj_on_of_nodup_map hnodup hmem hmem'
    (congrArg (rendezvousKey input.seed r) haddress)
  exact congrArg Prod.fst heq

/-! ## Two tables -/

section Change

variable {input input' : TableInput} {r : ℕ} {p s p' s' : LoadedBackend}

theorem RanksFirst.stays (hold : RanksFirst input r p s)
    (hnew : RanksFirst input' r p' s') (hseed : input'.seed = input.seed)
    {address : Address} (haddress : address = p.address ∨ address = s.address)
    (hstill : address ∈ input'.addresses)
    (hknown : p'.address ∈ input.addresses)
    (hknown' : s'.address ∈ input.addresses) :
    address = p'.address ∨ address = s'.address := by
  have hnewPair := hnew.hpair
  rw [hseed] at hnewPair
  have hmem : address ∈ twoSmallest (rendezvousKey input.seed r)
      input.addresses := by
    rw [hold.hpair, Finset.mem_insert, Finset.mem_singleton]
    exact haddress
  have hsubset : twoSmallest (rendezvousKey input.seed r) input'.addresses ⊆
      input.addresses := by
    rw [hnewPair]
    exact Finset.insert_subset hknown (Finset.singleton_subset_iff.mpr hknown')
  have hkept := mem_twoSmallest_of_no_newcomer hmem hstill hsubset
  rwa [hnewPair, Finset.mem_insert, Finset.mem_singleton] at hkept

theorem RanksFirst.unchanged (hold : RanksFirst input r p s)
    (hnew : RanksFirst input' r p' s') (hseed : input'.seed = input.seed)
    (hdistinct : input'.KeysDistinct r) (hp : p ∈ input'.backends.used)
    (hs : s ∈ input'.backends.used) (hknown : p'.address ∈ input.addresses)
    (hknown' : s'.address ∈ input.addresses) : p' = p ∧ s' = s := by
  have hpStill := mem_addresses_iff.mpr ⟨p, hp, hold.hp.2, rfl⟩
  have hsStill := mem_addresses_iff.mpr ⟨s, hs, hold.hs.2, rfl⟩
  have hpStays := hold.stays hnew hseed (Or.inl rfl) hpStill hknown hknown'
  have hsStays := hold.stays hnew hseed (Or.inr rfl) hsStill hknown hknown'
  have hlt := hold.hlt
  have hlt' := hnew.hlt
  rw [hseed] at hlt'
  -- The smaller of the two keys is the first backend's in both rows.
  have hfirst : p.address = p'.address := by
    refine hpStays.resolve_right fun heq => ?_
    rw [heq] at hlt
    rcases hsStays with heq' | heq'
    · rw [heq'] at hlt
      exact lt_asymm hlt hlt'
    · rw [heq'] at hlt
      exact lt_irrefl _ hlt
  have hsecond : s.address = s'.address := by
    refine hsStays.resolve_left fun heq => ?_
    rw [heq, hfirst] at hlt
    exact lt_irrefl _ hlt
  exact ⟨hdistinct.eq_of_address hnew.hp ⟨hp, hold.hp.2⟩ hfirst.symm,
    hdistinct.eq_of_address hnew.hs ⟨hs, hold.hs.2⟩ hsecond.symm⟩

end Change

theorem rows_change_only_with_their_backends
    {garbage garbage' : StackGarbage} {sort sort' : BackendSort}
    {root root' : Json} {writes writes' : List Bytes}
    {inputs inputs' : List TableInput} {t t' r : ℕ}
    {input input' : TableInput}
    (hbuild : buildConfig garbage sort root = .ok writes)
    (hbuild' : buildConfig garbage' sort' root' = .ok writes')
    (hinputs : buildInputs garbage root = .ok inputs)
    (hinputs' : buildInputs garbage' root' = .ok inputs')
    (hinput : inputs[t]? = some input)
    (hinput' : inputs'[t']? = some input')
    (hseed : input'.seed = input.seed)
    (htwo : 2 ≤ input.available.length)
    (htwo' : 2 ≤ input'.available.length)
    (hr : r < tableEntries)
    (hdistinct : input.KeysDistinct r)
    (hdistinct' : input'.KeysDistinct r) :
    ∃ old new : LoadedBackend × LoadedBackend,
      rowBackends (fileOf writes) t r input = some old ∧
      rowBackends (fileOf writes') t' r input' = some new ∧
      (∀ address, address = old.1.address ∨ address = old.2.address →
        address ∈ input'.addresses →
        address = new.1.address ∨ address = new.2.address ∨
          new.1.address ∉ input.addresses ∨
          new.2.address ∉ input.addresses) ∧
      (old.1 ∈ input'.backends.used → old.2 ∈ input'.backends.used →
        new.1.address ∈ input.addresses → new.2.address ∈ input.addresses →
        new = old) := by
  obtain ⟨_, hsame, hfile⟩ := buildConfig_ok hbuild
  obtain ⟨_, hsame', hfile'⟩ := buildConfig_ok hbuild'
  rw [hinputs] at hsame
  rw [hinputs'] at hsame'
  cases hsame
  cases hsame'
  obtain ⟨p, s, hold, hrow⟩ :=
    builtFile_rowBackends garbage sort hinput hr htwo hdistinct
  obtain ⟨p', s', hnew, hrow'⟩ :=
    builtFile_rowBackends garbage' sort' hinput' hr htwo' hdistinct'
  rw [← hfile] at hrow
  rw [← hfile'] at hrow'
  refine ⟨_, _, hrow, hrow', ?_, ?_⟩
  · intro address haddress hstill
    by_contra hlost
    push Not at hlost
    obtain ⟨hprimary, hsecondary, hknown⟩ := hlost
    rw [emittedPair_and fun backend =>
      backend.address ∈ input.addresses] at hknown
    rw [emittedPair_or fun backend => address = backend.address] at haddress
    have hstays := hold.stays hnew hseed haddress hstill hknown.1 hknown.2
    rw [← emittedPair_or fun backend => address = backend.address] at hstays
    exact hstays.elim hprimary hsecondary
  · intro hprimary hsecondary hknown hknown'
    have hused := (emittedPair_and fun backend =>
      backend ∈ input'.backends.used).mp ⟨hprimary, hsecondary⟩
    have hboth := (emittedPair_and fun backend =>
      backend.address ∈ input.addresses).mp ⟨hknown, hknown'⟩
    obtain ⟨hfirst, hsecond⟩ := hold.unchanged hnew hseed hdistinct' hused.1
      hused.2 hboth.1 hboth.2
    unfold emittedPair
    rw [hfirst, hsecond]

theorem rows_change_only_with_their_backends_joinedRoot :
    ∃ writes writes', ∃ old new : LoadedBackend × LoadedBackend,
      buildConfig zeroGarbage mergeSortByHash twoRoot = .ok writes ∧
      buildConfig zeroGarbage mergeSortByHash joinedRoot = .ok writes' ∧
      rowBackends (fileOf writes) 0 27314 (sampleInput twoSlots) =
        some old ∧
      rowBackends (fileOf writes') 0 27314 (sampleInput joinedSlots) =
        some new ∧
      (new.1.address ∈ (sampleInput twoSlots).addresses →
        new.2.address ∈ (sampleInput twoSlots).addresses → new = old) := by
  obtain ⟨writes, hbuild, _⟩ := buildConfig_of_inputs mergeSortByHash
    (buildInputs_twoRoot zeroGarbage)
  obtain ⟨writes', hbuild', _⟩ := buildConfig_of_inputs mergeSortByHash
    (buildInputs_joinedRoot zeroGarbage)
  obtain ⟨old, new, hold, hnew, _, hunchanged⟩ :=
    rows_change_only_with_their_backends hbuild hbuild'
      (buildInputs_twoRoot zeroGarbage) (buildInputs_joinedRoot zeroGarbage)
      (show [sampleInput twoSlots][0]? = some (sampleInput twoSlots) from rfl)
      (show [sampleInput joinedSlots][0]? =
        some (sampleInput joinedSlots) from rfl) rfl (by decide) (by decide)
      (show 27314 < tableEntries by decide) (by decide +kernel)
      (by decide +kernel)
  have hused : ∀ backend ∈ (sampleInput twoSlots).backends.used,
      backend ∈ (sampleInput joinedSlots).backends.used := by decide
  refine ⟨writes, writes', old, new, hbuild, hbuild', hold, hnew, ?_⟩
  exact hunchanged (hused _ (rowBackends_mem hold).1)
    (hused _ (rowBackends_mem hold).2)

end GlbDirector
