import GlbDirector.BuildConfigRun
import GlbDirector.RankedPair

/-!
# The rows of a table

The builder sorts one array in place, row after row and table after table.
The invariant is that its first slots are the available backends in some
order; each row replaces that order by one sorted by the keys of the row,
whatever the order was before.
-/

namespace GlbDirector

open ByteCodec RankedPair

/-! ## Keys -/

/-- The sort key of an address in row `r`: the big-endian reading of
`SipHash(seed, SipHash(seed, be32(r)) ++ ip)`. -/
def rendezvousKey (seed : ByteVec 16) (r : ℕ) (address : Address) : ℕ :=
  beNat (siphash
    (siphash (u32le (UInt32.ofNat r)).reverse seed.val ++ address.bytes)
    seed.val)

theorem bswap64_toNat {bytes : Bytes} (hlength : bytes.length = 8) :
    (bswap64 (wordU64 bytes)).toNat = beNat bytes := by
  rw [bswap64, u64le_wordU64 hlength,
    wordU64_toNat (by rw [List.length_reverse, hlength]), beNat]

theorem backendHash_toNat (seed : ByteVec 16) (r : ℕ)
    (backend : LoadedBackend) :
    (backendHash seed r backend.entry).toNat =
      rendezvousKey seed r backend.address := by
  have hrow : (rowHash seed r).length = 8 := siphash_length _ _
  unfold backendHash
  rw [bswap64_toNat (siphash_length _ _), rendezvousKey]
  cases haddress : backend.address with
  | v4 octets =>
      have hdata : (rowHash seed r ++ backend.entry.ip.val).take 12 =
          rowHash seed r ++ octets.val := by
        simp [LoadedBackend.entry, haddress, Address.union,
          List.take_append, hrow, octets.2]
      simp only [LoadedBackend.entry, haddress, Address.family, if_pos] at *
      rw [hdata]
      rfl
  | v6 octets =>
      have hdata : (rowHash seed r ++ backend.entry.ip.val).take 24 =
          rowHash seed r ++ octets.val := by
        rw [List.take_of_length_le
          (by simp [hrow, backend.entry.ip.2])]
        simp [LoadedBackend.entry, haddress, Address.union]
      have hfamily : glbFamilyIpv6 ≠ glbFamilyIpv4 := by decide
      simp only [LoadedBackend.entry, haddress, Address.family,
        if_neg hfamily] at *
      rw [hdata]
      rfl

/-! ## The available backends -/

/-- The backends that are not inactive, with their positions. -/
def availableFrom (i : ℕ) (loaded : List LoadedBackend) :
    List (LoadedBackend × ℕ) :=
  (loaded.zipIdx i).filter fun placed => placed.1.state ≠ .inactive

def TableInput.available (input : TableInput) : List (LoadedBackend × ℕ) :=
  availableFrom 0 input.backends.used

theorem availableFrom_map_fst (i : ℕ) (loaded : List LoadedBackend) :
    (availableFrom i loaded).map Prod.fst =
      loaded.filter fun backend => backend.state ≠ .inactive := by
  conv_rhs => rw [← List.zipIdx_map_fst i loaded, List.filter_map]
  rfl

theorem mem_available_iff {input : TableInput} {backend : LoadedBackend}
    {i : ℕ} :
    (backend, i) ∈ input.available ↔
      input.backends.used[i]? = some backend ∧ backend.state ≠ .inactive := by
  simp [TableInput.available, availableFrom, List.mem_zipIdx_iff_getElem?]

theorem availableFrom_cons (i : ℕ) (backend : LoadedBackend)
    (rest : List LoadedBackend) :
    availableFrom i (backend :: rest) =
      if backend.state = .inactive then availableFrom (i + 1) rest
      else (backend, i) :: availableFrom (i + 1) rest := by
  by_cases hstate : backend.state = .inactive <;>
    simp [availableFrom, hstate]

/-- The fields of a slot that outlive a row. -/
def SortableBackend.place (slot : SortableBackend) : ℕ × UInt32 :=
  (slot.backend, slot.index)

def placeOf (placed : LoadedBackend × ℕ) : ℕ × UInt32 :=
  (placed.2, UInt32.ofNat placed.2)

theorem fillSortable_spec (i : ℕ) (loaded : List LoadedBackend)
    (numAvailable : ℕ) (sortable : List SortableBackend)
    (hroom : numAvailable + loaded.length ≤ sortable.length) :
    (fillSortable i loaded numAvailable sortable).1 =
        numAvailable + (availableFrom i loaded).length ∧
      (fillSortable i loaded numAvailable sortable).2.length =
        sortable.length ∧
      ((fillSortable i loaded numAvailable sortable).2.take
          (numAvailable + (availableFrom i loaded).length)).map
            SortableBackend.place =
        (sortable.take numAvailable).map SortableBackend.place ++
          (availableFrom i loaded).map placeOf := by
  induction loaded generalizing i numAvailable sortable with
  | nil => simp [fillSortable, availableFrom]
  | cons backend rest ih =>
      simp only [List.length_cons] at hroom
      by_cases hstate : backend.state = .inactive
      · simp only [fillSortable, availableFrom_cons, if_pos hstate]
        exact ih (i + 1) numAvailable sortable (by omega)
      · simp only [fillSortable, availableFrom_cons, if_neg hstate]
        set slot : SortableBackend :=
          { sortable.getD numAvailable .zero with
            backend := i, index := UInt32.ofNat i } with hslot
        obtain ⟨hnum, hlen, hplaces⟩ := ih (i + 1) (numAvailable + 1)
          (sortable.set numAvailable slot) (by rw [List.length_set]; omega)
        have hcount : numAvailable + 1 + (availableFrom (i + 1) rest).length =
            numAvailable +
              ((backend, i) :: availableFrom (i + 1) rest).length := by
          simp only [List.length_cons]
          omega
        refine ⟨by rw [hnum, hcount], by rw [hlen, List.length_set], ?_⟩
        have hset : (sortable.set numAvailable slot).take (numAvailable + 1) =
            sortable.take numAvailable ++ [slot] := by
          rw [List.take_add_one, List.getElem?_set_self (by omega),
            List.take_set_of_le le_rfl]
          rfl
        rw [← hcount, hplaces, hset]
        simp [SortableBackend.place, placeOf, hslot]

/-! ## One row -/

/-- The slot of a backend once the hashes of row `r` are in. -/
def slotAt (input : TableInput) (r : ℕ) (placed : LoadedBackend × ℕ) :
    SortableBackend where
  index := UInt32.ofNat placed.2
  hash := backendHash input.seed r placed.1.entry
  backend := placed.2

/-- Between rows: the first slots are the available backends in some order. -/
def Prepared (input : TableInput) (sortable : List SortableBackend) : Prop :=
  ∃ order : List (LoadedBackend × ℕ), order.Perm input.available ∧
    (sortable.take input.available.length).map SortableBackend.place =
      order.map placeOf

/-- After row `r`: that order is sorted by the keys of the row. -/
structure Ranked (input : TableInput) (r : ℕ)
    (sortable : List SortableBackend) (order : List (LoadedBackend × ℕ)) :
    Prop where
  perm : order.Perm input.available
  slots : sortable.take input.available.length = order.map (slotAt input r)
  sorted : order.Pairwise fun p q =>
    rendezvousKey input.seed r p.1.address ≤
      rendezvousKey input.seed r q.1.address

theorem Ranked.prepared {input : TableInput} {r : ℕ}
    {sortable : List SortableBackend} {order : List (LoadedBackend × ℕ)}
    (hranked : Ranked input r sortable order) : Prepared input sortable := by
  refine ⟨order, hranked.perm, ?_⟩
  rw [hranked.slots, List.map_map]
  rfl

theorem fillSortable_prepared (input : TableInput)
    {sortable : List SortableBackend}
    (hlength : sortable.length = maxNumBackends) :
    (fillSortable 0 input.backends.used 0 sortable).1 =
        input.available.length ∧
      (fillSortable 0 input.backends.used 0 sortable).2.length =
        maxNumBackends ∧
      Prepared input (fillSortable 0 input.backends.used 0 sortable).2 := by
  have hroom : 0 + input.backends.used.length ≤ sortable.length := by
    rw [Nat.zero_add, hlength, input.backends.used_length]
    exact Nat.min_le_left _ _
  obtain ⟨hnum, hlen, hplaces⟩ :=
    fillSortable_spec 0 input.backends.used 0 sortable hroom
  rw [Nat.zero_add] at hnum hplaces
  refine ⟨hnum, hlen.trans hlength, input.available, List.Perm.refl _, ?_⟩
  simpa [TableInput.available] using hplaces

theorem hashed_eq_map_slotAt {input : TableInput} {r : ℕ}
    {slots : List SortableBackend} {order : List (LoadedBackend × ℕ)}
    (hperm : order.Perm input.available)
    (hplaces : slots.map SortableBackend.place = order.map placeOf) :
    (slots.map fun slot =>
      { slot with
        hash := backendHash input.seed r
          (input.outBackends.getD slot.backend .zero) }) =
      order.map (slotAt input r) := by
  let rehash : ℕ × UInt32 → SortableBackend := fun place =>
    { index := place.2
      hash := backendHash input.seed r (input.outBackends.getD place.1 .zero)
      backend := place.1 }
  calc _ = (slots.map SortableBackend.place).map rehash := by
        rw [List.map_map]
        rfl
    _ = (order.map placeOf).map rehash := by rw [hplaces]
    _ = order.map (slotAt input r) := by
        rw [List.map_map]
        apply List.map_congr_left
        intro placed hmem
        have hloaded := (mem_available_iff.mp (hperm.mem_iff.mp hmem)).1
        simp [rehash, placeOf, slotAt, List.getD_eq_getElem?_getD,
          outBackends_getElem? hloaded]

/-- Each row sorts the available backends by its own keys. -/
theorem rankRow_ranked (sort : BackendSort) {input : TableInput} (r : ℕ)
    {sortable : List SortableBackend} (hprepared : Prepared input sortable) :
    ∃ order, Ranked input r
      (rankRow sort input.seed input.outBackends input.available.length r
        sortable) order := by
  obtain ⟨before, hperm, hplaces⟩ := hprepared
  obtain ⟨order, horder, hrun, hsorted⟩ :=
    sort.exists_order (slotAt input r) before
  have hbefore : order.length = input.available.length :=
    (horder.trans hperm).length_eq
  have hranked : rankRow sort input.seed input.outBackends
      input.available.length r sortable =
        order.map (slotAt input r) ++
          sortable.drop input.available.length := by
    rw [rankRow, hashed_eq_map_slotAt hperm hplaces, hrun]
  refine ⟨order, horder.trans hperm, ?_, ?_⟩
  · rw [hranked, List.take_left' (by rw [List.length_map, hbefore])]
  · refine hsorted.imp ?_
    intro p q hcmp
    rw [sortableBackendCmp_le_zero_iff] at hcmp
    rwa [← backendHash_toNat, ← backendHash_toNat]

/-! ## Whole tables -/

theorem rankRows_ranked (sort : BackendSort) {input : TableInput}
    {rows : List ℕ} {sortable : List SortableBackend}
    (hprepared : Prepared input sortable) {k r : ℕ}
    (hrow : rows[k]? = some r) :
    ∃ ranked order,
      (rankRows sort input.seed input.outBackends input.available.length rows
        sortable)[k]? = some ranked ∧ Ranked input r ranked order := by
  induction rows generalizing sortable k with
  | nil => simp at hrow
  | cons ui rest ih =>
      obtain ⟨order, hranked⟩ := rankRow_ranked sort ui hprepared
      cases k with
      | zero =>
          simp only [List.getElem?_cons_zero, Option.some.injEq] at hrow
          subst ui
          exact ⟨_, order, rfl, hranked⟩
      | succ k => exact ih hranked.prepared hrow

theorem rankings_ranked (sort : BackendSort) (input : TableInput)
    {sortable : List SortableBackend}
    (hlength : sortable.length = maxNumBackends) {r : ℕ}
    (hr : r < tableEntries) :
    ∃ ranked order, (input.rankings sort sortable)[r]? = some ranked ∧
      Ranked input r ranked order := by
  obtain ⟨hnum, _, hprepared⟩ := fillSortable_prepared input hlength
  have hrow : (List.range tableEntries)[r]? = some r := by
    simp [hr]
  simp only [TableInput.rankings, hnum]
  exact rankRows_ranked sort hprepared hrow

theorem rankRow_length (sort : BackendSort) (seed : ByteVec 16)
    (outBackends : List BackendEntry) (numAvailable ui : ℕ)
    (sortable : List SortableBackend) :
    (rankRow sort seed outBackends numAvailable ui sortable).length =
      sortable.length := by
  rw [rankRow, List.length_append, (sort.perm _).length_eq, List.length_map,
    ← List.length_append, List.take_append_drop]

theorem length_of_mem_rankRows (sort : BackendSort) (seed : ByteVec 16)
    (outBackends : List BackendEntry) (numAvailable : ℕ) {rows : List ℕ}
    {sortable ranked : List SortableBackend}
    (hmem : ranked ∈
      rankRows sort seed outBackends numAvailable rows sortable) :
    ranked.length = sortable.length := by
  induction rows generalizing sortable with
  | nil => simp [rankRows] at hmem
  | cons ui rest ih =>
      rw [rankRows, List.mem_cons] at hmem
      rcases hmem with rfl | hmem
      · exact rankRow_length ..
      · rw [ih hmem, rankRow_length]

theorem leftover_length (sort : BackendSort) (input : TableInput)
    {sortable : List SortableBackend}
    (hlength : sortable.length = maxNumBackends) :
    (input.leftover sort sortable).length = maxNumBackends := by
  have hfilled := (fillSortable_prepared input hlength).2.1
  unfold TableInput.leftover
  rw [List.getLastD_eq_getLast?]
  cases hlast : (input.rankings sort sortable).getLast? with
  | none => exact hfilled
  | some ranked =>
      have hmem := List.mem_of_getLast? hlast
      exact (length_of_mem_rankRows _ _ _ _ hmem).trans hfilled

theorem sortableAt_length (sort : BackendSort) (inputs : List TableInput)
    {start : List SortableBackend} (hstart : start.length = maxNumBackends)
    (t : ℕ) : (sortableAt sort inputs start t).length = maxNumBackends := by
  unfold sortableAt
  generalize inputs.take t = earlier
  induction earlier generalizing start with
  | nil => exact hstart
  | cons input rest ih =>
      rw [List.foldl_cons]
      exact ih (leftover_length sort input hstart)

/-! ## The row in the file -/

/-- The entry for a row whose first two backends are `p` and `s`. -/
def emitPair (p s : LoadedBackend × ℕ) : FwdEntry :=
  if swapPair p.1.entry s.1.entry then
    { primary := UInt32.ofNat s.2, secondary := UInt32.ofNat p.2 }
  else
    { primary := UInt32.ofNat p.2, secondary := UInt32.ofNat s.2 }

theorem index_lt_of_mem_available {input : TableInput}
    {placed : LoadedBackend × ℕ} (hmem : placed ∈ input.available) :
    placed.2 < maxNumBackends ∧ placed.2 < input.backends.count.toNat := by
  have hloaded := (mem_available_iff.mp hmem).1
  obtain ⟨hlt, _⟩ := List.getElem?_eq_some_iff.mp hloaded
  rw [input.backends.used_length] at hlt
  omega

theorem index_toNat_of_mem_available {input : TableInput}
    {placed : LoadedBackend × ℕ} (hmem : placed ∈ input.available) :
    (UInt32.ofNat placed.2).toNat = placed.2 := by
  have hlt := (index_lt_of_mem_available hmem).1
  have hmax : maxNumBackends = 256 := rfl
  rw [UInt32.toNat_ofNat']
  omega

theorem Ranked.exists_two {input : TableInput} {r : ℕ}
    {ranked : List SortableBackend} {order : List (LoadedBackend × ℕ)}
    (hranked : Ranked input r ranked order)
    (htwo : 2 ≤ input.available.length) :
    ∃ p s rest, order = p :: s :: rest := by
  rw [← hranked.perm.length_eq] at htwo
  match order, htwo with
  | p :: s :: rest, _ => exact ⟨p, s, rest, rfl⟩

theorem Ranked.getElem?_first {input : TableInput} {r : ℕ}
    {ranked : List SortableBackend} {p s : LoadedBackend × ℕ}
    {rest : List (LoadedBackend × ℕ)}
    (hranked : Ranked input r ranked (p :: s :: rest)) :
    ranked[0]? = some (slotAt input r p) ∧
      ranked[1]? = some (slotAt input r s) := by
  have hcount : input.available.length = rest.length + 2 := by
    rw [← hranked.perm.length_eq]
    rfl
  have hslots := hranked.slots
  constructor
  · rw [← List.getElem?_take_of_lt (show 0 < input.available.length by omega),
      hslots]
    rfl
  · rw [← List.getElem?_take_of_lt (show 1 < input.available.length by omega),
      hslots]
    rfl

theorem emitRow_of_ranked {input : TableInput} {r : ℕ}
    {ranked : List SortableBackend} {p s : LoadedBackend × ℕ}
    {rest : List (LoadedBackend × ℕ)} (stray : UInt32 → BackendEntry)
    (hranked : Ranked input r ranked (p :: s :: rest)) :
    (emitRow stray input.outBackends ranked).view = emitPair p s := by
  have hp : p ∈ input.available := hranked.perm.mem_iff.mp (by simp)
  have hs : s ∈ input.available := hranked.perm.mem_iff.mp (by simp)
  obtain ⟨hfirst, hsecond⟩ := hranked.getElem?_first
  have hpEntry := outBackends_getElem? (mem_available_iff.mp hp).1
  have hsEntry := outBackends_getElem? (mem_available_iff.mp hs).1
  simp only [emitRow, List.getD_eq_getElem?_getD, hfirst, hsecond,
    Option.getD_some, slotAt, index_toNat_of_mem_available hp,
    index_toNat_of_mem_available hs, hpEntry, hsEntry, emitPair]
  split <;> rfl

section Rows

variable (garbage : StackGarbage) (sort : BackendSort)
  {inputs : List TableInput} {t r : ℕ} {input : TableInput}

/-- The array after row `r` of table `t`. -/
def rankedRow (inputs : List TableInput) (input : TableInput) (t r : ℕ) :
    Option (List SortableBackend) :=
  (input.rankings sort (sortableAt sort inputs garbage.sortable t))[r]?

theorem builtFile_row (hinput : inputs[t]? = some input)
    (hr : r < tableEntries) :
    ∃ ranked order, rankedRow garbage sort inputs input t r = some ranked ∧
      Ranked input r ranked order ∧
      tableEntry (builtFile garbage sort inputs) t r =
        some (emitRow (garbage.stray t r) input.outBackends ranked).view := by
  obtain ⟨ranked, order, hget, hranked⟩ := rankings_ranked sort input
    (sortableAt_length sort inputs garbage.sortable_length t) hr
  refine ⟨ranked, order, hget, hranked, ?_⟩
  refine tableEntry_configFile _ (builtFile_image garbage sort hinput) ?_
  simp [TableInput.image, hget]

/-- With two backends available, the row is their first two by key. -/
theorem builtFile_pair (hinput : inputs[t]? = some input)
    (hr : r < tableEntries) (htwo : 2 ≤ input.available.length) :
    ∃ ranked p s rest,
      rankedRow garbage sort inputs input t r = some ranked ∧
      Ranked input r ranked (p :: s :: rest) ∧
      tableEntry (builtFile garbage sort inputs) t r =
        some (emitPair p s) := by
  obtain ⟨ranked, order, hget, hranked, hentry⟩ :=
    builtFile_row garbage sort hinput hr
  obtain ⟨p, s, rest, rfl⟩ := hranked.exists_two htwo
  refine ⟨ranked, p, s, rest, hget, hranked, ?_⟩
  rw [hentry, emitRow_of_ranked _ hranked]

end Rows

/-! ## Distinct keys -/

/-- The sort keys of the available backends in row `r` are pairwise
distinct. -/
def TableInput.KeysDistinct (input : TableInput) (r : ℕ) : Prop :=
  input.available.Pairwise fun p q =>
    rendezvousKey input.seed r p.1.address ≠
      rendezvousKey input.seed r q.1.address

instance (input : TableInput) (r : ℕ) : Decidable (input.KeysDistinct r) :=
  inferInstanceAs (Decidable (List.Pairwise _ _))

theorem TableInput.KeysDistinct.of_perm {input : TableInput} {r : ℕ}
    (hdistinct : input.KeysDistinct r) {order : List (LoadedBackend × ℕ)}
    (hperm : order.Perm input.available) :
    order.Pairwise fun p q =>
      rendezvousKey input.seed r p.1.address ≠
        rendezvousKey input.seed r q.1.address :=
  (hperm.pairwise_iff fun hne => hne.symm).mpr hdistinct

theorem Ranked.strictly_sorted {input : TableInput} {r : ℕ}
    {ranked : List SortableBackend} {order : List (LoadedBackend × ℕ)}
    (hranked : Ranked input r ranked order)
    (hdistinct : input.KeysDistinct r) :
    order.Pairwise fun p q =>
      rendezvousKey input.seed r p.1.address <
        rendezvousKey input.seed r q.1.address := by
  have hne := hdistinct.of_perm hranked.perm
  exact hranked.sorted.imp₂ (fun _ _ hle hne => lt_of_le_of_ne hle hne) hne

/-- Where the keys differ, the order of a row is the sorted one. -/
theorem Ranked.order_eq {input : TableInput} {r : ℕ}
    {ranked : List SortableBackend}
    {order sorted : List (LoadedBackend × ℕ)}
    (hranked : Ranked input r ranked order)
    (hperm : sorted.Perm input.available)
    (hsorted : sorted.Pairwise fun p q =>
      rendezvousKey input.seed r p.1.address <
        rendezvousKey input.seed r q.1.address) :
    order = sorted := by
  have hdistinct : input.KeysDistinct r :=
    (hperm.pairwise_iff fun hne => hne.symm).mp
      (hsorted.imp fun hlt => hlt.ne)
  refine (hranked.perm.trans hperm.symm).eq_of_pairwise ?_
    (hranked.strictly_sorted hdistinct) hsorted
  intro p q _ _ hpq hqp
  exact absurd hpq hqp.not_gt

/-! ## Primary and secondary -/

theorem available_indices_nodup (input : TableInput) :
    (input.available.map Prod.snd).Nodup := by
  have hsublist : (input.available.map Prod.snd).Sublist
      ((input.backends.used.zipIdx 0).map Prod.snd) :=
    List.filter_sublist.map _
  refine hsublist.nodup ?_
  rw [List.zipIdx_map_snd]
  exact List.nodup_range'

theorem Ranked.first_ne_second {input : TableInput} {r : ℕ}
    {ranked : List SortableBackend} {p s : LoadedBackend × ℕ}
    {rest : List (LoadedBackend × ℕ)}
    (hranked : Ranked input r ranked (p :: s :: rest)) :
    UInt32.ofNat p.2 ≠ UInt32.ofNat s.2 := by
  have hp : p ∈ input.available := hranked.perm.mem_iff.mp (by simp)
  have hs : s ∈ input.available := hranked.perm.mem_iff.mp (by simp)
  have hnodup := (hranked.perm.map Prod.snd).nodup_iff.mpr
    (available_indices_nodup input)
  intro heq
  have hindex : p.2 = s.2 := by
    rw [← index_toNat_of_mem_available hp, heq,
      index_toNat_of_mem_available hs]
  simp [hindex] at hnodup

/-- The order the documentation gives: the second-ranked backend leads when
the first is draining or unhealthy and the second is healthy. -/
def documentedPair (p s : LoadedBackend × ℕ) : FwdEntry :=
  if (p.1.state = .draining ∨ p.1.healthy = false) ∧ s.1.healthy = true then
    { primary := UInt32.ofNat s.2, secondary := UInt32.ofNat p.2 }
  else
    { primary := UInt32.ofNat p.2, secondary := UInt32.ofNat s.2 }

theorem code_eq_drainingInactive_iff (state : BackendState) :
    state.code = glbBackendStateDrainingInactive ↔
      state = .draining ∨ state = .inactive := by
  cases state <;> decide

theorem code_eq_healthUp_iff (state : BackendState) :
    state.code = glbBackendHealthUp ↔ state = .active := by
  cases state <;> decide

theorem primaryBad_entry_iff {p : LoadedBackend} (hp : p.state ≠ .inactive) :
    primaryBad p.entry = true ↔
      p.state = .draining ∨ p.healthy = false := by
  have hup : glbBackendHealthDown ≠ glbBackendHealthUp := by decide
  simp only [primaryBad, LoadedBackend.entry, Bool.or_eq_true,
    decide_eq_true_eq, code_eq_drainingInactive_iff]
  by_cases hhealthy : p.healthy = true <;> simp [hhealthy, hp, hup]

theorem swapPair_entry_iff {p : LoadedBackend} (hp : p.state ≠ .inactive)
    (s : LoadedBackend) :
    swapPair p.entry s.entry = true ↔
      (p.state = .draining ∨ p.healthy = false) ∧ s.state = .active := by
  rw [swapPair, Bool.and_eq_true, primaryBad_entry_iff hp,
    decide_eq_true_eq]
  exact and_congr_right fun _ => code_eq_healthUp_iff s.state

theorem emitPair_eq_documentedPair_iff {p s : LoadedBackend × ℕ}
    (hp : p.1.state ≠ .inactive)
    (hne : UInt32.ofNat p.2 ≠ UInt32.ofNat s.2) :
    emitPair p s = documentedPair p s ↔
      ((p.1.state = .draining ∨ p.1.healthy = false) →
        (s.1.state = .active ↔ s.1.healthy = true)) := by
  unfold emitPair documentedPair
  rw [if_congr (swapPair_entry_iff hp s.1) rfl rfl]
  by_cases hbad : p.1.state = .draining ∨ p.1.healthy = false
  · by_cases hactive : s.1.state = .active <;>
      by_cases hhealthy : s.1.healthy = true <;>
        simp [hbad, hactive, hhealthy, hne, hne.symm]
  · simp [hbad]

/-- The written order is the documented one except where a bad first-ranked
backend meets a second whose state and health disagree. -/
theorem row_order_documented_iff
    (garbage : StackGarbage) (sort : BackendSort) (root : Json)
    (writes : List Bytes)
    (hbuild : buildConfig garbage sort root = .ok writes) :
    ∃ inputs, buildInputs garbage root = .ok inputs ∧
      ∀ t input, inputs[t]? = some input → 2 ≤ input.available.length →
        ∀ r < tableEntries, ∃ ranked p s rest,
          rankedRow garbage sort inputs input t r = some ranked ∧
          Ranked input r ranked (p :: s :: rest) ∧
          (tableEntry (fileOf writes) t r = some (documentedPair p s) ↔
            ((p.1.state = .draining ∨ p.1.healthy = false) →
              (s.1.state = .active ↔ s.1.healthy = true))) := by
  obtain ⟨inputs, hinputs, hfile⟩ := buildConfig_ok hbuild
  refine ⟨inputs, hinputs, ?_⟩
  intro t input hinput htwo r hr
  obtain ⟨ranked, p, s, rest, hget, hranked, hentry⟩ :=
    builtFile_pair garbage sort hinput hr htwo
  refine ⟨ranked, p, s, rest, hget, hranked, ?_⟩
  have hp : p ∈ input.available := hranked.perm.mem_iff.mp (by simp)
  rw [hfile, hentry, Option.some.injEq]
  exact emitPair_eq_documentedPair_iff (mem_available_iff.mp hp).2
    hranked.first_ne_second

/-- An unhealthy backend and a healthy one that is still filling. -/
def fillingSlots : Slots maxNumBackends LoadedBackend where
  count := 2
  used := [⟨sampleAddress 1, .active, false⟩, ⟨sampleAddress 2, .filling, true⟩]
  used_length := by decide

def fillingRoot : Json :=
  sampleRoot [sampleTable [sampleBackend "10.0.0.1" "active" false,
    sampleBackend "10.0.0.2" "filling" true]]

theorem buildInputs_fillingRoot (garbage : StackGarbage) :
    buildInputs garbage fillingRoot = .ok [sampleInput fillingSlots] :=
  buildInputs_sample (by decide +kernel) garbage

theorem row_order_documented_iff_fillingRoot :
    ∃ writes ranked p s rest,
      buildConfig zeroGarbage mergeSortByHash fillingRoot = .ok writes ∧
      Ranked (sampleInput fillingSlots) 0 ranked (p :: s :: rest) ∧
      (tableEntry (fileOf writes) 0 0 = some (documentedPair p s) ↔
        ((p.1.state = .draining ∨ p.1.healthy = false) →
          (s.1.state = .active ↔ s.1.healthy = true))) := by
  obtain ⟨writes, hbuild, _⟩ := buildConfig_of_inputs mergeSortByHash
    (buildInputs_fillingRoot zeroGarbage)
  obtain ⟨inputs, hinputs, hrows⟩ :=
    row_order_documented_iff _ _ _ _ hbuild
  rw [buildInputs_fillingRoot] at hinputs
  cases hinputs
  obtain ⟨ranked, p, s, rest, _, hranked, hiff⟩ :=
    hrows 0 _ rfl (by decide) 0 (by decide)
  exact ⟨writes, ranked, p, s, rest, hbuild, hranked, hiff⟩

/-- Row 0 ranks the unhealthy backend first and keeps it as primary, although
the second is healthy. -/
theorem fillingRoot_row_not_documented :
    ∃ writes ranked p s,
      buildConfig zeroGarbage mergeSortByHash fillingRoot = .ok writes ∧
      rankedRow zeroGarbage mergeSortByHash [sampleInput fillingSlots]
        (sampleInput fillingSlots) 0 0 = some ranked ∧
      Ranked (sampleInput fillingSlots) 0 ranked [p, s] ∧
      p.1.healthy = false ∧ s.1.healthy = true ∧
      tableEntry (fileOf writes) 0 0 ≠ some (documentedPair p s) := by
  have hinput : [sampleInput fillingSlots][0]? =
      some (sampleInput fillingSlots) := rfl
  have hkeys :
      rendezvousKey (sampleInput fillingSlots).seed 0 (sampleAddress 1) <
        rendezvousKey (sampleInput fillingSlots).seed 0
          (sampleAddress 2) := by
    decide +kernel
  obtain ⟨writes, hbuild, hfile⟩ := buildConfig_of_inputs mergeSortByHash
    (buildInputs_fillingRoot zeroGarbage)
  obtain ⟨ranked, p, s, rest, hget, hranked, hentry⟩ :=
    builtFile_pair zeroGarbage mergeSortByHash hinput
      (show 0 < tableEntries by decide) (by decide)
  have havailable : (sampleInput fillingSlots).available =
      [(⟨sampleAddress 1, .active, false⟩, 0),
        (⟨sampleAddress 2, .filling, true⟩, 1)] := by decide
  have hsorted : (sampleInput fillingSlots).available.Pairwise fun p q =>
      rendezvousKey (sampleInput fillingSlots).seed 0 p.1.address <
        rendezvousKey (sampleInput fillingSlots).seed 0 q.1.address := by
    rw [havailable]
    simpa using hkeys
  have horder := hranked.order_eq (List.Perm.refl _) hsorted
  rw [havailable] at horder
  obtain ⟨rfl, rfl, rfl⟩ : p = _ ∧ s = _ ∧ rest = [] := by
    simpa using horder
  refine ⟨writes, ranked, _, _, hbuild, hget, hranked, rfl, rfl, ?_⟩
  rw [hfile, hentry]
  decide

/-! ## Valid rows -/

def TableInput.NotInactive (input : TableInput) (i : ℕ) : Prop :=
  ∃ backend, input.backends.used[i]? = some backend ∧
    backend.state ≠ .inactive

/-- A row names two distinct backends of its table that are not inactive. -/
def RowValid (file : Bytes) (t r : ℕ) (input : TableInput) : Prop :=
  ∃ entry numBackends, tableEntry file t r = some entry ∧
    tableNumBackends file t = some numBackends ∧
    entry.primary ≠ entry.secondary ∧
    entry.primary < numBackends ∧ entry.secondary < numBackends ∧
    input.NotInactive entry.primary.toNat ∧
    input.NotInactive entry.secondary.toNat

theorem emitPair_cases (p s : LoadedBackend × ℕ) :
    emitPair p s = ⟨UInt32.ofNat p.2, UInt32.ofNat s.2⟩ ∨
      emitPair p s = ⟨UInt32.ofNat s.2, UInt32.ofNat p.2⟩ := by
  unfold emitPair
  split
  · exact Or.inr rfl
  · exact Or.inl rfl

theorem index_valid_of_mem_available {input : TableInput}
    {placed : LoadedBackend × ℕ} (hmem : placed ∈ input.available) :
    UInt32.ofNat placed.2 < input.backends.count ∧
      input.NotInactive (UInt32.ofNat placed.2).toNat := by
  have hindex := index_toNat_of_mem_available hmem
  refine ⟨?_, placed.1, ?_⟩
  · rw [UInt32.lt_iff_toNat_lt, hindex]
    exact (index_lt_of_mem_available hmem).2
  · rw [hindex]
    exact mem_available_iff.mp hmem

theorem rowValid_of_two_available
    (garbage : StackGarbage) (sort : BackendSort) {inputs : List TableInput}
    {t r : ℕ} {input : TableInput} (hinput : inputs[t]? = some input)
    (hr : r < tableEntries) (htwo : 2 ≤ input.available.length) :
    RowValid (builtFile garbage sort inputs) t r input := by
  obtain ⟨ranked, p, s, rest, _, hranked, hentry⟩ :=
    builtFile_pair garbage sort hinput hr htwo
  have hnum := tableNumBackends_configFile
    (UInt32.ofNat inputs.length) (builtFile_image garbage sort hinput)
  have hp := index_valid_of_mem_available
    (hranked.perm.mem_iff.mp (show p ∈ p :: s :: rest by simp))
  have hs := index_valid_of_mem_available
    (hranked.perm.mem_iff.mp (show s ∈ p :: s :: rest by simp))
  have hne := hranked.first_ne_second
  rcases emitPair_cases p s with hpair | hpair
  · exact ⟨_, _, hentry.trans (congrArg some hpair), hnum, hne, hp.1, hs.1,
      hp.2, hs.2⟩
  · exact ⟨_, _, hentry.trans (congrArg some hpair), hnum, hne.symm, hs.1,
      hp.1, hs.2, hp.2⟩

theorem two_le_available_of_notInactive {input : TableInput} {i j : ℕ}
    (hne : i ≠ j) (hi : input.NotInactive i) (hj : input.NotInactive j) :
    2 ≤ input.available.length := by
  obtain ⟨first, hfirst⟩ := hi
  obtain ⟨second, hsecond⟩ := hj
  have hmemFirst := mem_available_iff.mpr hfirst
  have hmemSecond := mem_available_iff.mpr hsecond
  have hsub : [(first, i), (second, j)] ⊆ input.available := by
    simp [hmemFirst, hmemSecond]
  have hnodup : [(first, i), (second, j)].Nodup := by
    simp [hne]
  exact (hnodup.subperm hsub).length_le

/-- Every row is valid exactly when every table has two backends to offer
among those the builder loads. -/
theorem rows_valid_iff
    (garbage : StackGarbage) (sort : BackendSort) (root : Json)
    (writes : List Bytes)
    (hbuild : buildConfig garbage sort root = .ok writes) :
    ∃ inputs, buildInputs garbage root = .ok inputs ∧
      ((∀ t input, inputs[t]? = some input → ∀ r < tableEntries,
          RowValid (fileOf writes) t r input) ↔
        ∀ input ∈ inputs, 2 ≤ input.available.length) := by
  obtain ⟨inputs, hinputs, hfile⟩ := buildConfig_ok hbuild
  refine ⟨inputs, hinputs, ?_⟩
  rw [hfile]
  constructor
  · intro hvalid input hmem
    obtain ⟨t, hinput⟩ := List.mem_iff_getElem?.mp hmem
    obtain ⟨entry, _, _, _, hne, _, _, hp, hs⟩ :=
      hvalid t input hinput 0 (by decide)
    exact two_le_available_of_notInactive
      (fun heq => hne (UInt32.toNat_inj.mp heq)) hp hs
  · intro htwo t input hinput r hr
    exact rowValid_of_two_available garbage sort hinput hr
      (htwo input (List.mem_of_getElem? hinput))

/-- Every row of a table with two backends is valid. -/
theorem rows_valid_iff_fillingRoot :
    ∃ writes, buildConfig zeroGarbage mergeSortByHash fillingRoot =
        .ok writes ∧
      ∀ r < tableEntries,
        RowValid (fileOf writes) 0 r (sampleInput fillingSlots) := by
  obtain ⟨writes, hbuild, _⟩ := buildConfig_of_inputs mergeSortByHash
    (buildInputs_fillingRoot zeroGarbage)
  obtain ⟨inputs, hinputs, hrows⟩ := rows_valid_iff _ _ _ _ hbuild
  rw [buildInputs_fillingRoot] at hinputs
  cases hinputs
  have htwo : ∀ input ∈ [sampleInput fillingSlots],
      2 ≤ input.available.length := by
    intro input hmem
    rw [List.mem_singleton.mp hmem]
    decide
  exact ⟨writes, hbuild, hrows.mpr htwo 0 _ rfl⟩

/-- No row of a table with one backend is valid. -/
theorem singleRoot_row_not_valid :
    ∃ writes, buildConfig zeroGarbage mergeSortByHash singleRoot =
        .ok writes ∧
      buildInputs zeroGarbage singleRoot = .ok [sampleInput singleSlots] ∧
      ¬ RowValid (fileOf writes) 0 0 (sampleInput singleSlots) := by
  obtain ⟨writes, hbuild, _⟩ := buildConfig_of_inputs mergeSortByHash
    (buildInputs_singleRoot zeroGarbage)
  refine ⟨writes, hbuild, buildInputs_singleRoot zeroGarbage, ?_⟩
  rintro ⟨entry, _, _, _, hne, _, _, hp, hs⟩
  have htwo := two_le_available_of_notInactive
    (fun heq => hne (UInt32.toNat_inj.mp heq)) hp hs
  exact absurd htwo (by decide)

/-! ## The two smallest keys -/

/-- The addresses of the available backends. -/
def TableInput.addresses (input : TableInput) : Finset Address :=
  (input.available.map fun placed => placed.1.address).toFinset

/-- The unordered pair of addresses that row `r` of table `t` names. -/
def rowAddresses (file : Bytes) (t r : ℕ) (input : TableInput) :
    Option (Finset Address) := do
  let entry ← tableEntry file t r
  let primary ← input.backends.used[entry.primary.toNat]?
  let secondary ← input.backends.used[entry.secondary.toNat]?
  return {primary.address, secondary.address}

theorem rowAddresses_of_entry {file : Bytes} {t r : ℕ} {input : TableInput}
    {p s : LoadedBackend × ℕ} (hp : p ∈ input.available)
    (hs : s ∈ input.available)
    (hentry : tableEntry file t r = some (emitPair p s)) :
    rowAddresses file t r input = some {p.1.address, s.1.address} := by
  have hpLoaded := (mem_available_iff.mp hp).1
  have hsLoaded := (mem_available_iff.mp hs).1
  rcases emitPair_cases p s with hpair | hpair
  · simp [rowAddresses, hentry, hpair, index_toNat_of_mem_available hp,
      index_toNat_of_mem_available hs, hpLoaded, hsLoaded]
  · simp [rowAddresses, hentry, hpair, index_toNat_of_mem_available hp,
      index_toNat_of_mem_available hs, hpLoaded, hsLoaded,
      Finset.pair_comm]

theorem Ranked.twoSmallest_eq {input : TableInput} {r : ℕ}
    {ranked : List SortableBackend} {p s : LoadedBackend × ℕ}
    {rest : List (LoadedBackend × ℕ)}
    (hranked : Ranked input r ranked (p :: s :: rest))
    (hdistinct : input.KeysDistinct r) :
    twoSmallest (rendezvousKey input.seed r) input.addresses =
      {p.1.address, s.1.address} := by
  have hstrict := hranked.strictly_sorted hdistinct
  have haddresses : input.addresses =
      ((p :: s :: rest).map fun placed => placed.1.address).toFinset :=
    List.toFinset_eq_of_perm _ _ (hranked.perm.symm.map _)
  have hkeys : ((p :: s :: rest).map fun placed =>
      placed.1.address).Pairwise fun a b =>
        rendezvousKey input.seed r a < rendezvousKey input.seed r b :=
    List.pairwise_map.mpr hstrict
  rw [haddresses]
  exact twoSmallest_of_sorted hkeys

theorem builtFile_rowAddresses
    (garbage : StackGarbage) (sort : BackendSort) {inputs : List TableInput}
    {t r : ℕ} {input : TableInput} (hinput : inputs[t]? = some input)
    (hr : r < tableEntries) (htwo : 2 ≤ input.available.length)
    (hdistinct : input.KeysDistinct r) :
    rowAddresses (builtFile garbage sort inputs) t r input =
      some (twoSmallest (rendezvousKey input.seed r) input.addresses) := by
  obtain ⟨ranked, p, s, rest, _, hranked, hentry⟩ :=
    builtFile_pair garbage sort hinput hr htwo
  have hp : p ∈ input.available := hranked.perm.mem_iff.mp (by simp)
  have hs : s ∈ input.available := hranked.perm.mem_iff.mp (by simp)
  rw [hranked.twoSmallest_eq hdistinct]
  exact rowAddresses_of_entry hp hs hentry

/-- Every row names the two available backends with the smallest keys, and so
the same pair in every run and table with this seed and these backends. -/
theorem row_names_two_smallest
    (garbage : StackGarbage) (sort : BackendSort) (root : Json)
    (writes : List Bytes)
    (hbuild : buildConfig garbage sort root = .ok writes) :
    ∃ inputs, buildInputs garbage root = .ok inputs ∧
      ∀ t input, inputs[t]? = some input → 2 ≤ input.available.length →
        ∀ r < tableEntries, input.KeysDistinct r →
          rowAddresses (fileOf writes) t r input =
            some (twoSmallest (rendezvousKey input.seed r)
              input.addresses) ∧
          ∀ garbage' sort' root' writes' inputs' t' input',
            buildConfig garbage' sort' root' = .ok writes' →
            buildInputs garbage' root' = .ok inputs' →
            inputs'[t']? = some input' → input'.seed = input.seed →
            (input'.available.map fun placed => placed.1.address).Perm
              (input.available.map fun placed => placed.1.address) →
            rowAddresses (fileOf writes') t' r input' =
              rowAddresses (fileOf writes) t r input := by
  obtain ⟨inputs, hinputs, hfile⟩ := buildConfig_ok hbuild
  refine ⟨inputs, hinputs, ?_⟩
  intro t input hinput htwo r hr hdistinct
  have hpair := builtFile_rowAddresses garbage sort hinput hr htwo hdistinct
  rw [← hfile] at hpair
  refine ⟨hpair, ?_⟩
  intro garbage' sort' root' writes' inputs' t' input' hbuild' hinputs'
    hinput' hseed hperm
  obtain ⟨same, hsame, hfile'⟩ := buildConfig_ok hbuild'
  obtain rfl : same = inputs' := by
    rw [hinputs'] at hsame
    exact (Except.ok.inj hsame).symm
  have htwo' : 2 ≤ input'.available.length := by
    have hlength := hperm.length_eq
    simp only [List.length_map] at hlength
    omega
  have hdistinct' : input'.KeysDistinct r := by
    have hkeys : (input.available.map fun placed =>
        placed.1.address).Pairwise fun a b =>
          rendezvousKey input.seed r a ≠ rendezvousKey input.seed r b :=
      List.pairwise_map.mpr hdistinct
    have hkeys' := (hperm.pairwise_iff fun hne => hne.symm).mpr hkeys
    rw [List.pairwise_map] at hkeys'
    unfold TableInput.KeysDistinct
    rwa [hseed]
  have haddresses : input'.addresses = input.addresses :=
    List.toFinset_eq_of_perm _ _ hperm
  rw [hpair, hfile', builtFile_rowAddresses garbage' sort' hinput' hr htwo'
    hdistinct', hseed, haddresses]

theorem row_names_two_smallest_fillingRoot :
    ∃ writes, buildConfig zeroGarbage mergeSortByHash fillingRoot =
        .ok writes ∧
      rowAddresses (fileOf writes) 0 0 (sampleInput fillingSlots) =
        some (twoSmallest
          (rendezvousKey (sampleInput fillingSlots).seed 0)
          (sampleInput fillingSlots).addresses) := by
  obtain ⟨writes, hbuild, _⟩ := buildConfig_of_inputs mergeSortByHash
    (buildInputs_fillingRoot zeroGarbage)
  obtain ⟨inputs, hinputs, hrows⟩ :=
    row_names_two_smallest _ _ _ _ hbuild
  rw [buildInputs_fillingRoot] at hinputs
  cases hinputs
  exact ⟨writes, hbuild, (hrows 0 _ rfl (by decide) 0 (by decide)
    (by decide +kernel)).1⟩

/-- The backend 10.0.1.`last`. -/
def numberedBackend (state : String) (last : ℕ) : Json :=
  .object [(ascii "ip", .string (ascii "10.0.1." ++
      (Nat.toDigits 10 last).map fun digit => UInt8.ofNat digit.toNat)),
    (ascii "state", .string (ascii state)),
    (ascii "healthy", .boolean true)]

def numberedAddress (last : ℕ) : Address :=
  .v4 ⟨[10, 0, 1, UInt8.ofNat last], rfl⟩

/-- 254 inactive backends and three active ones, the last of which has no
slot. -/
def overflowBackends : List Json :=
  (List.range 254).map (numberedBackend "inactive") ++
    [sampleBackend "10.0.0.1" "active" true,
      sampleBackend "10.0.0.2" "active" true,
      sampleBackend "10.0.0.3" "active" true]

def overflowLoaded : List LoadedBackend :=
  (List.range 254).map (fun last => ⟨numberedAddress last, .inactive, true⟩) ++
    [⟨sampleAddress 1, .active, true⟩, ⟨sampleAddress 2, .active, true⟩,
      ⟨sampleAddress 3, .active, true⟩]

def overflowSlots : Slots maxNumBackends LoadedBackend where
  count := 257
  used := overflowLoaded.take maxNumBackends
  used_length := by decide +kernel

theorem buildInputs_overflow (garbage : StackGarbage) :
    buildInputs garbage (sampleRoot [sampleTable overflowBackends]) =
      .ok [sampleInput overflowSlots] :=
  buildInputs_sample (by decide +kernel) garbage

theorem numberedAddress_injOn {last last' : ℕ} (hlast : last < 256)
    (hlast' : last' < 256)
    (hsame : numberedAddress last = numberedAddress last') : last = last' := by
  simp only [numberedAddress, Address.v4.injEq, Subtype.mk.injEq,
    List.cons.injEq, true_and, and_true] at hsame
  have hnat := congrArg UInt8.toNat hsame
  rwa [UInt8.toNat_ofNat_of_lt' hlast, UInt8.toNat_ofNat_of_lt' hlast']
    at hnat

theorem numberedAddress_ne (last : ℕ) (other : UInt8) :
    numberedAddress last ≠ sampleAddress other := by
  intro hsame
  simp [numberedAddress, sampleAddress] at hsame

theorem overflowLoaded_nodup :
    (overflowLoaded.map LoadedBackend.address).Nodup := by
  have hmap : overflowLoaded.map LoadedBackend.address =
      (List.range 254).map numberedAddress ++
        [1, 2, 3].map sampleAddress := by
    rw [overflowLoaded, List.map_append, List.map_map]
    rfl
  rw [hmap, List.nodup_append]
  refine ⟨List.nodup_range.map_on ?_, by decide, ?_⟩
  · intro last hlast last' hlast' hsame
    have hlt := List.mem_range.mp hlast
    have hlt' := List.mem_range.mp hlast'
    exact numberedAddress_injOn (by omega) (by omega) hsame
  · intro address haddress address' haddress'
    obtain ⟨last, _, rfl⟩ := List.mem_map.mp haddress
    obtain ⟨other, _, rfl⟩ := List.mem_map.mp haddress'
    exact numberedAddress_ne last other

/-- With more entries than slots, the smallest key of row 0 belongs to an
active backend that the row does not name. -/
theorem overflow_row_misses_smallest :
    ∃ writes,
      buildConfig zeroGarbage mergeSortByHash
        (sampleRoot [sampleTable overflowBackends]) = .ok writes ∧
      overflowBackends.mapM parseBackend = .ok overflowLoaded ∧
      (overflowLoaded.map LoadedBackend.address).Nodup ∧
      overflowLoaded.filter (fun backend => backend.state ≠ .inactive) =
        [⟨sampleAddress 1, .active, true⟩, ⟨sampleAddress 2, .active, true⟩,
          ⟨sampleAddress 3, .active, true⟩] ∧
      ([sampleAddress 1, sampleAddress 2, sampleAddress 3].map
        (rendezvousKey (sampleInput overflowSlots).seed 0)).Nodup ∧
      rowAddresses (fileOf writes) 0 0 (sampleInput overflowSlots) ≠
        some (twoSmallest (rendezvousKey (sampleInput overflowSlots).seed 0)
          {sampleAddress 1, sampleAddress 2, sampleAddress 3}) := by
  have hinput : [sampleInput overflowSlots][0]? =
      some (sampleInput overflowSlots) := rfl
  have havailable : (sampleInput overflowSlots).available =
      [(⟨sampleAddress 1, .active, true⟩, 254),
        (⟨sampleAddress 2, .active, true⟩, 255)] := by decide +kernel
  obtain ⟨writes, hbuild, hfile⟩ := buildConfig_of_inputs mergeSortByHash
    (buildInputs_overflow zeroGarbage)
  refine ⟨writes, hbuild, by decide +kernel, overflowLoaded_nodup,
    by decide +kernel, by decide +kernel, ?_⟩
  obtain ⟨ranked, p, s, rest, _, hranked, hentry⟩ :=
    builtFile_pair zeroGarbage mergeSortByHash hinput
      (show 0 < tableEntries by decide) (by rw [havailable]; decide)
  have hp : p ∈ (sampleInput overflowSlots).available :=
    hranked.perm.mem_iff.mp (by simp)
  have hs : s ∈ (sampleInput overflowSlots).available :=
    hranked.perm.mem_iff.mp (by simp)
  rw [hfile, rowAddresses_of_entry hp hs hentry]
  have hmissing : ∀ placed ∈ (sampleInput overflowSlots).available,
      sampleAddress 3 ≠ placed.1.address := by
    rw [havailable]
    decide
  have hthird : sampleAddress 3 ∈
      twoSmallest (rendezvousKey (sampleInput overflowSlots).seed 0)
        {sampleAddress 1, sampleAddress 2, sampleAddress 3} := by
    decide +kernel
  intro heq
  rw [← Option.some.inj heq, Finset.mem_insert,
    Finset.mem_singleton] at hthird
  rcases hthird with hthird | hthird
  · exact hmissing p hp hthird
  · exact hmissing s hs hthird

end GlbDirector
