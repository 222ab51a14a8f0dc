import GlbDirector.XdpDirector

/-!
# What the XDP loader leaves in the maps

After a load that succeeds, each table of the file has its expanded rows and
its secret in the maps.  A checked file whose row indices are in range loads
as soon as its tables and its expanded binds fit in the maps and no port range
ends at 65535, where the loader's port counter would wrap.
-/

namespace GlbDirector

open ByteCodec ExceptLoops

theorem orLoadError_eq_ok_iff {α : Type} {value : Option α}
    {error : LoadError} {result : α} :
    orLoadError value error = .ok result ↔ value = some result := by
  cases value with
  | none => simp [orLoadError]
  | some found => simp [orLoadError]

/-! ## Rows -/

theorem backendIpv4_eq_ok_iff {raw : Bytes} {table : ℕ} {index ip : UInt32} :
    backendIpv4 raw table index = .ok ip ↔
      index.toNat < glbFmtMaxNumBackends ∧
        ∃ backend, tableBackend raw table index.toNat = some backend ∧
          backend.ipv4Addr = ip := by
  unfold backendIpv4
  split
  · rename_i hindex
    simp only [bind_eq_ok_iff, orLoadError_eq_ok_iff, hindex, true_and]
    constructor
    · rintro ⟨backend, hbackend, hip⟩
      exact ⟨backend, hbackend, Except.ok.inj hip⟩
    · rintro ⟨backend, hbackend, rfl⟩
      exact ⟨backend, hbackend, rfl⟩
  · rename_i hindex
    simp [hindex]

/-- A row of the file and the two addresses it names. -/
structure ExpandedRow (raw : Bytes) (table e : ℕ) (row : UInt32 × UInt32) where
  entry : FwdEntry
  primary : FwdBackend
  secondary : FwdBackend
  hentry : tableEntry raw table e = some entry
  hprimary : tableBackend raw table entry.primary.toNat = some primary
  hsecondary : tableBackend raw table entry.secondary.toNat = some secondary
  hrow : row = (primary.ipv4Addr, secondary.ipv4Addr)

theorem rowIps_expanded {raw : Bytes} {table e : ℕ} {row : UInt32 × UInt32}
    (hrow : rowIps raw table e = .ok row) :
    Nonempty (ExpandedRow raw table e row) := by
  simp only [rowIps, bind_eq_ok_iff, orLoadError_eq_ok_iff,
    backendIpv4_eq_ok_iff] at hrow
  obtain ⟨entry, hentry, ip, ⟨_, primary, hprimary, rfl⟩, ip',
    ⟨_, secondary, hsecondary, rfl⟩, hrow⟩ := hrow
  exact ⟨⟨entry, primary, secondary, hentry, hprimary, hsecondary,
    (Except.ok.inj hrow).symm⟩⟩

theorem loadRows_getElem? {raw : Bytes} {table : ℕ} {rows : XdpTable}
    (hrows : loadRows raw table = .ok rows) {e : ℕ}
    (he : e < glbFmtTableEntries) :
    ∃ row, rows[e]? = some row ∧
      Nonempty (ExpandedRow raw table e row) := by
  obtain ⟨row, hrow, hips⟩ := mapM_getElem? hrows (List.getElem?_range he)
  exact ⟨row, hrow, rowIps_expanded hips⟩

/-! ## Tables -/

/-- The maps hold the rows and the secret of a table. -/
structure LoadedTable (raw : Bytes) (maps : XdpMaps) (table : ℕ) where
  rows : XdpTable
  secret : Bytes
  hrows : loadRows raw table = .ok rows
  hsecret : tableSecureKey raw table = some secret
  htable : maps.glbTables table = some rows
  htableSecret : maps.glbTableSecrets table = some secret

/-- One pass of the loop over the tables. -/
structure TablePass (raw : Bytes) (maps loaded : XdpMaps) (i : ℕ) where
  rows : XdpTable
  secret : Bytes
  hrows : loadRows raw i = .ok rows
  hsecret : tableSecureKey raw i = some secret
  configBits : loaded.configBits = maps.configBits
  glbTables : loaded.glbTables = Function.update maps.glbTables i (some rows)
  glbTableSecrets : loaded.glbTableSecrets =
    Function.update maps.glbTableSecrets i (some secret)

theorem loadTable_pass {raw : Bytes} {state state' : XdpMaps × ℕ} {i : ℕ}
    (hload : loadTable raw state i = .ok state') :
    Nonempty (TablePass raw state.1 state'.1 i) := by
  simp only [loadTable, bind_eq_ok_iff] at hload
  obtain ⟨rows, hrows, hload⟩ := hload
  split at hload
  · cases hload
  · simp only [bind_eq_ok_iff, orLoadError_eq_ok_iff] at hload
    obtain ⟨secret, hsecret, numBinds, _, binds, _, hload⟩ := hload
    obtain rfl := Except.ok.inj hload
    exact ⟨⟨rows, secret, hrows, hsecret, rfl, rfl, rfl⟩⟩

theorem TablePass.loadedTable {raw : Bytes} {maps loaded : XdpMaps} {i : ℕ}
    (pass : TablePass raw maps loaded i) :
    Nonempty (LoadedTable raw loaded i) :=
  ⟨⟨pass.rows, pass.secret, pass.hrows, pass.hsecret,
    by rw [pass.glbTables, Function.update_self],
    by rw [pass.glbTableSecrets, Function.update_self]⟩⟩

theorem LoadedTable.pass {raw : Bytes} {maps loaded : XdpMaps} {table i : ℕ}
    (held : LoadedTable raw maps table) (pass : TablePass raw maps loaded i)
    (hother : table ≠ i) : Nonempty (LoadedTable raw loaded table) :=
  ⟨⟨held.rows, held.secret, held.hrows, held.hsecret,
    by rw [pass.glbTables, Function.update_of_ne hother, held.htable],
    by rw [pass.glbTableSecrets, Function.update_of_ne hother,
      held.htableSecret]⟩⟩

/-- What the passes up to `k` have established. -/
def LoadedUpTo (raw : Bytes) (start : XdpMaps) (k : ℕ)
    (state : XdpMaps × ℕ) : Prop :=
  state.1.configBits = start.configBits ∧
    ∀ table < k, Nonempty (LoadedTable raw state.1 table)

theorem LoadedUpTo.step {raw : Bytes} {start : XdpMaps} {k : ℕ}
    {state state' : XdpMaps × ℕ} (hloaded : LoadedUpTo raw start k state)
    (hload : loadTable raw state k = .ok state') :
    LoadedUpTo raw start (k + 1) state' := by
  obtain ⟨pass⟩ := loadTable_pass hload
  refine ⟨pass.configBits.trans hloaded.1, ?_⟩
  intro table htable
  by_cases hlast : table = k
  · subst hlast
    exact pass.loadedTable
  · obtain ⟨held⟩ := hloaded.2 table (by omega)
    exact held.pass pass hlast

theorem reloadForwardingTable_loaded {raw : Bytes} {start maps : XdpMaps}
    (hload : reloadForwardingTable raw start = .ok maps) {num : UInt32}
    (hnum : numTables raw = some num) :
    maps.configBits = start.configBits ∧
      ∀ table < num.toNat, Nonempty (LoadedTable raw maps table) := by
  unfold reloadForwardingTable at hload
  split at hload
  · cases hload
  · simp only [hnum, bind_eq_ok_iff, orLoadError_eq_ok_iff] at hload
    obtain ⟨num', hnum', state, hrun, hmaps⟩ := hload
    obtain rfl := Option.some.inj hnum'
    obtain rfl := Except.ok.inj hmaps
    exact foldlM_range_invariant (LoadedUpTo raw start)
      ⟨rfl, fun table htable => absurd htable (Nat.not_lt_zero table)⟩
      (fun k s s' _ hloaded hstep => hloaded.step hstep) hrun

/-! ## Reads inside a checked file -/

theorem guarded_ok_iff {stop : Prop} [Decidable stop] {error : CheckError}
    {rest : CheckResult} :
    (if stop then pure (.error error) else rest) = some (.ok ()) ↔
      ¬ stop ∧ rest = some (.ok ()) := by
  by_cases hstop : stop
  · simp [hstop]
  · simp [hstop]

theorem checkConfig_ok {raw : Bytes}
    (hcheck : checkConfig raw = some (.ok ())) {num : UInt32}
    (hnum : numTables raw = some num) :
    raw.length = expectedSize num ∧
      ∀ table < num.toNat, checkTable raw table = some (.ok ()) := by
  simp only [checkConfig, Option.bind_eq_bind, Option.bind_eq_some_iff,
    guarded_ok_iff, hnum, Option.some.injEq, exists_eq_left'] at hcheck
  obtain ⟨_, _, _, _, _, _, _, _, _, _, _, _, hsize, _, htables⟩ := hcheck
  refine ⟨(not_not.mp hsize).symm, fun table htable => ?_⟩
  exact (checkLoop_ok_iff _ _ _).mp htables table (Nat.zero_le table)
    (by omega)

theorem checkTable_ok {raw : Bytes} {table : ℕ}
    (hcheck : checkTable raw table = some (.ok ())) :
    ∃ numBinds, tableNumBinds raw table = some numBinds ∧
      numBinds.toNat ≤ glbFmtMaxNumBinds := by
  simp only [checkTable, Option.bind_eq_bind, Option.bind_eq_some_iff,
    guarded_ok_iff] at hcheck
  obtain ⟨_, _, _, numBinds, hnumBinds, _, hle, _⟩ := hcheck
  exact ⟨numBinds, hnumBinds, not_lt.mp hle⟩

theorem record_inside {start size index count limit : ℕ}
    (hindex : index < count) (hfits : start + size * count ≤ limit) :
    start + size * index + size ≤ limit := by
  have hnext : size * (index + 1) ≤ size * count :=
    Nat.mul_le_mul_left size hindex
  rw [Nat.mul_succ] at hnext
  omega

theorem exists_slice_table {raw : Bytes} {num : UInt32}
    (hsize : raw.length = expectedSize num) {table : ℕ}
    (htable : table < num.toNat) {offset len : ℕ}
    (hinside : offset + len ≤ contentTableSize) :
    ∃ part, slice (tableOffset table + offset) len raw = some part := by
  have hend : contentSize + contentTableSize * table + contentTableSize ≤
      contentSize + contentTableSize * num.toNat :=
    record_inside htable (le_refl _)
  refine ⟨_, slice_eq_some_iff.mpr ⟨?_, rfl⟩⟩
  rw [hsize, expectedSize, tableOffset]
  omega

theorem exists_tableBind {raw : Bytes} {num : UInt32} {t b : ℕ}
    (hsize : raw.length = expectedSize num) (ht : t < num.toNat)
    (hb : b < glbFmtMaxNumBinds) : ∃ bind, tableBind raw t b = some bind := by
  have hfits : bindsOffset + contentBindSize * glbFmtMaxNumBinds ≤
      contentTableSize := by decide
  obtain ⟨part, hpart⟩ :=
    exists_slice_table hsize ht (record_inside hb hfits)
  refine ⟨decodeBind part, ?_⟩
  rw [tableBind, bindOffset, hpart, Option.map_some]

/-! ## When a file loads -/

theorem putBind_ok (key : GlbBind) (tableIndex : UInt32)
    {binds : List (GlbBind × UInt32)} (hroom : binds.length < bpfMaxBinds) :
    ∃ binds', putBind key tableIndex binds = .ok binds' ∧
      binds'.length ≤ binds.length + 1 := by
  unfold putBind
  split
  · exact ⟨_, rfl, by simp⟩
  · exact ⟨_, rfl, by simp⟩

theorem putBindPorts_ok {bind : FwdBind} (hend : bind.portEnd ≠ 0xffff)
    (tableIndex : UInt32) (left : ℕ) (p : UInt16)
    {binds : List (GlbBind × UInt32)}
    (hports : bind.portEnd.toNat + 1 - p.toNat ≤ left)
    (hroom : binds.length + left ≤ bpfMaxBinds) :
    ∃ binds' left', putBindPorts bind tableIndex left p binds =
        .ok (binds', left') ∧
      left' + (bind.portEnd.toNat + 1 - p.toNat) = left ∧
      binds'.length + left' ≤ bpfMaxBinds := by
  induction left generalizing p binds with
  | zero =>
      have hdone : ¬ p ≤ bind.portEnd := by
        rw [UInt16.le_iff_toNat_le]
        omega
      exact ⟨binds, 0, if_neg hdone, by omega, hroom⟩
  | succ left ih =>
      by_cases hle : p ≤ bind.portEnd
      · obtain ⟨binds', hput, hlength⟩ := putBind_ok
          { ipv4 := getBindIpv4 bind, ipv6 := getBindIpv6 bind
            proto := bind.proto.toUInt16, port := htons p } tableIndex
          (show binds.length < bpfMaxBinds by omega)
        have hnext : (p + 1).toNat = p.toNat + 1 := by
          have hlt := bind.portEnd.toNat_lt
          have hne : bind.portEnd.toNat ≠ 65535 := fun heq =>
            hend (UInt16.toNat_inj.mp heq)
          rw [UInt16.le_iff_toNat_le] at hle
          rw [UInt16.toNat_add]
          exact Nat.mod_eq_of_lt (by change p.toNat + 1 < 65536; omega)
        rw [UInt16.le_iff_toNat_le] at hle
        obtain ⟨binds'', left', hrest, hleft, hroom'⟩ :=
          ih (p + 1) (show _ ≤ left by omega)
            (show binds'.length + left ≤ bpfMaxBinds by omega)
        refine ⟨binds'', left', ?_, by omega, hroom'⟩
        rw [putBindPorts, if_pos (UInt16.le_iff_toNat_le.mpr hle), hput]
        exact hrest
      · refine ⟨binds, left + 1, if_neg hle, ?_, hroom⟩
        rw [UInt16.le_iff_toNat_le] at hle
        omega

/-- The entries of `glb_binds` a bind asks for, its ICMP entry included. -/
def bindUse (bind : FwdBind) : ℕ :=
  bind.portEnd.toNat + 1 - bind.portStart.toNat + 1

def bindUseAt (raw : Bytes) (table b : ℕ) : ℕ :=
  ((tableBind raw table b).map bindUse).getD 0

def tableUse (raw : Bytes) (table : ℕ) : ℕ :=
  ∑ b ∈ Finset.range (((tableNumBinds raw table).map UInt32.toNat).getD 0),
    bindUseAt raw table b

theorem loadBind_ok {raw : Bytes} {table b : ℕ} {bind : FwdBind}
    (hbind : tableBind raw table b = some bind)
    (hend : bind.portEnd ≠ 0xffff) {binds : List (GlbBind × UInt32)}
    {left : ℕ} (huse : bindUseAt raw table b ≤ left)
    (hroom : binds.length + left ≤ bpfMaxBinds) :
    ∃ binds' left', loadBind raw table (binds, left) b =
        .ok (binds', left') ∧
      left' + bindUseAt raw table b = left ∧
      binds'.length + left' ≤ bpfMaxBinds := by
  simp only [bindUseAt, hbind, Option.map_some, Option.getD_some,
    bindUse] at huse ⊢
  obtain ⟨binds₁, left₁, hports, hleft, hroom₁⟩ := putBindPorts_ok hend
    (UInt32.ofNat table) left bind.portStart (by omega) hroom
  obtain ⟨binds₂, hput, hlength⟩ := putBind_ok
    { ipv4 := getBindIpv4 bind, ipv6 := getBindIpv6 bind
      proto := getBindIcmpProto bind, port := 0 } (UInt32.ofNat table)
    (show binds₁.length < bpfMaxBinds by omega)
  refine ⟨binds₂, left₁ - 1, ?_, by omega, by omega⟩
  have hspare : left₁ ≠ 0 := by omega
  simp only [loadBind, hbind, orLoadError, bind_eq_ok_iff]
  refine ⟨bind, rfl, (binds₁, left₁), hports, ?_⟩
  rw [if_neg hspare, hput]
  rfl

/-- The bind loop of a table ends when no range of it ends at the last port
and there is room for its entries. -/
theorem exists_foldlM_loadBind {raw : Bytes} {num numBinds : UInt32}
    {table : ℕ} (hsize : raw.length = expectedSize num)
    (htable : table < num.toNat)
    (hnumBinds : tableNumBinds raw table = some numBinds)
    (hle : numBinds.toNat ≤ glbFmtMaxNumBinds)
    (hports : ∀ b < numBinds.toNat, ∀ bind,
      tableBind raw table b = some bind → bind.portEnd ≠ 0xffff)
    {binds : List (GlbBind × UInt32)} {left : ℕ}
    (huse : tableUse raw table ≤ left)
    (hroom : binds.length + left ≤ bpfMaxBinds) :
    ∃ state, (List.range numBinds.toNat).foldlM (loadBind raw table)
        (binds, left) = .ok state ∧
      state.2 + tableUse raw table = left ∧
      state.1.length + state.2 ≤ bpfMaxBinds := by
  have htotal : tableUse raw table =
      ∑ b ∈ Finset.range numBinds.toNat, bindUseAt raw table b := by
    rw [tableUse, hnumBinds]
    rfl
  rw [htotal] at huse ⊢
  refine exists_foldlM_range_spending Prod.snd (bindUseAt raw table)
    (fun state : List (GlbBind × UInt32) × ℕ =>
      state.1.length + state.2 ≤ bpfMaxBinds) hroom huse ?_
  rintro b ⟨binds, left⟩ hb hroom huse
  obtain ⟨bind, hbind⟩ := exists_tableBind hsize htable (hb.trans_le hle)
  obtain ⟨binds', left', hload, hspent⟩ :=
    loadBind_ok hbind (hports b hb bind hbind) huse hroom
  exact ⟨(binds', left'), hload, hspent⟩

/-- A checked file that the maps have room for. -/
structure Loadable (raw : Bytes) (num : UInt32) : Prop where
  checked : checkConfig raw = some (.ok ())
  count : numTables raw = some num
  tables : num.toNat ≤ glbTablesMaxEntries
  rows : ∀ table < num.toNat, ∀ e < glbFmtTableEntries, ∀ entry,
    tableEntry raw table e = some entry →
      entry.primary.toNat < glbFmtMaxNumBackends ∧
        entry.secondary.toNat < glbFmtMaxNumBackends
  ports : ∀ table < num.toNat, ∀ numBinds,
    tableNumBinds raw table = some numBinds → ∀ b < numBinds.toNat, ∀ bind,
      tableBind raw table b = some bind → bind.portEnd ≠ 0xffff
  fits : ∑ table ∈ Finset.range num.toNat, tableUse raw table ≤ bpfMaxBinds

section Loadable

variable {raw : Bytes} {num : UInt32} (hloadable : Loadable raw num)
variable {table : ℕ} (htable : table < num.toNat)

include hloadable htable

theorem Loadable.exists_slice {offset len : ℕ}
    (hinside : offset + len ≤ contentTableSize) :
    ∃ part, slice (tableOffset table + offset) len raw = some part :=
  exists_slice_table (checkConfig_ok hloadable.checked hloadable.count).1
    htable hinside

theorem Loadable.backendIpv4_ok {index : UInt32}
    (hindex : index.toNat < glbFmtMaxNumBackends) :
    ∃ ip, backendIpv4 raw table index = .ok ip := by
  have hfits : backendsOffset + contentBackendSize *
      glbFmtMaxNumBackends ≤ contentTableSize := by decide
  obtain ⟨part, hpart⟩ :=
    hloadable.exists_slice htable (record_inside hindex hfits)
  refine ⟨_, backendIpv4_eq_ok_iff.mpr
    ⟨hindex, decodeBackend part, ?_, rfl⟩⟩
  rw [tableBackend, backendOffset, hpart]
  rfl

theorem Loadable.rowIps_ok {e : ℕ} (he : e < glbFmtTableEntries) :
    ∃ row, rowIps raw table e = .ok row := by
  have hfits : entriesOffset + contentEntrySize * glbFmtTableEntries ≤
      contentTableSize := le_refl _
  obtain ⟨part, hpart⟩ :=
    hloadable.exists_slice htable (record_inside he hfits)
  have hentry : tableEntry raw table e = some (decodeEntry part) := by
    rw [tableEntry, entryOffset, hpart]
    rfl
  obtain ⟨hprimary, hsecondary⟩ := hloadable.rows table htable e he _ hentry
  obtain ⟨primary, hprimary⟩ := hloadable.backendIpv4_ok htable hprimary
  obtain ⟨secondary, hsecondary⟩ :=
    hloadable.backendIpv4_ok htable hsecondary
  refine ⟨(primary, secondary), ?_⟩
  simp only [rowIps, bind_eq_ok_iff, orLoadError_eq_ok_iff]
  exact ⟨_, hentry, primary, hprimary, secondary, hsecondary, rfl⟩

theorem Loadable.loadTable_ok {maps : XdpMaps} {left : ℕ}
    (huse : tableUse raw table ≤ left)
    (hroom : maps.glbBinds.length + left ≤ bpfMaxBinds) :
    ∃ state, loadTable raw (maps, left) table = .ok state ∧
      state.2 + tableUse raw table = left ∧
      state.1.glbBinds.length + state.2 ≤ bpfMaxBinds := by
  obtain ⟨rows, hrows⟩ := exists_mapM_ok fun e he =>
    hloadable.rowIps_ok htable (List.mem_range.mp he)
  have hinside : secureKeyOffset + glbFmtSecureKeyBytes ≤
      contentTableSize := by decide
  obtain ⟨secret, hsecret⟩ := hloadable.exists_slice htable hinside
  obtain ⟨numBinds, hnumBinds, hle⟩ := checkTable_ok
    ((checkConfig_ok hloadable.checked hloadable.count).2 table htable)
  obtain ⟨⟨binds, left'⟩, hbinds, hleft, hroom'⟩ := exists_foldlM_loadBind
    (checkConfig_ok hloadable.checked hloadable.count).1 htable hnumBinds hle
    (hloadable.ports table htable numBinds hnumBinds) huse hroom
  have htables : ¬ table ≥ glbTablesMaxEntries :=
    not_le.mpr (htable.trans_le hloadable.tables)
  refine ⟨({ maps with
    glbBinds := binds
    glbTables := Function.update maps.glbTables table (some rows)
    glbTableSecrets := Function.update maps.glbTableSecrets table
      (some secret) }, left'), ?_, hleft, hroom'⟩
  simp only [loadTable, bind_eq_ok_iff]
  refine ⟨rows, hrows, ?_⟩
  rw [if_neg htables]
  simp only [bind_eq_ok_iff, orLoadError_eq_ok_iff]
  exact ⟨secret, hsecret, numBinds, hnumBinds, (binds, left'), hbinds, rfl⟩

end Loadable

/-- A checked file that fits loads into fresh maps. -/
theorem Loadable.reloadForwardingTable_ok {raw : Bytes} {num : UInt32}
    (hloadable : Loadable raw num) {maps : XdpMaps}
    (hfresh : maps.glbBinds = []) :
    ∃ loaded, reloadForwardingTable raw maps = .ok loaded := by
  have hstart : (maps, bpfMaxBinds).1.glbBinds.length +
      (maps, bpfMaxBinds).2 ≤ bpfMaxBinds := by
    simp [hfresh]
  obtain ⟨state, hrun, _⟩ := exists_foldlM_range_spending
    Prod.snd (tableUse raw)
    (fun state : XdpMaps × ℕ =>
      state.1.glbBinds.length + state.2 ≤ bpfMaxBinds)
    hstart hloadable.fits fun table state htable hroom huse =>
      hloadable.loadTable_ok htable huse hroom
  refine ⟨state.1, ?_⟩
  rw [reloadForwardingTable, if_neg (not_not.mpr hloadable.checked)]
  simp only [bind_eq_ok_iff, orLoadError_eq_ok_iff]
  exact ⟨num, hloadable.count, state, hrun, rfl⟩

end GlbDirector
