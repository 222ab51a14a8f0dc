import GlbDirector.PathMtuTables

/-!
# Expanding port ranges

`ReloadForwardingTable` writes one key of `glb_binds` for every port of a
range.  The loop compares a 16-bit variable with an inclusive bound, so a range
that ends at the last port is never left: the variable wraps and the loop runs
until the budget of 4096 keys shared by all tables is spent.  Every other
accepted table within the budget is expanded completely.
-/

namespace GlbDirector

open ByteCodec ExceptLoops MapWrites

/-! ## The bind loops alone -/

/-- The bind loop of one table. -/
def loadTableBinds (raw : Bytes) (state : List (GlbBind × UInt32) × ℕ)
    (i : ℕ) : Except LoadError (List (GlbBind × UInt32) × ℕ) := do
  let numBinds ← orLoadError (tableNumBinds raw i) .badConfig
  (List.range numBinds.toNat).foldlM (loadBind raw i) state

/-- What `ReloadForwardingTable` does to `glb_binds`, with the budget left. -/
def loadBinds (raw : Bytes) (num : UInt32) :
    Except LoadError (List (GlbBind × UInt32) × ℕ) :=
  (List.range num.toNat).foldlM (loadTableBinds raw) ([], bpfMaxBinds)

theorem loadTableBinds_eq_ok_iff {raw : Bytes}
    {state state' : List (GlbBind × UInt32) × ℕ} {i : ℕ} :
    loadTableBinds raw state i = .ok state' ↔
      ∃ numBinds, tableNumBinds raw i = some numBinds ∧
        (List.range numBinds.toNat).foldlM (loadBind raw i) state =
          .ok state' := by
  simp only [loadTableBinds, bind_eq_ok_iff, orLoadError_eq_ok_iff]

/-- The loader runs these loops between its other writes. -/
theorem loadTable_loadTableBinds {raw : Bytes} {state state' : XdpMaps × ℕ}
    {i : ℕ} (hload : loadTable raw state i = .ok state') :
    loadTableBinds raw (state.1.glbBinds, state.2) i =
      .ok (state'.1.glbBinds, state'.2) := by
  simp only [loadTable, bind_eq_ok_iff] at hload
  obtain ⟨rows, _, hload⟩ := hload
  split at hload
  · cases hload
  · simp only [bind_eq_ok_iff, orLoadError_eq_ok_iff] at hload
    obtain ⟨_, _, numBinds, hnumBinds, _, hrun, hload⟩ := hload
    obtain rfl := Except.ok.inj hload
    exact loadTableBinds_eq_ok_iff.mpr ⟨numBinds, hnumBinds, hrun⟩

/-- A load that completes has run the loops to their end. -/
theorem reloadForwardingTable_loadBinds {raw : Bytes}
    {start maps : XdpMaps} {num : UInt32} (hfresh : start.glbBinds = [])
    (hnum : numTables raw = some num)
    (hload : reloadForwardingTable raw start = .ok maps) :
    ∃ left, loadBinds raw num = .ok (maps.glbBinds, left) := by
  unfold reloadForwardingTable at hload
  split at hload
  · cases hload
  · simp only [bind_eq_ok_iff, orLoadError_eq_ok_iff] at hload
    obtain ⟨num', hnum', state, hrun, hmaps⟩ := hload
    obtain rfl := Option.some.inj (hnum'.symm.trans hnum)
    obtain rfl := Except.ok.inj hmaps
    refine ⟨state.2, ?_⟩
    refine foldlM_range_invariant (fun k (state : XdpMaps × ℕ) =>
      (List.range k).foldlM (loadTableBinds raw) ([], bpfMaxBinds) =
        .ok (state.1.glbBinds, state.2)) ?_ ?_ hrun
    · rw [hfresh]
      rfl
    · intro k state state' _ hbefore hstep
      exact foldlM_range_succ_eq_ok_iff.mpr
        ⟨_, hbefore, loadTable_loadTableBinds hstep⟩

/-! ## Ranges that are left -/

/-- A loop over the binds of a table that ends has met no such range. -/
theorem portEnd_ne_of_loadBind {raw : Bytes} {t b : ℕ}
    {state state' : List (GlbBind × UInt32) × ℕ}
    (hload : loadBind raw t state b = .ok state') :
    ∃ bind, tableBind raw t b = some bind ∧ bind.portEnd ≠ 0xffff := by
  simp only [loadBind, bind_eq_ok_iff, orLoadError_eq_ok_iff] at hload
  obtain ⟨bind, hbind, result, hports, _⟩ := hload
  exact ⟨bind, hbind, fun hend =>
    putBindPorts_ne_ok hend _ _ _ _ result hports⟩

/-- No bind that the loops have met ends at the last port. -/
def PortsLeft (raw : Bytes) (t b : ℕ) : Prop :=
  ∀ t' bind, BindsUpTo raw t b t' bind → bind.portEnd ≠ 0xffff

theorem foldlM_loadBind_portsLeft {raw : Bytes} {t : ℕ} {numBinds : UInt32}
    {state state' : List (GlbBind × UInt32) × ℕ}
    (hnumBinds : tableNumBinds raw t = some numBinds)
    (hbefore : PortsLeft raw t 0)
    (hrun : (List.range numBinds.toNat).foldlM (loadBind raw t) state =
      .ok state') :
    PortsLeft raw (t + 1) 0 := by
  have hlast : PortsLeft raw t numBinds.toNat := by
    refine foldlM_range_invariant (fun b _ => PortsLeft raw t b) hbefore ?_
      hrun
    intro b state state' _ hheld hstep t' bind hbind
    obtain ⟨last, hlast, hend⟩ := portEnd_ne_of_loadBind hstep
    rcases (bindsUpTo_succ_iff hlast).mp hbind with hearlier | ⟨_, rfl⟩
    · exact hheld t' bind hearlier
    · exact hend
  intro t' bind hbind
  exact hlast t' bind ((bindsUpTo_table_iff hnumBinds).mpr hbind)

/-- What the loops have done up to table `t`. -/
def ExpandedUpTo (raw : Bytes) (t : ℕ)
    (state : List (GlbBind × UInt32) × ℕ) : Prop :=
  Holds (lookupBind state.1) (WrittenBy (BindsUpTo raw t 0)) ∧
    PortsLeft raw t 0

theorem loadBinds_expanded {raw : Bytes} {num : UInt32}
    {state : List (GlbBind × UInt32) × ℕ}
    (hrun : loadBinds raw num = .ok state) :
    ExpandedUpTo raw num.toNat state := by
  refine foldlM_range_invariant (ExpandedUpTo raw)
    ⟨holds_bindsUpTo_zero raw, fun t bind hbind =>
      absurd hbind (bindsUpTo_zero raw t bind)⟩ ?_ hrun
  intro t state state' _ hheld hstep
  obtain ⟨numBinds, hnumBinds, hbinds⟩ := loadTableBinds_eq_ok_iff.mp hstep
  exact ⟨foldlM_loadBind_holds hnumBinds hheld.1 hbinds,
    foldlM_loadBind_portsLeft hnumBinds hheld.2 hbinds⟩

/-! ## Tables within the budget -/

/-- An accepted forwarding table whose keys number at most 4096; a range whose
end lies before its start has no keys. -/
structure Expandable (raw : Bytes) (num : UInt32) : Prop where
  checked : checkConfig raw = some (.ok ())
  count : numTables raw = some num
  fits : ∑ t ∈ Finset.range num.toNat, tableUse raw t ≤ bpfMaxBinds

theorem Expandable.exists_loadBinds {raw : Bytes} {num : UInt32}
    (hexpandable : Expandable raw num)
    (hports : ∀ t bind, FileHasBind raw t bind → bind.portEnd ≠ 0xffff) :
    ∃ state, loadBinds raw num = .ok state := by
  obtain ⟨hsize, htables⟩ :=
    checkConfig_ok hexpandable.checked hexpandable.count
  have hstart : ([] : List (GlbBind × UInt32)).length + bpfMaxBinds ≤
      bpfMaxBinds := by simp
  have hstep : ∀ t (state : List (GlbBind × UInt32) × ℕ), t < num.toNat →
      state.1.length + state.2 ≤ bpfMaxBinds → tableUse raw t ≤ state.2 →
      ∃ state', loadTableBinds raw state t = .ok state' ∧
        state'.2 + tableUse raw t = state.2 ∧
        state'.1.length + state'.2 ≤ bpfMaxBinds := by
    rintro t ⟨binds, left⟩ ht hroom huse
    obtain ⟨numBinds, hnumBinds, hle⟩ := checkTable_ok (htables t ht)
    obtain ⟨state', hbinds, hspent⟩ := exists_foldlM_loadBind hsize ht
      hnumBinds hle (fun b hb bind hbind => hports t bind
        ⟨⟨num, hexpandable.count, ht⟩, numBinds, b, hnumBinds, hb, hbind⟩)
      huse hroom
    exact ⟨state', loadTableBinds_eq_ok_iff.mpr
      ⟨numBinds, hnumBinds, hbinds⟩, hspent⟩
  obtain ⟨state, hrun, _⟩ := exists_foldlM_range_spending Prod.snd
    (tableUse raw) (fun state : List (GlbBind × UInt32) × ℕ =>
      state.1.length + state.2 ≤ bpfMaxBinds)
    (show (([], bpfMaxBinds) : List (GlbBind × UInt32) × ℕ).1.length + _ ≤ _
      from hstart) hexpandable.fits hstep
  exact ⟨state, hrun⟩

/-- Within the budget, the ranges are expanded completely exactly when none
ends at the last port. -/
theorem port_expansion_iff {raw : Bytes} {num : UInt32}
    (hexpandable : Expandable raw num) :
    (∃ binds left, loadBinds raw num = .ok (binds, left) ∧
        Holds (lookupBind binds) (WrittenBy (FileHasBind raw))) ↔
      ∀ t bind, FileHasBind raw t bind → bind.portEnd ≠ 0xffff := by
  have hfile := fun t bind =>
    @bindsUpTo_file_iff raw num t bind hexpandable.count
  constructor
  · rintro ⟨binds, left, hrun, _⟩ t bind hbind
    exact (loadBinds_expanded hrun).2 t bind ((hfile t bind).mpr hbind)
  · intro hports
    obtain ⟨⟨binds, left⟩, hrun⟩ := hexpandable.exists_loadBinds hports
    exact ⟨binds, left, hrun, (loadBinds_expanded hrun).1.congr
      (writtenBy_congr hfile)⟩

/-! ## A range that is never left -/

/-- The loop over a range that ends at the last port spends the whole
budget. -/
theorem putBindPorts_endless {bind : FwdBind} (hend : bind.portEnd = 0xffff)
    (tableIndex : UInt32) (left : ℕ) (p : UInt16)
    {binds : List (GlbBind × UInt32)}
    (hroom : binds.length + left ≤ bpfMaxBinds) :
    putBindPorts bind tableIndex left p binds = .error .maxBindsReached := by
  have hle : ∀ p : UInt16, p ≤ bind.portEnd := by
    intro p
    rw [hend, UInt16.le_iff_toNat_le]
    exact Nat.le_of_lt_succ p.toNat_lt
  induction left generalizing p binds with
  | zero => rw [putBindPorts, if_pos (hle p)]
  | succ left ih =>
      obtain ⟨binds', hput, hlength⟩ := putBind_ok
        { ipv4 := getBindIpv4 bind, ipv6 := getBindIpv6 bind
          proto := bind.proto.toUInt16, port := htons p } tableIndex
        (show binds.length < bpfMaxBinds by omega)
      rw [putBindPorts, if_pos (hle p), hput]
      exact ih (p + 1) (by omega)

theorem loadBinds_endless {raw : Bytes} {bind : FwdBind}
    (hnumBinds : tableNumBinds raw 0 = some 1)
    (hbind : tableBind raw 0 0 = some bind)
    (hend : bind.portEnd = 0xffff) :
    loadBinds raw 1 = .error .maxBindsReached := by
  have hports := putBindPorts_endless hend (UInt32.ofNat 0) bpfMaxBinds
    bind.portStart (show ([] : List (GlbBind × UInt32)).length +
      bpfMaxBinds ≤ bpfMaxBinds by simp)
  have hload : loadBind raw 0 ([], bpfMaxBinds) 0 =
      .error .maxBindsReached := by
    rw [loadBind, hbind]
    change (putBindPorts bind (UInt32.ofNat 0) bpfMaxBinds bind.portStart [] >>=
      _) = _
    rw [hports]
    rfl
  have htable : loadTableBinds raw ([], bpfMaxBinds) 0 =
      .error .maxBindsReached := by
    simp only [loadTableBinds, hnumBinds, orLoadError]
    change ([0] : List ℕ).foldlM (loadBind raw 0) ([], bpfMaxBinds) = _
    rw [List.foldlM_cons, hload]
    rfl
  change ([0] : List ℕ).foldlM (loadTableBinds raw) ([], bpfMaxBinds) = _
  rw [List.foldlM_cons, htable]
  rfl

/-- A bind for TCP on 1.1.1.1. -/
def rangeBind (portStart portEnd : UInt16) : BindEntry where
  inetFamily := familyIpv4
  ip := strayBind.ip
  ipBits := 32
  portStart
  portEnd
  ipproto := ipProtoTcp
  reserved := 0

def rangeImage (portStart portEnd : UInt16) : TableImage :=
  { sharedImage ipProtoTcp with
    binds := padSlots maxNumBinds .zero [rangeBind portStart portEnd]
    binds_length := padSlots_length _ (show 1 ≤ maxNumBinds by decide) }

def rangeFile (portStart portEnd : UInt16) : Bytes :=
  configFile 1 [rangeImage portStart portEnd]

section RangeFile

variable (portStart portEnd : UInt16)

theorem rangeImage_accepted : (rangeImage portStart portEnd).Accepted where
  hbackends := show (1 : UInt32) ≠ 0 ∧ 1 ≤ maxNumBackends by decide
  hbinds := show (1 : UInt32) ≠ 0 ∧ 1 ≤ maxNumBinds by decide
  hbackend := (sharedImage_accepted (show supportedProto ipProtoTcp = true by
    decide)).hbackend
  hbind index hindex := by
    obtain rfl : index = 0 := Nat.lt_one_iff.mp hindex
    exact ⟨rangeBind portStart portEnd, padSlots_getElem?_used _ rfl,
      Or.inl rfl, show supportedProto ipProtoTcp = true by decide⟩

theorem rangeFile_accepted :
    checkConfig (rangeFile portStart portEnd) = some (.ok ()) :=
  checkConfig_accepted rfl (by decide) fun _ himage =>
    List.mem_singleton.mp himage ▸ rangeImage_accepted portStart portEnd

theorem rangeFile_numBinds :
    tableNumBinds (rangeFile portStart portEnd) 0 = some 1 :=
  tableNumBinds_configFile 1
    (show [rangeImage portStart portEnd][0]? = some _ from rfl)

theorem rangeFile_bind :
    tableBind (rangeFile portStart portEnd) 0 0 =
      some (rangeBind portStart portEnd).view :=
  tableBind_configFile 1
    (show [rangeImage portStart portEnd][0]? = some _ from rfl)
    (padSlots_getElem?_used _ rfl)

theorem rangeFile_use :
    ∑ t ∈ Finset.range (1 : UInt32).toNat,
        tableUse (rangeFile portStart portEnd) t =
      portEnd.toNat + 1 - portStart.toNat + 1 := by
  have hone : (1 : UInt32).toNat = 1 := rfl
  rw [hone, Finset.sum_range_one, tableUse, rangeFile_numBinds]
  simp only [Option.map_some, Option.getD_some, hone, Finset.sum_range_one,
    bindUseAt, rangeFile_bind]
  rfl

theorem rangeFile_expandable
    (hfits : portEnd.toNat + 1 - portStart.toNat + 1 ≤ bpfMaxBinds) :
    Expandable (rangeFile portStart portEnd) 1 where
  checked := rangeFile_accepted portStart portEnd
  count := numTables_configFile 1 _
  fits := by
    rw [rangeFile_use]
    exact hfits

end RangeFile

theorem port_expansion_iff_http :
    Expandable (rangeFile 80 90) 1 ∧
      ((∃ binds left, loadBinds (rangeFile 80 90) 1 = .ok (binds, left) ∧
          Holds (lookupBind binds) (WrittenBy (FileHasBind (rangeFile 80 90)))) ↔
        ∀ t bind, FileHasBind (rangeFile 80 90) t bind →
          bind.portEnd ≠ 0xffff) := by
  have hexpandable := rangeFile_expandable 80 90 (by decide)
  exact ⟨hexpandable, port_expansion_iff hexpandable⟩

/-- One bind for one port needs two keys and stops the director. -/
theorem last_port_fatal :
    Expandable (rangeFile 0xffff 0xffff) 1 ∧
      (rangeBind 0xffff 0xffff).view.portStart ≤
        (rangeBind 0xffff 0xffff).view.portEnd ∧
      loadBinds (rangeFile 0xffff 0xffff) 1 = .error .maxBindsReached ∧
      ∀ start maps, start.glbBinds = [] →
        reloadForwardingTable (rangeFile 0xffff 0xffff) start ≠ .ok maps := by
  have hfatal : loadBinds (rangeFile 0xffff 0xffff) 1 =
      .error .maxBindsReached :=
    loadBinds_endless (rangeFile_numBinds _ _) (rangeFile_bind _ _) rfl
  refine ⟨rangeFile_expandable 0xffff 0xffff (by decide), by decide, hfatal,
    ?_⟩
  intro start maps hfresh hload
  obtain ⟨left, hbinds⟩ := reloadForwardingTable_loadBinds hfresh
    (numTables_configFile 1 _) hload
  cases hfatal.symm.trans hbinds

end GlbDirector
