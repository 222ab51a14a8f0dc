import GlbDirector.RedirectChain
import GlbDirector.XdpLoading

/-!
# What the validator guarantees to the fast path

`glb_add_packet_route` uses the two indices of a row without a check, and
takes the first four bytes of the backends they name as IPv4 addresses.
`check_config` looks neither at the rows nor, beyond the two known families,
at the backends.  Which packets are routed safely therefore depends on the
rows they are hashed to.
-/

namespace GlbDirector

open ByteCodec ExceptLoops

/-! ## What a route reads -/

/-- The hash configurations of a route, in the order of the calls. -/
def DirectorConfig.passes (config : DirectorConfig) : List HashFields :=
  if config.useAltHashFields then [config.hashFields, config.altHashFields]
  else [config.hashFields]

/-- The backend indices in the row a packet is hashed to. -/
def rowReads (raw : Bytes) (table : ℕ) (fields : PacketFields)
    (cfg : HashFields) : List ℕ :=
  match tableSecureKey raw table with
  | none => []
  | some secureKey =>
      match tableEntry raw table (hashIdx .dpdk fields secureKey cfg) with
      | none => []
      | some entry => [entry.primary.toNat, entry.secondary.toNat]

def backendReads (config : DirectorConfig) (raw : Bytes) (table : ℕ)
    (fields : PacketFields) : List ℕ :=
  config.passes.flatMap (rowReads raw table fields)

theorem rowReads_of_entry {raw secureKey : Bytes} {table : ℕ}
    {fields : PacketFields} {cfg : HashFields} {entry : FwdEntry}
    (hkey : tableSecureKey raw table = some secureKey)
    (hentry : tableEntry raw table (hashIdx .dpdk fields secureKey cfg) =
      some entry) :
    rowReads raw table fields cfg =
      [entry.primary.toNat, entry.secondary.toNat] := by
  unfold rowReads
  rw [hkey]
  simp only [hentry]

def hopAt (raw : Bytes) (table index : ℕ) : Option UInt32 :=
  (tableBackend raw table index).map FwdBackend.ipv4Addr

theorem AddedRoute.hops {raw : Bytes} {table : ℕ} {cfg : HashFields}
    {ctx routed : RouteContext} (added : AddedRoute raw table cfg ctx routed) :
    routed.fields = ctx.fields ∧
      routed.ipv4Hops.map some = ctx.ipv4Hops.map some ++
        (rowReads raw table ctx.fields cfg).map (hopAt raw table) := by
  have hreads := rowReads_of_entry added.hkey added.hentry
  have hprimary : hopAt raw table added.entry.primary.toNat =
      some added.primary.ipv4Addr := by
    rw [hopAt, added.hprimary, Option.map_some]
  have hsecondary : hopAt raw table added.entry.secondary.toNat =
      some added.secondary.ipv4Addr := by
    rw [hopAt, added.hsecondary, Option.map_some]
  have hfields := congrArg RouteContext.fields added.hrouted
  have hhops := congrArg RouteContext.ipv4Hops added.hrouted
  rw [hreads, List.map_cons, List.map_singleton, hprimary, hsecondary, hhops,
    List.map_append]
  exact ⟨hfields, rfl⟩

/-- The hops of a route are the addresses at the indices read. -/
theorem route_hops {config : DirectorConfig} {raw packet : Bytes}
    {table : ℕ} {ctx : RouteContext}
    (hroute : glbCalculatePacketRoute config raw table packet = .ok ctx) :
    ctx.ipv4Hops.map some =
      (backendReads config raw table ctx.fields).map
        (hopAt raw table) := by
  obtain ⟨fields, first, _, hfirst, hrest⟩ :=
    glbCalculatePacketRoute_eq_ok_iff.mp hroute
  obtain ⟨added⟩ := glbAddPacketRoute_eq_ok_iff.mp hfirst
  obtain ⟨hfields, hhops⟩ := added.hops
  rw [List.map_nil, List.nil_append] at hhops
  unfold backendReads DirectorConfig.passes
  cases halt : config.useAltHashFields with
  | false =>
      rw [halt, if_neg Bool.false_ne_true] at hrest
      subst hrest
      rw [if_neg Bool.false_ne_true, List.flatMap_singleton, hfields]
      exact hhops
  | true =>
      rw [halt, if_pos rfl] at hrest
      obtain ⟨second⟩ := glbAddPacketRoute_eq_ok_iff.mp hrest
      obtain ⟨hfields', hhops'⟩ := second.hops
      rw [if_pos rfl, List.flatMap_cons, List.flatMap_singleton,
        List.map_append, hfields', hhops', hhops, hfields]

/-! ## What `check_config` guarantees -/

/-- The reads that stay inside an accepted file. -/
structure AcceptedTable (raw : Bytes) (table : ℕ) where
  secureKey : Bytes
  numBackends : UInt32
  hkey : tableSecureKey raw table = some secureKey
  hnum : tableNumBackends raw table = some numBackends
  hrow : ∀ row < tableEntries, ∃ entry, tableEntry raw table row = some entry
  hbackend : ∀ index < numBackends.toNat, ∃ backend,
    tableBackend raw table index = some backend

theorem checkTable_numBackends {raw : Bytes} {table : ℕ}
    (hcheck : checkTable raw table = some (.ok ())) :
    ∃ numBackends, tableNumBackends raw table = some numBackends ∧
      numBackends.toNat ≤ glbFmtMaxNumBackends := by
  simp only [checkTable, Option.bind_eq_bind, Option.bind_eq_some_iff,
    guarded_ok_iff] at hcheck
  obtain ⟨numBackends, hnum, _, _, _, _, _, hle, _⟩ := hcheck
  exact ⟨numBackends, hnum, not_lt.mp hle⟩

theorem exists_acceptedTable {raw : Bytes} {num : UInt32} {table : ℕ}
    (hcheck : checkConfig raw = some (.ok ()))
    (hnum : numTables raw = some num) (htable : table < num.toNat) :
    Nonempty (AcceptedTable raw table) := by
  obtain ⟨hsize, htables⟩ := checkConfig_ok hcheck hnum
  obtain ⟨numBackends, hnumBackends, hle⟩ :=
    checkTable_numBackends (htables table htable)
  obtain ⟨secureKey, hkey⟩ := exists_slice_table hsize htable
    (show secureKeyOffset + glbFmtSecureKeyBytes ≤ contentTableSize by decide)
  refine ⟨⟨secureKey, numBackends, hkey, hnumBackends, ?_, ?_⟩⟩
  · intro row hrow
    obtain ⟨part, hpart⟩ := exists_slice_table hsize htable
      (record_inside hrow (show entriesOffset + contentEntrySize *
        tableEntries ≤ contentTableSize by decide))
    refine ⟨decodeEntry part, ?_⟩
    rw [tableEntry, entryOffset, hpart, Option.map_some]
  · intro index hindex
    obtain ⟨part, hpart⟩ := exists_slice_table hsize htable
      (record_inside (hindex.trans_le hle) (show backendsOffset +
        contentBackendSize * glbFmtMaxNumBackends ≤ contentTableSize by
          decide))
    refine ⟨decodeBackend part, ?_⟩
    rw [tableBackend, backendOffset, hpart, Option.map_some]

theorem AcceptedTable.exists_rowReads {raw : Bytes} {table : ℕ}
    (accepted : AcceptedTable raw table) (fields : PacketFields)
    (cfg : HashFields) :
    ∃ entry, tableEntry raw table
        (hashIdx .dpdk fields accepted.secureKey cfg) = some entry ∧
      rowReads raw table fields cfg =
        [entry.primary.toNat, entry.secondary.toNat] := by
  obtain ⟨entry, hentry⟩ := accepted.hrow _
    (hashIdx_lt .dpdk fields accepted.secureKey cfg)
  exact ⟨entry, hentry, rowReads_of_entry accepted.hkey hentry⟩

/-- A call of `glb_add_packet_route` whose two indices are in range. -/
theorem AcceptedTable.addPacketRoute_ok {raw : Bytes} {table : ℕ}
    (accepted : AcceptedTable raw table) {ctx : RouteContext}
    {cfg : HashFields} (hroom : ctx.ipv4Hops.length + 2 ≤ glbMaxHops)
    (hreads : ∀ index ∈ rowReads raw table ctx.fields cfg,
      index < accepted.numBackends.toNat) :
    ∃ routed, glbAddPacketRoute raw table ctx cfg = .ok routed ∧
      routed.fields = ctx.fields ∧
      routed.ipv4Hops.length = ctx.ipv4Hops.length + 2 := by
  obtain ⟨entry, hentry, hrow⟩ := accepted.exists_rowReads ctx.fields cfg
  simp only [hrow, List.forall_mem_cons] at hreads
  obtain ⟨primary, hprimary⟩ := accepted.hbackend _ hreads.1
  obtain ⟨secondary, hsecondary⟩ := accepted.hbackend _ hreads.2.1
  exact ⟨_, glbAddPacketRoute_eq_ok_iff.mpr ⟨⟨accepted.secureKey, entry,
    primary, secondary, accepted.hkey, hentry, hroom, hprimary, hsecondary,
    rfl⟩⟩, rfl, List.length_append⟩

theorem AcceptedTable.route_ok {raw packet : Bytes} {table : ℕ}
    (accepted : AcceptedTable raw table) {config : DirectorConfig}
    {fields : PacketFields}
    (hfields : glbExtractPacketFields .dpdk packet = some fields)
    (hreads : ∀ index ∈ backendReads config raw table fields,
      index < accepted.numBackends.toNat) :
    ∃ ctx, glbCalculatePacketRoute config raw table packet = .ok ctx := by
  have hstart : ([] : List UInt32).length + 2 ≤ glbMaxHops := by decide
  unfold backendReads DirectorConfig.passes at hreads
  cases halt : config.useAltHashFields with
  | false =>
      rw [halt, if_neg Bool.false_ne_true, List.flatMap_singleton] at hreads
      obtain ⟨first, hfirst, _⟩ := accepted.addPacketRoute_ok
        (show (RouteContext.mk fields [] 0).ipv4Hops.length + 2 ≤
          glbMaxHops from hstart) hreads
      refine ⟨first, glbCalculatePacketRoute_eq_ok_iff.mpr
        ⟨fields, first, hfields, hfirst, ?_⟩⟩
      rw [halt, if_neg Bool.false_ne_true]
  | true =>
      rw [halt, if_pos rfl, List.flatMap_cons, List.flatMap_singleton,
        List.forall_mem_append] at hreads
      obtain ⟨first, hfirst, hsame, hhops⟩ := accepted.addPacketRoute_ok
        (show (RouteContext.mk fields [] 0).ipv4Hops.length + 2 ≤
          glbMaxHops from hstart) hreads.1
      have hroom : first.ipv4Hops.length + 2 ≤ glbMaxHops := by
        rw [hhops]
        exact le_refl 4
      have hfields' : first.fields = fields := hsame
      obtain ⟨second, hsecond, _⟩ :=
        accepted.addPacketRoute_ok hroom (hfields' ▸ hreads.2)
      refine ⟨second, glbCalculatePacketRoute_eq_ok_iff.mpr
        ⟨fields, first, hfields, hfirst, ?_⟩⟩
      rw [halt, if_pos rfl]
      exact hsecond

/-! ## Safe routes -/

/-- `hop` is the address of an IPv4 backend of the table. -/
def ConfiguredIpv4 (raw : Bytes) (table num : ℕ) (hop : UInt32) : Prop :=
  ∃ index < num, ∃ backend, tableBackend raw table index = some backend ∧
    backend.family = familyIpv4 ∧ backend.ipv4Addr = hop

/-- The route reads no backend past `num_backends`, and its hops are IPv4
addresses of the table. -/
def RouteSafe (config : DirectorConfig) (raw : Bytes) (table : ℕ)
    (packet : Bytes) : Prop :=
  ∃ num ctx, tableNumBackends raw table = some num ∧
    glbCalculatePacketRoute config raw table packet = .ok ctx ∧
    (∀ index ∈ backendReads config raw table ctx.fields,
      index < num.toNat) ∧
    ∀ hop ∈ ctx.ipv4Hops, ConfiguredIpv4 raw table num.toNat hop

/-- An index of a row that is in range and names an IPv4 backend, or one
whose first four bytes are the address of an IPv4 backend. -/
def SafeIndex (raw : Bytes) (table num index : ℕ) : Prop :=
  index < num ∧ ∃ backend, tableBackend raw table index = some backend ∧
    (backend.family = familyIpv4 ∨
      ConfiguredIpv4 raw table num backend.ipv4Addr)

theorem SafeIndex.configured {raw : Bytes} {table num index : ℕ}
    (hsafe : SafeIndex raw table num index) {hop : UInt32}
    (hhop : hopAt raw table index = some hop) :
    ConfiguredIpv4 raw table num hop := by
  obtain ⟨hindex, backend, hbackend, hfamily⟩ := hsafe
  rw [hopAt, hbackend, Option.map_some] at hhop
  obtain rfl := Option.some.inj hhop
  rcases hfamily with hipv4 | hconfigured
  · exact ⟨index, hindex, backend, hbackend, hipv4, rfl⟩
  · exact hconfigured

theorem AcceptedTable.routeSafe {raw packet : Bytes} {table : ℕ}
    (accepted : AcceptedTable raw table) {config : DirectorConfig}
    {fields : PacketFields}
    (hfields : glbExtractPacketFields .dpdk packet = some fields)
    (hsafe : ∀ index ∈ backendReads config raw table fields,
      SafeIndex raw table accepted.numBackends.toNat index) :
    RouteSafe config raw table packet := by
  obtain ⟨ctx, hroute⟩ :=
    accepted.route_ok hfields fun index hindex => (hsafe index hindex).1
  obtain rfl : ctx.fields = fields :=
    Option.some.inj ((route_spec hroute).1.symm.trans hfields)
  refine ⟨_, ctx, accepted.hnum, hroute,
    fun index hindex => (hsafe index hindex).1, ?_⟩
  intro hop hhop
  have hmem : some hop ∈ (backendReads config raw table ctx.fields).map
      (hopAt raw table) := by
    rw [← route_hops hroute]
    exact List.mem_map_of_mem hhop
  obtain ⟨index, hindex, heq⟩ := List.mem_map.mp hmem
  exact (hsafe index hindex).configured heq

/-- A packet is routed safely exactly when the rows it is hashed to name
safe indices. -/
theorem route_safe_iff {raw packet : Bytes} {num numBackends : UInt32}
    {table : ℕ} (config : DirectorConfig) {fields : PacketFields}
    (hcheck : checkConfig raw = some (.ok ()))
    (hnum : numTables raw = some num) (htable : table < num.toNat)
    (hbackends : tableNumBackends raw table = some numBackends)
    (hfields : glbExtractPacketFields .dpdk packet = some fields) :
    RouteSafe config raw table packet ↔
      ∀ index ∈ backendReads config raw table fields,
        SafeIndex raw table numBackends.toNat index := by
  obtain ⟨accepted⟩ := exists_acceptedTable hcheck hnum htable
  obtain rfl : accepted.numBackends = numBackends :=
    Option.some.inj (accepted.hnum.symm.trans hbackends)
  constructor
  · rintro ⟨_, ctx, hnumBackends, hroute, hreads, hhops⟩ index hindex
    obtain rfl := Option.some.inj (hnumBackends.symm.trans hbackends)
    obtain rfl : ctx.fields = fields :=
      Option.some.inj ((route_spec hroute).1.symm.trans hfields)
    have hlt := hreads index hindex
    obtain ⟨backend, hbackend⟩ := accepted.hbackend index hlt
    refine ⟨hlt, backend, hbackend, Or.inr (hhops _ ?_)⟩
    have hmem : hopAt raw table index ∈ ctx.ipv4Hops.map some := by
      rw [route_hops hroute]
      exact List.mem_map_of_mem hindex
    obtain ⟨hop, hhop, heq⟩ := List.mem_map.mp hmem
    rw [hopAt, hbackend, Option.map_some] at heq
    exact Option.some.inj heq ▸ hhop
  · exact accepted.routeSafe hfields

/-- Rows that name IPv4 backends below `num_backends` make every route
through the table safe. -/
theorem route_safe_of_rows {raw packet : Bytes} {num numBackends : UInt32}
    {table : ℕ} (config : DirectorConfig) {fields : PacketFields}
    (hcheck : checkConfig raw = some (.ok ()))
    (hnum : numTables raw = some num) (htable : table < num.toNat)
    (hbackends : tableNumBackends raw table = some numBackends)
    (hrows : ∀ row < tableEntries, ∀ entry,
      tableEntry raw table row = some entry →
        SafeIndex raw table numBackends.toNat entry.primary.toNat ∧
          SafeIndex raw table numBackends.toNat entry.secondary.toNat)
    (hfields : glbExtractPacketFields .dpdk packet = some fields) :
    RouteSafe config raw table packet := by
  obtain ⟨accepted⟩ := exists_acceptedTable hcheck hnum htable
  obtain rfl : accepted.numBackends = numBackends :=
    Option.some.inj (accepted.hnum.symm.trans hbackends)
  apply accepted.routeSafe hfields
  intro index hindex
  obtain ⟨cfg, _, hread⟩ := List.mem_flatMap.mp hindex
  obtain ⟨entry, hentry, hreads⟩ := accepted.exists_rowReads fields cfg
  have hsafe := hrows _ (hashIdx_lt .dpdk fields accepted.secureKey cfg)
    entry hentry
  rw [hreads] at hread
  simp only [List.mem_cons, List.not_mem_nil, or_false] at hread
  rcases hread with rfl | rfl
  · exact hsafe.1
  · exact hsafe.2

/-! ## Accepted files with unsafe rows -/

/-- The backend 2001:db8::1. -/
def strayBackend : BackendEntry where
  inetFamily := familyIpv6
  ip := ⟨[0x20, 0x01, 0x0d, 0xb8, 0, 0, 0, 0, 0, 0, 0, 0, 0, 0, 0, 1], rfl⟩
  state := 1
  health := 1

def strayBind : BindEntry where
  inetFamily := familyIpv4
  ip := ⟨[1, 1, 1, 1, 0, 0, 0, 0, 0, 0, 0, 0, 0, 0, 0, 0], rfl⟩
  ipBits := 32
  portStart := 80
  portEnd := 80
  ipproto := 6
  reserved := 0

/-- One IPv6 backend, and rows that name it and the unused slot 7. -/
def strayImage : TableImage where
  numBackends := 1
  backends := padSlots maxNumBackends .zero [strayBackend]
  backends_length := padSlots_length _ (by decide)
  numBinds := 1
  binds := padSlots maxNumBinds .zero [strayBind]
  binds_length := padSlots_length _ (by decide)
  hashKey := ByteVec.zero 16
  rows := List.replicate tableEntries { primaryIdx := 0, secondaryIdx := 7 }
  rows_length := List.length_replicate

def strayFile : Bytes := configFile 1 [strayImage]

theorem strayImage_getElem? : [strayImage][0]? = some strayImage := rfl

theorem strayImage_accepted : strayImage.Accepted where
  hbackends := by decide
  hbinds := by decide
  hbackend index hindex := by
    obtain rfl : index = 0 := Nat.lt_one_iff.mp hindex
    exact ⟨strayBackend, padSlots_getElem?_used _ rfl, Or.inr rfl⟩
  hbind index hindex := by
    obtain rfl : index = 0 := Nat.lt_one_iff.mp hindex
    exact ⟨strayBind, padSlots_getElem?_used _ rfl, Or.inl rfl, by decide⟩

theorem strayFile_accepted : checkConfig strayFile = some (.ok ()) :=
  checkConfig_accepted rfl (by decide) fun _ himage =>
    List.mem_singleton.mp himage ▸ strayImage_accepted

theorem strayFile_numBackends : tableNumBackends strayFile 0 = some 1 :=
  tableNumBackends_configFile 1 strayImage_getElem?

theorem route_safe_iff_strayFile :
    RouteSafe sampleDirector strayFile 0 samplePacket ↔
      ∀ index ∈ backendReads sampleDirector strayFile 0 sampleFields,
        SafeIndex strayFile 0 1 index :=
  route_safe_iff sampleDirector strayFile_accepted
    (numTables_configFile 1 [strayImage]) (by decide)
    strayFile_numBackends glbExtractPacketFields_sample

theorem strayFile_entry {row : ℕ} (hrow : row < tableEntries) :
    tableEntry strayFile 0 row = some ⟨0, 7⟩ := by
  have hentry : strayImage.rows[row]? =
      some { primaryIdx := 0, secondaryIdx := 7 } := by
    show (List.replicate tableEntries _)[row]? = _
    rw [List.getElem?_replicate, if_pos hrow]
  exact tableEntry_configFile 1 strayImage_getElem? hentry

theorem strayFile_route (fields : PacketFields) :
    ∃ pktHash, glbAddPacketRoute strayFile 0
        { fields, ipv4Hops := [], pktHash := 0 } sampleDirector.hashFields =
      .ok { fields, pktHash
            ipv4Hops := [wordU32 [0x20, 0x01, 0x0d, 0xb8], 0] } := by
  have hprimary : tableBackend strayFile 0 0 = some strayBackend.view :=
    tableBackend_configFile 1 strayImage_getElem?
      (padSlots_getElem?_used _ rfl)
  have hsecondary : tableBackend strayFile 0 7 =
      some BackendEntry.zero.view :=
    tableBackend_configFile 1 strayImage_getElem?
      (padSlots_getElem?_unused _ (by decide) (by decide))
  have hroom : ([] : List UInt32).length + 2 ≤ glbMaxHops := by decide
  exact ⟨_, glbAddPacketRoute_eq_ok_iff.mpr ⟨⟨(ByteVec.zero 16).val,
    ⟨0, 7⟩, _, _, tableSecureKey_configFile 1 strayImage_getElem?,
    strayFile_entry (hashIdx_lt _ _ _ _), hroom, hprimary, hsecondary,
    rfl⟩⟩⟩

/-- `check_config` accepts a file whose rows lead to an index past
`num_backends` and to four bytes of an IPv6 address. -/
theorem accepted_file_unsafe_route :
    checkConfig strayFile = some (.ok ()) ∧
      numTables strayFile = some 1 ∧
      tableNumBackends strayFile 0 = some 1 ∧
      backendReads sampleDirector strayFile 0 sampleFields = [0, 7] ∧
      (∃ ctx, glbCalculatePacketRoute sampleDirector strayFile 0
          samplePacket = .ok ctx ∧
        ctx.ipv4Hops = [wordU32 [0x20, 0x01, 0x0d, 0xb8], 0]) ∧
      ¬ RouteSafe sampleDirector strayFile 0 samplePacket := by
  have hkey : tableSecureKey strayFile 0 = some (ByteVec.zero 16).val :=
    tableSecureKey_configFile 1 strayImage_getElem?
  have hpasses : sampleDirector.passes = [sampleDirector.hashFields] := rfl
  have hreads : backendReads sampleDirector strayFile 0 sampleFields =
      [0, 7] := by
    rw [backendReads, hpasses, List.flatMap_singleton,
      rowReads_of_entry hkey (strayFile_entry (hashIdx_lt _ _ _ _))]
    rfl
  obtain ⟨pktHash, hfirst⟩ := strayFile_route sampleFields
  have hroute := glbCalculatePacketRoute_eq_ok_iff.mpr
    ⟨sampleFields, _, glbExtractPacketFields_sample, hfirst,
      (if_neg Bool.false_ne_true).mpr rfl⟩
  refine ⟨strayFile_accepted, numTables_configFile 1 [strayImage],
    strayFile_numBackends, hreads, ⟨_, hroute, rfl⟩, ?_⟩
  rintro ⟨num, ctx, hnum, hctx, hlt, _⟩
  obtain rfl := Option.some.inj (hnum.symm.trans strayFile_numBackends)
  obtain rfl := Except.ok.inj (hctx.symm.trans hroute)
  have hmem : 7 ∈ backendReads sampleDirector strayFile 0 sampleFields := by
    rw [hreads]
    exact List.mem_cons_of_mem 0 List.mem_cons_self
  exact absurd (hlt 7 hmem) (show ¬ 7 < (1 : UInt32).toNat by decide)

end GlbDirector
