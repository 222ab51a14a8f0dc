import GlbDirector.CheckedBuild
import GlbDirector.RendezvousRows
import GlbDirector.WellFormedConfig

/-!
# Reading a built table back

The director's view of the file, field by field, is what the JSON document
said: the writer's packed structs and the reader's agree on every offset.
-/

namespace GlbDirector

open ByteCodec

/-! ## What a reader should see -/

def Address.padded (address : Address) : Bytes :=
  address.bytes ++ List.replicate (16 - address.bytes.length) 0

def LoadedBackend.record (backend : LoadedBackend) : FwdBackend where
  family := if backend.address.isV6 then familyIpv6 else familyIpv4
  ipv6Addr := backend.address.padded
  state := backend.state.code
  healthy := if backend.healthy then 1 else 0

def LoadedBind.record (bind : LoadedBind) : FwdBind where
  family := if bind.address.isV6 then familyIpv6 else familyIpv4
  ipv6Addr := bind.address.padded
  ipBits := bind.ipBits
  portStart := bind.portStart
  portEnd := bind.portEnd
  proto := bind.proto.code
  reserved := 0

def FwdBackend.zero : FwdBackend :=
  { family := 0, ipv6Addr := List.replicate 16 0, state := 0, healthy := 0 }

def FwdBind.zero : FwdBind :=
  { family := 0, ipv6Addr := List.replicate 16 0, ipBits := 0,
    portStart := 0, portEnd := 0, proto := 0, reserved := 0 }

/-- Table `t` of the file holds the contents of `spec`, and nothing else. -/
structure TableReads (file : Bytes) (t : ℕ) (spec : TableSpec) : Prop where
  numBackends : (tableNumBackends file t).map UInt32.toNat =
    some spec.backends.length
  backend : ∀ i backend, spec.backends[i]? = some backend →
    tableBackend file t i = some backend.record
  unusedBackend : ∀ i, spec.backends.length ≤ i → i < glbFmtMaxNumBackends →
    tableBackend file t i = some .zero
  numBinds : (tableNumBinds file t).map UInt32.toNat =
    some spec.binds.length
  bind : ∀ i bind, spec.binds[i]? = some bind →
    tableBind file t i = some bind.record
  unusedBind : ∀ i, spec.binds.length ≤ i → i < glbFmtMaxNumBinds →
    tableBind file t i = some .zero
  secureKey : tableSecureKey file t = some spec.hashKey.val

/-! ## Records -/

theorem Address.padded_eq_union (address : Address) :
    address.padded = address.union.val := by
  cases address with
  | v4 octets => simp [Address.padded, Address.bytes, Address.union, octets.2]
  | v6 octets => simp [Address.padded, Address.bytes, Address.union, octets.2]

theorem Address.family_eq (address : Address) :
    address.family = if address.isV6 then familyIpv6 else familyIpv4 := by
  cases address <;> rfl

theorem LoadedBackend.entry_view (backend : LoadedBackend) :
    backend.entry.view = backend.record := by
  simp only [BackendEntry.view, LoadedBackend.entry, LoadedBackend.record,
    Address.padded_eq_union, Address.family_eq]
  rfl

theorem LoadedBind.entry_view (bind : LoadedBind) :
    bind.entry.view = bind.record := by
  simp only [BindEntry.view, LoadedBind.entry, LoadedBind.record,
    Address.padded_eq_union, Address.family_eq]

theorem TableSpec.input_backends_count (spec : TableSpec) :
    spec.input.backends.count.toNat = spec.backends.length := by
  have hle := spec.backends_length.2
  have hmax : maxNumBackends = 256 := rfl
  simp only [TableSpec.input, slotsOf, UInt32.toNat_ofNat']
  omega

theorem TableSpec.input_binds_count (spec : TableSpec) :
    spec.input.binds.count.toNat = spec.binds.length := by
  have hle := spec.binds_length.2
  have hmax : maxNumBinds = 256 := rfl
  simp only [TableSpec.input, slotsOf, UInt32.toNat_ofNat']
  omega

theorem TableSpec.two_le_available (spec : TableSpec) :
    2 ≤ spec.input.available.length := by
  have hmap := availableFrom_map_fst 0 spec.backends
  have htwo := spec.two_available
  rw [← hmap, List.length_map] at htwo
  exact htwo

section Reading

variable (garbage : StackGarbage) (sort : BackendSort)
  {specs : List TableSpec} {t : ℕ} {spec : TableSpec}
  (hspec : specs[t]? = some spec)

include hspec

theorem spec_input_getElem? :
    (specs.map TableSpec.input)[t]? = some spec.input := by
  rw [List.getElem?_map, hspec, Option.map_some]

theorem tableReads_builtFile :
    TableReads (builtFile garbage sort (specs.map TableSpec.input)) t
      spec := by
  have hinput := spec_input_getElem? hspec
  have himage := builtFile_image garbage sort hinput
  constructor
  · rw [tableNumBackends_builtFile hinput, Option.map_some,
      spec.input_backends_count]
  · intro i backend hbackend
    rw [← backend.entry_view]
    exact tableBackend_configFile _ himage (outBackends_getElem? hbackend)
  · intro i hunused hlimit
    refine tableBackend_configFile _ himage
      (padSlots_getElem?_unused BackendEntry.zero ?_ hlimit)
    simpa [TableSpec.input, slotsOf] using hunused
  · rw [tableNumBinds_builtFile hinput, Option.map_some,
      spec.input_binds_count]
  · intro i bind hbind
    rw [← bind.entry_view]
    exact tableBind_configFile _ himage (outBinds_getElem? hbind)
  · intro i hunused hlimit
    refine tableBind_configFile _ himage
      (padSlots_getElem?_unused BindEntry.zero ?_ hlimit)
    simpa [TableSpec.input, slotsOf] using hunused
  · exact tableSecureKey_configFile _ himage

end Reading

/-! ## Whole files -/

/-- A well-formed document of fewer than `2 ^ 32` tables is read back from its
file table by table and row by row. -/
theorem build_round_trip
    (garbage : StackGarbage) (sort : BackendSort) (root : Json)
    (specs : List TableSpec) (hjson : RootJson root specs)
    (hcount : specs.length < 2 ^ 32) :
    ∃ writes, buildConfig garbage sort root = .ok writes ∧
      (numTables (fileOf writes)).map UInt32.toNat = some specs.length ∧
      (numTables (fileOf writes)).map expectedSize =
        some (fileOf writes).length ∧
      ∀ t spec, specs[t]? = some spec →
        TableReads (fileOf writes) t spec ∧
        ∀ r < glbFmtTableEntries, ∃ ranked p s rest,
          rankedRow garbage sort (specs.map TableSpec.input) spec.input t r =
            some ranked ∧
          Ranked spec.input r ranked (p :: s :: rest) ∧
          tableEntry (fileOf writes) t r = some (emitPair p s) := by
  obtain ⟨writes, hbuild, hfile⟩ := buildConfig_of_inputs sort
    (buildInputs_of_json hjson garbage)
  have hnum : numTables (fileOf writes) =
      some (UInt32.ofNat specs.length) := by
    rw [hfile, builtFile, numTables_configFile, List.length_map]
  refine ⟨writes, hbuild, ?_, ?_, ?_⟩
  · rw [hnum, Option.map_some, UInt32.toNat_ofNat_of_lt' hcount]
  · rw [hnum, Option.map_some, (expectedSize_eq_iff specs.length).mpr hcount,
      hfile, builtFile, configFile_length, tableImages_length,
      List.length_map]
  · intro t spec hspec
    rw [hfile]
    refine ⟨tableReads_builtFile garbage sort hspec, ?_⟩
    intro r hr
    exact builtFile_pair garbage sort (spec_input_getElem? hspec) hr
      spec.two_le_available

def fillingSpec : TableSpec where
  backends := fillingSlots.used
  binds := (sampleInput fillingSlots).binds.used
  hashKey := (sampleInput fillingSlots).hashKey
  seed := (sampleInput fillingSlots).seed
  backends_length := by decide
  binds_length := by decide
  two_available := by decide

def fillingTable : Json :=
  sampleTable [sampleBackend "10.0.0.1" "active" false,
    sampleBackend "10.0.0.2" "filling" true]

theorem fillingTable_json : TableJson fillingTable fillingSpec where
  backends := by
    refine ⟨_, rfl, .cons ?_ (.cons ?_ .nil)⟩
    · exact ⟨⟨ascii "10.0.0.1", rfl, by decide +kernel⟩, rfl, rfl⟩
    · exact ⟨⟨ascii "10.0.0.2", rfl, by decide +kernel⟩, rfl, rfl⟩
  binds := by
    refine ⟨_, rfl, .cons ?_ .nil⟩
    exact ⟨⟨ascii "1.1.1.1", rfl, Or.inl ⟨by decide +kernel, rfl⟩⟩, rfl,
      Or.inl ⟨rfl, rfl⟩⟩
  hashKey := ⟨_, rfl, by decide +kernel⟩
  seed := ⟨_, rfl, by decide +kernel⟩

theorem replicate_json (n : ℕ) :
    RootJson (sampleRoot (List.replicate n fillingTable))
      (List.replicate n fillingSpec) := by
  refine ⟨_, rfl, ?_⟩
  induction n with
  | zero => exact .nil
  | succ n ih => exact .cons fillingTable_json ih

theorem build_round_trip_fillingTable :
    ∃ writes, buildConfig zeroGarbage mergeSortByHash
        (sampleRoot (List.replicate 1 fillingTable)) = .ok writes ∧
      TableReads (fileOf writes) 0 fillingSpec := by
  obtain ⟨writes, hbuild, _, _, hreads⟩ := build_round_trip zeroGarbage
    mergeSortByHash _ _ (replicate_json 1) (by decide)
  exact ⟨writes, hbuild, (hreads 0 fillingSpec rfl).1⟩

/-- With `2 ^ 32` tables the header counts none, and the size that
`check_config` computes is that of the header alone. -/
theorem table_count_wraps :
    ∃ writes, RootJson (sampleRoot (List.replicate (2 ^ 32) fillingTable))
        (List.replicate (2 ^ 32) fillingSpec) ∧
      buildConfig zeroGarbage mergeSortByHash
        (sampleRoot (List.replicate (2 ^ 32) fillingTable)) = .ok writes ∧
      (numTables (fileOf writes)).map expectedSize ≠
        some (fileOf writes).length := by
  have hjson := replicate_json (2 ^ 32)
  obtain ⟨writes, hbuild, hfile⟩ := buildConfig_of_inputs mergeSortByHash
    (buildInputs_of_json hjson zeroGarbage)
  refine ⟨writes, hjson, hbuild, ?_⟩
  rw [hfile, builtFile, numTables_configFile, configFile_length,
    tableImages_length, List.length_map, List.length_replicate,
    Option.map_some, ne_eq, Option.some.injEq, expectedSize_eq_iff]
  exact lt_irrefl _

end GlbDirector
