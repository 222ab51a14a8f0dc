import GlbDirector.BuildConfigRun

/-!
# The builder against the validator

`check_config` reads a built file back.  Everything it checks about families,
protocols and the header holds of every built file; what it can still reject
is the number of tables, of backends and of binds.
-/

namespace GlbDirector

open ByteCodec

/-! ## The header -/

section Header

variable (numTables : UInt32) (images : List TableImage)

theorem configFile_eq :
    configFile numTables images =
      ascii "GLBD" ++ (u32le 2 ++ (u32le numTables ++
        (u32le (UInt32.ofNat tableEntries) ++
          (u32le (UInt32.ofNat maxNumBackends) ++
            (u32le (UInt32.ofNat maxNumBinds) ++
              (images.map TableImage.bytes).flatten))))) := by
  simp [configFile, fileOf, headerWrites]

theorem magic_length : (ascii "GLBD").length = 4 := by decide +kernel

theorem readU32_magic :
    readU32 0 (configFile numTables images) = some glbFmtMagicWord := by
  have hmagic : wordU32 (ascii "GLBD") = glbFmtMagicWord := by
    decide +kernel
  rw [configFile_eq, readU32, slice_first _ _ magic_length,
    Option.map_some, hmagic]

theorem readU32_version :
    readU32 4 (configFile numTables images) = some glbFmtVersion := by
  rw [configFile_eq, readU32,
    slice_middle _ _ _ magic_length (u32le_length _), Option.map_some,
    wordU32_u32le]
  rfl

theorem numTables_configFile :
    GlbDirector.numTables (configFile numTables images) =
      some numTables := by
  rw [configFile_eq, GlbDirector.numTables, readU32, ← List.append_assoc,
    slice_middle _ _ _ (by simp [magic_length]) (u32le_length _),
    Option.map_some, wordU32_u32le]

theorem readU32_tableEntries :
    readU32 12 (configFile numTables images) =
      some (UInt32.ofNat glbFmtTableEntries) := by
  rw [configFile_eq, readU32, ← List.append_assoc, ← List.append_assoc,
    slice_middle _ _ _ (by simp [magic_length]) (u32le_length _),
    Option.map_some, wordU32_u32le]
  rfl

theorem readU32_maxNumBackends :
    readU32 16 (configFile numTables images) =
      some (UInt32.ofNat glbFmtMaxNumBackends) := by
  rw [configFile_eq, readU32, ← List.append_assoc, ← List.append_assoc,
    ← List.append_assoc,
    slice_middle _ _ _ (by simp [magic_length]) (u32le_length _),
    Option.map_some, wordU32_u32le]
  rfl

theorem checkConfig_configFile :
    checkConfig (configFile numTables images) =
      if expectedSize numTables ≠
          contentSize + contentTableSize * images.length then
        some (.error (.fileSize (expectedSize numTables)
          (contentSize + contentTableSize * images.length)))
      else if numTables = 0 then some (.error .zeroTables)
      else checkLoop (checkTable (configFile numTables images)) 0
        numTables.toNat := by
  simp [checkConfig, readU32_magic, readU32_version, readU32_tableEntries,
    readU32_maxNumBackends, numTables_configFile, configFile_length]

end Header

/-! ## Accepted images -/

def SupportedFamily (family : UInt32) : Prop :=
  family = familyIpv4 ∨ family = familyIpv6

/-- Everything `check_config` looks at in a table. -/
structure TableImage.Accepted (image : TableImage) : Prop where
  hbackends : image.numBackends ≠ 0 ∧
    image.numBackends.toNat ≤ maxNumBackends
  hbinds : image.numBinds ≠ 0 ∧ image.numBinds.toNat ≤ maxNumBinds
  hbackend : ∀ index < image.numBackends.toNat, ∃ entry,
    image.backends[index]? = some entry ∧ SupportedFamily entry.inetFamily
  hbind : ∀ index < image.numBinds.toNat, ∃ entry,
    image.binds[index]? = some entry ∧ SupportedFamily entry.inetFamily ∧
      supportedProto entry.ipproto = true

theorem SupportedFamily.not_rejected {family : UInt32}
    (hfamily : SupportedFamily family) :
    ¬ (family ≠ familyIpv4 ∧ family ≠ familyIpv6) := by
  rintro ⟨hipv4, hipv6⟩
  rcases hfamily with hfamily | hfamily
  · exact hipv4 hfamily
  · exact hipv6 hfamily

section AcceptedImages

variable (numTables : UInt32) {images : List TableImage} {table : ℕ}
  {image : TableImage} (himage : images[table]? = some image)
  (haccepted : image.Accepted)

include himage haccepted

theorem checkBind_accepted {index : ℕ}
    (hindex : index < image.numBinds.toNat) :
    checkBind (configFile numTables images) table index =
      some (.ok ()) := by
  obtain ⟨entry, hentry, hfamily, hproto⟩ := haccepted.hbind index hindex
  have hbackends : checkLoop
      (checkBackendFamily (configFile numTables images) table) 0
        image.numBackends.toNat = some (.ok ()) := by
    refine (checkLoop_ok_iff _ _ _).mpr fun y _ hy => ?_
    obtain ⟨backend, hbackend, hsupported⟩ :=
      haccepted.hbackend y (by omega)
    simp only [checkBackendFamily,
      readU32_backend_configFile numTables himage hbackend,
      Option.bind_eq_bind, Option.bind_some, if_neg hsupported.not_rejected]
    rfl
  simp only [checkBind, readU32_bind_configFile numTables himage hentry,
    readU8_bind_configFile numTables himage hentry,
    tableNumBackends_configFile numTables himage, Option.bind_eq_bind,
    Option.bind_some, if_neg hfamily.not_rejected, hproto, hbackends]
  rfl

theorem checkTable_accepted :
    checkTable (configFile numTables images) table = some (.ok ()) := by
  have hbinds : checkLoop (checkBind (configFile numTables images) table) 0
      image.numBinds.toNat = some (.ok ()) :=
    (checkLoop_ok_iff _ _ _).mpr fun x _ hx =>
      checkBind_accepted numTables himage haccepted (by omega)
  simp only [checkTable, tableNumBackends_configFile numTables himage,
    tableNumBinds_configFile numTables himage, Option.bind_eq_bind,
    Option.bind_some, if_neg haccepted.hbackends.1,
    if_neg haccepted.hbinds.1,
    if_neg (not_lt.mpr haccepted.hbinds.2 : ¬ _ > glbFmtMaxNumBinds),
    if_neg (not_lt.mpr haccepted.hbackends.2 : ¬ _ > glbFmtMaxNumBackends)]
  exact hbinds

end AcceptedImages

theorem checkConfig_accepted {numTables : UInt32} {images : List TableImage}
    (hcount : numTables.toNat = images.length) (hpos : numTables ≠ 0)
    (haccepted : ∀ image ∈ images, image.Accepted) :
    checkConfig (configFile numTables images) = some (.ok ()) := by
  have hsize : ¬ expectedSize numTables ≠
      contentSize + contentTableSize * images.length := by
    rw [expectedSize, hcount, not_not]
  rw [checkConfig_configFile, if_neg hsize, if_neg hpos]
  refine (checkLoop_ok_iff _ _ _).mpr fun table _ htable => ?_
  have hlt : table < images.length := by omega
  exact checkTable_accepted numTables (List.getElem?_eq_getElem hlt)
    (haccepted _ (List.getElem_mem hlt))

/-! ## One table -/

theorem Address.family_supported (address : Address) :
    ¬ (address.family ≠ familyIpv4 ∧ address.family ≠ familyIpv6) := by
  cases address with
  | v4 octets => exact fun hbad => hbad.1 rfl
  | v6 octets => exact fun hbad => hbad.2 rfl

theorem BindProtocol.code_supported (proto : BindProtocol) :
    supportedProto proto.code = true := by
  cases proto <;> decide

/-- The numbers of backends and binds that `check_config` accepts. -/
def TableInput.InLimits (input : TableInput) : Prop :=
  (1 ≤ input.backends.count.toNat ∧
    input.backends.count.toNat ≤ maxNumBackends) ∧
  (1 ≤ input.binds.count.toNat ∧ input.binds.count.toNat ≤ maxNumBinds)

section Table

variable {garbage : StackGarbage} {sort : BackendSort}
  {inputs : List TableInput} {t : ℕ} {input : TableInput}
  (hinput : inputs[t]? = some input)

include hinput

theorem tableNumBackends_builtFile :
    tableNumBackends (builtFile garbage sort inputs) t =
      some input.backends.count :=
  tableNumBackends_configFile _ (builtFile_image garbage sort hinput)

theorem tableNumBinds_builtFile :
    tableNumBinds (builtFile garbage sort inputs) t =
      some input.binds.count :=
  tableNumBinds_configFile _ (builtFile_image garbage sort hinput)

theorem checkBackendFamily_builtFile {y : ℕ} {backend : LoadedBackend}
    (hused : input.backends.used[y]? = some backend) :
    checkBackendFamily (builtFile garbage sort inputs) t y =
      some (.ok ()) := by
  have hread : readU32 (backendOffset t y) (builtFile garbage sort inputs) =
      some backend.address.family :=
    readU32_backend_configFile _ (builtFile_image garbage sort hinput)
      (outBackends_getElem? hused)
  simp only [checkBackendFamily, hread, Option.bind_eq_bind,
    Option.bind_some, if_neg backend.address.family_supported]
  rfl

theorem checkBind_builtFile {x : ℕ} {bind : LoadedBind}
    (hused : input.binds.used[x]? = some bind)
    (hcount : input.backends.count.toNat ≤ maxNumBackends) :
    checkBind (builtFile garbage sort inputs) t x = some (.ok ()) := by
  have himage := builtFile_image garbage sort hinput
  have hfamily : readU32 (bindOffset t x) (builtFile garbage sort inputs) =
      some bind.address.family :=
    readU32_bind_configFile _ himage (outBinds_getElem? hused)
  have hproto : readU8 (bindOffset t x + 26)
      (builtFile garbage sort inputs) = some bind.proto.code :=
    readU8_bind_configFile _ himage (outBinds_getElem? hused)
  have hbackends : checkLoop
      (checkBackendFamily (builtFile garbage sort inputs) t) 0
        input.backends.count.toNat = some (.ok ()) := by
    refine (checkLoop_ok_iff _ _ _).mpr ?_
    intro y _ hy
    have hlt : y < input.backends.used.length := by
      rw [input.backends.used_length]
      omega
    exact checkBackendFamily_builtFile hinput (List.getElem?_eq_getElem hlt)
  simp only [checkBind, hfamily, hproto, tableNumBackends_builtFile hinput,
    Option.bind_eq_bind, Option.bind_some,
    if_neg bind.address.family_supported, bind.proto.code_supported,
    hbackends]
  rfl

theorem checkTable_builtFile_iff :
    checkTable (builtFile garbage sort inputs) t = some (.ok ()) ↔
      input.InLimits := by
  have hzero : ∀ count : UInt32, count = 0 ↔ count.toNat = 0 := by
    intro count
    exact ⟨fun heq => by rw [heq]; rfl, fun heq => UInt32.toNat_inj.mp heq⟩
  simp only [checkTable, tableNumBackends_builtFile hinput,
    tableNumBinds_builtFile hinput, Option.bind_eq_bind, Option.bind_some,
    TableInput.InLimits]
  by_cases hnoBackends : input.backends.count = 0
  · simp [hnoBackends]
  by_cases hnoBinds : input.binds.count = 0
  · simp [hnoBackends, hnoBinds]
  have hsomeBackends : input.backends.count.toNat ≠ 0 :=
    fun heq => hnoBackends ((hzero _).mpr heq)
  have hsomeBinds : input.binds.count.toNat ≠ 0 :=
    fun heq => hnoBinds ((hzero _).mpr heq)
  have hmaxBackends : glbFmtMaxNumBackends = maxNumBackends := rfl
  have hmaxBinds : glbFmtMaxNumBinds = maxNumBinds := rfl
  rw [if_neg hnoBackends, if_neg hnoBinds]
  by_cases hmanyBinds : input.binds.count.toNat > glbFmtMaxNumBinds
  · rw [if_pos hmanyBinds]
    simp
    omega
  by_cases hmanyBackends : input.backends.count.toNat > glbFmtMaxNumBackends
  · rw [if_neg hmanyBinds, if_pos hmanyBackends]
    simp
    omega
  rw [if_neg hmanyBinds, if_neg hmanyBackends]
  refine iff_of_true ?_ (by omega)
  refine (checkLoop_ok_iff _ _ _).mpr ?_
  intro x _ hx
  have hlt : x < input.binds.used.length := by
    rw [input.binds.used_length]
    omega
  exact checkBind_builtFile hinput (List.getElem?_eq_getElem hlt)
    (by omega)

end Table

/-! ## Whole files -/

theorem expectedSize_eq_iff (n : ℕ) :
    expectedSize (UInt32.ofNat n) = contentSize + contentTableSize * n ↔
      n < 2 ^ 32 := by
  have hpos : 0 < contentTableSize := by decide
  rw [expectedSize, Nat.add_left_cancel_iff,
    Nat.mul_left_cancel_iff hpos, UInt32.toNat_ofNat']
  omega

theorem checkTables_builtFile_iff (garbage : StackGarbage)
    (sort : BackendSort) (inputs : List TableInput) :
    checkLoop (checkTable (builtFile garbage sort inputs)) 0 inputs.length =
        some (.ok ()) ↔ ∀ input ∈ inputs, input.InLimits := by
  rw [checkLoop_ok_iff]
  constructor
  · intro hall input hmem
    obtain ⟨t, hinput⟩ := List.mem_iff_getElem?.mp hmem
    obtain ⟨hlt, _⟩ := List.getElem?_eq_some_iff.mp hinput
    exact (checkTable_builtFile_iff hinput).mp
      (hall t (Nat.zero_le t) (by omega))
  · intro hall t _ hlt
    rw [Nat.zero_add] at hlt
    exact (checkTable_builtFile_iff (List.getElem?_eq_getElem hlt)).mpr
      (hall _ (List.getElem_mem hlt))

theorem checkConfig_builtFile_iff (garbage : StackGarbage)
    (sort : BackendSort) (inputs : List TableInput) :
    checkConfig (builtFile garbage sort inputs) = some (.ok ()) ↔
      1 ≤ inputs.length ∧ inputs.length < 2 ^ 32 ∧
        ∀ input ∈ inputs, input.InLimits := by
  have htables := checkTables_builtFile_iff garbage sort inputs
  have hsize := expectedSize_eq_iff inputs.length
  unfold builtFile at htables ⊢
  rw [checkConfig_configFile, tableImages_length]
  by_cases hfits : inputs.length < 2 ^ 32
  · have hcount : (UInt32.ofNat inputs.length).toNat = inputs.length := by
      rw [UInt32.toNat_ofNat']
      omega
    rw [if_neg (not_not.mpr (hsize.mpr hfits)), hcount]
    by_cases hnone : inputs.length = 0
    · simp [hnone]
    · have hsome : UInt32.ofNat inputs.length ≠ 0 := by
        intro heq
        rw [heq] at hcount
        exact hnone hcount.symm
      rw [if_neg hsome, htables]
      constructor
      · intro hall
        exact ⟨by omega, hfits, hall⟩
      · intro hlimits
        exact hlimits.2.2
  · rw [if_pos (fun heq => hfits (hsize.mp heq))]
    simp
    omega

/-- `check_config` accepts a built file exactly when its numbers of tables,
backends and binds are within the limits. -/
theorem checkConfig_accepts_iff
    (garbage : StackGarbage) (sort : BackendSort) (root : Json)
    (writes : List Bytes)
    (hbuild : buildConfig garbage sort root = .ok writes) :
    ∃ inputs, buildInputs garbage root = .ok inputs ∧
      (checkConfig (fileOf writes) = some (.ok ()) ↔
        1 ≤ inputs.length ∧ inputs.length < 2 ^ 32 ∧
          ∀ input ∈ inputs, input.InLimits) := by
  obtain ⟨inputs, hinputs, hfile⟩ := buildConfig_ok hbuild
  refine ⟨inputs, hinputs, ?_⟩
  rw [hfile]
  exact checkConfig_builtFile_iff garbage sort inputs

theorem checkConfig_accepts_iff_singleRoot :
    ∃ writes, buildConfig zeroGarbage mergeSortByHash singleRoot =
        .ok writes ∧
      checkConfig (fileOf writes) = some (.ok ()) := by
  obtain ⟨writes, hbuild, _⟩ := buildConfig_of_inputs mergeSortByHash
    (buildInputs_singleRoot zeroGarbage)
  obtain ⟨inputs, hinputs, hiff⟩ :=
    checkConfig_accepts_iff _ _ _ _ hbuild
  rw [buildInputs_singleRoot] at hinputs
  cases hinputs
  refine ⟨writes, hbuild, hiff.mpr ⟨by decide, by decide, ?_⟩⟩
  intro input hmem
  rw [List.mem_singleton.mp hmem]
  exact ⟨by decide, by decide⟩

def emptyRoot : Json := sampleRoot []

theorem buildInputs_emptyRoot (garbage : StackGarbage) :
    buildInputs garbage emptyRoot = .ok [] := rfl

/-- A document without tables builds, and the file is rejected. -/
theorem emptyRoot_rejected :
    ∃ writes, buildConfig zeroGarbage mergeSortByHash emptyRoot =
        .ok writes ∧
      checkConfig (fileOf writes) = some (.error .zeroTables) := by
  obtain ⟨writes, hbuild, hfile⟩ := buildConfig_of_inputs mergeSortByHash
    (buildInputs_emptyRoot zeroGarbage)
  refine ⟨writes, hbuild, ?_⟩
  rw [hfile]
  decide +kernel

end GlbDirector
