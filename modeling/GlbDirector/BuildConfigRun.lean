import GlbDirector.FwdConfig

/-!
# Whole runs of the table builder

A run that exits with status 0 has parsed every table, and its output is then
a function of the parsed tables.  What a table inherits from the tables before
it is only the array `sortable_backends`; `sortableAt` is that array as table
`t` finds it.
-/

namespace GlbDirector

open ByteCodec ExceptLoops

/-! ## Parsing every table -/

def parseTables (garbage : StackGarbage) :
    ℕ → List Json → Except BuildError (List TableInput)
  | _, [] => .ok []
  | tableIndex, table :: rest => do
      let input ← parseTable garbage tableIndex table
      let inputs ← parseTables garbage (tableIndex + 1) rest
      return input :: inputs

/-- What the run takes from the document. -/
def buildInputs (garbage : StackGarbage) (root : Json) :
    Except BuildError (List TableInput) := do
  let tables ← orExit (jsonObjectGet root (ascii "tables")) .noTables
  parseTables garbage 0 (jsonArrayElements tables)

def tableImages (garbage : StackGarbage) (sort : BackendSort) :
    ℕ → List TableInput → List SortableBackend → List TableImage
  | _, [], _ => []
  | tableIndex, input :: rest, sortable =>
      input.image garbage sort tableIndex sortable ::
        tableImages garbage sort (tableIndex + 1) rest
          (input.leftover sort sortable)

/-- The array as table `t` finds it. -/
def sortableAt (sort : BackendSort) (inputs : List TableInput)
    (start : List SortableBackend) (t : ℕ) : List SortableBackend :=
  (inputs.take t).foldl (fun sortable input => input.leftover sort sortable)
    start

theorem parseTables_cons_eq_ok_iff
    {garbage : StackGarbage} {tableIndex : ℕ} {table : Json}
    {rest : List Json} {inputs : List TableInput} :
    parseTables garbage tableIndex (table :: rest) = .ok inputs ↔
      ∃ input others, parseTable garbage tableIndex table = .ok input ∧
        parseTables garbage (tableIndex + 1) rest = .ok others ∧
        inputs = input :: others := by
  simp only [parseTables, bind_eq_ok_iff, pure, Except.pure,
    Except.ok.injEq]
  constructor
  · rintro ⟨input, htable, others, hrest, rfl⟩
    exact ⟨input, others, htable, hrest, rfl⟩
  · rintro ⟨input, others, htable, hrest, rfl⟩
    exact ⟨input, htable, others, hrest, rfl⟩

theorem parseTables_length
    {garbage : StackGarbage} {tableIndex : ℕ} {tables : List Json}
    {inputs : List TableInput}
    (hparse : parseTables garbage tableIndex tables = .ok inputs) :
    inputs.length = tables.length := by
  induction tables generalizing tableIndex inputs with
  | nil =>
      cases hparse
      rfl
  | cons table rest ih =>
      obtain ⟨input, others, _, hrest, rfl⟩ :=
        parseTables_cons_eq_ok_iff.mp hparse
      simp [ih hrest]

theorem buildTables_eq (garbage : StackGarbage) (sort : BackendSort)
    (tableIndex : ℕ) (tables : List Json) (sortable : List SortableBackend) :
    buildTables garbage sort tableIndex tables sortable =
      (parseTables garbage tableIndex tables).map fun inputs =>
        tableImages garbage sort tableIndex inputs sortable := by
  induction tables generalizing tableIndex sortable with
  | nil => rfl
  | cons table rest ih =>
      cases htable : parseTable garbage tableIndex table with
      | error error =>
          simp [buildTables, parseTables, htable, bind, Except.bind,
            Except.map]
      | ok input =>
          cases hrest : parseTables garbage (tableIndex + 1) rest with
          | error error =>
              simp [buildTables, parseTables, htable, hrest, ih, bind,
                Except.bind, Except.map]
          | ok inputs =>
              simp [buildTables, parseTables, tableImages, htable, hrest, ih,
                bind, Except.bind, Except.map, pure, Except.pure]

theorem tableImages_getElem? (garbage : StackGarbage) (sort : BackendSort)
    (tableIndex : ℕ) (inputs : List TableInput)
    (start : List SortableBackend) (t : ℕ) :
    (tableImages garbage sort tableIndex inputs start)[t]? =
      (inputs[t]?).map fun input =>
        input.image garbage sort (tableIndex + t)
          (sortableAt sort inputs start t) := by
  induction inputs generalizing tableIndex start t with
  | nil => simp [tableImages]
  | cons input rest ih =>
      cases t with
      | zero => simp [tableImages, sortableAt]
      | succ t =>
          have hindex : tableIndex + 1 + t = tableIndex + (t + 1) := by omega
          simp [tableImages, ih, sortableAt, hindex]

theorem tableImages_length (garbage : StackGarbage) (sort : BackendSort)
    (tableIndex : ℕ) (inputs : List TableInput)
    (start : List SortableBackend) :
    (tableImages garbage sort tableIndex inputs start).length =
      inputs.length := by
  induction inputs generalizing tableIndex start with
  | nil => rfl
  | cons input rest ih => simp [tableImages, ih]

/-! ## The output of a run -/

theorem buildInputs_eq_ok_iff
    {garbage : StackGarbage} {root : Json} {inputs : List TableInput} :
    buildInputs garbage root = .ok inputs ↔
      ∃ tables, jsonObjectGet root (ascii "tables") = some tables ∧
        parseTables garbage 0 (jsonArrayElements tables) = .ok inputs := by
  simp only [buildInputs, bind_eq_ok_iff, orExit_eq_ok_iff]

/-- A run succeeds exactly when every table parses. -/
theorem buildConfig_eq (garbage : StackGarbage) (sort : BackendSort)
    (root : Json) :
    buildConfig garbage sort root =
      (buildInputs garbage root).map fun inputs =>
        headerWrites (UInt32.ofNat inputs.length) ++
          ((tableImages garbage sort 0 inputs garbage.sortable).map
            TableImage.writes).flatten := by
  cases htables : jsonObjectGet root (ascii "tables") with
  | none =>
      simp [buildConfig, buildInputs, htables, orExit, bind, Except.bind,
        Except.map]
  | some tables =>
      cases hparse : parseTables garbage 0 (jsonArrayElements tables) with
      | error error =>
          simp [buildConfig, buildInputs, htables, hparse, buildTables_eq,
            orExit, bind, Except.bind, Except.map]
      | ok inputs =>
          have hlength : inputs.length = jsonArraySize tables :=
            parseTables_length hparse
          simp [buildConfig, buildInputs, htables, hparse, buildTables_eq,
            hlength, orExit, bind, Except.bind, Except.map, pure,
            Except.pure]

def builtFile (garbage : StackGarbage) (sort : BackendSort)
    (inputs : List TableInput) : Bytes :=
  configFile (UInt32.ofNat inputs.length)
    (tableImages garbage sort 0 inputs garbage.sortable)

theorem buildConfig_ok
    {garbage : StackGarbage} {sort : BackendSort} {root : Json}
    {writes : List Bytes}
    (hbuild : buildConfig garbage sort root = .ok writes) :
    ∃ inputs, buildInputs garbage root = .ok inputs ∧
      fileOf writes = builtFile garbage sort inputs := by
  rw [buildConfig_eq] at hbuild
  cases hinputs : buildInputs garbage root with
  | error error => simp [hinputs, Except.map] at hbuild
  | ok inputs =>
      simp only [hinputs, Except.map, Except.ok.injEq] at hbuild
      subst writes
      exact ⟨inputs, rfl, fileOf_writes _ _⟩

theorem buildConfig_of_inputs
    {garbage : StackGarbage} (sort : BackendSort) {root : Json}
    {inputs : List TableInput}
    (hinputs : buildInputs garbage root = .ok inputs) :
    ∃ writes, buildConfig garbage sort root = .ok writes ∧
      fileOf writes = builtFile garbage sort inputs := by
  rw [buildConfig_eq, hinputs]
  exact ⟨_, rfl, fileOf_writes _ _⟩

theorem builtFile_image
    (garbage : StackGarbage) (sort : BackendSort) {inputs : List TableInput}
    {t : ℕ} {input : TableInput} (hinput : inputs[t]? = some input) :
    (tableImages garbage sort 0 inputs garbage.sortable)[t]? =
      some (input.image garbage sort t
        (sortableAt sort inputs garbage.sortable t)) := by
  rw [tableImages_getElem?, hinput, Option.map_some, Nat.zero_add]

theorem outBackends_getElem? {input : TableInput} {i : ℕ}
    {backend : LoadedBackend}
    (hused : input.backends.used[i]? = some backend) :
    input.outBackends[i]? = some backend.entry :=
  padSlots_getElem?_used _ (by rw [List.getElem?_map, hused]; rfl)

theorem outBinds_getElem? {input : TableInput} {i : ℕ} {bind : LoadedBind}
    (hused : input.binds.used[i]? = some bind) :
    input.outBinds[i]? = some bind.entry :=
  padSlots_getElem?_used _ (by rw [List.getElem?_map, hused]; rfl)

theorem buildInputs_sample {backends : List Json}
    {slots : Slots maxNumBackends LoadedBackend}
    (hslots : parseSlots parseBackend maxNumBackends backends = .ok slots)
    (garbage : StackGarbage) :
    buildInputs garbage (sampleRoot [sampleTable backends]) =
      .ok [sampleInput slots] := by
  have htables : jsonObjectGet (sampleRoot [sampleTable backends])
      (ascii "tables") = some (.array [sampleTable backends]) := rfl
  refine buildInputs_eq_ok_iff.mpr ⟨_, htables, ?_⟩
  exact parseTables_cons_eq_ok_iff.mpr
    ⟨_, [], parseTable_sample hslots garbage 0, rfl, rfl⟩

def sampleAddress (last : UInt8) : Address := .v4 ⟨[10, 0, 0, last], rfl⟩

/-- A table with a single backend. -/
def singleSlots : Slots maxNumBackends LoadedBackend where
  count := 1
  used := [⟨sampleAddress 1, .active, true⟩]
  used_length := by decide

def singleRoot : Json :=
  sampleRoot [sampleTable [sampleBackend "10.0.0.1" "active" true]]

theorem buildInputs_singleRoot (garbage : StackGarbage) :
    buildInputs garbage singleRoot = .ok [sampleInput singleSlots] :=
  buildInputs_sample (by decide +kernel) garbage

end GlbDirector
