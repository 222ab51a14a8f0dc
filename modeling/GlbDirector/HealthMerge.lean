import GlbDirector.HealthApp

/-!
# Merging the health results (`UpdateTableBackendHealth`)

The tables and backends of a loaded forwarding table are pointers, and `null`
entries of the JSON arrays leave nil pointers in them, as a backend without a
`healthchecks` object has a nil configuration.  The merge runs through exactly
when it meets none of these, and then it sets every flag and nothing else.
-/

namespace GlbDirector

/-! ## Forwarding tables with nil pointers -/

structure PointerTable where
  name : String
  hashKey : String
  seed : String
  binds : List (Option GLBBind)
  backends : List (Option GLBBackend)

/-- What `LoadGLBTableConfig` returns. -/
structure PointerConfig where
  healthcheckGlobalCfg : Option GLBHealthGlobalConfig
  tables : List (Option PointerTable)

/-! ## `UpdateTableBackendHealth` -/

/-- A loop over pointers that dereferences each of them. -/
def forPointers {α : Type} (body : α → Bool → Option (α × Bool)) :
    List (Option α) → Bool → Option (List (Option α) × Bool)
  | [], dirty => some ([], dirty)
  | none :: _, _ => none
  | some object :: rest, dirty => do
      let (object, dirty) ← body object dirty
      let (rest, dirty) ← forPointers body rest dirty
      return (some object :: rest, dirty)

def updateBackendHealth (targetResults : TargetMap HealthResult)
    (backend : GLBBackend) (dirty : Bool) : Option (GLBBackend × Bool) := do
  let healthy ← backend.health targetResults
  let dirty := if backend.healthy ≠ healthy then true else dirty
  return ({ backend with healthy := healthy }, dirty)

def updateTableHealth (targetResults : TargetMap HealthResult)
    (table : PointerTable) (dirty : Bool) : Option (PointerTable × Bool) := do
  let (backends, dirty) ← forPointers (updateBackendHealth targetResults)
    table.backends dirty
  return ({ table with backends := backends }, dirty)

/-- The table and the flag `dirty` afterwards; `none` where a nil pointer is
dereferenced. -/
def updateTableBackendHealth (targetResults : TargetMap HealthResult)
    (config : PointerConfig) (dirty : Bool) : Option (PointerConfig × Bool) := do
  let (tables, dirty) ← forPointers (updateTableHealth targetResults)
    config.tables dirty
  return ({ config with tables := tables }, dirty)

/-! ## What the merge is for -/

/-- The targets that are configured for a backend; none for an inactive one. -/
def GLBBackend.configuredTargets (backend : GLBBackend) :
    List HealthCheckTarget :=
  backend.healthTargets.getD []

def GLBBackend.allHealthy (targetResults : TargetMap HealthResult)
    (backend : GLBBackend) : Bool :=
  backend.configuredTargets.all (targetHealthy targetResults)

def GLBBackend.withHealth (targetResults : TargetMap HealthResult)
    (backend : GLBBackend) : GLBBackend :=
  { backend with healthy := backend.allHealthy targetResults }

def PointerTable.withHealth (targetResults : TargetMap HealthResult)
    (table : PointerTable) : PointerTable :=
  { table with
    backends := table.backends.map
      (Option.map (GLBBackend.withHealth targetResults)) }

/-- The table with the flags that the results call for and nothing else
changed. -/
def PointerConfig.withHealth (targetResults : TargetMap HealthResult)
    (config : PointerConfig) : PointerConfig :=
  { config with
    tables := config.tables.map
      (Option.map (PointerTable.withHealth targetResults)) }

def PointerConfig.HasBackend (config : PointerConfig)
    (backend : GLBBackend) : Prop :=
  ∃ table, some table ∈ config.tables ∧ some backend ∈ table.backends

/-- No pointer that the merge dereferences is nil. -/
structure PointerConfig.Complete (config : PointerConfig) : Prop where
  htables : none ∉ config.tables
  hbackends : ∀ table, some table ∈ config.tables → none ∉ table.backends
  hconfigs : ∀ backend, config.HasBackend backend →
    backend.state = "inactive" ∨ backend.healthcheckConfig ≠ none

/-! ## Loops over pointers -/

theorem forPointers_eq {α : Type} {body : α → Bool → Option (α × Bool)}
    {ok changed : α → Bool} {update : α → α}
    (hbody : ∀ object dirty, body object dirty =
      if ok object then some (update object, dirty || changed object)
      else none)
    (objects : List (Option α)) (dirty : Bool) :
    forPointers body objects dirty =
      if objects.all (Option.any ok) then
        some (objects.map (Option.map update),
          dirty || objects.any (Option.any changed))
      else none := by
  induction objects generalizing dirty with
  | nil => simp [forPointers]
  | cons object rest ih =>
      cases object with
      | none => simp [forPointers]
      | some object =>
          rw [forPointers, hbody]
          by_cases hok : ok object = true
          · by_cases hrest : rest.all (Option.any ok) = true
            · simp [hok, hrest, ih, Bool.or_assoc]
            · simp [hok, hrest, ih]
          · simp [hok]

/-! ## One backend, one table -/

def GLBBackend.checkable (backend : GLBBackend) : Bool :=
  backend.healthTargets.isSome

theorem GLBBackend.checkable_iff (backend : GLBBackend) :
    backend.checkable = true ↔
      backend.state = "inactive" ∨ backend.healthcheckConfig ≠ none := by
  unfold GLBBackend.checkable GLBBackend.healthTargets
  by_cases hinactive : backend.state = "inactive"
  · simp [hinactive]
  · simp [hinactive, Option.isSome_iff_ne_none]

def GLBBackend.changes (targetResults : TargetMap HealthResult)
    (backend : GLBBackend) : Bool :=
  backend.healthy != backend.allHealthy targetResults

theorem GLBBackend.health_eq (backend : GLBBackend)
    (targetResults : TargetMap HealthResult) :
    backend.health targetResults =
      if backend.checkable then some (backend.allHealthy targetResults)
      else none := by
  unfold GLBBackend.health GLBBackend.checkable GLBBackend.allHealthy
    GLBBackend.configuredTargets
  cases backend.healthTargets with
  | none => rfl
  | some targets =>
      simp only [Option.map_some, Option.isSome_some, if_true,
        Option.getD_some, Option.some.injEq]
      rw [Bool.eq_iff_iff, decide_eq_true_eq, List.countP_eq_zero,
        List.all_eq_true]
      simp only [Bool.not_eq_true, Bool.not_eq_false']

theorem updateBackendHealth_eq (targetResults : TargetMap HealthResult)
    (backend : GLBBackend) (dirty : Bool) :
    updateBackendHealth targetResults backend dirty =
      if backend.checkable then
        some (backend.withHealth targetResults,
          dirty || backend.changes targetResults)
      else none := by
  rw [updateBackendHealth, GLBBackend.health_eq]
  by_cases hcheckable : backend.checkable = true
  · rw [if_pos hcheckable, if_pos hcheckable]
    by_cases hsame : backend.healthy = backend.allHealthy targetResults
    · simp [hsame, GLBBackend.changes, GLBBackend.withHealth]
    · simp [hsame, GLBBackend.changes, GLBBackend.withHealth]
  · rw [if_neg hcheckable, if_neg hcheckable]
    rfl

theorem updateTableHealth_eq (targetResults : TargetMap HealthResult)
    (table : PointerTable) (dirty : Bool) :
    updateTableHealth targetResults table dirty =
      if table.backends.all (Option.any GLBBackend.checkable) then
        some (table.withHealth targetResults, dirty ||
          table.backends.any (Option.any (GLBBackend.changes targetResults)))
      else none := by
  rw [updateTableHealth,
    forPointers_eq (updateBackendHealth_eq targetResults)]
  by_cases hok : table.backends.all (Option.any GLBBackend.checkable) = true
  · rw [if_pos hok, if_pos hok]
    rfl
  · rw [if_neg hok, if_neg hok]
    rfl

/-! ## The whole table -/

def PointerTable.checkable (table : PointerTable) : Bool :=
  table.backends.all (Option.any GLBBackend.checkable)

theorem updateTableBackendHealth_eq (targetResults : TargetMap HealthResult)
    (config : PointerConfig) (dirty : Bool) :
    updateTableBackendHealth targetResults config dirty =
      if config.tables.all (Option.any PointerTable.checkable) then
        some (config.withHealth targetResults, dirty ||
          config.tables.any (Option.any fun table => table.backends.any
            (Option.any (GLBBackend.changes targetResults))))
      else none := by
  rw [updateTableBackendHealth,
    forPointers_eq (updateTableHealth_eq targetResults)]
  by_cases hok : config.tables.all (Option.any PointerTable.checkable) = true
  · rw [if_pos hok]
    exact congrArg (· >>= _) (if_pos hok)
  · rw [if_neg hok]
    exact congrArg (· >>= _) (if_neg hok)

theorem all_any_iff {α : Type} {ok : α → Bool} {objects : List (Option α)} :
    objects.all (Option.any ok) = true ↔
      none ∉ objects ∧ ∀ object, some object ∈ objects → ok object = true := by
  rw [List.all_eq_true]
  constructor
  · intro hall
    exact ⟨fun hnone => absurd (hall none hnone) nofun,
      fun object hobject => hall (some object) hobject⟩
  · rintro ⟨hnone, hsome⟩ object hobject
    cases object with
    | none => exact absurd hobject hnone
    | some object => exact hsome object hobject

theorem PointerConfig.complete_iff (config : PointerConfig) :
    config.tables.all (Option.any PointerTable.checkable) = true ↔
      config.Complete := by
  rw [all_any_iff]
  constructor
  · rintro ⟨htables, hchecked⟩
    have hall := fun table htable => all_any_iff.mp (hchecked table htable)
    constructor
    · exact htables
    · exact fun table htable => (hall table htable).1
    · rintro backend ⟨table, htable, hbackend⟩
      exact backend.checkable_iff.mp ((hall table htable).2 backend hbackend)
  · intro hcomplete
    refine ⟨hcomplete.htables, fun table htable => all_any_iff.mpr
      ⟨hcomplete.hbackends table htable, fun backend hbackend => ?_⟩⟩
    exact backend.checkable_iff.mpr
      (hcomplete.hconfigs backend ⟨table, htable, hbackend⟩)

theorem PointerConfig.any_changes_iff (targetResults : TargetMap HealthResult)
    (config : PointerConfig) :
    config.tables.any (Option.any fun table => table.backends.any
        (Option.any (GLBBackend.changes targetResults))) = true ↔
      ∃ backend, config.HasBackend backend ∧
        backend.healthy ≠ backend.allHealthy targetResults := by
  simp only [List.any_eq_true, Option.any_eq_true, GLBBackend.changes,
    bne_iff_ne, PointerConfig.HasBackend]
  constructor
  · rintro ⟨_, htable, table, rfl, _, hbackend, backend, rfl, hchanges⟩
    exact ⟨backend, ⟨table, htable, hbackend⟩, hchanges⟩
  · rintro ⟨backend, ⟨table, htable, hbackend⟩, hchanges⟩
    exact ⟨_, htable, table, rfl, _, hbackend, backend, rfl, hchanges⟩

theorem health_merge_iff
    (targetResults : TargetMap HealthResult)
    (config : PointerConfig)
    (dirty : Bool) :
    (∃ dirty', updateTableBackendHealth targetResults config dirty =
        some (config.withHealth targetResults, dirty') ∧
      (dirty' = true ↔ dirty = true ∨
        ∃ backend, config.HasBackend backend ∧
          backend.healthy ≠ backend.allHealthy targetResults)) ↔
      config.Complete := by
  rw [updateTableBackendHealth_eq, ← config.complete_iff]
  constructor
  · rintro ⟨dirty', hdone, _⟩
    by_contra hincomplete
    rw [if_neg hincomplete] at hdone
    cases hdone
  · intro hcomplete
    rw [if_pos hcomplete]
    refine ⟨_, rfl, ?_⟩
    rw [Bool.or_eq_true, config.any_changes_iff]

/-- A table of one active backend without a `healthchecks` object. -/
def uncheckedConfig : PointerConfig where
  healthcheckGlobalCfg := none
  tables := [some
    { name := "default", hashKey := "", seed := "", binds := []
      backends := [some ⟨"1.1.1.1", "active", true, none⟩] }]

/-- It is configured without checks, so it is to be healthy, but the merge
dereferences its nil configuration. -/
theorem unchecked_backend_panics :
    (uncheckedConfig.withHealth ∅).HasBackend
        ⟨"1.1.1.1", "active", true, none⟩ ∧
      updateTableBackendHealth ∅ uncheckedConfig false = none :=
  ⟨⟨_, List.mem_singleton.mpr rfl, List.mem_singleton.mpr rfl⟩, rfl⟩

end GlbDirector
