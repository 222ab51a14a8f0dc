import GlbDirector.HealthApp

/-!
# What `SyncAndMaybeReload` writes

A goroutine assigns a new flag to every backend of the table it updates, and a
backend of a loaded table keeps everything else.  The marshaller reads the
backends one by one; a flag it finds is one that some update has computed, or
that of the source file.
-/

namespace GlbDirector

/-! ## What may be published -/

/-- The flag was computed by `UpdateTableBackendHealth` from check results. -/
def Reading.Checked (reading : Reading) : Prop :=
  ∃ targetResults, reading.origin = .checked targetResults ∧
    reading.backend.health targetResults = some reading.backend.healthy

/-- When the round goroutine reads the backend it has not begun an update of
its table, and the SIGHUP goroutine has not come to it. -/
def RacyRead (past : List AppEvent) (backend : BackendRef) : Prop :=
  (∀ ft, .updating .round ft ∈ past → backend ∉ ft.backends) ∧
    .assigned .hup backend ∉ past

/-- There was such a read since the round goroutine began its store. -/
def RacyStore : List AppEvent → Prop
  | [] => False
  | .storing .round :: _ => False
  | .read .round backend :: past => RacyRead past backend ∨ RacyStore past
  | _ :: past => RacyStore past

/-! ## The context -/

/-- Loaded backends keep what their health is computed from. -/
structure Evolves (ctx ctx' : AppContext) : Prop where
  hloads : ctx.loads ≤ ctx'.loads
  hhealth : ∀ backend, backend.load < ctx.loads →
    (ctx'.backends backend).health = (ctx.backends backend).health

theorem health_setHealthy (ctx : AppContext) (ref backend : BackendRef)
    (healthy : Bool) (targetResults : TargetMap HealthResult) :
    ((ctx.setHealthy ref healthy targetResults).backends backend).health =
      (ctx.backends backend).health := by
  by_cases hsame : backend = ref
  · subst hsame
    simp only [AppContext.setHealthy, Function.update_self]
    rfl
  · simp only [AppContext.setHealthy, Function.update_of_ne hsame]

theorem SyncStep.evolves {goroutine : Goroutine}
    {results : TargetMap HealthResult} {ctx ctx' : AppContext}
    {pc pc' : SyncPc} {event : AppEvent}
    (hstep : SyncStep goroutine results ctx pc event ctx' pc') :
    Evolves ctx ctx' := by
  cases hstep with
  | assign =>
      exact ⟨le_rfl, fun backend _ => health_setHealthy ctx _ backend _ _⟩
  | _ => exact ⟨le_rfl, fun _ _ => rfl⟩

theorem evolves_load (ctx : AppContext) (config : GLBGlobalConfig GLBBackend) :
    Evolves ctx (ctx.loadForwardingTable config) := by
  refine ⟨Nat.le_succ _, fun backend hload => ?_⟩
  simp only [AppContext.loadForwardingTable, if_neg (Nat.ne_of_lt hload)]

structure ContextInvariant (trace : List AppEvent) (ctx : AppContext) :
    Prop where
  horigin : ∀ backend, ctx.origin backend ≠ .source ↔
    ∃ goroutine, .assigned goroutine backend ∈ trace
  hvalue : ∀ backend targetResults,
    ctx.origin backend = .checked targetResults →
      (ctx.backends backend).health targetResults =
        some (ctx.backends backend).healthy
  hbound : ∀ backend ∈ ctx.forwardingTableConfig.backends,
    backend.load < ctx.loads
  hassigned : ∀ goroutine backend, .assigned goroutine backend ∈ trace →
    backend.load < ctx.loads ∧
      ∃ ft, .updating goroutine ft ∈ trace ∧ backend ∈ ft.backends

theorem ContextInvariant.frame {trace : List AppEvent} {ctx ctx' : AppContext}
    {event : AppEvent} (hinv : ContextInvariant trace ctx)
    (htable : ctx'.forwardingTableConfig = ctx.forwardingTableConfig)
    (hbackends : ctx'.backends = ctx.backends)
    (horigin : ctx'.origin = ctx.origin) (hloads : ctx'.loads = ctx.loads)
    (hevent : ∀ goroutine backend, event ≠ .assigned goroutine backend) :
    ContextInvariant (event :: trace) ctx' := by
  have hmem : ∀ goroutine backend,
      .assigned goroutine backend ∈ event :: trace ↔
        .assigned goroutine backend ∈ trace := by
    intro goroutine backend
    rw [List.mem_cons]
    exact or_iff_right (hevent goroutine backend).symm
  constructor
  · intro backend
    simp only [horigin, hmem]
    exact hinv.horigin backend
  · rw [hbackends, horigin]
    exact hinv.hvalue
  · rw [htable, hloads]
    exact hinv.hbound
  · intro goroutine backend hassigned
    obtain ⟨hload, ft, hft, hbackend⟩ :=
      hinv.hassigned goroutine backend ((hmem goroutine backend).mp hassigned)
    rw [hloads]
    exact ⟨hload, ft, List.mem_cons_of_mem event hft, hbackend⟩

theorem allocate_load {load : ℕ} {config : GLBGlobalConfig GLBBackend}
    {backend : BackendRef} (hmem : backend ∈ (config.allocate load).backends) :
    backend.load = load := by
  obtain ⟨table, htable, hbackend⟩ := List.mem_flatMap.mp hmem
  obtain ⟨i, hi, rfl⟩ := List.mem_mapIdx.mp htable
  obtain ⟨j, hj, rfl⟩ := List.mem_mapIdx.mp hbackend
  rfl

/-- The backends of a table that is swapped in are new. -/
theorem ContextInvariant.load {trace : List AppEvent} {ctx : AppContext}
    (hinv : ContextInvariant trace ctx)
    (config : GLBGlobalConfig GLBBackend) :
    ContextInvariant (.silent :: trace)
      (ctx.loadForwardingTable config) := by
  have hmem : ∀ goroutine backend,
      .assigned goroutine backend ∈ .silent :: trace ↔
        .assigned goroutine backend ∈ trace := by
    intro goroutine backend
    rw [List.mem_cons]
    exact or_iff_right AppEvent.noConfusion
  constructor
  · intro backend
    simp only [hmem, AppContext.loadForwardingTable]
    by_cases hnew : backend.load = ctx.loads
    · rw [if_pos hnew]
      refine ⟨fun h => absurd rfl h, fun ⟨goroutine, hassigned⟩ => ?_⟩
      exact absurd hnew
        (Nat.ne_of_lt (hinv.hassigned goroutine backend hassigned).1)
    · rw [if_neg hnew]
      exact hinv.horigin backend
  · intro backend targetResults horigin
    simp only [AppContext.loadForwardingTable] at horigin ⊢
    by_cases hnew : backend.load = ctx.loads
    · rw [if_pos hnew] at horigin
      cases horigin
    · rw [if_neg hnew] at horigin ⊢
      exact hinv.hvalue backend targetResults horigin
  · intro backend hbackend
    rw [allocate_load hbackend]
    exact Nat.lt_succ_self ctx.loads
  · intro goroutine backend hassigned
    obtain ⟨hload, ft, hft, hbackend⟩ :=
      hinv.hassigned goroutine backend ((hmem goroutine backend).mp hassigned)
    exact ⟨Nat.lt_succ_of_lt hload, ft, List.mem_cons_of_mem _ hft, hbackend⟩

/-! ## A goroutine in `SyncAndMaybeReload` -/

/-- The backends of the update under way that have no new flag yet. -/
def SyncPc.pending : SyncPc → List BackendRef
  | .results ft => ft.backends
  | .update _ rest => rest
  | .mark _ backend _ rest => backend :: rest
  | .assign _ backend _ rest => backend :: rest
  | _ => []

/-- The flag that is about to be assigned. -/
def SyncPc.computed :
    SyncPc → Option (TargetMap HealthResult × BackendRef × Bool)
  | .mark targetResults backend healthy _ =>
      some (targetResults, backend, healthy)
  | .assign targetResults backend healthy _ =>
      some (targetResults, backend, healthy)
  | _ => none

structure SyncHolds (goroutine : Goroutine) (trace : List AppEvent)
    (ctx : AppContext) (pc : SyncPc) : Prop where
  hpending : ∀ backend ∈ pc.pending, backend.load < ctx.loads ∧
    ∃ ft, .updating goroutine ft ∈ trace ∧ backend ∈ ft.backends
  hdone : ∀ ft, .updating goroutine ft ∈ trace → ∀ backend ∈ ft.backends,
    backend ∈ pc.pending ∨ .assigned goroutine backend ∈ trace
  hcomputed : ∀ targetResults backend healthy,
    pc.computed = some (targetResults, backend, healthy) →
      backend ∈ pc.pending ∧
        (ctx.backends backend).health targetResults = some healthy

/-- The steps of others do not interfere with an update. -/
theorem SyncHolds.frame {goroutine : Goroutine} {trace : List AppEvent}
    {ctx ctx' : AppContext} {pc : SyncPc} {event : AppEvent}
    (hholds : SyncHolds goroutine trace ctx pc) (hevolves : Evolves ctx ctx')
    (hevent : ∀ ft, event ≠ .updating goroutine ft) :
    SyncHolds goroutine (event :: trace) ctx' pc where
  hpending backend hbackend := by
    obtain ⟨hload, ft, hft, hmem⟩ := hholds.hpending backend hbackend
    exact ⟨hload.trans_le hevolves.hloads, ft,
      List.mem_cons_of_mem event hft, hmem⟩
  hdone ft hft backend hbackend := by
    rcases List.mem_cons.mp hft with hft | hft
    · exact absurd hft.symm (hevent ft)
    · exact (hholds.hdone ft hft backend hbackend).imp_right
        (List.mem_cons_of_mem event)
  hcomputed targetResults backend healthy hcomputed := by
    obtain ⟨hmem, hhealth⟩ :=
      hholds.hcomputed targetResults backend healthy hcomputed
    rw [hevolves.hhealth backend (hholds.hpending backend hmem).1]
    exact ⟨hmem, hhealth⟩

/-- A goroutine goes on to a place with the same backends to come. -/
theorem SyncHolds.goto {goroutine : Goroutine} {trace : List AppEvent}
    {ctx : AppContext} {pc pc' : SyncPc}
    (hholds : SyncHolds goroutine trace ctx pc)
    (hpending : pc'.pending = pc.pending)
    (hcomputed : ∀ targetResults backend healthy,
      pc'.computed = some (targetResults, backend, healthy) →
        backend ∈ pc.pending ∧
          (ctx.backends backend).health targetResults = some healthy) :
    SyncHolds goroutine trace ctx pc' where
  hpending := by
    rw [hpending]
    exact hholds.hpending
  hdone := by
    rw [hpending]
    exact hholds.hdone
  hcomputed := by
    rw [hpending]
    exact hcomputed

section Step

variable {goroutine : Goroutine} {results : TargetMap HealthResult}
variable {trace : List AppEvent} {ctx ctx' : AppContext} {pc pc' : SyncPc}
variable {event : AppEvent}

theorem SyncStep.forwardingTableConfig_eq
    (hstep : SyncStep goroutine results ctx pc event ctx' pc') :
    ctx'.forwardingTableConfig = ctx.forwardingTableConfig := by
  cases hstep <;> rfl

theorem SyncStep.event_ne_updating
    (hstep : SyncStep goroutine results ctx pc event ctx' pc')
    {other : Goroutine} (hother : other ≠ goroutine)
    (ft : GLBGlobalConfig BackendRef) : event ≠ .updating other ft := by
  cases hstep with
  | lock =>
      intro heq
      cases heq
      exact hother rfl
  | _ => exact AppEvent.noConfusion

variable (hholds : SyncHolds goroutine trace ctx pc)

include hholds

/-- The new flag is the one that was computed. -/
theorem ContextInvariant.assign {targetResults : TargetMap HealthResult}
    {backend : BackendRef} {healthy : Bool} {rest : List BackendRef}
    (hinv : ContextInvariant trace ctx)
    (hpc : pc = .assign targetResults backend healthy rest) :
    ContextInvariant (.assigned goroutine backend :: trace)
      (ctx.setHealthy backend healthy targetResults) := by
  rw [hpc] at hholds
  obtain ⟨hmem, hhealth⟩ := hholds.hcomputed targetResults backend healthy rfl
  obtain ⟨hload, ft, hft, hbackend⟩ := hholds.hpending backend hmem
  constructor
  · intro other
    by_cases hsame : other = backend
    · subst hsame
      simp only [AppContext.setHealthy, Function.update_self]
      exact ⟨fun _ => ⟨goroutine, List.mem_cons_self⟩,
        fun _ => HealthyOrigin.noConfusion⟩
    · simp only [AppContext.setHealthy, Function.update_of_ne hsame]
      rw [hinv.horigin other]
      refine exists_congr fun goroutine' => ?_
      rw [List.mem_cons]
      refine (or_iff_right fun heq => hsame ?_).symm
      cases heq
      rfl
  · intro other targetResults' horigin
    rw [health_setHealthy]
    by_cases hsame : other = backend
    · subst hsame
      simp only [AppContext.setHealthy, Function.update_self] at horigin ⊢
      cases horigin
      exact hhealth
    · simp only [AppContext.setHealthy, Function.update_of_ne hsame]
        at horigin ⊢
      exact hinv.hvalue other targetResults' horigin
  · exact hinv.hbound
  · intro goroutine' other hassigned
    rcases List.mem_cons.mp hassigned with heq | hassigned
    · cases heq
      exact ⟨hload, ft, List.mem_cons_of_mem _ hft, hbackend⟩
    · obtain ⟨hload', ft', hft', hbackend'⟩ :=
        hinv.hassigned goroutine' other hassigned
      exact ⟨hload', ft', List.mem_cons_of_mem _ hft', hbackend'⟩

theorem ContextInvariant.sync (hinv : ContextInvariant trace ctx)
    (hstep : SyncStep goroutine results ctx pc event ctx' pc') :
    ContextInvariant (event :: trace) ctx' := by
  cases hstep with
  | assign => exact hinv.assign hholds rfl
  | _ =>
      exact hinv.frame rfl rfl rfl rfl fun _ _ => AppEvent.noConfusion

theorem SyncHolds.lock (hinv : ContextInvariant trace ctx)
    (hpc : pc = .start) :
    SyncHolds goroutine
      (.updating goroutine ctx.forwardingTableConfig :: trace) ctx
      (.results ctx.forwardingTableConfig) := by
  rw [hpc] at hholds
  constructor
  · intro backend hbackend
    exact ⟨hinv.hbound backend hbackend, ctx.forwardingTableConfig,
      List.mem_cons_self, hbackend⟩
  · intro ft hft backend hbackend
    rcases List.mem_cons.mp hft with heq | hft
    · cases heq
      exact .inl hbackend
    · rcases hholds.hdone ft hft backend hbackend with hpending | hassigned
      · exact absurd hpending List.not_mem_nil
      · exact .inr (List.mem_cons_of_mem _ hassigned)
  · intro targetResults backend healthy hcomputed
    cases hcomputed

theorem SyncHolds.assign {targetResults : TargetMap HealthResult}
    {backend : BackendRef} {healthy : Bool} {rest : List BackendRef}
    (hpc : pc = .assign targetResults backend healthy rest)
    (hevolves : Evolves ctx ctx') :
    SyncHolds goroutine (.assigned goroutine backend :: trace) ctx'
      (.update targetResults rest) := by
  rw [hpc] at hholds
  constructor
  · intro other hother
    obtain ⟨hload, ft, hft, hmem⟩ :=
      hholds.hpending other (List.mem_cons_of_mem backend hother)
    exact ⟨hload.trans_le hevolves.hloads, ft, List.mem_cons_of_mem _ hft,
      hmem⟩
  · intro ft hft other hother
    rcases List.mem_cons.mp hft with heq | hft
    · cases heq
    · rcases hholds.hdone ft hft other hother with hpending | hassigned
      · rcases List.mem_cons.mp hpending with rfl | hrest
        · exact .inr List.mem_cons_self
        · exact .inl hrest
      · exact .inr (List.mem_cons_of_mem _ hassigned)
  · intro targetResults' other healthy' hcomputed
    cases hcomputed

theorem SyncHolds.sync (hinv : ContextInvariant trace ctx)
    (hstep : SyncStep goroutine results ctx pc event ctx' pc') :
    SyncHolds goroutine (event :: trace) ctx' pc' := by
  have hevolves := hstep.evolves
  cases hstep with
  | lock => exact hholds.lock hinv rfl
  | assign => exact hholds.assign rfl hevolves
  | differs hhealth hdiffers =>
      refine SyncHolds.frame (hholds.goto rfl ?_) hevolves fun _ =>
        AppEvent.noConfusion
      intro targetResults backend healthy hcomputed
      cases hcomputed
      exact ⟨List.mem_cons_self, hhealth⟩
  | same hhealth hsame =>
      refine SyncHolds.frame (hholds.goto rfl ?_) hevolves fun _ =>
        AppEvent.noConfusion
      intro targetResults backend healthy hcomputed
      cases hcomputed
      exact ⟨List.mem_cons_self, hhealth⟩
  | mark =>
      exact SyncHolds.frame (hholds.goto rfl hholds.hcomputed) hevolves
        fun _ => AppEvent.noConfusion
  | _ =>
      refine SyncHolds.frame (hholds.goto rfl ?_) hevolves fun _ =>
        AppEvent.noConfusion
      intro targetResults backend healthy hcomputed
      cases hcomputed

end Step

/-! ## The marshaller -/

/-- What a goroutine has read of the table it stores. -/
structure ReadsHold (goroutine : Goroutine) (trace : List AppEvent)
    (ft : GLBGlobalConfig BackendRef) (rest : List BackendRef)
    (read : List Reading) : Prop where
  hlength : read.length + rest.length = ft.backends.length
  hreadings : ∀ reading ∈ read,
    reading.origin = .source ∨ reading.Checked
  hracy : (∃ reading ∈ read, reading.origin = .source) ↔
    goroutine = .round ∧ RacyStore trace

theorem ReadsHold.frame {goroutine : Goroutine} {trace : List AppEvent}
    {ft : GLBGlobalConfig BackendRef} {rest : List BackendRef}
    {read : List Reading} {event : AppEvent}
    (hreads : ReadsHold goroutine trace ft rest read)
    (hevent : goroutine = .round →
      (RacyStore (event :: trace) ↔ RacyStore trace)) :
    ReadsHold goroutine (event :: trace) ft rest read where
  hlength := hreads.hlength
  hreadings := hreads.hreadings
  hracy := hreads.hracy.trans (and_congr_right fun h => (hevent h).symm)

theorem ReadsHold.start (goroutine : Goroutine) (trace : List AppEvent)
    (ft : GLBGlobalConfig BackendRef) :
    ReadsHold goroutine (.storing goroutine :: trace) ft ft.backends [] where
  hlength := Nat.zero_add _
  hreadings reading hmem := absurd hmem List.not_mem_nil
  hracy := by
    constructor
    · rintro ⟨reading, hmem, _⟩
      exact absurd hmem List.not_mem_nil
    · rintro ⟨rfl, hracy⟩
      exact absurd hracy id

/-- One more backend is read. -/
theorem ReadsHold.read {goroutine : Goroutine} {trace : List AppEvent}
    {ft : GLBGlobalConfig BackendRef} {backend : BackendRef}
    {rest : List BackendRef} {read : List Reading} {ctx : AppContext}
    (hreads : ReadsHold goroutine trace ft (backend :: rest) read)
    (hinv : ContextInvariant trace ctx)
    (hsource : ctx.origin backend = .source ↔
      goroutine = .round ∧ RacyRead trace backend) :
    ReadsHold goroutine (.read goroutine backend :: trace) ft rest
      (read ++ [⟨ctx.backends backend, ctx.origin backend⟩]) where
  hlength := by
    have hlength := hreads.hlength
    simp only [List.length_append, List.length_cons, List.length_nil]
      at hlength ⊢
    omega
  hreadings reading hmem := by
    rcases List.mem_append.mp hmem with hmem | hmem
    · exact hreads.hreadings reading hmem
    · rw [List.mem_singleton.mp hmem]
      cases horigin : ctx.origin backend with
      | source => exact .inl rfl
      | checked targetResults =>
          exact .inr ⟨targetResults, rfl,
            hinv.hvalue backend targetResults horigin⟩
  hracy := by
    have hsplit : (∃ reading ∈ read ++ [⟨ctx.backends backend,
        ctx.origin backend⟩], reading.origin = .source) ↔
        ctx.origin backend = .source ∨
          ∃ reading ∈ read, reading.origin = .source := by
      simp only [List.mem_append, List.mem_singleton, or_and_right,
        exists_or, exists_eq_left]
      exact or_comm
    rw [hsplit, hsource, hreads.hracy]
    cases goroutine with
    | hup =>
        constructor
        · rintro (⟨hround, _⟩ | ⟨hround, _⟩) <;> cases hround
        · rintro ⟨hround, _⟩
          cases hround
    | round => exact and_or_left.symm

theorem fillTables_backends (tables : List (GLBTable BackendRef))
    {backends : List GLBBackend}
    (hlength : backends.length =
      (tables.flatMap GLBTable.backends).length) :
    (fillTables tables backends).flatMap GLBTable.backends = backends := by
  induction tables generalizing backends with
  | nil => exact (List.length_eq_zero_iff.mp hlength).symm
  | cons table tables ih =>
      rw [List.flatMap_cons, List.length_append] at hlength
      have hrest : (backends.drop table.backends.length).length =
          (tables.flatMap GLBTable.backends).length := by
        rw [List.length_drop, hlength, Nat.add_sub_cancel_left]
      rw [fillTables, List.flatMap_cons, ih hrest]
      exact List.take_append_drop _ _

theorem written_backends {ft : GLBGlobalConfig BackendRef}
    {read : List Reading} (hlength : read.length = ft.backends.length) :
    (written ft read).backends = read.map Reading.backend := by
  apply fillTables_backends
  rw [List.length_map]
  exact hlength

/-! ## A table as it is loaded -/

/-- A backend that the source file calls healthy. -/
def newBackend : GLBBackend where
  ip := "10.0.0.1"
  state := "active"
  healthy := true
  healthcheckConfig := some ⟨none, none, none, none, some 80⟩

def newConfig : GLBGlobalConfig GLBBackend where
  healthcheckGlobalCfg := none
  tables := [⟨"l4-test", "12345678901234561234567890123456",
    "34567890123456783456789012345678", [], [newBackend]⟩]

end GlbDirector
