import GlbDirector.HealthManager

/-!
# The health-check application

`GLBTable.go`, `HealthCheckerAppContext.go` and the goroutines of `main.go`.
Two goroutines share the application context: one reloads the forwarding table
on SIGHUP, the other is woken by the manager after every round; both end with
`SyncAndMaybeReload`.  A section under the mutex and an access to a shared field
are one step each.  The backends of a loaded table are objects that all holders
of the table share, so they are referred to by the number of the load and their
place in it.  Only the field `Healthy` of an object ever changes.  With each
object the context keeps where that field comes from; no step looks at it.

The text of a file stands for the configuration it is the text of.  What a
write leaves in the destination is not restricted, because a failed write may
leave anything.  Counters and log output are left out, and so are null entries
of the JSON arrays.
-/

namespace GlbDirector

/-! ## `GLBTable.go` -/

structure GLBHealthcheckConfig where
  http : Option ℤ
  httpUri : Option String
  gue : Option ℤ
  fou : Option ℤ
  tcp : Option ℤ
  deriving DecidableEq, Repr

structure GLBBind where
  ip : String
  proto : String
  port : Option UInt16
  portStart : Option UInt16
  portEnd : Option UInt16
  deriving DecidableEq, Repr

structure GLBBackend where
  ip : String
  state : String
  healthy : Bool
  healthcheckConfig : Option GLBHealthcheckConfig
  deriving DecidableEq, Repr, Inhabited

/-- A table, with its backends or with references to them. -/
structure GLBTable (B : Type) where
  name : String
  hashKey : String
  seed : String
  binds : List GLBBind
  backends : List B
  deriving DecidableEq, Repr

structure GLBHealthGlobalConfig where
  timeoutMilliSec : ℤ
  intervalMilliSec : ℤ
  trigger : ℤ
  deriving DecidableEq, Repr

structure GLBGlobalConfig (B : Type) where
  healthcheckGlobalCfg : Option GLBHealthGlobalConfig
  tables : List (GLBTable B)
  deriving DecidableEq, Repr

def GLBTable.map {A B : Type} (f : A → B) (table : GLBTable A) : GLBTable B where
  name := table.name
  hashKey := table.hashKey
  seed := table.seed
  binds := table.binds
  backends := table.backends.map f

def GLBGlobalConfig.map {A B : Type} (f : A → B) (config : GLBGlobalConfig A) :
    GLBGlobalConfig B where
  healthcheckGlobalCfg := config.healthcheckGlobalCfg
  tables := config.tables.map (GLBTable.map f)

/-- The backends in the order of the nested loops over tables and backends. -/
def GLBGlobalConfig.backends {B : Type} (config : GLBGlobalConfig B) : List B :=
  config.tables.flatMap GLBTable.backends

/-- `HealthTargets`; `none` where it dereferences a nil configuration. -/
def GLBBackend.healthTargets (backend : GLBBackend) :
    Option (List HealthCheckTarget) :=
  if backend.state = "inactive" then some []
  else
    backend.healthcheckConfig.map fun config =>
      (config.http.map fun port =>
        ⟨"http", backend.ip, port, config.httpUri.getD "/"⟩).toList ++
      (config.gue.map fun port => ⟨"gue", backend.ip, port, ""⟩).toList ++
      (config.fou.map fun port => ⟨"fou", backend.ip, port, ""⟩).toList ++
      (config.tcp.map fun port => ⟨"tcp", backend.ip, port, ""⟩).toList

/-- `targetResults[target].Healthy`; a missing entry is the zero value. -/
def targetHealthy (targetResults : TargetMap HealthResult)
    (target : HealthCheckTarget) : Bool :=
  ((targetResults.lookup target).getD .zero).healthy

/-- The flag that `UpdateTableBackendHealth` computes for a backend. -/
def GLBBackend.health (backend : GLBBackend)
    (targetResults : TargetMap HealthResult) : Option Bool :=
  backend.healthTargets.map fun targets =>
    let failures := targets.countP fun target =>
      !targetHealthy targetResults target
    failures = 0

/-! ## References to loaded backends -/

structure BackendRef where
  load : ℕ
  table : ℕ
  index : ℕ
  deriving DecidableEq, Repr

/-- The table in memory after a load. -/
def GLBGlobalConfig.allocate (load : ℕ) (config : GLBGlobalConfig GLBBackend) :
    GLBGlobalConfig BackendRef where
  healthcheckGlobalCfg := config.healthcheckGlobalCfg
  tables := config.tables.mapIdx fun i table =>
    { name := table.name
      hashKey := table.hashKey
      seed := table.seed
      binds := table.binds
      backends := table.backends.mapIdx fun j _ => ⟨load, i, j⟩ }

def GLBGlobalConfig.backend? (config : GLBGlobalConfig GLBBackend)
    (ref : BackendRef) : Option GLBBackend := do
  let table ← config.tables[ref.table]?
  table.backends[ref.index]?

/-- A table with the backends in place of the references, in their order. -/
def fillTables :
    List (GLBTable BackendRef) → List GLBBackend → List (GLBTable GLBBackend)
  | [], _ => []
  | table :: tables, backends =>
      { name := table.name
        hashKey := table.hashKey
        seed := table.seed
        binds := table.binds
        backends := backends.take table.backends.length } ::
      fillTables tables (backends.drop table.backends.length)

def GLBGlobalConfig.fill (config : GLBGlobalConfig BackendRef)
    (backends : List GLBBackend) : GLBGlobalConfig GLBBackend where
  healthcheckGlobalCfg := config.healthcheckGlobalCfg
  tables := fillTables config.tables backends

/-! ## The application context -/

/-- Where the field `Healthy` of an object comes from: the source file, or
`UpdateTableBackendHealth` with these check results. -/
inductive HealthyOrigin where
  | source
  | checked (targetResults : TargetMap HealthResult)

structure AppContext where
  forwardingTableConfig : GLBGlobalConfig BackendRef
  dirty : Bool
  nextAllowedDirtyClear : ℤ
  backends : BackendRef → GLBBackend
  origin : BackendRef → HealthyOrigin
  loads : ℕ
  now : ℤ
  /-- the destination file, if it holds the text of a configuration -/
  file : Option (GLBGlobalConfig GLBBackend)

/-- The current forwarding table with the current flags. -/
def AppContext.current (ctx : AppContext) : GLBGlobalConfig GLBBackend :=
  ctx.forwardingTableConfig.map ctx.backends

/-- The section of `LoadForwardingTable` under the mutex, for the configuration
that was read. -/
def AppContext.loadForwardingTable (ctx : AppContext)
    (config : GLBGlobalConfig GLBBackend) : AppContext :=
  { ctx with
    forwardingTableConfig := config.allocate ctx.loads
    dirty := true
    nextAllowedDirtyClear := ctx.now
    backends := fun ref =>
      if ref.load = ctx.loads then
        (config.backend? ref).getD (ctx.backends ref)
      else ctx.backends ref
    origin := fun ref =>
      if ref.load = ctx.loads then .source else ctx.origin ref
    loads := ctx.loads + 1 }

/-- `backend.Healthy = healthy` -/
def AppContext.setHealthy (ctx : AppContext) (ref : BackendRef)
    (healthy : Bool) (targetResults : TargetMap HealthResult) : AppContext :=
  { ctx with
    backends := Function.update ctx.backends ref
      { ctx.backends ref with healthy }
    origin := Function.update ctx.origin ref (.checked targetResults) }

/-- The targets of all backends, as `SyncBackendsToCheckManager` collects
them. -/
def AppContext.targets (ctx : AppContext) : Option (List HealthCheckTarget) :=
  (ctx.forwardingTableConfig.backends.mapM fun ref =>
    (ctx.backends ref).healthTargets).map List.flatten

/-! ## `SyncAndMaybeReload` -/

inductive Goroutine where
  | hup
  | round
  deriving DecidableEq, Repr

/-- A backend as the marshaller read it. -/
structure Reading where
  backend : GLBBackend
  origin : HealthyOrigin

/-- Where a goroutine stands in `SyncAndMaybeReload`, with its local
variables. -/
inductive SyncPc where
  /-- at the lock of `UpdateTableBackendHealth` -/
  | start
  /-- at `GetResults` -/
  | results (ft : GLBGlobalConfig BackendRef)
  /-- in the loops over tables and backends -/
  | update (targetResults : TargetMap HealthResult) (rest : List BackendRef)
  /-- at `ctx.dirty = true` -/
  | mark (targetResults : TargetMap HealthResult) (backend : BackendRef)
      (healthy : Bool) (rest : List BackendRef)
  /-- at `backend.Healthy = healthy` -/
  | assign (targetResults : TargetMap HealthResult) (backend : BackendRef)
      (healthy : Bool) (rest : List BackendRef)
  /-- at the lock of `CheckAndClearDirty` -/
  | check
  /-- at the lock of `StoreCheckedForwardingTable` -/
  | store
  /-- in `WriteToFile` -/
  | marshal (ft : GLBGlobalConfig BackendRef) (rest : List BackendRef)
      (read : List Reading)
  /-- at `RunReloadCommand` -/
  | reload
  | returned

inductive AppEvent where
  | updating (goroutine : Goroutine) (ft : GLBGlobalConfig BackendRef)
  | assigned (goroutine : Goroutine) (backend : BackendRef)
  | storing (goroutine : Goroutine)
  | read (goroutine : Goroutine) (backend : BackendRef)
  | wrote (goroutine : Goroutine) (ft : GLBGlobalConfig BackendRef)
      (read : List Reading) (left : Option (GLBGlobalConfig GLBBackend))
  | manager (event : ManagerEvent)
  | silent

/-- What a write was asked to put into the destination. -/
def written (ft : GLBGlobalConfig BackendRef) (read : List Reading) :
    GLBGlobalConfig GLBBackend :=
  ft.fill (read.map Reading.backend)

/-- `10 * time.Second` -/
def minHoldTime : ℤ := 10 * 1000000000

/-- A step of a goroutine in `SyncAndMaybeReload`, while the manager has
`results`. -/
inductive SyncStep (goroutine : Goroutine) (results : TargetMap HealthResult) :
    AppContext → SyncPc → AppEvent → AppContext → SyncPc → Prop where
  | lock {ctx : AppContext} :
      SyncStep goroutine results ctx .start
        (.updating goroutine ctx.forwardingTableConfig) ctx
        (.results ctx.forwardingTableConfig)
  | getResults {ctx : AppContext} {ft : GLBGlobalConfig BackendRef} :
      SyncStep goroutine results ctx (.results ft) .silent ctx
        (.update results ft.backends)
  | differs {ctx : AppContext} {targetResults : TargetMap HealthResult}
      {backend : BackendRef} {rest : List BackendRef} {healthy : Bool}
      (hhealth : (ctx.backends backend).health targetResults = some healthy)
      (hdiffers : (ctx.backends backend).healthy ≠ healthy) :
      SyncStep goroutine results ctx (.update targetResults (backend :: rest))
        .silent ctx (.mark targetResults backend healthy rest)
  | same {ctx : AppContext} {targetResults : TargetMap HealthResult}
      {backend : BackendRef} {rest : List BackendRef} {healthy : Bool}
      (hhealth : (ctx.backends backend).health targetResults = some healthy)
      (hsame : (ctx.backends backend).healthy = healthy) :
      SyncStep goroutine results ctx (.update targetResults (backend :: rest))
        .silent ctx (.assign targetResults backend healthy rest)
  | mark {ctx : AppContext} {targetResults : TargetMap HealthResult}
      {backend : BackendRef} {rest : List BackendRef} {healthy : Bool} :
      SyncStep goroutine results ctx (.mark targetResults backend healthy rest)
        .silent { ctx with dirty := true }
        (.assign targetResults backend healthy rest)
  | assign {ctx : AppContext} {targetResults : TargetMap HealthResult}
      {backend : BackendRef} {rest : List BackendRef} {healthy : Bool} :
      SyncStep goroutine results ctx
        (.assign targetResults backend healthy rest)
        (.assigned goroutine backend)
        (ctx.setHealthy backend healthy targetResults)
        (.update targetResults rest)
  | updated {ctx : AppContext} {targetResults : TargetMap HealthResult} :
      SyncStep goroutine results ctx (.update targetResults []) .silent ctx
        .check
  | clean {ctx : AppContext} (hclean : ctx.dirty = false) :
      SyncStep goroutine results ctx .check .silent ctx .returned
  | held {ctx : AppContext} (hdirty : ctx.dirty = true)
      (hheld : ctx.now < ctx.nextAllowedDirtyClear) :
      SyncStep goroutine results ctx .check .silent ctx .returned
  /-- The clock is read once more for the next deadline. -/
  | clear {ctx : AppContext} (later : ℤ) (hdirty : ctx.dirty = true)
      (hfree : ¬ ctx.now < ctx.nextAllowedDirtyClear) :
      SyncStep goroutine results ctx .check .silent
        { ctx with
          dirty := false
          nextAllowedDirtyClear := later + minHoldTime
          now := later }
        .store
  | storeLock {ctx : AppContext} :
      SyncStep goroutine results ctx .store (.storing goroutine) ctx
        (.marshal ctx.forwardingTableConfig
          ctx.forwardingTableConfig.backends [])
  | read {ctx : AppContext} {ft : GLBGlobalConfig BackendRef}
      {backend : BackendRef} {rest : List BackendRef} {read : List Reading} :
      SyncStep goroutine results ctx (.marshal ft (backend :: rest) read)
        (.read goroutine backend) ctx
        (.marshal ft rest
          (read ++ [⟨ctx.backends backend, ctx.origin backend⟩]))
  | write {ctx : AppContext} {ft : GLBGlobalConfig BackendRef}
      {read : List Reading} (left : Option (GLBGlobalConfig GLBBackend)) :
      SyncStep goroutine results ctx (.marshal ft [] read)
        (.wrote goroutine ft read left) { ctx with file := left } .reload
  | reload {ctx : AppContext} :
      SyncStep goroutine results ctx .reload .silent ctx .returned

/-! ## `main` -/

/-- Where the SIGHUP goroutine stands. -/
inductive HupPc where
  | waiting
  /-- in `LoadGLBTableConfig` -/
  | loading
  /-- at the lock of `LoadForwardingTable` -/
  | loaded (config : GLBGlobalConfig GLBBackend)
  /-- at `SyncBackendsToCheckManager` -/
  | syncing
  | calling (pc : SyncPc)

/-- Where a goroutine stands that only calls `SyncAndMaybeReload`. -/
inductive CallerPc where
  | waiting
  | calling (pc : SyncPc)

structure AppState where
  ctx : AppContext
  manager : ManagerState
  hup : HupPc
  round : CallerPc
  panicked : Bool

/-- The context when the goroutines start: a first table is loaded and has been
written, whatever became of it, and the flag is set. -/
def AppContext.initial (config : GLBGlobalConfig GLBBackend)
    (nextAllowedDirtyClear now : ℤ)
    (file : Option (GLBGlobalConfig GLBBackend)) : AppContext where
  forwardingTableConfig := config.allocate 0
  dirty := true
  nextAllowedDirtyClear := nextAllowedDirtyClear
  backends ref := (config.backend? ref).getD default
  origin _ := .source
  loads := 1
  now := now
  file := file

/-- The distinct elements of a list, in any order. -/
structure Unique (targets all : List HealthCheckTarget) : Prop where
  hnodup : targets.Nodup
  hmem : ∀ target, target ∈ targets ↔ target ∈ all

/-- The state in which `main` starts the goroutines. -/
inductive AppState.Initial : AppState → Prop where
  | main {config : GLBGlobalConfig GLBBackend} {nextAllowed now : ℤ}
      {file : Option (GLBGlobalConfig GLBBackend)}
      {targets all : List HealthCheckTarget}
      (hall : (AppContext.initial config nextAllowed now file).targets =
        some all)
      (hunique : Unique targets all) :
      AppState.Initial
        { ctx := .initial config nextAllowed now file
          manager := setTargets targets .initial
          hup := .waiting
          round := .waiting
          panicked := false }

/-- The steps of the application while it has not panicked. -/
inductive LiveStep (thresholds : Thresholds) :
    AppState → AppEvent → AppState → Prop where
  | clock {state : AppState} (now : ℤ) :
      LiveStep thresholds state .silent
        { state with ctx := { state.ctx with now } }
  | manager {state : AppState} {event : ManagerEvent} {manager : ManagerState}
      (hstep : ManagerStep thresholds state.manager event manager)
      (hevent : ∀ targets, event ≠ .setTargets targets)
      (hblocked : state.manager.phase = .complete →
        manager.phase = .complete) :
      LiveStep thresholds state (.manager event) { state with manager }
  /-- The manager sends on `roundComplete` and the round goroutine receives. -/
  | roundComplete {state : AppState}
      (hphase : state.manager.phase = .complete)
      (hround : state.round = .waiting) :
      LiveStep thresholds state (.manager .silent)
        { state with
          manager := { state.manager with phase := .top }
          round := .calling .start }
  | round {state : AppState} {pc pc' : SyncPc} {event : AppEvent}
      {ctx : AppContext} (hround : state.round = .calling pc)
      (hstep : SyncStep .round state.manager.results state.ctx pc event ctx
        pc') :
      LiveStep thresholds state event
        { state with ctx, round := .calling pc' }
  | roundReturn {state : AppState} (hround : state.round = .calling .returned) :
      LiveStep thresholds state .silent { state with round := .waiting }
  | signal {state : AppState} (hhup : state.hup = .waiting) :
      LiveStep thresholds state .silent { state with hup := .loading }
  | loadFailed {state : AppState} (hhup : state.hup = .loading) :
      LiveStep thresholds state .silent { state with hup := .waiting }
  | load {state : AppState} (config : GLBGlobalConfig GLBBackend)
      (hhup : state.hup = .loading) :
      LiveStep thresholds state .silent { state with hup := .loaded config }
  | swap {state : AppState} {config : GLBGlobalConfig GLBBackend}
      (hhup : state.hup = .loaded config) :
      LiveStep thresholds state .silent
        { state with
          ctx := state.ctx.loadForwardingTable config
          hup := .syncing }
  /-- `SyncBackendsToCheckManager`; the goroutine waits for the next signal if
  `SetTargets` fails. -/
  | syncTargets {state : AppState} {targets all : List HealthCheckTarget}
      (hhup : state.hup = .syncing) (hall : state.ctx.targets = some all)
      (hunique : Unique targets all) :
      LiveStep thresholds state (.manager (.setTargets targets))
        { state with
          manager := setTargets targets state.manager
          hup :=
            if targets.all fun target => target.checkType ∈ checkTypes then
              .calling .start
            else .waiting }
  | hup {state : AppState} {pc pc' : SyncPc} {event : AppEvent}
      {ctx : AppContext} (hhup : state.hup = .calling pc)
      (hstep : SyncStep .hup state.manager.results state.ctx pc event ctx
        pc') :
      LiveStep thresholds state event { state with ctx, hup := .calling pc' }
  | hupReturn {state : AppState} (hhup : state.hup = .calling .returned) :
      LiveStep thresholds state .silent { state with hup := .waiting }
  /-- A goroutine dereferences a nil health-check configuration. -/
  | panicTargets {state : AppState} (hhup : state.hup = .syncing)
      (hnil : state.ctx.targets = none) :
      LiveStep thresholds state .silent { state with panicked := true }
  | panicHealth {state : AppState} {targetResults : TargetMap HealthResult}
      {backend : BackendRef} {rest : List BackendRef}
      (hpc : state.hup = .calling (.update targetResults (backend :: rest)) ∨
        state.round = .calling (.update targetResults (backend :: rest)))
      (hnil : (state.ctx.backends backend).healthTargets = none) :
      LiveStep thresholds state .silent { state with panicked := true }

def AppStep (thresholds : Thresholds) (state : AppState) (event : AppEvent)
    (state' : AppState) : Prop :=
  state.panicked = false ∧ LiveStep thresholds state event state'

end GlbDirector
