import Mathlib.Data.Finmap
import Mathlib.Tactic

/-!
# The health-check manager (`HealthCheckManager.go`, `HealthResultDampener.go`)

`Run` is one goroutine.  Each target it checks has a pair of unbuffered
channels: the checker goroutines of `CheckTarget` send raw results on the first,
and a dampener goroutine reads them and answers on the second.  A stream below
is such a pair with the goroutines at work on it: the checkers that have no
result yet, those that wait for their send to be taken, and the dampener.  A send
on an unbuffered channel and the matching receive are one step.  Go maps are
finite maps; a loop over a map keeps the entries it has not visited, and may
visit them in any order.  Counters and log output are left out.
-/

namespace GlbDirector

structure HealthCheckTarget where
  checkType : String
  ip : String
  port : ℤ
  uri : String
  deriving DecidableEq, Repr

structure HealthResult where
  healthy : Bool
  failure : String
  deriving DecidableEq, Repr

/-- What a receive from a closed channel yields. -/
def HealthResult.zero : HealthResult := ⟨false, ""⟩

/-! ## `DampenedResultStream` -/

/-- The local variables of the dampener once it has a first result. -/
structure Dampener where
  reportedHealth : HealthResult
  currentHealth : HealthResult
  currentHealthCount : ℤ
  deriving DecidableEq, Repr

def Dampener.first (health : HealthResult) : Dampener where
  reportedHealth := health
  currentHealth := health
  currentHealthCount := 1

/-- The thresholds of the dampener. -/
structure Thresholds where
  countBeforeHealthy : ℤ
  countBeforeFailed : ℤ

def Dampener.next (thresholds : Thresholds) (dampener : Dampener)
    (nextHealth : HealthResult) : Dampener :=
  let counted : Dampener :=
    if nextHealth.healthy = dampener.currentHealth.healthy then
      { dampener with currentHealthCount := dampener.currentHealthCount + 1 }
    else
      { dampener with currentHealthCount := 1, currentHealth := nextHealth }
  if counted.currentHealth.healthy && !counted.reportedHealth.healthy &&
      counted.currentHealthCount ≥ thresholds.countBeforeHealthy then
    { counted with reportedHealth := counted.currentHealth }
  else if !counted.currentHealth.healthy && counted.reportedHealth.healthy &&
      counted.currentHealthCount ≥ thresholds.countBeforeFailed then
    { counted with reportedHealth := counted.currentHealth }
  else counted

/-- Where the dampener goroutine stands. -/
inductive DampenerPc where
  /-- at `reportedHealth := <-src` -/
  | first
  /-- at `dampened <- reportedHealth` -/
  | sending (dampener : Dampener)
  /-- at the head of `for nextHealth := range src` -/
  | waiting (dampener : Dampener)
  /-- after `close(dampened)` -/
  | closed

/-! ## Streams -/

structure HealthStream where
  rawClosed : Bool
  /-- checkers that have no result yet -/
  working : List HealthCheckTarget
  /-- checkers at `resultChannel <- result` -/
  blocked : List (HealthCheckTarget × HealthResult)
  dampener : DampenerPc

def HealthStream.new : HealthStream where
  rawClosed := false
  working := []
  blocked := []
  dampener := .first

/-- A step of the goroutines of a stream, with the raw result that is taken
from the channel, if any. -/
inductive StreamStep (thresholds : Thresholds) :
    HealthStream → Option (HealthCheckTarget × HealthResult) →
      HealthStream → Prop where
  | finish {stream : HealthStream} {target : HealthCheckTarget}
      (result : HealthResult) (hworking : target ∈ stream.working) :
      StreamStep thresholds stream none
        { stream with
          working := stream.working.erase target
          blocked := stream.blocked ++ [(target, result)] }
  | takeFirst {stream : HealthStream} {target : HealthCheckTarget}
      {result : HealthResult} (hopen : stream.rawClosed = false)
      (hblocked : (target, result) ∈ stream.blocked)
      (hfirst : stream.dampener = .first) :
      StreamStep thresholds stream (some (target, result))
        { stream with
          blocked := stream.blocked.erase (target, result)
          dampener := .sending (.first result) }
  | takeNext {stream : HealthStream} {target : HealthCheckTarget}
      {result : HealthResult} {dampener : Dampener}
      (hopen : stream.rawClosed = false)
      (hblocked : (target, result) ∈ stream.blocked)
      (hwaiting : stream.dampener = .waiting dampener) :
      StreamStep thresholds stream (some (target, result))
        { stream with
          blocked := stream.blocked.erase (target, result)
          dampener := .sending (dampener.next thresholds result) }
  /-- The first receive from a closed channel gives the zero value. -/
  | closedFirst {stream : HealthStream} (hclosed : stream.rawClosed = true)
      (hfirst : stream.dampener = .first) :
      StreamStep thresholds stream none
        { stream with dampener := .sending (.first .zero) }
  | closedRange {stream : HealthStream} {dampener : Dampener}
      (hclosed : stream.rawClosed = true)
      (hwaiting : stream.dampener = .waiting dampener) :
      StreamStep thresholds stream none { stream with dampener := .closed }
  /-- The goroutine that drains the stream of a removed target. -/
  | sink {stream : HealthStream} {dampener : Dampener}
      (hclosed : stream.rawClosed = true)
      (hsending : stream.dampener = .sending dampener) :
      StreamStep thresholds stream none
        { stream with dampener := .waiting dampener }

/-! ## `Run` -/

abbrev TargetMap (V : Type) := Finmap fun _ : HealthCheckTarget => V

/-- The check types that `NewHealthCheckManager` has a checker for. -/
def checkTypes : List String := ["http", "tcp", "gue", "fou"]

/-- Where `Run` stands, with its local variables. -/
inductive ManagerPhase where
  /-- at `targets := hhc.nextTargets` -/
  | top
  /-- in the loop over the targets, `rest` still to come -/
  | update (rest : List HealthCheckTarget) (lastActive : TargetMap ℕ)
  /-- in the loop over `lastActive` -/
  | cleanup (lastActive : TargetMap ℕ)
  /-- in the loop that calls `CheckTarget` -/
  | request (todo : TargetMap ℕ)
  /-- at `time.Sleep` -/
  | sleep
  /-- in the loop that receives the dampened results -/
  | collect (todo : TargetMap ℕ) (results : TargetMap HealthResult)
  /-- at `hhc.results = results` -/
  | publish (results : TargetMap HealthResult)
  /-- at `roundComplete <- true` -/
  | complete

structure ManagerState where
  nextTargets : List HealthCheckTarget
  results : TargetMap HealthResult
  activeTargets : TargetMap ℕ
  phase : ManagerPhase
  streams : ℕ → HealthStream
  nextStream : ℕ
  panicked : Bool

def ManagerState.initial : ManagerState where
  nextTargets := []
  results := ∅
  activeTargets := ∅
  phase := .top
  streams _ := .new
  nextStream := 0
  panicked := false

inductive ManagerEvent where
  | setTargets (targets : List HealthCheckTarget)
  | snapshot (targets : List HealthCheckTarget)
  | raw (target : HealthCheckTarget) (result : HealthResult)
  | silent

def rawEvent : Option (HealthCheckTarget × HealthResult) → ManagerEvent
  | none => .silent
  | some (target, result) => .raw target result

/-- `SetTargets`, which keeps the old list if a check type is unknown. -/
def setTargets (targets : List HealthCheckTarget) (state : ManagerState) :
    ManagerState :=
  if targets.all fun target => target.checkType ∈ checkTypes then
    { state with nextTargets := targets }
  else state

def ManagerState.setStream (state : ManagerState) (id : ℕ)
    (stream : HealthStream) : ManagerState :=
  { state with streams := Function.update state.streams id stream }

inductive ManagerStep (thresholds : Thresholds) :
    ManagerState → ManagerEvent → ManagerState → Prop where
  | setTargets {state : ManagerState} (targets : List HealthCheckTarget) :
      ManagerStep thresholds state (.setTargets targets)
        (setTargets targets state)
  | stream {state : ManagerState} {id : ℕ}
      {label : Option (HealthCheckTarget × HealthResult)}
      {stream : HealthStream}
      (hstep : StreamStep thresholds (state.streams id) label stream) :
      ManagerStep thresholds state (rawEvent label)
        (state.setStream id stream)
  /-- A checker sends on a closed channel. -/
  | panicSend {state : ManagerState} {id : ℕ} {target : HealthCheckTarget}
      {result : HealthResult}
      (hclosed : (state.streams id).rawClosed = true)
      (hblocked : (target, result) ∈ (state.streams id).blocked) :
      ManagerStep thresholds state .silent { state with panicked := true }
  | lock {state : ManagerState} (hphase : state.phase = .top) :
      ManagerStep thresholds state (.snapshot state.nextTargets)
        { state with
          activeTargets := ∅
          phase := .update state.nextTargets state.activeTargets }
  | keep {state : ManagerState} {target : HealthCheckTarget}
      {rest : List HealthCheckTarget} {lastActive : TargetMap ℕ} {id : ℕ}
      (hphase : state.phase = .update (target :: rest) lastActive)
      (hlast : lastActive.lookup target = some id) :
      ManagerStep thresholds state .silent
        { state with
          activeTargets := state.activeTargets.insert target id
          phase := .update rest (lastActive.erase target) }
  | create {state : ManagerState} {target : HealthCheckTarget}
      {rest : List HealthCheckTarget} {lastActive : TargetMap ℕ}
      (hphase : state.phase = .update (target :: rest) lastActive)
      (hlast : lastActive.lookup target = none) :
      ManagerStep thresholds state .silent
        { state.setStream state.nextStream .new with
          activeTargets :=
            state.activeTargets.insert target state.nextStream
          nextStream := state.nextStream + 1
          phase := .update rest lastActive }
  | updated {state : ManagerState} {lastActive : TargetMap ℕ}
      (hphase : state.phase = .update [] lastActive) :
      ManagerStep thresholds state .silent
        { state with phase := .cleanup lastActive }
  | close {state : ManagerState} {target : HealthCheckTarget}
      {lastActive : TargetMap ℕ} {id : ℕ}
      (hphase : state.phase = .cleanup lastActive)
      (hlast : lastActive.lookup target = some id)
      (hopen : (state.streams id).rawClosed = false) :
      ManagerStep thresholds state .silent
        { state.setStream id { state.streams id with rawClosed := true } with
          phase := .cleanup (lastActive.erase target) }
  | panicClose {state : ManagerState} {target : HealthCheckTarget}
      {lastActive : TargetMap ℕ} {id : ℕ}
      (hphase : state.phase = .cleanup lastActive)
      (hlast : lastActive.lookup target = some id)
      (hclosed : (state.streams id).rawClosed = true) :
      ManagerStep thresholds state .silent { state with panicked := true }
  | cleaned {state : ManagerState} (hphase : state.phase = .cleanup ∅) :
      ManagerStep thresholds state .silent
        { state with phase := .request state.activeTargets }
  | request {state : ManagerState} {target : HealthCheckTarget}
      {todo : TargetMap ℕ} {id : ℕ}
      (hphase : state.phase = .request todo)
      (htodo : todo.lookup target = some id)
      (hchecker : target.checkType ∈ checkTypes) :
      ManagerStep thresholds state .silent
        { state.setStream id
            { state.streams id with
              working := target :: (state.streams id).working } with
          phase := .request (todo.erase target) }
  /-- A call of `CheckTarget` on a checker that is nil. -/
  | panicRequest {state : ManagerState} {target : HealthCheckTarget}
      {todo : TargetMap ℕ} {id : ℕ}
      (hphase : state.phase = .request todo)
      (htodo : todo.lookup target = some id)
      (hchecker : target.checkType ∉ checkTypes) :
      ManagerStep thresholds state .silent { state with panicked := true }
  | requested {state : ManagerState} (hphase : state.phase = .request ∅) :
      ManagerStep thresholds state .silent { state with phase := .sleep }
  | wake {state : ManagerState} (hphase : state.phase = .sleep) :
      ManagerStep thresholds state .silent
        { state with phase := .collect state.activeTargets ∅ }
  | collect {state : ManagerState} {target : HealthCheckTarget}
      {todo : TargetMap ℕ} {results : TargetMap HealthResult} {id : ℕ}
      {dampener : Dampener}
      (hphase : state.phase = .collect todo results)
      (htodo : todo.lookup target = some id)
      (hsending : (state.streams id).dampener = .sending dampener) :
      ManagerStep thresholds state .silent
        { state.setStream id
            { state.streams id with dampener := .waiting dampener } with
          phase := .collect (todo.erase target)
            (results.insert target dampener.reportedHealth) }
  | collectClosed {state : ManagerState} {target : HealthCheckTarget}
      {todo : TargetMap ℕ} {results : TargetMap HealthResult} {id : ℕ}
      (hphase : state.phase = .collect todo results)
      (htodo : todo.lookup target = some id)
      (hclosed : (state.streams id).dampener = .closed) :
      ManagerStep thresholds state .silent
        { state with
          phase := .collect (todo.erase target)
            (results.insert target .zero) }
  | collected {state : ManagerState} {results : TargetMap HealthResult}
      (hphase : state.phase = .collect ∅ results) :
      ManagerStep thresholds state .silent
        { state with phase := .publish results }
  | publish {state : ManagerState} {results : TargetMap HealthResult}
      (hphase : state.phase = .publish results) :
      ManagerStep thresholds state .silent
        { state with results, phase := .complete }
  | complete {state : ManagerState} (hphase : state.phase = .complete) :
      ManagerStep thresholds state .silent { state with phase := .top }

end GlbDirector
