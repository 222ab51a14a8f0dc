import Mathlib.Algebra.BigOperators.Fin
import Mathlib.Logic.Relation
import Mathlib.Tactic

/-!
# The distributor core and its workers (`glb_processor_loop.c`)

A distributor core receives bursts on its flow paths, hands them to
`rte_distributor`, collects what the workers have returned and sends it out; the
workers classify and encapsulate.  Where a packet is to go is a number in its
mbuf, `udata64`, which the receiving core sets and a worker may overwrite.  A
reception gives an mbuf that nobody holds, so it is taken as a new number, and
the steps of the cores are interleaved in any order.  `rte_eth_rx_burst` and
`rte_eth_tx_burst` handle at most the packets they were asked to, and
`rte_distributor` passes each mbuf on to one worker and back.  What becomes of
a control message is the subject of `ConfigReload`; here only the stop flag of
`processor_base_workload` counts.
-/

namespace GlbDirector

/-! ## Targets -/

def pktBurstSz : ℕ := 32
def perCoreMaxFlowPaths : ℕ := 32
/-- The most that `rte_distributor_get_pkt` gives to a worker. -/
def workerBurstSz : ℕ := 8

def targetDrop : UInt64 := 0x0
def targetKni : UInt64 := 0x1

def targetFlowPath (fpId : UInt32) : UInt64 :=
  (0x2 ||| (fpId <<< (8 : UInt32))).toUInt64

/-- `int target = pkt->udata64` -/
def readTarget (udata64 : UInt64) : Int32 := udata64.toUInt32.toInt32

def getTargetFlowPath (target : Int32) : Int32 := target >>> (8 : Int32)

/-! ## Cores -/

structure FlowPath where
  rxPortId : ℤ
  rxQueueId : ℤ
  txPortId : ℤ
  txQueueId : ℤ
  deriving DecidableEq, Inhabited

/-- `glb_director_lcore_config` of the distributor core. -/
structure LcoreConfig where
  flowPaths : List FlowPath
  /-- The workloads have `CORE_WORKLOAD_KNI`. -/
  performKni : Bool
  flowPaths_length : flowPaths.length ≤ perCoreMaxFlowPaths

def LcoreConfig.numFlowPaths (config : LcoreConfig) : ℕ :=
  config.flowPaths.length

/-- `flow_paths[f]` -/
def LcoreConfig.flowPath (config : LcoreConfig) (f : ℕ) : FlowPath :=
  config.flowPaths.getD f default

structure ProcessorMetrics where
  totalPacketCount : ℕ := 0
  directorPacketCount : ℕ := 0
  classificationFailures : ℕ := 0
  kniPacketCount : ℕ := 0
  encapFailures : ℕ := 0
  encapSuccesses : ℕ := 0
  ethTxPacketsSent : ℕ := 0
  kniTxPacketsSent : ℕ := 0

/-- Where `processor_rx_dist_tx` stands. -/
inductive CorePc where
  | top
  | rx (f : ℕ)
  | collect
  | shard
  /-- The burst of path `f` has just become full. -/
  | full (f : ℕ)
  | flush (i : ℕ)
  | stopping
  | stopped
  deriving DecidableEq

/-- Where `processor_worker` stands, with its `pkts_burst`. -/
inductive WorkerPc where
  | returning (burst : List ℕ)
  | received (burst : List ℕ)
  | handling (handled left : List ℕ)
  /-- It has freed the burst that it got last. -/
  | stopped (freed : List ℕ)
  deriving DecidableEq

def WorkerPc.mbufs : WorkerPc → List ℕ
  | returning burst => burst
  | received burst => burst
  | handling handled left => handled ++ left
  | stopped _ => []

/-- The packets of the last burst that it has not dealt with. -/
def WorkerPc.unhandled : WorkerPc → List ℕ
  | returning _ => []
  | received burst => burst
  | handling _ left => left
  | stopped freed => freed

/-- A worker; `taken` are the mbufs it has got from the distributor. -/
structure Worker where
  pc : WorkerPc
  metrics : ProcessorMetrics
  taken : List ℕ

/-- How many of the packets it has taken it has dealt with. -/
def Worker.processed (worker : Worker) : ℕ :=
  worker.taken.length - worker.pc.unhandled.length

def Worker.withPc (worker : Worker) (pc : WorkerPc) : Worker :=
  { worker with pc := pc }

def Worker.take (worker : Worker) (burst : List ℕ) : Worker :=
  { worker with pc := .received burst, taken := worker.taken ++ burst }

structure SentMbuf where
  mbuf : ℕ
  portId : ℤ
  queueId : ℤ

/-- The cores and `rte_distributor`, and after them what has happened: the
mbufs received and the flow path of each, what was sent, given to KNI or freed,
and what `rte_distributor_clear_returns` has thrown away. -/
structure Pipeline (workers : ℕ) where
  udata64 : ℕ → UInt64
  pc : CorePc
  pktsBurst : List ℕ
  perPathTxBursts : ℕ → List ℕ
  metrics : ProcessorMetrics
  pending : List ℕ
  returned : List ℕ
  worker : Fin workers → Worker
  received : List ℕ
  rxPath : ℕ → ℕ
  transmitted : List SentMbuf
  kni : List ℕ
  freed : List ℕ
  discarded : List ℕ

variable {workers : ℕ}

namespace Pipeline

def start : Pipeline workers where
  udata64 _ := 0
  pc := .top
  pktsBurst := []
  perPathTxBursts _ := []
  metrics := {}
  pending := []
  returned := []
  worker _ := ⟨.returning [], {}, []⟩
  received := []
  rxPath _ := 0
  transmitted := []
  kni := []
  freed := []
  discarded := []

def withPc (s : Pipeline workers) (pc : CorePc) : Pipeline workers :=
  { s with pc := pc }

def withWorker (s : Pipeline workers) (w : Fin workers) (worker : Worker) :
    Pipeline workers :=
  { s with worker := Function.update s.worker w worker }

/-- `udata64 = target` for every mbuf of the burst. -/
def mark (s : Pipeline workers) (burst : List ℕ) (target : UInt64) :
    Pipeline workers :=
  { s with
    udata64 := fun mbuf => if mbuf ∈ burst then target else s.udata64 mbuf }

/-- `burst_free_mbufs` -/
def free (s : Pipeline workers) (burst : List ℕ) : Pipeline workers :=
  { s with freed := s.freed ++ burst }

/-- A burst that arrives on path `f`. -/
def receive (s : Pipeline workers) (f : ℕ) (burst : List ℕ) :
    Pipeline workers :=
  { s.mark burst (targetFlowPath (UInt32.ofNat f)) with
    pktsBurst := s.pktsBurst ++ burst
    metrics := { s.metrics with
      totalPacketCount := s.metrics.totalPacketCount + burst.length }
    received := s.received ++ burst
    rxPath := fun mbuf => if mbuf ∈ burst then f else s.rxPath mbuf }

def flushPacketBurst (config : LcoreConfig) (f sent : ℕ)
    (s : Pipeline workers) : Pipeline workers :=
  let burst := s.perPathTxBursts f
  if burst.length > 0 then
    { s with
      transmitted := s.transmitted ++ (burst.take sent).map fun mbuf =>
        ⟨mbuf, (config.flowPath f).txPortId, (config.flowPath f).txQueueId⟩
      freed := s.freed ++ burst.drop sent
      metrics := { s.metrics with
        ethTxPacketsSent := s.metrics.ethTxPacketsSent + sent }
      perPathTxBursts := Function.update s.perPathTxBursts f [] }
  else s

/-- The body of the loop over the returned packets; `queued` says whether KNI
takes the packet. -/
def shardPacket (config : LcoreConfig) (pkt : ℕ) (rest : List ℕ)
    (queued : Bool) (s : Pipeline workers) : Pipeline workers :=
  let target := readTarget (s.udata64 pkt)
  let s := { s with pktsBurst := rest }
  if target = readTarget targetKni ∧ config.performKni = true then
    if queued then
      { s with
        kni := s.kni ++ [pkt]
        metrics := { s.metrics with
          kniTxPacketsSent := s.metrics.kniTxPacketsSent + 1 } }
    else s.free [pkt]
  else if target = readTarget targetKni ∨ target = readTarget targetDrop then
    s.free [pkt]
  else
    let flowPathId := (getTargetFlowPath target).toInt.toNat
    let burst := s.perPathTxBursts flowPathId ++ [pkt]
    { s with
      perPathTxBursts := Function.update s.perPathTxBursts flowPathId burst
      pc := if burst.length = pktBurstSz then .full flowPathId else .shard }

/-! ## Workers -/

/-- The failed call of `classify_to_tables`. -/
def classificationFails (w : Fin workers) (burst : List ℕ)
    (s : Pipeline workers) : Pipeline workers :=
  (s.mark burst targetDrop).withWorker w
    { s.worker w with
      pc := .returning burst
      metrics := { (s.worker w).metrics with
        classificationFailures :=
          (s.worker w).metrics.classificationFailures + burst.length } }

/-- What the classification and `glb_encapsulate_packet_dpdk` say about one
packet. -/
inductive PacketResult where
  | notClassified
  | encapSucceeds
  | encapFails

def PacketResult.count (metrics : ProcessorMetrics) :
    PacketResult → ProcessorMetrics
  | notClassified =>
      { metrics with kniPacketCount := metrics.kniPacketCount + 1 }
  | encapSucceeds =>
      { metrics with
        directorPacketCount := metrics.directorPacketCount + 1
        encapSuccesses := metrics.encapSuccesses + 1 }
  | encapFails =>
      { metrics with
        directorPacketCount := metrics.directorPacketCount + 1
        encapFailures := metrics.encapFailures + 1 }

/-- A packet that is encapsulated keeps the target of its flow path. -/
def PacketResult.retarget (result : PacketResult) (pkt : ℕ)
    (s : Pipeline workers) : Pipeline workers :=
  match result with
  | notClassified => s.mark [pkt] targetKni
  | encapSucceeds => s
  | encapFails => s.mark [pkt] targetDrop

def handlePacket (w : Fin workers) (handled : List ℕ) (pkt : ℕ)
    (left : List ℕ) (result : PacketResult) (s : Pipeline workers) :
    Pipeline workers :=
  (result.retarget pkt s).withWorker w
    { s.worker w with
      pc := .handling (handled ++ [pkt]) left
      metrics := result.count (s.worker w).metrics }

end Pipeline

open Pipeline

/-! ## Steps -/

inductive PipelineStep (config : LcoreConfig) :
    Pipeline workers → Pipeline workers → Prop where
  | enterLoop (s : Pipeline workers) (hpc : s.pc = .top) :
      PipelineStep config s ({ s with pktsBurst := [] }.withPc (.rx 0))
  | leaveLoop (s : Pipeline workers) (hpc : s.pc = .top) :
      PipelineStep config s (s.withPc .stopping)
  | rxBurst (s : Pipeline workers) (f : ℕ) (burst : List ℕ)
      (hpc : s.pc = .rx f) (hf : f < config.numFlowPaths)
      (hburst : burst.length ≤ pktBurstSz) (hnodup : burst.Nodup)
      (hfresh : ∀ mbuf ∈ burst, mbuf ∉ s.received) :
      PipelineStep config s ((s.receive f burst).withPc (.rx (f + 1)))
  | distributorProcess (s : Pipeline workers)
      (hpc : s.pc = .rx config.numFlowPaths) :
      PipelineStep config s ({ s with
        pktsBurst := []
        pending := s.pending ++ s.pktsBurst }.withPc .collect)
  | returnedPkts (s : Pipeline workers) (burst rest : List ℕ)
      (hpc : s.pc = .collect) (hreturned : s.returned.Perm (burst ++ rest))
      (hburst : burst.length ≤ pktBurstSz * config.numFlowPaths) :
      PipelineStep config s ({ s with
        pktsBurst := burst
        returned := rest }.withPc (if burst = [] then .top else .shard))
  | shardPacket (s : Pipeline workers) (pkt : ℕ) (rest : List ℕ)
      (queued : Bool) (hpc : s.pc = .shard)
      (hburst : s.pktsBurst = pkt :: rest) :
      PipelineStep config s (s.shardPacket config pkt rest queued)
  | flushFull (s : Pipeline workers) (f sent : ℕ) (hpc : s.pc = .full f)
      (hsent : sent ≤ (s.perPathTxBursts f).length) :
      PipelineStep config s ((s.flushPacketBurst config f sent).withPc .shard)
  | shardEnd (s : Pipeline workers) (hpc : s.pc = .shard)
      (hburst : s.pktsBurst = []) :
      PipelineStep config s (s.withPc (.flush 0))
  | flushPath (s : Pipeline workers) (i sent : ℕ) (hpc : s.pc = .flush i)
      (hi : i < config.numFlowPaths)
      (hsent : sent ≤ (s.perPathTxBursts i).length) :
      PipelineStep config s
        ((s.flushPacketBurst config i sent).withPc (.flush (i + 1)))
  | flushEnd (s : Pipeline workers)
      (hpc : s.pc = .flush config.numFlowPaths) :
      PipelineStep config s (s.withPc .top)
  | clearReturns (s : Pipeline workers) (hpc : s.pc = .stopping) :
      PipelineStep config s ({ s with
        returned := []
        discarded := s.discarded ++ s.returned }.withPc .stopped)
  | getPkt (s : Pipeline workers) (w : Fin workers)
      (old burst rest : List ℕ) (hpc : (s.worker w).pc = .returning old)
      (hpending : s.pending.Perm (burst ++ rest))
      (hburst : burst.length ≤ workerBurstSz) :
      PipelineStep config s ({ s with
        pending := rest
        returned := s.returned ++ old }.withWorker w
          ((s.worker w).take burst))
  | workerStop (s : Pipeline workers) (w : Fin workers) (burst : List ℕ)
      (hpc : (s.worker w).pc = .received burst) :
      PipelineStep config s ((s.free burst).withWorker w
        ((s.worker w).withPc (.stopped burst)))
  | classificationFails (s : Pipeline workers) (w : Fin workers)
      (burst : List ℕ) (hpc : (s.worker w).pc = .received burst) :
      PipelineStep config s (s.classificationFails w burst)
  | classified (s : Pipeline workers) (w : Fin workers) (burst : List ℕ)
      (hpc : (s.worker w).pc = .received burst) :
      PipelineStep config s (s.withWorker w
        ((s.worker w).withPc (.handling [] burst)))
  | handlePacket (s : Pipeline workers) (w : Fin workers)
      (handled : List ℕ) (pkt : ℕ) (left : List ℕ) (result : PacketResult)
      (hpc : (s.worker w).pc = .handling handled (pkt :: left)) :
      PipelineStep config s (s.handlePacket w handled pkt left result)
  | burstHandled (s : Pipeline workers) (w : Fin workers)
      (handled : List ℕ) (hpc : (s.worker w).pc = .handling handled []) :
      PipelineStep config s (s.withWorker w
        ((s.worker w).withPc (.returning handled)))

def PipelineReachable (config : LcoreConfig) (s : Pipeline workers) : Prop :=
  Relation.ReflTransGen (PipelineStep config) Pipeline.start s

end GlbDirector
