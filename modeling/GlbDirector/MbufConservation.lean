import GlbDirector.ProcessorLoop

/-!
# No mbuf is lost or used twice

Every mbuf that was received is counted once over all places where mbufs can
be.  Its target is always drop, KNI or the flow path it came from, so the
transmit loop decodes the right path, and a full burst is flushed before another
packet is added to it.
-/

namespace GlbDirector

open Pipeline

variable {workers : ℕ} {config : LcoreConfig}

/-! ## Flushing -/

/-- A burst with nothing in it is flushed as any other. -/
theorem flushPacketBurst_eq {s : Pipeline workers} {f sent : ℕ}
    (hsent : sent ≤ (s.perPathTxBursts f).length) :
    s.flushPacketBurst config f sent =
      { s with
        transmitted := s.transmitted ++
          ((s.perPathTxBursts f).take sent).map fun mbuf =>
            ⟨mbuf, (config.flowPath f).txPortId,
              (config.flowPath f).txQueueId⟩
        freed := s.freed ++ (s.perPathTxBursts f).drop sent
        metrics := { s.metrics with
          ethTxPacketsSent := s.metrics.ethTxPacketsSent + sent }
        perPathTxBursts := Function.update s.perPathTxBursts f [] } := by
  unfold Pipeline.flushPacketBurst
  simp only
  split
  · rfl
  · rename_i hempty
    have hnil : s.perPathTxBursts f = [] :=
      List.length_eq_zero_iff.mp (Nat.eq_zero_of_not_pos hempty)
    have hzero : sent = 0 := by
      rw [hnil] at hsent
      exact Nat.le_zero.mp hsent
    have hsame : Function.update s.perPathTxBursts f [] =
        s.perPathTxBursts := by
      rw [← hnil]
      exact Function.update_eq_self f s.perPathTxBursts
    rw [hsame, hnil, hzero]
    simp

/-! ## Sums over an updated family -/

theorem sum_update_add {ι α : Type} [DecidableEq ι] {indices : Finset ι}
    {i : ι} (hi : i ∈ indices) (family : ι → α) (value : α) (size : α → ℕ) :
    ∑ j ∈ indices, size (Function.update family i value j) + size (family i) =
      ∑ j ∈ indices, size (family j) + size value := by
  rw [← Finset.sum_erase_add _ _ hi, ← Finset.sum_erase_add indices _ hi,
    Function.update_self]
  have hrest : ∑ j ∈ indices.erase i, size (Function.update family i value j) =
      ∑ j ∈ indices.erase i, size (family j) := by
    apply Finset.sum_congr rfl
    intro j hj
    rw [Function.update_of_ne (Finset.ne_of_mem_erase hj)]
  omega

/-! ## Where an mbuf is -/

section Places

variable (config : LcoreConfig) (s : Pipeline workers) (mbuf : ℕ)

def inTxBursts : ℕ :=
  ∑ f ∈ Finset.range config.numFlowPaths, (s.perPathTxBursts f).count mbuf

def inWorkers : ℕ := ∑ w, (s.worker w).pc.mbufs.count mbuf

/-- How often the distributor core, `rte_distributor` and the workers hold
the mbuf. -/
def inside : ℕ :=
  s.pktsBurst.count mbuf + inTxBursts config s mbuf + s.pending.count mbuf +
    s.returned.count mbuf + inWorkers s mbuf

def inTransmitted : ℕ := (s.transmitted.map SentMbuf.mbuf).count mbuf

end Places

/-- The count of an mbuf over all places. -/
def inAllPlaces (config : LcoreConfig) (s : Pipeline workers) (mbuf : ℕ) :
    ℕ :=
  inside config s mbuf + inTransmitted s mbuf + s.kni.count mbuf +
    s.freed.count mbuf + s.discarded.count mbuf

section Moves

variable (config : LcoreConfig) {s : Pipeline workers} (mbuf : ℕ)

theorem inAllPlaces_withPc (pc : CorePc) :
    inAllPlaces config (s.withPc pc) mbuf = inAllPlaces config s mbuf := rfl

theorem inAllPlaces_retarget (result : PacketResult) (pkt : ℕ) :
    inAllPlaces config (result.retarget pkt s) mbuf =
      inAllPlaces config s mbuf := by
  cases result <;> rfl

theorem inAllPlaces_free (burst : List ℕ) :
    inAllPlaces config (s.free burst) mbuf =
      inAllPlaces config s mbuf + burst.count mbuf := by
  simp only [inAllPlaces, inside, inTxBursts, inWorkers, inTransmitted,
    Pipeline.free, List.count_append]
  omega

theorem inAllPlaces_receive (f : ℕ) (burst : List ℕ) :
    inAllPlaces config (s.receive f burst) mbuf =
      inAllPlaces config s mbuf + burst.count mbuf := by
  simp only [inAllPlaces, inside, inTxBursts, inWorkers, inTransmitted,
    Pipeline.receive, Pipeline.mark, List.count_append]
  omega

theorem inAllPlaces_withWorker (w : Fin workers) (worker : Worker) :
    inAllPlaces config (s.withWorker w worker) mbuf +
        (s.worker w).pc.mbufs.count mbuf =
      inAllPlaces config s mbuf + worker.pc.mbufs.count mbuf := by
  have hworkers : inWorkers (s.withWorker w worker) mbuf +
      (s.worker w).pc.mbufs.count mbuf =
        inWorkers s mbuf + worker.pc.mbufs.count mbuf :=
    sum_update_add (Finset.mem_univ w) s.worker worker
      fun worker => worker.pc.mbufs.count mbuf
  have hothers : inAllPlaces config (s.withWorker w worker) mbuf +
      inWorkers s mbuf = inAllPlaces config s mbuf +
        inWorkers (s.withWorker w worker) mbuf := by
    simp only [inAllPlaces, inside, inTxBursts, inTransmitted,
      Pipeline.withWorker]
    omega
  omega

theorem inAllPlaces_withWorker_eq {w : Fin workers} {worker : Worker}
    (hsame : worker.pc.mbufs.count mbuf = (s.worker w).pc.mbufs.count mbuf) :
    inAllPlaces config (s.withWorker w worker) mbuf =
      inAllPlaces config s mbuf := by
  have hworker := inAllPlaces_withWorker config (s := s) mbuf w
    worker
  omega

theorem inTxBursts_update {f : ℕ} (hf : f < config.numFlowPaths)
    (burst : List ℕ) :
    ∑ g ∈ Finset.range config.numFlowPaths,
        (Function.update s.perPathTxBursts f burst g).count mbuf +
          (s.perPathTxBursts f).count mbuf =
      inTxBursts config s mbuf + burst.count mbuf :=
  sum_update_add (Finset.mem_range.mpr hf) s.perPathTxBursts burst
    (List.count mbuf)

theorem inAllPlaces_flush {f sent : ℕ} (hf : f < config.numFlowPaths)
    (hsent : sent ≤ (s.perPathTxBursts f).length) :
    inAllPlaces config (s.flushPacketBurst config f sent) mbuf =
      inAllPlaces config s mbuf := by
  have htx := inTxBursts_update config (s := s) mbuf hf []
  have hsplit := congrArg (List.count mbuf)
    (List.take_append_drop sent (s.perPathTxBursts f))
  rw [List.count_append] at hsplit
  rw [flushPacketBurst_eq hsent]
  simp only [inAllPlaces, inside, inTxBursts, inWorkers, inTransmitted,
    List.count_append, List.map_append, List.map_map, Function.comp_def,
    List.map_id', List.count_nil] at htx ⊢
  omega

end Moves

/-! ## Targets -/

/-- The target of a received mbuf: dropped, for KNI or its own flow path. -/
structure TargetRight (config : LcoreConfig) (s : Pipeline workers)
    (mbuf : ℕ) : Prop where
  hpath : s.rxPath mbuf < config.numFlowPaths
  htarget : s.udata64 mbuf = targetDrop ∨ s.udata64 mbuf = targetKni ∨
    s.udata64 mbuf = targetFlowPath (UInt32.ofNat (s.rxPath mbuf))

/-- The target of a flow path is decoded to the path. -/
theorem readTarget_flowPath {f : ℕ} (hf : f < perCoreMaxFlowPaths) :
    (getTargetFlowPath (readTarget (targetFlowPath
        (UInt32.ofNat f)))).toInt.toNat = f ∧
      readTarget (targetFlowPath (UInt32.ofNat f)) ≠ readTarget targetKni ∧
      readTarget (targetFlowPath (UInt32.ofNat f)) ≠
        readTarget targetDrop := by
  have hall : ∀ f : Fin perCoreMaxFlowPaths,
      (getTargetFlowPath (readTarget (targetFlowPath
          (UInt32.ofNat f)))).toInt.toNat = f ∧
        readTarget (targetFlowPath (UInt32.ofNat f)) ≠
          readTarget targetKni ∧
        readTarget (targetFlowPath (UInt32.ofNat f)) ≠
          readTarget targetDrop := by
    decide
  exact hall ⟨f, hf⟩

/-- What one pass of the loop over the returned packets does. -/
inductive ShardEffect (s : Pipeline workers) (pkt : ℕ) (rest : List ℕ) :
    Pipeline workers → Prop where
  | kni (metrics : ProcessorMetrics) : ShardEffect s pkt rest { s with
      pktsBurst := rest
      kni := s.kni ++ [pkt]
      metrics := metrics }
  | freed : ShardEffect s pkt rest ({ s with pktsBurst := rest }.free [pkt])
  | queued : ShardEffect s pkt rest { s with
      pktsBurst := rest
      perPathTxBursts := Function.update s.perPathTxBursts (s.rxPath pkt)
        (s.perPathTxBursts (s.rxPath pkt) ++ [pkt])
      pc := if (s.perPathTxBursts (s.rxPath pkt) ++ [pkt]).length =
        pktBurstSz then .full (s.rxPath pkt) else .shard }

theorem shardPacket_effect {s : Pipeline workers} {pkt : ℕ}
    (hright : TargetRight config s pkt) (rest : List ℕ) (queued : Bool) :
    ShardEffect s pkt rest (s.shardPacket config pkt rest queued) := by
  unfold Pipeline.shardPacket
  simp only
  split
  · split
    · exact .kni _
    · exact .freed
  · split
    · exact .freed
    · rename_i hother
      obtain ⟨hkni, hdrop⟩ := not_or.mp hother
      have htarget : s.udata64 pkt =
          targetFlowPath (UInt32.ofNat (s.rxPath pkt)) := by
        rcases hright.htarget with h | h | h
        · exact absurd (congrArg readTarget h) hdrop
        · exact absurd (congrArg readTarget h) hkni
        · exact h
      have hdecoded := (readTarget_flowPath
        (hright.hpath.trans_le config.flowPaths_length)).1
      rw [htarget, hdecoded]
      exact .queued

/-! ## The invariant -/

/-- A frame is right when it goes out on the port and queue of the path on
which its mbuf came in. -/
structure SentRight (config : LcoreConfig) (s : Pipeline workers)
    (sent : SentMbuf) : Prop where
  hreceived : sent.mbuf ∈ s.received
  hport : sent.portId = (config.flowPath (s.rxPath sent.mbuf)).txPortId
  hqueue : sent.queueId = (config.flowPath (s.rxPath sent.mbuf)).txQueueId

structure WorkerCounted (worker : Worker) : Prop where
  htaken : worker.taken.length = worker.metrics.directorPacketCount +
    worker.metrics.classificationFailures + worker.metrics.kniPacketCount +
      worker.pc.unhandled.length
  hdirector : worker.metrics.directorPacketCount =
    worker.metrics.encapSuccesses + worker.metrics.encapFailures

theorem WorkerCounted.processed_eq {worker : Worker}
    (hcounted : WorkerCounted worker) :
    worker.processed = worker.metrics.directorPacketCount +
      worker.metrics.classificationFailures +
        worker.metrics.kniPacketCount := by
  rw [Worker.processed, hcounted.htaken, Nat.add_sub_cancel]

theorem WorkerCounted.withPc {worker : Worker} (hcounted : WorkerCounted worker)
    {pc : WorkerPc} (hsame : pc.unhandled = worker.pc.unhandled) :
    WorkerCounted (worker.withPc pc) := by
  obtain ⟨htaken, hdirector⟩ := hcounted
  rw [← hsame] at htaken
  exact ⟨htaken, hdirector⟩

theorem WorkerCounted.take {worker : Worker} (hcounted : WorkerCounted worker)
    {old : List ℕ} (hpc : worker.pc = .returning old) (burst : List ℕ) :
    WorkerCounted (worker.take burst) := by
  obtain ⟨htaken, hdirector⟩ := hcounted
  rw [hpc] at htaken
  refine ⟨?_, hdirector⟩
  simp only [Worker.take, List.length_append, htaken, WorkerPc.unhandled,
    List.length_nil]
  omega

theorem WorkerCounted.classificationFails {worker : Worker}
    (hcounted : WorkerCounted worker) {burst : List ℕ}
    (hpc : worker.pc = .received burst) :
    WorkerCounted
      { worker with
        pc := .returning burst
        metrics := { worker.metrics with
          classificationFailures :=
            worker.metrics.classificationFailures + burst.length } } := by
  obtain ⟨htaken, hdirector⟩ := hcounted
  rw [hpc] at htaken
  refine ⟨?_, hdirector⟩
  simp only [htaken, WorkerPc.unhandled, List.length_nil]
  omega

theorem WorkerCounted.handlePacket {worker : Worker}
    (hcounted : WorkerCounted worker) {handled left : List ℕ} {pkt : ℕ}
    (hpc : worker.pc = .handling handled (pkt :: left))
    (result : PacketResult) :
    WorkerCounted
      { worker with
        pc := .handling (handled ++ [pkt]) left
        metrics := result.count worker.metrics } := by
  obtain ⟨htaken, hdirector⟩ := hcounted
  rw [hpc] at htaken
  simp only [WorkerPc.unhandled, List.length_cons] at htaken
  cases result <;>
    (constructor <;>
      simp only [PacketResult.count, WorkerPc.unhandled] <;> omega)

/-- The array holds packets only while it is filled or sharded. -/
def CorePc.UsesBurst : CorePc → Prop
  | rx _ => True
  | shard => True
  | full _ => True
  | _ => False

/-- The burst of path `f` has been flushed since the last packet. -/
def CorePc.Flushed (f : ℕ) : CorePc → Prop
  | shard => False
  | full _ => False
  | flush i => f < i
  | _ => True

structure PipelineInvariant (config : LcoreConfig) (s : Pipeline workers) :
    Prop where
  hplaces : ∀ mbuf, inAllPlaces config s mbuf = s.received.count mbuf
  hnodup : s.received.Nodup
  htargets : ∀ mbuf ∈ s.received, TargetRight config s mbuf
  hburst : s.pktsBurst = [] ∨ s.pc.UsesBurst
  htxPath : ∀ f, ∀ mbuf ∈ s.perPathTxBursts f,
    mbuf ∈ s.received ∧ s.rxPath mbuf = f
  hfull : ∀ f, s.pc = .full f → f < config.numFlowPaths
  hlength : ∀ f, (s.perPathTxBursts f).length ≤ pktBurstSz ∧
    ((s.perPathTxBursts f).length = pktBurstSz → s.pc = .full f)
  hflushed : ∀ f, s.pc.Flushed f → s.perPathTxBursts f = []
  hsent : ∀ sent ∈ s.transmitted, SentRight config s sent
  hdiscarded : s.discarded = [] ∨ s.pc = .stopped
  hworkers : ∀ w, WorkerCounted (s.worker w)

theorem pipelineInvariant_start :
    PipelineInvariant config (Pipeline.start : Pipeline workers) where
  hplaces := by
    intro mbuf
    simp [inAllPlaces, inside, inTxBursts, inWorkers, inTransmitted,
      Pipeline.start, WorkerPc.mbufs]
  hnodup := List.nodup_nil
  htargets := by
    intro mbuf hmem
    exact absurd hmem List.not_mem_nil
  hburst := .inl rfl
  htxPath := by
    intro f mbuf hmem
    exact absurd hmem List.not_mem_nil
  hfull := by
    intro f hpc
    cases hpc
  hlength := by
    intro f
    exact ⟨Nat.zero_le _, fun h =>
      absurd h (show (0 : ℕ) ≠ pktBurstSz by decide)⟩
  hflushed := fun f _ => rfl
  hsent := by
    intro sent hmem
    exact absurd hmem List.not_mem_nil
  hdiscarded := .inl rfl
  hworkers := fun w => ⟨rfl, rfl⟩

/-! ## What is received -/

/-- Apart from a reception, a step changes targets to drop or KNI only. -/
inductive HistoryChange (config : LcoreConfig) (s next : Pipeline workers) :
    Prop where
  | kept (hreceived : next.received = s.received)
      (hpath : next.rxPath = s.rxPath)
      (hudata : ∀ mbuf, next.udata64 mbuf = s.udata64 mbuf ∨
        next.udata64 mbuf = targetDrop ∨ next.udata64 mbuf = targetKni)
  | received (f : ℕ) (burst : List ℕ) (hf : f < config.numFlowPaths)
      (hnodup : burst.Nodup) (hfresh : ∀ mbuf ∈ burst, mbuf ∉ s.received)
      (hreceived : next.received = s.received ++ burst)
      (hpath : next.rxPath = fun mbuf =>
        if mbuf ∈ burst then f else s.rxPath mbuf)
      (hudata : next.udata64 = fun mbuf => if mbuf ∈ burst then
        targetFlowPath (UInt32.ofNat f) else s.udata64 mbuf)

theorem mark_udata64 (s : Pipeline workers) (burst : List ℕ)
    (target : UInt64) (mbuf : ℕ) :
    (s.mark burst target).udata64 mbuf = s.udata64 mbuf ∨
      (s.mark burst target).udata64 mbuf = target := by
  simp only [Pipeline.mark]
  split
  · exact .inr rfl
  · exact .inl rfl

theorem retarget_udata64 (s : Pipeline workers) (result : PacketResult)
    (pkt mbuf : ℕ) :
    (result.retarget pkt s).udata64 mbuf = s.udata64 mbuf ∨
      (result.retarget pkt s).udata64 mbuf = targetDrop ∨
      (result.retarget pkt s).udata64 mbuf = targetKni := by
  cases result with
  | notClassified => exact (mark_udata64 s [pkt] targetKni mbuf).imp_right .inr
  | encapSucceeds => exact .inl rfl
  | encapFails => exact (mark_udata64 s [pkt] targetDrop mbuf).imp_right .inl

/-- A new target is all that changes. -/
theorem retarget_eq (s : Pipeline workers) (result : PacketResult)
    (pkt : ℕ) :
    result.retarget pkt s =
      { s with udata64 := (result.retarget pkt s).udata64 } := by
  cases result <;> rfl

section History

variable {s next : Pipeline workers}

/-- What was received before keeps its flow path. -/
theorem HistoryChange.keeps (hchange : HistoryChange config s next) {mbuf : ℕ}
    (hmem : mbuf ∈ s.received) :
    mbuf ∈ next.received ∧ next.rxPath mbuf = s.rxPath mbuf := by
  cases hchange with
  | kept hreceived hpath hudata =>
      rw [hreceived, hpath]
      exact ⟨hmem, rfl⟩
  | received f burst hf hnodup hfresh hreceived hpath hudata =>
      have hold : mbuf ∉ burst := fun hnew => hfresh mbuf hnew hmem
      rw [hreceived, hpath]
      exact ⟨List.mem_append_left _ hmem, if_neg hold⟩

theorem HistoryChange.nodup (hchange : HistoryChange config s next)
    (hnodup : s.received.Nodup) : next.received.Nodup := by
  cases hchange with
  | kept hreceived hpath hudata =>
      rw [hreceived]
      exact hnodup
  | received f burst hf hburst hfresh hreceived hpath hudata =>
      rw [hreceived]
      apply hnodup.append hburst
      intro mbuf hmem hnew
      exact hfresh mbuf hnew hmem

theorem HistoryChange.targets (hchange : HistoryChange config s next)
    (htargets : ∀ mbuf ∈ s.received, TargetRight config s mbuf) {mbuf : ℕ}
    (hmem : mbuf ∈ next.received) : TargetRight config next mbuf := by
  cases hchange with
  | kept hreceived hpath hudata =>
      rw [hreceived] at hmem
      obtain ⟨hlt, htarget⟩ := htargets mbuf hmem
      constructor
      · rw [hpath]
        exact hlt
      · rw [hpath]
        rcases hudata mbuf with h | h | h
        · rw [h]
          exact htarget
        · exact .inl h
        · exact .inr (.inl h)
  | received f burst hf hnodup hfresh hreceived hpath hudata =>
      by_cases hnew : mbuf ∈ burst
      · constructor
        · rw [hpath]
          simpa only [if_pos hnew] using hf
        · rw [hpath, hudata]
          simp only [if_pos hnew]
          exact .inr (.inr trivial)
      · rw [hreceived] at hmem
        have hold := (List.mem_append.mp hmem).resolve_right hnew
        obtain ⟨hlt, htarget⟩ := htargets mbuf hold
        constructor
        · rw [hpath]
          simpa only [if_neg hnew] using hlt
        · rw [hpath, hudata]
          simpa only [if_neg hnew] using htarget

theorem SentRight.keep {sent : SentMbuf} (hright : SentRight config s sent)
    (hchange : HistoryChange config s next) : SentRight config next sent := by
  obtain ⟨hreceived, hport, hqueue⟩ := hright
  obtain ⟨hstill, hpath⟩ := hchange.keeps hreceived
  constructor
  · exact hstill
  · rw [hpath]
    exact hport
  · rw [hpath]
    exact hqueue

end History

section Step

variable {s next : Pipeline workers} (hinv : PipelineInvariant config s)

include hinv

theorem PipelineInvariant.mem_received {mbuf : ℕ}
    (hheld : 0 < inAllPlaces config s mbuf) : mbuf ∈ s.received := by
  rw [hinv.hplaces mbuf] at hheld
  exact List.count_pos_iff.mp hheld

theorem PipelineInvariant.received_of_burst {pkt : ℕ} {rest : List ℕ}
    (hburst : s.pktsBurst = pkt :: rest) : pkt ∈ s.received := by
  apply hinv.mem_received
  have hpos : 0 < s.pktsBurst.count pkt := by
    rw [hburst]
    exact List.count_pos_iff.mpr List.mem_cons_self
  unfold inAllPlaces inside
  omega

theorem PipelineInvariant.targetRight_of_burst {pkt : ℕ} {rest : List ℕ}
    (hburst : s.pktsBurst = pkt :: rest) : TargetRight config s pkt :=
  hinv.htargets pkt (hinv.received_of_burst hburst)

theorem PipelineInvariant.shardEffect {pkt : ℕ} {rest : List ℕ}
    (hburst : s.pktsBurst = pkt :: rest) (queued : Bool) :
    ShardEffect s pkt rest (s.shardPacket config pkt rest queued) :=
  shardPacket_effect (hinv.targetRight_of_burst hburst) rest queued

theorem PipelineInvariant.history (hstep : PipelineStep config s next) :
    HistoryChange config s next := by
  cases hstep with
  | rxBurst f burst hpc hf hburst hnodup hfresh =>
      exact .received f burst hf hnodup hfresh rfl rfl rfl
  | shardPacket pkt rest queued hpc hburst =>
      have heffect := hinv.shardEffect hburst queued
      generalize s.shardPacket config pkt rest queued = after at heffect ⊢
      cases heffect <;> exact .kept rfl rfl fun _ => .inl rfl
  | flushFull f sent hpc hsent =>
      rw [flushPacketBurst_eq hsent]
      exact .kept rfl rfl fun _ => .inl rfl
  | flushPath i sent hpc hi hsent =>
      rw [flushPacketBurst_eq hsent]
      exact .kept rfl rfl fun _ => .inl rfl
  | classificationFails w burst hpc =>
      exact .kept rfl rfl fun mbuf =>
        (mark_udata64 s burst targetDrop mbuf).imp_right .inl
  | handlePacket w handled pkt left result hpc =>
      have hudata := retarget_udata64 s result pkt
      rw [Pipeline.handlePacket, retarget_eq]
      exact .kept rfl rfl hudata
  | _ => exact .kept rfl rfl fun _ => .inl rfl

/-! ## What a step moves -/

theorem PipelineInvariant.burst_nil (hpc : ¬ s.pc.UsesBurst) :
    s.pktsBurst = [] :=
  hinv.hburst.resolve_right hpc

theorem PipelineInvariant.places_step (hstep : PipelineStep config s next)
    (mbuf : ℕ) :
    inAllPlaces config next mbuf + s.received.count mbuf =
      inAllPlaces config s mbuf + next.received.count mbuf := by
  cases hstep with
  | enterLoop hpc =>
      have hnil := hinv.burst_nil (by rw [hpc]; exact id)
      have hsame : ({ s with pktsBurst := [] } : Pipeline workers) = s := by
        rw [← hnil]
      rw [hsame]
      rfl
  | leaveLoop hpc => rfl
  | rxBurst f burst hpc hf hburst hnodup hfresh =>
      have hreceive := inAllPlaces_receive config (s := s) mbuf f
        burst
      rw [inAllPlaces_withPc, hreceive]
      simp only [Pipeline.withPc, Pipeline.receive, List.count_append]
      omega
  | distributorProcess hpc =>
      simp only [Pipeline.withPc, inAllPlaces, inside, inTxBursts, inWorkers,
        inTransmitted, List.count_append, List.count_nil]
      omega
  | returnedPkts burst rest hpc hreturned hburst =>
      have hnil := hinv.burst_nil (by rw [hpc]; exact id)
      have hcount := hreturned.count_eq mbuf
      rw [List.count_append] at hcount
      simp only [Pipeline.withPc, inAllPlaces, inside, inTxBursts, inWorkers,
        inTransmitted, hnil, List.count_nil]
      omega
  | shardPacket pkt rest queued hpc hburst =>
      have hpath := (hinv.targetRight_of_burst hburst).hpath
      have heffect := hinv.shardEffect hburst queued
      have hcons : s.pktsBurst.count mbuf =
          [pkt].count mbuf + rest.count mbuf := by
        rw [hburst, ← List.singleton_append, List.count_append]
      generalize s.shardPacket config pkt rest queued = after at heffect ⊢
      cases heffect with
      | kni metrics =>
          simp only [inAllPlaces, inside, inTxBursts, inWorkers,
            inTransmitted, List.count_append]
          omega
      | freed =>
          simp only [Pipeline.free, inAllPlaces, inside, inTxBursts,
            inWorkers, inTransmitted, List.count_append]
          omega
      | queued =>
          have htx := inTxBursts_update config (s := s) mbuf hpath
            (s.perPathTxBursts (s.rxPath pkt) ++ [pkt])
          simp only [inAllPlaces, inside, inTxBursts, inWorkers,
            inTransmitted, List.count_append] at htx ⊢
          omega
  | flushFull f sent hpc hsent =>
      rw [inAllPlaces_withPc,
        inAllPlaces_flush config mbuf (hinv.hfull f hpc) hsent,
        flushPacketBurst_eq hsent]
      rfl
  | shardEnd hpc hburst => rfl
  | flushPath i sent hpc hi hsent =>
      rw [inAllPlaces_withPc, inAllPlaces_flush config mbuf hi hsent,
        flushPacketBurst_eq hsent]
      rfl
  | flushEnd hpc => rfl
  | clearReturns hpc =>
      simp only [Pipeline.withPc, inAllPlaces, inside, inTxBursts, inWorkers,
        inTransmitted, List.count_append, List.count_nil]
      omega
  | getPkt w old burst rest hpc hpending hburst =>
      have hcount := hpending.count_eq mbuf
      rw [List.count_append] at hcount
      have hworker := inAllPlaces_withWorker config (s := { s with
        pending := rest, returned := s.returned ++ old }) mbuf w
        ((s.worker w).take burst)
      have hmoved : inAllPlaces config { s with
          pending := rest, returned := s.returned ++ old } mbuf +
            burst.count mbuf = inAllPlaces config s mbuf + old.count mbuf := by
        simp only [inAllPlaces, inside, inTxBursts, inWorkers, inTransmitted,
          List.count_append]
        omega
      simp only [hpc, Worker.take, WorkerPc.mbufs] at hworker
      show _ + s.received.count mbuf = _ + s.received.count mbuf
      simp only [Worker.take]
      omega
  | workerStop w burst hpc =>
      have hworker := inAllPlaces_withWorker config
        (s := s.free burst) mbuf w ((s.worker w).withPc (.stopped burst))
      have hfree := inAllPlaces_free config (s := s) mbuf burst
      have hheld : ((s.free burst).worker w).pc = .received burst := hpc
      have hleft : ((s.worker w).withPc (.stopped burst)).pc.mbufs = [] := rfl
      rw [hheld, hleft, List.count_nil] at hworker
      simp only [WorkerPc.mbufs] at hworker
      show _ + s.received.count mbuf = _ + s.received.count mbuf
      omega
  | classificationFails w burst hpc =>
      apply congrArg (· + s.received.count mbuf)
      apply inAllPlaces_withWorker_eq
      show burst.count mbuf = (s.worker w).pc.mbufs.count mbuf
      rw [hpc]
      rfl
  | classified w burst hpc =>
      apply congrArg (· + s.received.count mbuf)
      apply inAllPlaces_withWorker_eq
      show burst.count mbuf = (s.worker w).pc.mbufs.count mbuf
      rw [hpc]
      rfl
  | handlePacket w handled pkt left result hpc =>
      have hworker : ((result.retarget pkt s).worker w).pc =
          .handling handled (pkt :: left) := by
        rw [retarget_eq]
        exact hpc
      have hplaces : inAllPlaces config
          (s.handlePacket w handled pkt left result) mbuf =
            inAllPlaces config (result.retarget pkt s) mbuf := by
        apply inAllPlaces_withWorker_eq
        rw [hworker]
        simp [WorkerPc.mbufs]
      rw [hplaces, inAllPlaces_retarget, Pipeline.handlePacket, retarget_eq]
      rfl
  | burstHandled w handled hpc =>
      apply congrArg (· + s.received.count mbuf)
      apply inAllPlaces_withWorker_eq
      show handled.count mbuf = (s.worker w).pc.mbufs.count mbuf
      rw [hpc, WorkerPc.mbufs, List.append_nil]

theorem PipelineInvariant.burst_step (hstep : PipelineStep config s next) :
    next.pktsBurst = [] ∨ next.pc.UsesBurst := by
  cases hstep with
  | enterLoop hpc => exact .inr trivial
  | leaveLoop hpc => exact .inl (hinv.burst_nil (by rw [hpc]; exact id))
  | rxBurst f burst hpc hf hburst hnodup hfresh => exact .inr trivial
  | distributorProcess hpc => exact .inl rfl
  | returnedPkts burst rest hpc hreturned hburst =>
      by_cases hnil : burst = []
      · exact .inl hnil
      · right
        simp only [Pipeline.withPc, if_neg hnil]
        trivial
  | shardPacket pkt rest queued hpc hburst =>
      have heffect := hinv.shardEffect hburst queued
      have hshard : s.pc.UsesBurst := by
        rw [hpc]
        trivial
      generalize s.shardPacket config pkt rest queued = after at heffect ⊢
      cases heffect with
      | kni metrics => exact .inr hshard
      | freed => exact .inr hshard
      | queued =>
          right
          simp only
          split <;> trivial
  | flushFull f sent hpc hsent => exact .inr trivial
  | shardEnd hpc hburst => exact .inl hburst
  | flushPath i sent hpc hi hsent =>
      rw [flushPacketBurst_eq hsent]
      exact .inl (hinv.burst_nil (by rw [hpc]; exact id))
  | flushEnd hpc => exact .inl (hinv.burst_nil (by rw [hpc]; exact id))
  | clearReturns hpc => exact .inl (hinv.burst_nil (by rw [hpc]; exact id))
  | handlePacket w handled pkt left result hpc =>
      rw [Pipeline.handlePacket, retarget_eq]
      exact hinv.hburst
  | _ => exact hinv.hburst

end Step

/-! ## The transmit bursts -/

/-- What a step does with the transmit bursts, and where the core stands
before and after it. -/
inductive TxChange (config : LcoreConfig) (s next : Pipeline workers) :
    Prop where
  | kept (hpc : next.pc = s.pc)
      (htx : next.perPathTxBursts = s.perPathTxBursts)
      (hsent : next.transmitted = s.transmitted)
  | moved (hbefore : ∀ f, s.pc ≠ .full f) (hafter : ∀ f, next.pc ≠ .full f)
      (hflushed : ∀ f, next.pc.Flushed f →
        s.pc.Flushed f ∨ config.numFlowPaths ≤ f)
      (htx : next.perPathTxBursts = s.perPathTxBursts)
      (hsent : next.transmitted = s.transmitted)
  | queued (pkt : ℕ) (hpc : s.pc = .shard) (hreceived : pkt ∈ s.received)
      (hnext : next.pc = if (s.perPathTxBursts (s.rxPath pkt) ++ [pkt]).length =
        pktBurstSz then .full (s.rxPath pkt) else .shard)
      (htx : next.perPathTxBursts =
        Function.update s.perPathTxBursts (s.rxPath pkt)
          (s.perPathTxBursts (s.rxPath pkt) ++ [pkt]))
      (hsent : next.transmitted = s.transmitted)
  | flushed (f count : ℕ) (hbefore : ∀ g, s.pc = .full g → g = f)
      (hafter : ∀ g, next.pc ≠ .full g)
      (hflushed : ∀ g, next.pc.Flushed g → g = f ∨ s.pc.Flushed g)
      (htx : next.perPathTxBursts = Function.update s.perPathTxBursts f [])
      (hsent : next.transmitted = s.transmitted ++
        ((s.perPathTxBursts f).take count).map fun mbuf =>
          ⟨mbuf, (config.flowPath f).txPortId, (config.flowPath f).txQueueId⟩)

theorem TxChange.of_flushed {s next : Pipeline workers}
    (hidle : ∀ f, s.pc.Flushed f) (hafter : ∀ f, next.pc ≠ .full f)
    (htx : next.perPathTxBursts = s.perPathTxBursts)
    (hsent : next.transmitted = s.transmitted) : TxChange config s next := by
  apply TxChange.moved _ hafter _ htx hsent
  · intro f hfull
    have hflushed := hidle f
    rw [hfull] at hflushed
    exact hflushed
  · exact fun f _ => .inl (hidle f)

section Step

variable {s next : Pipeline workers} (hinv : PipelineInvariant config s)

include hinv

theorem PipelineInvariant.txChange (hstep : PipelineStep config s next) :
    TxChange config s next := by
  cases hstep with
  | enterLoop hpc =>
      apply TxChange.of_flushed
      · simp only [hpc, CorePc.Flushed, implies_true]
      · exact fun f => nofun
      · rfl
      · rfl
  | leaveLoop hpc =>
      apply TxChange.of_flushed
      · simp only [hpc, CorePc.Flushed, implies_true]
      · exact fun f => nofun
      · rfl
      · rfl
  | rxBurst g burst hpc hg hburst hnodup hfresh =>
      apply TxChange.of_flushed
      · simp only [hpc, CorePc.Flushed, implies_true]
      · exact fun f => nofun
      · rfl
      · rfl
  | distributorProcess hpc =>
      apply TxChange.of_flushed
      · simp only [hpc, CorePc.Flushed, implies_true]
      · exact fun f => nofun
      · rfl
      · rfl
  | returnedPkts burst rest hpc hreturned hburst =>
      apply TxChange.of_flushed
      · simp only [hpc, CorePc.Flushed, implies_true]
      · intro f
        simp only [Pipeline.withPc]
        split <;> exact nofun
      · rfl
      · rfl
  | shardPacket pkt rest queued hpc hburst =>
      have hreceived := hinv.received_of_burst hburst
      have heffect := hinv.shardEffect hburst queued
      generalize s.shardPacket config pkt rest queued = after at heffect ⊢
      cases heffect with
      | kni metrics => exact .kept rfl rfl rfl
      | freed => exact .kept rfl rfl rfl
      | queued => exact .queued pkt hpc hreceived rfl rfl rfl
  | flushFull f sent hpc hsent =>
      rw [flushPacketBurst_eq hsent]
      apply TxChange.flushed f sent
      · intro g hfull
        rw [hpc] at hfull
        cases hfull
        rfl
      · exact fun g => nofun
      · exact fun g hflushed => hflushed.elim
      · rfl
      · rfl
  | shardEnd hpc hburst =>
      apply TxChange.moved
      · simp [hpc]
      · exact fun f => nofun
      · exact fun f hflushed => absurd hflushed (Nat.not_lt_zero f)
      · rfl
      · rfl
  | flushPath i sent hpc hi hsent =>
      rw [flushPacketBurst_eq hsent]
      apply TxChange.flushed i sent
      · simp [hpc]
      · exact fun g => nofun
      · intro g hflushed
        rw [hpc]
        exact (Nat.lt_succ_iff_lt_or_eq.mp hflushed).symm
      · rfl
      · rfl
  | flushEnd hpc =>
      apply TxChange.moved
      · simp [hpc]
      · exact fun f => nofun
      · intro f _
        rw [hpc]
        exact lt_or_ge f config.numFlowPaths
      · rfl
      · rfl
  | clearReturns hpc =>
      apply TxChange.of_flushed
      · simp only [hpc, CorePc.Flushed, implies_true]
      · exact fun f => nofun
      · rfl
      · rfl
  | handlePacket w handled pkt left result hpc =>
      rw [Pipeline.handlePacket, retarget_eq]
      exact .kept rfl rfl rfl
  | _ => exact .kept rfl rfl rfl

/-- The bursts hold packets of their own path. -/
theorem PipelineInvariant.txPath_step (hchange : TxChange config s next)
    {f mbuf : ℕ} (hmem : mbuf ∈ next.perPathTxBursts f) :
    mbuf ∈ s.received ∧ s.rxPath mbuf = f := by
  cases hchange with
  | kept hpc htx hsent =>
      rw [htx] at hmem
      exact hinv.htxPath f mbuf hmem
  | moved hbefore hafter hflushed htx hsent =>
      rw [htx] at hmem
      exact hinv.htxPath f mbuf hmem
  | queued pkt hpc hreceived hnext htx hsent =>
      rw [htx] at hmem
      rcases eq_or_ne f (s.rxPath pkt) with rfl | hne
      · rw [Function.update_self, List.mem_append, List.mem_singleton] at hmem
        rcases hmem with hmem | rfl
        · exact hinv.htxPath _ mbuf hmem
        · exact ⟨hreceived, rfl⟩
      · rw [Function.update_of_ne hne] at hmem
        exact hinv.htxPath f mbuf hmem
  | flushed g count hbefore hafter hflushed htx hsent =>
      rw [htx] at hmem
      rcases eq_or_ne f g with rfl | hne
      · rw [Function.update_self] at hmem
        exact absurd hmem List.not_mem_nil
      · rw [Function.update_of_ne hne] at hmem
        exact hinv.htxPath f mbuf hmem

theorem PipelineInvariant.full_step (hchange : TxChange config s next)
    {f : ℕ} (hfull : next.pc = .full f) : f < config.numFlowPaths := by
  cases hchange with
  | kept hpc htx hsent =>
      rw [hpc] at hfull
      exact hinv.hfull f hfull
  | moved hbefore hafter hflushed htx hsent => exact absurd hfull (hafter f)
  | queued pkt hpc hreceived hnext htx hsent =>
      rw [hnext] at hfull
      split at hfull
      · cases hfull
        exact (hinv.htargets pkt hreceived).hpath
      · cases hfull
  | flushed g count hbefore hafter hflushed htx hsent =>
      exact absurd hfull (hafter f)

/-- Only the burst that was just filled is full. -/
theorem PipelineInvariant.length_lt {f : ℕ} (hpc : s.pc ≠ .full f) :
    (s.perPathTxBursts f).length < pktBurstSz := by
  obtain ⟨hle, hfull⟩ := hinv.hlength f
  exact lt_of_le_of_ne hle fun hlength => hpc (hfull hlength)

theorem PipelineInvariant.length_step (hchange : TxChange config s next)
    (f : ℕ) : (next.perPathTxBursts f).length ≤ pktBurstSz ∧
      ((next.perPathTxBursts f).length = pktBurstSz → next.pc = .full f) := by
  have hroom : (s.perPathTxBursts f).length < pktBurstSz →
      (s.perPathTxBursts f).length ≤ pktBurstSz ∧
        ((s.perPathTxBursts f).length = pktBurstSz → next.pc = .full f) :=
    fun hlt => ⟨hlt.le, fun hlength => absurd hlength hlt.ne⟩
  cases hchange with
  | kept hpc htx hsent =>
      rw [htx, hpc]
      exact hinv.hlength f
  | moved hbefore hafter hflushed htx hsent =>
      rw [htx]
      exact hroom (hinv.length_lt (hbefore f))
  | queued pkt hpc hreceived hnext htx hsent =>
      have hlt := hinv.length_lt (f := f) (by rw [hpc]; exact nofun)
      rw [htx]
      rcases eq_or_ne f (s.rxPath pkt) with rfl | hne
      · rw [Function.update_self]
        constructor
        · rw [List.length_append, List.length_singleton]
          omega
        · intro hlength
          rw [hnext, if_pos hlength]
      · rw [Function.update_of_ne hne]
        exact hroom hlt
  | flushed g count hbefore hafter hflushed htx hsent =>
      rw [htx]
      rcases eq_or_ne f g with rfl | hne
      · rw [Function.update_self]
        exact ⟨Nat.zero_le _, fun h =>
          absurd h (show (0 : ℕ) ≠ pktBurstSz by decide)⟩
      · rw [Function.update_of_ne hne]
        exact hroom (hinv.length_lt fun hfull => hne (hbefore f hfull))

/-- Bursts outside the configured paths stay empty. -/
theorem PipelineInvariant.txBurst_nil {f : ℕ}
    (hf : config.numFlowPaths ≤ f) : s.perPathTxBursts f = [] := by
  apply List.eq_nil_iff_forall_not_mem.mpr
  intro mbuf hmem
  obtain ⟨hreceived, hpath⟩ := hinv.htxPath f mbuf hmem
  have hlt := (hinv.htargets mbuf hreceived).hpath
  omega

theorem PipelineInvariant.flushed_step (hchange : TxChange config s next)
    (f : ℕ) (hdone : next.pc.Flushed f) : next.perPathTxBursts f = [] := by
  cases hchange with
  | kept hpc htx hsent =>
      rw [hpc] at hdone
      rw [htx]
      exact hinv.hflushed f hdone
  | moved hbefore hafter hflushed htx hsent =>
      rw [htx]
      rcases hflushed f hdone with hold | hout
      · exact hinv.hflushed f hold
      · exact hinv.txBurst_nil hout
  | queued pkt hpc hreceived hnext htx hsent =>
      rw [hnext] at hdone
      split at hdone <;> exact hdone.elim
  | flushed g count hbefore hafter hflushed htx hsent =>
      rw [htx]
      rcases eq_or_ne f g with rfl | hne
      · exact Function.update_self ..
      · rw [Function.update_of_ne hne]
        exact hinv.hflushed f ((hflushed f hdone).resolve_left hne)

theorem PipelineInvariant.sent_step (hchange : TxChange config s next)
    {sent : SentMbuf} (hmem : sent ∈ next.transmitted) :
    SentRight config s sent := by
  cases hchange with
  | kept hpc htx hsent =>
      rw [hsent] at hmem
      exact hinv.hsent sent hmem
  | moved hbefore hafter hflushed htx hsent =>
      rw [hsent] at hmem
      exact hinv.hsent sent hmem
  | queued pkt hpc hreceived hnext htx hsent =>
      rw [hsent] at hmem
      exact hinv.hsent sent hmem
  | flushed f count hbefore hafter hflushed htx hsent =>
      rw [hsent] at hmem
      rcases List.mem_append.mp hmem with hmem | hmem
      · exact hinv.hsent sent hmem
      · obtain ⟨mbuf, htaken, rfl⟩ := List.mem_map.mp hmem
        obtain ⟨hreceived, hpath⟩ :=
          hinv.htxPath f mbuf (List.mem_of_mem_take htaken)
        constructor
        · exact hreceived
        · rw [hpath]
        · rw [hpath]

/-! ## One step -/

theorem PipelineInvariant.discarded_step (hstep : PipelineStep config s next) :
    next.discarded = [] ∨ next.pc = .stopped := by
  have hnone : s.pc ≠ .stopped → s.discarded = [] :=
    hinv.hdiscarded.resolve_right
  cases hstep with
  | enterLoop hpc => exact .inl (hnone (by rw [hpc]; exact nofun))
  | leaveLoop hpc => exact .inl (hnone (by rw [hpc]; exact nofun))
  | rxBurst f burst hpc hf hburst hnodup hfresh =>
      exact .inl (hnone (by rw [hpc]; exact nofun))
  | distributorProcess hpc => exact .inl (hnone (by rw [hpc]; exact nofun))
  | returnedPkts burst rest hpc hreturned hburst =>
      exact .inl (hnone (by rw [hpc]; exact nofun))
  | shardPacket pkt rest queued hpc hburst =>
      have hdiscarded := hnone (by rw [hpc]; exact nofun)
      have heffect := hinv.shardEffect hburst queued
      generalize s.shardPacket config pkt rest queued = after at heffect ⊢
      cases heffect <;> exact .inl hdiscarded
  | flushFull f sent hpc hsent =>
      rw [flushPacketBurst_eq hsent]
      exact .inl (hnone (by rw [hpc]; exact nofun))
  | shardEnd hpc hburst => exact .inl (hnone (by rw [hpc]; exact nofun))
  | flushPath i sent hpc hi hsent =>
      rw [flushPacketBurst_eq hsent]
      exact .inl (hnone (by rw [hpc]; exact nofun))
  | flushEnd hpc => exact .inl (hnone (by rw [hpc]; exact nofun))
  | clearReturns hpc => exact .inr rfl
  | handlePacket w handled pkt left result hpc =>
      rw [Pipeline.handlePacket, retarget_eq]
      exact hinv.hdiscarded
  | _ => exact hinv.hdiscarded

theorem PipelineInvariant.workers_step (hstep : PipelineStep config s next)
    (v : Fin workers) : WorkerCounted (next.worker v) := by
  have hupdate : ∀ w worker, WorkerCounted worker →
      WorkerCounted (Function.update s.worker w worker v) := by
    intro w worker hcounted
    rcases eq_or_ne v w with rfl | hne
    · rw [Function.update_self]
      exact hcounted
    · rw [Function.update_of_ne hne]
      exact hinv.hworkers v
  cases hstep with
  | shardPacket pkt rest queued hpc hburst =>
      have heffect := hinv.shardEffect hburst queued
      generalize s.shardPacket config pkt rest queued = after at heffect ⊢
      cases heffect <;> exact hinv.hworkers v
  | flushFull f sent hpc hsent =>
      rw [flushPacketBurst_eq hsent]
      exact hinv.hworkers v
  | flushPath i sent hpc hi hsent =>
      rw [flushPacketBurst_eq hsent]
      exact hinv.hworkers v
  | getPkt w old burst rest hpc hpending hburst =>
      exact hupdate w _ ((hinv.hworkers w).take hpc burst)
  | workerStop w burst hpc =>
      exact hupdate w _ ((hinv.hworkers w).withPc (by rw [hpc]; rfl))
  | classificationFails w burst hpc =>
      exact hupdate w _ ((hinv.hworkers w).classificationFails hpc)
  | classified w burst hpc =>
      exact hupdate w _ ((hinv.hworkers w).withPc (by rw [hpc]; rfl))
  | handlePacket w handled pkt left result hpc =>
      rw [Pipeline.handlePacket, retarget_eq]
      exact hupdate w _ ((hinv.hworkers w).handlePacket hpc result)
  | burstHandled w handled hpc =>
      exact hupdate w _ ((hinv.hworkers w).withPc (by rw [hpc]; rfl))
  | _ => exact hinv.hworkers v

theorem PipelineInvariant.step (hstep : PipelineStep config s next) :
    PipelineInvariant config next := by
  have hhistory := hinv.history hstep
  have hchange := hinv.txChange hstep
  constructor
  case hplaces =>
    intro mbuf
    have hmoved := hinv.places_step hstep mbuf
    rw [hinv.hplaces mbuf] at hmoved
    omega
  case hnodup => exact hhistory.nodup hinv.hnodup
  case htargets => exact fun mbuf => hhistory.targets hinv.htargets
  case hburst => exact hinv.burst_step hstep
  case htxPath =>
    intro f mbuf hmem
    obtain ⟨hreceived, hpath⟩ := hinv.txPath_step hchange hmem
    obtain ⟨hstill, hsame⟩ := hhistory.keeps hreceived
    exact ⟨hstill, hsame.trans hpath⟩
  case hfull => exact fun f => hinv.full_step hchange
  case hlength => exact hinv.length_step hchange
  case hflushed => exact hinv.flushed_step hchange
  case hsent =>
    intro sent hmem
    exact (hinv.sent_step hchange hmem).keep hhistory
  case hdiscarded => exact hinv.discarded_step hstep
  case hworkers => exact hinv.workers_step hstep

end Step

/-! ## Whole runs -/

theorem pipelineInvariant_of_reachable {s : Pipeline workers}
    (hreach : PipelineReachable config s) : PipelineInvariant config s := by
  unfold PipelineReachable at hreach
  induction hreach with
  | refl => exact pipelineInvariant_start
  | tail hbefore hstep hinv => exact hinv.step hstep

/-- Every received mbuf is in one place, sent, given to KNI or freed once;
nothing is thrown away while the core runs, and between two passes of its loop
the core itself holds nothing. -/
theorem mbuf_conservation {s : Pipeline workers}
    (hreach : PipelineReachable config s) :
    (∀ mbuf ∈ s.received, inside config s mbuf + inTransmitted s mbuf +
      s.kni.count mbuf + s.freed.count mbuf + s.discarded.count mbuf = 1) ∧
    (s.pc ≠ .stopped → s.discarded = []) ∧
    (s.pc = .top → s.pktsBurst = [] ∧ ∀ f, s.perPathTxBursts f = []) ∧
    (∀ sent ∈ s.transmitted, sent.mbuf ∈ s.received ∧
      sent.portId = (config.flowPath (s.rxPath sent.mbuf)).txPortId ∧
      sent.queueId = (config.flowPath (s.rxPath sent.mbuf)).txQueueId) ∧
    (∀ f, (s.perPathTxBursts f).length ≤ pktBurstSz) ∧
    ∀ w, (s.worker w).processed =
        (s.worker w).metrics.directorPacketCount +
          (s.worker w).metrics.classificationFailures +
            (s.worker w).metrics.kniPacketCount ∧
      (s.worker w).metrics.directorPacketCount =
        (s.worker w).metrics.encapSuccesses +
          (s.worker w).metrics.encapFailures := by
  have hinv := pipelineInvariant_of_reachable hreach
  constructor
  · intro mbuf hmem
    have hplaces := hinv.hplaces mbuf
    rw [List.count_eq_one_of_mem hinv.hnodup hmem] at hplaces
    exact hplaces
  constructor
  · exact hinv.hdiscarded.resolve_right
  constructor
  · intro hpc
    constructor
    · exact hinv.burst_nil (by rw [hpc]; exact id)
    · exact fun f => hinv.hflushed f (by rw [hpc]; trivial)
  constructor
  · intro sent hmem
    obtain ⟨hreceived, hport, hqueue⟩ := hinv.hsent sent hmem
    exact ⟨hreceived, hport, hqueue⟩
  constructor
  · exact fun f => (hinv.hlength f).1
  · exact fun w =>
      ⟨(hinv.hworkers w).processed_eq, (hinv.hworkers w).hdirector⟩

def oneFlowPath : LcoreConfig where
  flowPaths := [⟨0, 0, 1, 2⟩]
  performKni := false
  flowPaths_length := by decide

/-- Two packets go through a worker, and `rte_eth_tx_burst` sends the first
of them. -/
theorem partialTransmit_reachable :
    ∃ s : Pipeline 1, PipelineReachable oneFlowPath s ∧ s.pc = .top ∧
      s.received = [7, 8] ∧ s.transmitted = [⟨7, 1, 2⟩] ∧ s.freed = [8] := by
  have hstart : PipelineReachable oneFlowPath (start : Pipeline 1) := .refl
  have hentered := hstart.tail (.enterLoop _ rfl)
  have hreceived := hentered.tail (.rxBurst _ 0 [7, 8] rfl (by decide)
    (by decide) (by decide) fun _ _ => List.not_mem_nil)
  have hpending := hreceived.tail (.distributorProcess _ rfl)
  have htaken := hpending.tail
    (.getPkt _ 0 [] [7, 8] [] rfl (.refl _) (by decide))
  have hclassified := htaken.tail (.classified _ 0 [7, 8] rfl)
  have hfirst := hclassified.tail
    (.handlePacket _ 0 [] 7 [8] .encapSucceeds rfl)
  have hsecond := hfirst.tail
    (.handlePacket _ 0 [7] 8 [] .encapSucceeds rfl)
  have hhandled := hsecond.tail (.burstHandled _ 0 [7, 8] rfl)
  have hback := hhandled.tail
    (.getPkt _ 0 [7, 8] [] [] rfl (.refl _) (by decide))
  have hcollected := hback.tail
    (.returnedPkts _ [7, 8] [] rfl (.refl _) (by decide))
  have hqueued := (hcollected.tail
    (.shardPacket _ 7 [8] false rfl rfl)).tail
      (.shardPacket _ 8 [] false rfl rfl)
  have hflushing := hqueued.tail (.shardEnd _ rfl rfl)
  have hflushed := hflushing.tail (.flushPath _ 0 1 rfl (by decide) (by decide))
  have hdone := hflushed.tail (.flushEnd _ rfl)
  exact ⟨_, hdone, rfl, rfl, rfl, rfl⟩

theorem mbuf_conservation_partialTransmit :
    ∃ s : Pipeline 1, PipelineReachable oneFlowPath s ∧
      s.received = [7, 8] ∧ s.transmitted = [⟨7, 1, 2⟩] ∧ s.freed = [8] ∧
      ∀ mbuf ∈ s.received, inside oneFlowPath s mbuf + inTransmitted s mbuf +
        s.kni.count mbuf + s.freed.count mbuf + s.discarded.count mbuf = 1 := by
  obtain ⟨s, hreach, hpc, hreceived, htransmitted, hfreed⟩ :=
    partialTransmit_reachable
  exact ⟨s, hreach, hreceived, htransmitted, hfreed,
    (mbuf_conservation hreach).1⟩

end GlbDirector
