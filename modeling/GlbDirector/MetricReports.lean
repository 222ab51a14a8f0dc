import Mathlib.Logic.Relation
import Mathlib.Tactic

/-!
# Reporting the metrics (`glb_control_loop.c`)

The lcores add to their counters while the control loop reports them: it reads
a counter, subtracts what it has read and sends that value, in two atomic
operations.  What is added in between stays in the counter.  The reload count
of the master is not added to but overwritten with the running total of the
signal handler, so what had been reported before is counted again.
-/

namespace GlbDirector

/-! ## Counters -/

/-- The fields of `processor_metrics`. -/
inductive Metric where
  | totalPacketCount
  | directorPacketCount
  | classificationFailures
  | ethRxErrors
  | kniPacketCount
  | encapSuccesses
  | encapFailures
  | ethTxPacketsSent
  | kniTxPacketsSent
  | reloadCount
  deriving DecidableEq

/-- The order of `send_logs_metrics`. -/
def Metric.all : List Metric :=
  [totalPacketCount, directorPacketCount, classificationFailures, ethRxErrors,
    kniPacketCount, encapSuccesses, encapFailures, ethTxPacketsSent,
    kniTxPacketsSent, reloadCount]

variable {n : ℕ}

/-- The counters that `RTE_LCORE_FOREACH` goes through. -/
def reportOrder (n : ℕ) : List (Fin n × Metric) :=
  (List.finRange n).flatMap fun core => Metric.all.map fun metric =>
    (core, metric)

/-- Where `main_loop_control` stands. -/
inductive MetricsPc (n : ℕ) where
  | waiting
  /-- `reload_requested` is reset, the reload count not yet stored -/
  | loading
  | reporting (left : List (Fin n × Metric))
  /-- between `rte_atomic64_read` and `rte_atomic64_sub` -/
  | subtracting (slot : Fin n × Metric) (value : UInt64)
      (left : List (Fin n × Metric))

/-- The counters, the variables of the control loop and of the signal handler,
and after them what has happened: the events that each counter counts, the sum
of its reports, and what had been reported of the master's reload count when it
was last stored. -/
structure MetricsState (n : ℕ) where
  metrics : Fin n × Metric → UInt64
  reloadCount : ℕ
  /-- signal handlers between their two statements -/
  handlers : ℕ
  reloadRequested : Bool
  pc : MetricsPc n
  events : Fin n × Metric → ℕ
  reported : Fin n × Metric → ℕ
  reportedBefore : ℕ

def MetricsState.start : MetricsState n where
  metrics _ := 0
  reloadCount := 0
  handlers := 0
  reloadRequested := false
  pc := .waiting
  events _ := 0
  reported _ := 0
  reportedBefore := 0

/-- The counter that is stored and not added to. -/
def masterReloads (master : Fin n) : Fin n × Metric := (master, .reloadCount)

namespace MetricsState

/-- `rte_atomic64_add` of an lcore. -/
def count (slot : Fin n × Metric) (amount : ℕ) (s : MetricsState n) :
    MetricsState n :=
  { s with
    metrics := Function.update s.metrics slot
      (s.metrics slot + UInt64.ofNat amount)
    events := Function.update s.events slot (s.events slot + amount) }

/-- `rte_atomic64_set` of the reload count of the master. -/
def storeReloads (master : Fin n) (s : MetricsState n) : MetricsState n :=
  { s with
    metrics := Function.update s.metrics (masterReloads master)
      (UInt64.ofNat s.reloadCount)
    pc := .waiting
    events := Function.update s.events (masterReloads master) s.reloadCount
    reportedBefore := s.reported (masterReloads master) }

/-- `rte_atomic64_sub`, and `statsd_count` of the value. -/
def report (slot : Fin n × Metric) (value : UInt64)
    (left : List (Fin n × Metric)) (s : MetricsState n) : MetricsState n :=
  { s with
    metrics := Function.update s.metrics slot (s.metrics slot - value)
    pc := .reporting left
    reported := Function.update s.reported slot
      (s.reported slot + value.toNat) }

end MetricsState

/-! ## Steps -/

inductive MetricsStep (master : Fin n) :
    MetricsState n → MetricsState n → Prop where
  | count (s : MetricsState n) (slot : Fin n × Metric) (amount : ℕ)
      (hslot : slot ≠ masterReloads master) :
      MetricsStep master s (s.count slot amount)
  /-- `reload_count` is an `int` -/
  | handlerCounts (s : MetricsState n) (hint : s.reloadCount + 1 < 2 ^ 31) :
      MetricsStep master s { s with
        reloadCount := s.reloadCount + 1
        handlers := s.handlers + 1 }
  | handlerRequests (s : MetricsState n) (hhandler : 0 < s.handlers) :
      MetricsStep master s { s with
        handlers := s.handlers - 1
        reloadRequested := true }
  | startReload (s : MetricsState n) (hpc : s.pc = .waiting)
      (hrequested : s.reloadRequested = true) :
      MetricsStep master s { s with
        reloadRequested := false
        pc := .loading }
  | storeReloads (s : MetricsState n) (hpc : s.pc = .loading) :
      MetricsStep master s (s.storeReloads master)
  | startReport (s : MetricsState n) (hpc : s.pc = .waiting) :
      MetricsStep master s { s with pc := .reporting (reportOrder n) }
  | readMetric (s : MetricsState n) (slot : Fin n × Metric)
      (left : List (Fin n × Metric)) (hpc : s.pc = .reporting (slot :: left)) :
      MetricsStep master s { s with
        pc := .subtracting slot (s.metrics slot) left }
  | subMetric (s : MetricsState n) (slot : Fin n × Metric) (value : UInt64)
      (left : List (Fin n × Metric))
      (hpc : s.pc = .subtracting slot value left) :
      MetricsStep master s (s.report slot value left)
  | endReport (s : MetricsState n) (hpc : s.pc = .reporting []) :
      MetricsStep master s { s with pc := .waiting }

def MetricsReachable (master : Fin n) (s : MetricsState n) : Prop :=
  Relation.ReflTransGen (MetricsStep master) MetricsState.start s

/-! ## The invariant -/

/-- What was reported of a counter and what it holds, against its events: the
sum never exceeds them, and it is right up to overflows of the counter. -/
structure MetricsState.Counts (s : MetricsState n) (slot : Fin n × Metric) :
    Prop where
  hle : s.reported slot + (s.metrics slot).toNat ≤ s.events slot
  hmod : s.reported slot + (s.metrics slot).toNat ≡ s.events slot [MOD 2 ^ 64]

/-- Between the two operations on a counter: `since` has been added after the
value was read. -/
structure MetricsState.CountsSince (s : MetricsState n)
    (slot : Fin n × Metric) (value : UInt64) (since : ℕ) : Prop where
  hmetric : s.metrics slot = value + UInt64.ofNat since
  hle : s.reported slot + value.toNat + since ≤ s.events slot
  hmod : s.reported slot + value.toNat + since ≡ s.events slot [MOD 2 ^ 64]

structure MetricsState.Accountable (master : Fin n) (s : MetricsState n) :
    Prop where
  hcounts : ∀ slot ≠ masterReloads master, s.Counts slot
  hread : ∀ slot value left, s.pc = .subtracting slot value left →
    slot ≠ masterReloads master → ∃ since, s.CountsSince slot value since
  hmaster : s.reported (masterReloads master) +
      (s.metrics (masterReloads master)).toNat =
    s.reportedBefore + s.events (masterReloads master)
  hmasterRead : ∀ value left,
    s.pc = .subtracting (masterReloads master) value left →
      s.metrics (masterReloads master) = value
  hint : s.reloadCount < 2 ^ 31

theorem MetricsState.accountable_start (master : Fin n) :
    (MetricsState.start : MetricsState n).Accountable master where
  hcounts := fun slot _ => ⟨le_rfl, rfl⟩
  hread := fun slot value left hpc => by cases hpc
  hmaster := rfl
  hmasterRead := fun value left hpc => by cases hpc
  hint := show 0 < 2 ^ 31 by decide

/-! ## One step -/

theorem toNat_add_ofNat_modEq (x : UInt64) (amount : ℕ) :
    (x + UInt64.ofNat amount).toNat ≡ x.toNat + amount [MOD 2 ^ 64] := by
  rw [UInt64.toNat_add, UInt64.toNat_ofNat']
  exact (Nat.mod_modEq _ _).trans ((Nat.ModEq.refl _).add (Nat.mod_modEq _ _))

theorem toNat_add_ofNat_le (x : UInt64) (amount : ℕ) :
    (x + UInt64.ofNat amount).toNat ≤ x.toNat + amount := by
  rw [UInt64.toNat_add, UInt64.toNat_ofNat']
  exact (Nat.mod_le _ _).trans
    (Nat.add_le_add_left (Nat.mod_le _ _) _)

section Count

variable {s : MetricsState n} {slot : Fin n × Metric} (amount : ℕ)

theorem MetricsState.Counts.count_self (hcounts : s.Counts slot) :
    (s.count slot amount).Counts slot := by
  obtain ⟨hle, hmod⟩ := hcounts
  have hsum := toNat_add_ofNat_le (s.metrics slot) amount
  constructor
  · simp only [MetricsState.count, Function.update_self]
    omega
  · simp only [MetricsState.count, Function.update_self]
    have hwrapped := (toNat_add_ofNat_modEq (s.metrics slot) amount).add_left
      (s.reported slot)
    rw [← Nat.add_assoc] at hwrapped
    exact hwrapped.trans (hmod.add_right amount)

theorem MetricsState.Counts.count_of_ne {other : Fin n × Metric}
    (hcounts : s.Counts slot) (hne : slot ≠ other) :
    (s.count other amount).Counts slot := by
  obtain ⟨hle, hmod⟩ := hcounts
  constructor
  · simpa only [MetricsState.count, Function.update_of_ne hne] using hle
  · simpa only [MetricsState.count, Function.update_of_ne hne] using hmod

theorem MetricsState.CountsSince.count_self {value : UInt64} {since : ℕ}
    (hcounts : s.CountsSince slot value since) :
    (s.count slot amount).CountsSince slot value (since + amount) := by
  obtain ⟨hmetric, hle, hmod⟩ := hcounts
  constructor
  · simp only [MetricsState.count, Function.update_self, hmetric,
      UInt64.ofNat_add, UInt64.add_assoc]
  · simp only [MetricsState.count, Function.update_self]
    omega
  · simp only [MetricsState.count, Function.update_self]
    rw [← Nat.add_assoc]
    exact hmod.add_right amount

theorem MetricsState.CountsSince.count_of_ne {other : Fin n × Metric}
    {value : UInt64} {since : ℕ} (hcounts : s.CountsSince slot value since)
    (hne : slot ≠ other) :
    (s.count other amount).CountsSince slot value since := by
  obtain ⟨hmetric, hle, hmod⟩ := hcounts
  constructor
  · simpa only [MetricsState.count, Function.update_of_ne hne] using hmetric
  · simpa only [MetricsState.count, Function.update_of_ne hne] using hle
  · simpa only [MetricsState.count, Function.update_of_ne hne] using hmod

end Count

/-- A report moves the value that was read and leaves what came since. -/
theorem MetricsState.CountsSince.report {s : MetricsState n}
    {slot : Fin n × Metric} {value : UInt64} {since : ℕ}
    (hcounts : s.CountsSince slot value since)
    (left : List (Fin n × Metric)) :
    (s.report slot value left).Counts slot := by
  obtain ⟨hmetric, hle, hmod⟩ := hcounts
  have hleft : (s.metrics slot - value).toNat = since % 2 ^ 64 := by
    rw [hmetric, UInt64.add_comm, UInt64.add_sub_cancel, UInt64.toNat_ofNat']
  have hsmall := Nat.mod_le since (2 ^ 64)
  constructor
  · simp only [MetricsState.report, Function.update_self, hleft]
    omega
  · simp only [MetricsState.report, Function.update_self, hleft]
    exact ((Nat.mod_modEq since _).add_left _).trans hmod

theorem MetricsState.Counts.report_of_ne {s : MetricsState n}
    {slot other : Fin n × Metric} (hcounts : s.Counts slot)
    (hne : slot ≠ other) (value : UInt64) (left : List (Fin n × Metric)) :
    (s.report other value left).Counts slot := by
  obtain ⟨hle, hmod⟩ := hcounts
  constructor
  · simpa only [MetricsState.report, Function.update_of_ne hne] using hle
  · simpa only [MetricsState.report, Function.update_of_ne hne] using hmod

section Step

variable {master : Fin n} {s : MetricsState n}
  (hinv : s.Accountable master)

include hinv

theorem MetricsState.Accountable.count {slot : Fin n × Metric}
    (hslot : slot ≠ masterReloads master) (amount : ℕ) :
    (s.count slot amount).Accountable master where
  hcounts := by
    intro other hother
    rcases eq_or_ne other slot with rfl | hne
    · exact (hinv.hcounts other hother).count_self amount
    · exact (hinv.hcounts other hother).count_of_ne amount hne
  hread := by
    intro other value left hpc hother
    obtain ⟨since, hsince⟩ := hinv.hread other value left hpc hother
    rcases eq_or_ne other slot with rfl | hne
    · exact ⟨_, hsince.count_self amount⟩
    · exact ⟨since, hsince.count_of_ne amount hne⟩
  hmaster := by
    simpa only [MetricsState.count, Function.update_of_ne hslot.symm]
      using hinv.hmaster
  hmasterRead := by
    simpa only [MetricsState.count, Function.update_of_ne hslot.symm]
      using hinv.hmasterRead
  hint := hinv.hint

theorem MetricsState.Accountable.storeReloads :
    (s.storeReloads master).Accountable master where
  hcounts := by
    intro slot hslot
    obtain ⟨hle, hmod⟩ := hinv.hcounts slot hslot
    constructor
    · simpa only [MetricsState.storeReloads, Function.update_of_ne hslot]
        using hle
    · simpa only [MetricsState.storeReloads, Function.update_of_ne hslot]
        using hmod
  hread := fun slot value left hpc => by cases hpc
  hmaster := by
    have hlt : s.reloadCount < 2 ^ 64 := hinv.hint.trans (by decide)
    simp only [MetricsState.storeReloads, Function.update_self]
    rw [UInt64.toNat_ofNat_of_lt' hlt]
  hmasterRead := fun value left hpc => by cases hpc
  hint := hinv.hint

theorem MetricsState.Accountable.report {slot : Fin n × Metric}
    {value : UInt64} {left : List (Fin n × Metric)}
    (hpc : s.pc = .subtracting slot value left) :
    (s.report slot value left).Accountable master where
  hcounts := by
    intro other hother
    rcases eq_or_ne other slot with rfl | hne
    · obtain ⟨since, hsince⟩ := hinv.hread other value left hpc hother
      exact hsince.report left
    · exact (hinv.hcounts other hother).report_of_ne hne value left
  hread := fun other value' left' hpc' => by cases hpc'
  hmaster := by
    have hbefore := hinv.hmaster
    rcases eq_or_ne slot (masterReloads master) with rfl | hne
    · have hvalue := hinv.hmasterRead value left hpc
      simp only [MetricsState.report, Function.update_self]
      rw [hvalue] at hbefore ⊢
      rw [UInt64.sub_self, UInt64.toNat_zero]
      omega
    · simpa only [MetricsState.report, Function.update_of_ne hne.symm]
        using hbefore
  hmasterRead := fun value' left' hpc' => by cases hpc'
  hint := hinv.hint

theorem MetricsState.Accountable.readMetric {slot : Fin n × Metric}
    {left : List (Fin n × Metric)} :
    { s with pc := .subtracting slot (s.metrics slot) left }.Accountable
      master where
  hcounts := fun other hother =>
    ⟨(hinv.hcounts other hother).hle, (hinv.hcounts other hother).hmod⟩
  hread := by
    rintro _ _ _ ⟨rfl⟩ hother
    obtain ⟨hle, hmod⟩ := hinv.hcounts slot hother
    exact ⟨0, (UInt64.add_zero _).symm, hle, hmod⟩
  hmaster := hinv.hmaster
  hmasterRead := by
    rintro _ _ ⟨rfl⟩
    rfl
  hint := hinv.hint

/-- A step that changes neither counters nor history, and reads nothing. -/
theorem MetricsState.Accountable.frame {next : MetricsState n}
    (hmetrics : next.metrics = s.metrics) (hevents : next.events = s.events)
    (hreported : next.reported = s.reported)
    (hbefore : next.reportedBefore = s.reportedBefore)
    (hpc : next.pc = s.pc ∨
      ∀ slot value left, next.pc ≠ .subtracting slot value left)
    (hint : next.reloadCount < 2 ^ 31) : next.Accountable master where
  hcounts := by
    intro slot hslot
    obtain ⟨hle, hmod⟩ := hinv.hcounts slot hslot
    constructor
    · rw [hmetrics, hevents, hreported]
      exact hle
    · rw [hmetrics, hevents, hreported]
      exact hmod
  hread := by
    intro slot value left hnext hslot
    rcases hpc with hpc | hpc
    · rw [hpc] at hnext
      obtain ⟨since, hmetric, hle, hmod⟩ :=
        hinv.hread slot value left hnext hslot
      refine ⟨since, ?_, ?_, ?_⟩
      · rw [hmetrics]
        exact hmetric
      · rw [hevents, hreported]
        exact hle
      · rw [hevents, hreported]
        exact hmod
    · exact absurd hnext (hpc slot value left)
  hmaster := by
    rw [hmetrics, hevents, hreported, hbefore]
    exact hinv.hmaster
  hmasterRead := by
    intro value left hnext
    rcases hpc with hpc | hpc
    · rw [hpc] at hnext
      rw [hmetrics]
      exact hinv.hmasterRead value left hnext
    · exact absurd hnext (hpc _ value left)
  hint := hint

theorem MetricsState.Accountable.step {next : MetricsState n}
    (hstep : MetricsStep master s next) : next.Accountable master := by
  cases hstep with
  | count slot amount hslot => exact hinv.count hslot amount
  | handlerCounts hint =>
      exact hinv.frame rfl rfl rfl rfl (.inl rfl) hint
  | handlerRequests hhandler =>
      exact hinv.frame rfl rfl rfl rfl (.inl rfl) hinv.hint
  | startReload hpc hrequested =>
      exact hinv.frame rfl rfl rfl rfl (.inr nofun) hinv.hint
  | storeReloads hpc => exact hinv.storeReloads
  | startReport hpc =>
      exact hinv.frame rfl rfl rfl rfl (.inr nofun) hinv.hint
  | readMetric slot left hpc => exact hinv.readMetric
  | subMetric slot value left hpc => exact hinv.report hpc
  | endReport hpc =>
      exact hinv.frame rfl rfl rfl rfl (.inr nofun) hinv.hint

end Step

/-! ## Whole runs -/

theorem accountable_of_reachable {master : Fin n} {s : MetricsState n}
    (hreach : MetricsReachable master s) : s.Accountable master := by
  unfold MetricsReachable at hreach
  induction hreach with
  | refl => exact MetricsState.accountable_start master
  | tail _ hstep ih => exact ih.step hstep

/-- The values reported of a counter and what it holds add up to its events. -/
def MetricsState.Exact (s : MetricsState n) (slot : Fin n × Metric) : Prop :=
  s.reported slot + (s.metrics slot).toNat = s.events slot

theorem metric_reports_iff
    {master : Fin n}
    {s : MetricsState n}
    (hreach : MetricsReachable master s) :
    (∀ slot ≠ masterReloads master,
      s.reported slot + (s.metrics slot).toNat ≡ s.events slot
          [MOD 2 ^ 64] ∧
        (s.events slot < 2 ^ 64 → s.Exact slot)) ∧
    (s.Exact (masterReloads master) ↔ s.reportedBefore = 0) := by
  have hinv := accountable_of_reachable hreach
  constructor
  · intro slot hslot
    obtain ⟨hle, hmod⟩ := hinv.hcounts slot hslot
    refine ⟨hmod, fun hfits => ?_⟩
    exact hmod.eq_of_lt_of_lt (hle.trans_lt hfits) hfits
  · have hmaster := hinv.hmaster
    unfold MetricsState.Exact
    omega

/-- Three packets are counted on the only lcore, and two more while the three
are being reported. -/
theorem metric_reports_counted :
    ∃ s : MetricsState 1, MetricsReachable 0 s ∧
      s.events (0, .totalPacketCount) = 5 ∧
      s.reported (0, .totalPacketCount) = 3 ∧
      s.Exact (0, .totalPacketCount) := by
  have hslot : (((0 : Fin 1), .totalPacketCount) : Fin 1 × Metric) ≠
      masterReloads 0 := by decide
  have hstart : MetricsReachable 0 (MetricsState.start : MetricsState 1) := .refl
  have hcounted := hstart.tail (.count _ (0, .totalPacketCount) 3 hslot)
  have hstarted := hcounted.tail (.startReport _ rfl)
  have hread := hstarted.tail (.readMetric _ (0, .totalPacketCount) _ rfl)
  have hbetween := hread.tail (.count _ (0, .totalPacketCount) 2 hslot)
  have hreported := hbetween.tail (.subMetric _ _ _ _ rfl)
  exact ⟨_, hreported, rfl, rfl,
    ((metric_reports_iff hreported).1 _ hslot).2 (by decide)⟩

/-! ## Two reloads -/

/-- One report of the counters in `left`, with nothing in between. -/
def MetricsState.reportAll :
    List (Fin n × Metric) → MetricsState n → MetricsState n
  | [], s => { s with pc := .waiting }
  | slot :: left, s => reportAll left (s.report slot (s.metrics slot) left)

theorem reportAll_steps (master : Fin n) (left : List (Fin n × Metric))
    {s : MetricsState n} (hpc : s.pc = .reporting left) :
    Relation.ReflTransGen (MetricsStep master) s (s.reportAll left) := by
  induction left generalizing s with
  | nil => exact .single (.endReport s hpc)
  | cons slot left ih =>
      have hread : Relation.ReflTransGen (MetricsStep master) s _ :=
        .single (.readMetric s slot left hpc)
      have hreported := hread.tail (.subMetric _ slot (s.metrics slot) left rfl)
      exact hreported.trans (ih rfl)

/-- A reload request and its reload. -/
def MetricsState.reloaded (master : Fin n) (s : MetricsState n) :
    MetricsState n :=
  { s with
    reloadCount := s.reloadCount + 1
    reloadRequested := false }.storeReloads master

theorem reloaded_steps (master : Fin n) {s : MetricsState n}
    (hpc : s.pc = .waiting) (hint : s.reloadCount + 1 < 2 ^ 31) :
    Relation.ReflTransGen (MetricsStep master) s (s.reloaded master) := by
  have hcounted : Relation.ReflTransGen (MetricsStep master) s _ :=
    .single (.handlerCounts s hint)
  have hrequested := hcounted.tail (.handlerRequests _ (Nat.succ_pos _))
  have hstarted := hrequested.tail (.startReload _ hpc rfl)
  exact hstarted.tail (.storeReloads _ rfl)

/-- Two reload requests with a report in between are reported as three. -/
theorem second_reload_repeats :
    ∃ s : MetricsState 1, MetricsReachable 0 s ∧ s.reloadCount = 2 ∧
      s.events (masterReloads 0) = 2 ∧ s.reported (masterReloads 0) = 1 ∧
      s.metrics (masterReloads 0) = 2 ∧ ¬ s.Exact (masterReloads 0) := by
  let first : MetricsState 1 := MetricsState.start.reloaded 0
  let reporting : MetricsState 1 := { first with pc := .reporting (reportOrder 1) }
  have hfirst : MetricsReachable 0 first := reloaded_steps 0 rfl (by decide)
  have hreporting : MetricsReachable 0 reporting :=
    hfirst.tail (.startReport _ rfl)
  have hreported : MetricsReachable 0 (reporting.reportAll (reportOrder 1)) :=
    hreporting.trans (reportAll_steps 0 _ rfl)
  have hsecond : MetricsReachable 0
      ((reporting.reportAll (reportOrder 1)).reloaded 0) :=
    hreported.trans (reloaded_steps 0 rfl (by decide))
  refine ⟨_, hsecond, rfl, rfl, rfl, rfl, ?_⟩
  show ¬ (1 + 2 = 2)
  decide

end GlbDirector
