import GlbDirector.XdpAccounting

/-!
# The statistics of the XDP director (`main.go`)

Every ten seconds the director reads the counters of all CPUs and sends statsd
how much they grew since the last read.  The CPUs keep handling packets while
their counters are read one after another, and a read may fail.  A read may see
some of the counters that a packet raises and not yet the others; still every
raise of a counter is in exactly one report, the first after it was read.
-/

namespace GlbDirector

open ByteCodec

/-! ## Counters -/

def GlbGlobalStats.get (stats : GlbGlobalStats) : GlbCounter → UInt64
  | .processed => stats.processed
  | .encapsulated => stats.encapsulated
  | .encapsulatedBytes => stats.encapsulatedBytes
  | .unknownFormat => stats.unknownFormat
  | .noMatchingBind => stats.noMatchingBind
  | .matched => stats.matched
  | .errorTable => stats.errorTable
  | .errorSecret => stats.errorSecret
  | .errorHashConfig => stats.errorHashConfig
  | .errorMissingRow => stats.errorMissingRow
  | .errorCreatingSpace => stats.errorCreatingSpace
  | .errorMissingGatewayMac => stats.errorMissingGatewayMac
  | .errorMissingSourceAddress => stats.errorMissingSourceAddress

def GlbGlobalStats.ofCounters (value : GlbCounter → UInt64) :
    GlbGlobalStats where
  processed := value .processed
  unknownFormat := value .unknownFormat
  noMatchingBind := value .noMatchingBind
  matched := value .matched
  encapsulated := value .encapsulated
  encapsulatedBytes := value .encapsulatedBytes
  errorTable := value .errorTable
  errorSecret := value .errorSecret
  errorHashConfig := value .errorHashConfig
  errorMissingRow := value .errorMissingRow
  errorCreatingSpace := value .errorCreatingSpace
  errorMissingGatewayMac := value .errorMissingGatewayMac
  errorMissingSourceAddress := value .errorMissingSourceAddress

theorem GlbGlobalStats.get_ofCounters (value : GlbCounter → UInt64)
    (counter : GlbCounter) : (ofCounters value).get counter = value counter := by
  cases counter <;> rfl

/-- The body of the loop of `diffAndSumGlobalStats`. -/
def GlbGlobalStats.addDiff (sum curr last : GlbGlobalStats) :
    GlbGlobalStats where
  processed := sum.processed + (curr.processed - last.processed)
  encapsulated := sum.encapsulated + (curr.encapsulated - last.encapsulated)
  encapsulatedBytes := sum.encapsulatedBytes +
    (curr.encapsulatedBytes - last.encapsulatedBytes)
  unknownFormat := sum.unknownFormat +
    (curr.unknownFormat - last.unknownFormat)
  noMatchingBind := sum.noMatchingBind +
    (curr.noMatchingBind - last.noMatchingBind)
  matched := sum.matched + (curr.matched - last.matched)
  errorTable := sum.errorTable + (curr.errorTable - last.errorTable)
  errorSecret := sum.errorSecret + (curr.errorSecret - last.errorSecret)
  errorHashConfig := sum.errorHashConfig +
    (curr.errorHashConfig - last.errorHashConfig)
  errorMissingRow := sum.errorMissingRow +
    (curr.errorMissingRow - last.errorMissingRow)
  errorCreatingSpace := sum.errorCreatingSpace +
    (curr.errorCreatingSpace - last.errorCreatingSpace)
  errorMissingGatewayMac := sum.errorMissingGatewayMac +
    (curr.errorMissingGatewayMac - last.errorMissingGatewayMac)
  errorMissingSourceAddress := sum.errorMissingSourceAddress +
    (curr.errorMissingSourceAddress - last.errorMissingSourceAddress)

/-- The loop from `cpuIndex` on; `none` is an index out of range. -/
def diffAndSumFrom (curr : List GlbGlobalStats) (cpuIndex : ℕ)
    (sum : GlbGlobalStats) : List GlbGlobalStats → Option GlbGlobalStats
  | [] => some sum
  | value :: rest =>
      match curr[cpuIndex]? with
      | none => none
      | some now =>
          diffAndSumFrom curr (cpuIndex + 1) (sum.addDiff now value) rest

def diffAndSumGlobalStats (last curr : List GlbGlobalStats) :
    Option GlbGlobalStats :=
  diffAndSumFrom curr 0 {} last

/-! ## The collector -/

/-- A call of `StatsClient.Count`. -/
structure StatsdCount where
  name : String
  value : Int64
  tags : List String

/-- The counts that `runStatsCollection` sends for a sum. -/
def statsdCounts (sum : GlbGlobalStats) : List StatsdCount :=
  [⟨"packets.processed", sum.processed.toInt64, []⟩,
    ⟨"packets.encapsulated", sum.encapsulated.toInt64, []⟩,
    ⟨"packets.encapsulated_bytes", sum.encapsulatedBytes.toInt64, []⟩,
    ⟨"packets.results", sum.unknownFormat.toInt64, ["result:UnknownFormat"]⟩,
    ⟨"packets.results", sum.noMatchingBind.toInt64,
      ["result:NoMatchingBind"]⟩,
    ⟨"packets.results", sum.matched.toInt64, ["result:Matched"]⟩,
    ⟨"packets.internal_errors", sum.errorTable.toInt64,
      ["error:ErrorTable"]⟩,
    ⟨"packets.internal_errors", sum.errorSecret.toInt64,
      ["error:ErrorSecret"]⟩,
    ⟨"packets.internal_errors", sum.errorHashConfig.toInt64,
      ["error:ErrorHashConfig"]⟩,
    ⟨"packets.internal_errors", sum.errorMissingRow.toInt64,
      ["error:ErrorMissingRow"]⟩,
    ⟨"packets.internal_errors", sum.errorCreatingSpace.toInt64,
      ["error:ErrorCreatingSpace"]⟩,
    ⟨"packets.internal_errors", sum.errorMissingGatewayMac.toInt64,
      ["error:ErrorMissingGatewayMAC"]⟩,
    ⟨"packets.internal_errors", sum.errorMissingSourceAddress.toInt64,
      ["error:ErrorMissingSourceAddress"]⟩]

/-- The metric of a counter: the name and the tags. -/
def GlbCounter.metric : GlbCounter → String × List String
  | processed => ("packets.processed", [])
  | encapsulated => ("packets.encapsulated", [])
  | encapsulatedBytes => ("packets.encapsulated_bytes", [])
  | unknownFormat => ("packets.results", ["result:UnknownFormat"])
  | noMatchingBind => ("packets.results", ["result:NoMatchingBind"])
  | matched => ("packets.results", ["result:Matched"])
  | errorTable => ("packets.internal_errors", ["error:ErrorTable"])
  | errorSecret => ("packets.internal_errors", ["error:ErrorSecret"])
  | errorHashConfig => ("packets.internal_errors", ["error:ErrorHashConfig"])
  | errorMissingRow => ("packets.internal_errors", ["error:ErrorMissingRow"])
  | errorCreatingSpace =>
      ("packets.internal_errors", ["error:ErrorCreatingSpace"])
  | errorMissingGatewayMac =>
      ("packets.internal_errors", ["error:ErrorMissingGatewayMAC"])
  | errorMissingSourceAddress =>
      ("packets.internal_errors", ["error:ErrorMissingSourceAddress"])

/-- What statsd adds up for a metric. -/
def sentTotal (sent : List StatsdCount) (metric : String × List String) :
    Int64 :=
  ((sent.filter fun count => (count.name, count.tags) = metric).map
    StatsdCount.value).sum

/-- One round of the loop of `runStatsCollection`: the new `lastGlobalValues`
and the counts sent. -/
def statsTick (lastGlobalValues : List GlbGlobalStats) :
    Option (List GlbGlobalStats) →
      Option (List GlbGlobalStats × List StatsdCount)
  | none => some (lastGlobalValues, [])
  | some globalValues =>
      if lastGlobalValues.length > 0 then
        match diffAndSumGlobalStats lastGlobalValues globalValues with
        | none => none
        | some sum => some (globalValues, statsdCounts sum)
      else some (globalValues, [])

/-! ## The collector and the CPUs -/

/-- The value of a counter of a CPU that has raised its counters like this. -/
def countOf (raises : List CounterRaise) (counter : GlbCounter) : UInt64 :=
  (GlbGlobalStats.raiseAll {} raises).get counter

/-- The packets that a CPU has begun to handle, how it has raised its counters
for them, and how it has still to raise them for the last one. -/
structure StatsCpu where
  packets : List (XdpEnv × Bytes)
  raised : List CounterRaise
  coming : List CounterRaise

def StatsCpu.begin (cpu : StatsCpu) (env : XdpEnv) (packet : Bytes) :
    StatsCpu :=
  { cpu with
    packets := cpu.packets ++ [(env, packet)]
    coming := (countedProcess env packet).2 }

/-- The CPUs and the collector.  A running `Lookup` copies the counters of the
CPUs, each at a moment of its own; `looked` says that the first one, before the
loop, has returned. -/
structure StatsSystem (cpus : ℕ) where
  cpu : Fin cpus → StatsCpu
  copied : Fin cpus → GlbCounter → Option UInt64
  looked : Bool
  last : List GlbGlobalStats
  sent : List StatsdCount

section System

variable {cpus : ℕ}

def StatsSystem.start : StatsSystem cpus where
  cpu _ := ⟨[], [], []⟩
  copied _ _ := none
  looked := false
  last := []
  sent := []

def StatsSystem.withCpu (s : StatsSystem cpus) (i : Fin cpus)
    (cpu : StatsCpu) : StatsSystem cpus :=
  { s with cpu := Function.update s.cpu i cpu }

def StatsSystem.copy (s : StatsSystem cpus) (i : Fin cpus)
    (counter : GlbCounter) : StatsSystem cpus :=
  { s with
    copied := Function.update s.copied i (Function.update (s.copied i) counter
      (some (countOf (s.cpu i).raised counter))) }

/-- What the running `Lookup` may return. -/
inductive StatsSystem.Lookup (s : StatsSystem cpus) :
    Option (List GlbGlobalStats) → Prop where
  | found (values : Fin cpus → GlbCounter → UInt64)
      (hall : ∀ i counter, s.copied i counter = some (values i counter)) :
      Lookup s (some (List.ofFn fun i => .ofCounters (values i)))
  | failed : Lookup s none

inductive StatsStep : StatsSystem cpus → StatsSystem cpus → Prop where
  | packet (s : StatsSystem cpus) (i : Fin cpus) (env : XdpEnv)
      (packet : Bytes) (hidle : (s.cpu i).coming = []) :
      StatsStep s (s.withCpu i ((s.cpu i).begin env packet))
  | raise (s : StatsSystem cpus) (i : Fin cpus) (raise : CounterRaise)
      (rest : List CounterRaise) (hcoming : (s.cpu i).coming = raise :: rest) :
      StatsStep s (s.withCpu i { s.cpu i with
        raised := (s.cpu i).raised ++ [raise]
        coming := rest })
  | copy (s : StatsSystem cpus) (i : Fin cpus) (counter : GlbCounter)
      (hcopied : s.copied i counter = none) :
      StatsStep s (s.copy i counter)
  | first (s : StatsSystem cpus) (hlooked : s.looked = false)
      {result : Option (List GlbGlobalStats)} (hresult : s.Lookup result) :
      StatsStep s { s with
        copied := fun _ _ => none
        looked := true
        last := result.getD [] }
  | tick (s : StatsSystem cpus) (hlooked : s.looked = true)
      {result : Option (List GlbGlobalStats)} (hresult : s.Lookup result)
      {last : List GlbGlobalStats} {counts : List StatsdCount}
      (htick : statsTick s.last result = some (last, counts)) :
      StatsStep s { s with
        copied := fun _ _ => none
        last
        sent := s.sent ++ counts }

/-! ## What a CPU has raised -/

/-- The counters are raised as the packets say. -/
def StatsCpu.Sound (cpu : StatsCpu) : Prop :=
  cpu.raised ++ cpu.coming =
    cpu.packets.flatMap fun packet => (countedProcess packet.1 packet.2).2

theorem StatsCpu.Sound.begin {cpu : StatsCpu} (hsound : cpu.Sound)
    (hidle : cpu.coming = []) (env : XdpEnv) (packet : Bytes) :
    (cpu.begin env packet).Sound := by
  rw [StatsCpu.Sound, hidle, List.append_nil] at hsound
  simp only [StatsCpu.Sound, StatsCpu.begin, List.flatMap_append, hsound,
    List.flatMap_singleton]

theorem StatsCpu.Sound.raise {cpu : StatsCpu} (hsound : cpu.Sound)
    {raise : CounterRaise} {rest : List CounterRaise}
    (hcoming : cpu.coming = raise :: rest) :
    StatsCpu.Sound
      { cpu with raised := cpu.raised ++ [raise], coming := rest } := by
  rw [StatsCpu.Sound, hcoming] at hsound
  rw [StatsCpu.Sound, List.append_assoc]
  exact hsound

theorem StatsStep.sound {s s' : StatsSystem cpus} (hstep : StatsStep s s')
    (hsound : ∀ i, (s.cpu i).Sound) (i : Fin cpus) : (s'.cpu i).Sound := by
  cases hstep with
  | packet j env packet hidle =>
      show (Function.update s.cpu j _ i).Sound
      by_cases hi : i = j
      · subst hi
        rw [Function.update_self]
        exact (hsound i).begin hidle env packet
      · rw [Function.update_of_ne hi]
        exact hsound i
  | raise j raise rest hcoming =>
      show (Function.update s.cpu j _ i).Sound
      by_cases hi : i = j
      · subst hi
        rw [Function.update_self]
        exact (hsound i).raise hcoming
      · rw [Function.update_of_ne hi]
        exact hsound i
  | copy j counter hcopied => exact hsound i
  | first hlooked hresult => exact hsound i
  | tick hlooked hresult htick => exact hsound i

theorem run_sound {s : StatsSystem cpus}
    (hrun : Relation.ReflTransGen StatsStep StatsSystem.start s)
    (i : Fin cpus) : (s.cpu i).Sound := by
  induction hrun generalizing i with
  | refl => rfl
  | tail _ hstep ih => exact hstep.sound ih i

end System

/-! ## A raise adds to its counter -/

def CounterRaise.on (raise : CounterRaise) (counter : GlbCounter) : UInt64 :=
  if raise.counter = counter then raise.amount else 0

theorem GlbGlobalStats.raise_get (stats : GlbGlobalStats)
    (raise : CounterRaise) (counter : GlbCounter) :
    (stats.raise raise).get counter =
      stats.get counter + raise.on counter := by
  obtain ⟨raised, amount⟩ := raise
  cases raised <;> cases counter <;>
    first | rfl | exact (UInt64.add_zero _).symm

theorem raiseAll_get (stats : GlbGlobalStats) (raises : List CounterRaise)
    (counter : GlbCounter) :
    (stats.raiseAll raises).get counter =
      stats.get counter + (raises.map fun raise => raise.on counter).sum := by
  induction raises generalizing stats with
  | nil => exact (UInt64.add_zero _).symm
  | cons raise raises ih =>
      rw [List.map_cons, List.sum_cons, ← UInt64.add_assoc,
        ← stats.raise_get]
      exact ih _

theorem countOf_append (raises raises' : List CounterRaise)
    (counter : GlbCounter) :
    countOf (raises ++ raises') counter =
      countOf raises counter + countOf raises' counter := by
  have hzero : ({} : GlbGlobalStats).get counter = 0 := by
    cases counter <;> rfl
  simp only [countOf, raiseAll_get, hzero, List.map_append, List.sum_append,
    UInt64.zero_add]

theorem countOf_append_sub (raises raises' : List CounterRaise)
    (counter : GlbCounter) :
    countOf (raises ++ raises') counter - countOf raises counter =
      countOf raises' counter := by
  rw [countOf_append, UInt64.add_comm, UInt64.add_sub_cancel]

/-! ## Differences -/

theorem addDiff_get (sum curr last : GlbGlobalStats) (counter : GlbCounter) :
    (sum.addDiff curr last).get counter =
      sum.get counter + (curr.get counter - last.get counter) := by
  cases counter <;> rfl

theorem diffAndSumFrom_eq_some (front : List GlbGlobalStats)
    {curr last : List GlbGlobalStats} (hlength : last.length = curr.length)
    (sum : GlbGlobalStats) :
    ∃ total, diffAndSumFrom (front ++ curr) front.length sum last =
        some total ∧
      ∀ counter, total.get counter = sum.get counter +
        (List.zipWith (fun now value : GlbGlobalStats =>
          now.get counter - value.get counter) curr last).sum := by
  induction last generalizing front curr sum with
  | nil =>
      obtain rfl : curr = [] := List.eq_nil_of_length_eq_zero hlength.symm
      exact ⟨sum, rfl, fun counter => (UInt64.add_zero _).symm⟩
  | cons value rest ih =>
      cases curr with
      | nil => exact absurd hlength (Nat.succ_ne_zero _)
      | cons now curr =>
          have hnow : (front ++ now :: curr)[front.length]? = some now := by
            simp
          have hfront : front ++ now :: curr = (front ++ [now]) ++ curr := by
            simp
          obtain ⟨total, htotal, hsum⟩ := ih (front ++ [now])
            (Nat.succ.inj hlength) (sum.addDiff now value)
          rw [← hfront, List.length_append] at htotal
          refine ⟨total, ?_, fun counter => ?_⟩
          · unfold diffAndSumFrom
            rw [hnow]
            exact htotal
          · rw [hsum, addDiff_get, List.zipWith_cons_cons, List.sum_cons,
              UInt64.add_assoc]

section Values

variable {cpus : ℕ}

/-- What has been raised on each CPU, as far as each counter is concerned. -/
abbrev CpuRaises (cpus : ℕ) := Fin cpus → GlbCounter → List CounterRaise

def cpuValues (raises : CpuRaises cpus) : List GlbGlobalStats :=
  List.ofFn fun i => .ofCounters fun counter =>
    countOf (raises i counter) counter

def CpuRaises.append (raises raises' : CpuRaises cpus) : CpuRaises cpus :=
  fun i counter => raises i counter ++ raises' i counter

theorem cpuValues_length (raises : CpuRaises cpus) :
    (cpuValues raises).length = cpus := List.length_ofFn

theorem diffAndSumGlobalStats_values (seen fresh : CpuRaises cpus) :
    ∃ sum, diffAndSumGlobalStats (cpuValues seen)
        (cpuValues (seen.append fresh)) = some sum ∧
      ∀ counter, sum.get counter = ∑ i, countOf (fresh i counter) counter := by
  have hlength : (cpuValues seen).length =
      (cpuValues (seen.append fresh)).length := by
    rw [cpuValues_length, cpuValues_length]
  obtain ⟨sum, hsum, hget⟩ := diffAndSumFrom_eq_some [] hlength {}
  refine ⟨sum, hsum, fun counter => ?_⟩
  have hzero : ({} : GlbGlobalStats).get counter = 0 := by
    cases counter <;> rfl
  have hdiffs : List.zipWith (fun now value : GlbGlobalStats =>
        now.get counter - value.get counter)
      (cpuValues (seen.append fresh)) (cpuValues seen) =
      List.ofFn fun i => countOf (fresh i counter) counter := by
    refine List.ext_getElem (by simp [cpuValues]) fun i hi _ => ?_
    simp only [cpuValues, List.getElem_zipWith, List.getElem_ofFn,
      GlbGlobalStats.get_ofCounters]
    exact countOf_append_sub _ _ counter
  rw [hget, hzero, hdiffs, UInt64.zero_add, List.sum_ofFn]

end Values

theorem statsdCounts_total (sum : GlbGlobalStats) (counter : GlbCounter) :
    sentTotal (statsdCounts sum) counter.metric =
      (sum.get counter).toInt64 := by
  cases counter <;>
    simp [sentTotal, statsdCounts, GlbCounter.metric, GlbGlobalStats.get]

theorem sentTotal_append (sent counts : List StatsdCount)
    (metric : String × List String) :
    sentTotal (sent ++ counts) metric =
      sentTotal sent metric + sentTotal counts metric := by
  unfold sentTotal
  rw [List.filter_append, List.map_append, List.sum_append]

/-! ## Reports -/

section Reports

variable {cpus : ℕ}

/-- `seen` is what the last read has seen of each counter, and `copied` what the
running one has. -/
structure StatsSystem.Tracked (s : StatsSystem cpus)
    (seen copied : CpuRaises cpus) : Prop where
  hseen : ∀ i counter, seen i counter <+: copied i counter
  hraised : ∀ i counter, copied i counter <+: (s.cpu i).raised
  hcopied : ∀ i counter value, s.copied i counter = some value →
    value = countOf (copied i counter) counter
  hlast : s.last = [] ∨ s.last = cpuValues seen
  hlooked : s.looked = false → s.last = []

/-- The counts are those of the raises in `fresh`. -/
def CountsOf (counts : List StatsdCount) (fresh : CpuRaises cpus) : Prop :=
  ∀ counter : GlbCounter, sentTotal counts counter.metric =
    (∑ i, countOf (fresh i counter) counter).toInt64

def CpuRaises.none : CpuRaises cpus := fun _ _ => []

theorem CpuRaises.append_none (raises : CpuRaises cpus) :
    raises.append .none = raises :=
  funext fun _ => funext fun _ => List.append_nil _

theorem CpuRaises.append_assoc (raises raises' raises'' : CpuRaises cpus) :
    (raises.append raises').append raises'' =
      raises.append (raises'.append raises'') :=
  funext fun _ => funext fun _ => List.append_assoc _ _ _

theorem countsOf_nil : CountsOf [] (CpuRaises.none : CpuRaises cpus) := by
  intro counter
  have hnone : countOf [] counter = 0 := by cases counter <;> rfl
  simp only [CpuRaises.none, hnone, Finset.sum_const_zero]
  rfl

theorem CountsOf.append {counts counts' : List StatsdCount}
    {fresh fresh' : CpuRaises cpus} (hcounts : CountsOf counts fresh)
    (hcounts' : CountsOf counts' fresh') :
    CountsOf (counts ++ counts') (fresh.append fresh') := by
  intro counter
  rw [sentTotal_append, hcounts, hcounts', ← UInt64.toInt64_add,
    ← Finset.sum_add_distrib]
  simp only [CpuRaises.append, countOf_append]

/-- A step reports what the last read has seen beyond the one before. -/
structure StatsSystem.Reports (s s' : StatsSystem cpus)
    (fresh : CpuRaises cpus) : Prop where
  hread : s'.last ≠ []
  hsent : ∃ counts, s'.sent = s.sent ++ counts ∧ CountsOf counts fresh

section Lookup

variable {s : StatsSystem cpus} {seen copied fresh : CpuRaises cpus}

/-- The running read goes on from the last one. -/
theorem StatsSystem.Tracked.exists_fresh (htracked : s.Tracked seen copied) :
    ∃ fresh : CpuRaises cpus, copied = seen.append fresh := by
  choose fresh hfresh using htracked.hseen
  exact ⟨fresh, funext fun i => funext fun counter => (hfresh i counter).symm⟩

theorem StatsSystem.Tracked.values_eq (htracked : s.Tracked seen copied)
    {values : Fin cpus → GlbCounter → UInt64}
    (hall : ∀ i counter, s.copied i counter = some (values i counter)) :
    List.ofFn (fun i => .ofCounters (values i)) = cpuValues copied := by
  refine congrArg List.ofFn (funext fun i => ?_)
  refine congrArg GlbGlobalStats.ofCounters (funext fun counter => ?_)
  exact htracked.hcopied i counter _ (hall i counter)

theorem StatsSystem.Tracked.tick_found
    (htracked : s.Tracked seen (seen.append fresh)) :
    ∃ counts, statsTick s.last (some (cpuValues (seen.append fresh))) =
        some (cpuValues (seen.append fresh), counts) ∧
      (s.last ≠ [] → CountsOf counts fresh) := by
  unfold statsTick
  by_cases hempty : s.last = []
  · refine ⟨[], ?_, fun hread => absurd hempty hread⟩
    rw [hempty]
    rfl
  · have hvalues := htracked.hlast.resolve_left hempty
    obtain ⟨sum, hsum, hget⟩ := diffAndSumGlobalStats_values seen fresh
    refine ⟨statsdCounts sum, ?_, fun _ counter => ?_⟩
    · simp only [if_pos (List.length_pos_iff.mpr hempty)]
      rw [hvalues, hsum]
    · rw [statsdCounts_total, hget]

/-- All reads have one value for each CPU. -/
theorem StatsSystem.Tracked.cpuValues_ne_nil (htracked : s.Tracked seen copied)
    (hread : s.last ≠ []) (raises : CpuRaises cpus) :
    cpuValues raises ≠ [] := by
  have hvalues := htracked.hlast.resolve_left hread
  rw [← List.length_pos_iff, hvalues, cpuValues_length] at hread
  rw [← List.length_pos_iff, cpuValues_length]
  exact hread

/-- A CPU goes on. -/
theorem StatsSystem.Tracked.withCpu (htracked : s.Tracked seen copied)
    (i : Fin cpus) {cpu : StatsCpu} (hmore : (s.cpu i).raised <+: cpu.raised) :
    (s.withCpu i cpu).Tracked seen copied := by
  refine { htracked with hraised := fun j counter => ?_ }
  show copied j counter <+: (Function.update s.cpu i cpu j).raised
  by_cases hj : j = i
  · subst hj
    rw [Function.update_self]
    exact (htracked.hraised j counter).trans hmore
  · rw [Function.update_of_ne hj]
    exact htracked.hraised j counter

theorem StatsSystem.Tracked.copy (htracked : s.Tracked seen copied)
    (i : Fin cpus) (counter : GlbCounter) :
    (s.copy i counter).Tracked seen (Function.update copied i
      (Function.update (copied i) counter (s.cpu i).raised)) := by
  -- Each cell either is the one copied now or is as before.
  have hcell : ∀ j other, (j = i ∧ other = counter) ∨
      Function.update copied i (Function.update (copied i) counter
        (s.cpu i).raised) j other = copied j other ∧
      (s.copy i counter).copied j other = s.copied j other := by
    intro j other
    by_cases hj : j = i
    · subst hj
      by_cases hother : other = counter
      · exact .inl ⟨rfl, hother⟩
      · refine .inr ⟨?_, ?_⟩
        · rw [Function.update_self, Function.update_of_ne hother]
        · simp only [StatsSystem.copy, Function.update_self,
            Function.update_of_ne hother]
    · refine .inr ⟨?_, ?_⟩
      · rw [Function.update_of_ne hj]
      · simp only [StatsSystem.copy, Function.update_of_ne hj]
  refine ⟨fun j other => ?_, fun j other => ?_, fun j other value hvalue => ?_,
    htracked.hlast, htracked.hlooked⟩
  · rcases hcell j other with ⟨rfl, rfl⟩ | ⟨hsame, _⟩
    · rw [Function.update_self, Function.update_self]
      exact (htracked.hseen j other).trans (htracked.hraised j other)
    · rw [hsame]
      exact htracked.hseen j other
  · rcases hcell j other with ⟨rfl, rfl⟩ | ⟨hsame, _⟩
    · rw [Function.update_self, Function.update_self]
      exact List.prefix_rfl
    · rw [hsame]
      exact htracked.hraised j other
  · rcases hcell j other with ⟨rfl, rfl⟩ | ⟨hsame, hcopied⟩
    · simp only [StatsSystem.copy, Function.update_self,
        Option.some.injEq] at hvalue
      rw [Function.update_self, Function.update_self, hvalue]
    · rw [hsame]
      exact htracked.hcopied j other value (hcopied ▸ hvalue)

/-- The loop over the CPUs stays within the values just read. -/
theorem StatsSystem.Tracked.tick_ne_none (htracked : s.Tracked seen copied)
    {result : Option (List GlbGlobalStats)} (hresult : s.Lookup result) :
    statsTick s.last result ≠ none := by
  cases hresult with
  | found values hall =>
      obtain ⟨fresh, rfl⟩ := htracked.exists_fresh
      obtain ⟨counts, htick, _⟩ := htracked.tick_found
      rw [htracked.values_eq hall, htick]
      exact Option.some_ne_none _
  | failed => exact Option.some_ne_none _

/-- The values of a finished read become the last ones. -/
theorem StatsSystem.Tracked.after_lookup (htracked : s.Tracked seen copied)
    (sent : List StatsdCount) :
    StatsSystem.Tracked { s with
      copied := fun _ _ => none
      looked := true
      last := cpuValues copied
      sent } copied copied where
  hseen _ _ := List.prefix_rfl
  hraised := htracked.hraised
  hcopied _ _ _ hvalue := absurd hvalue (by simp)
  hlast := Or.inr rfl
  hlooked hnot := absurd hnot (by simp)

/-- A lookup that fails forgets what has been copied. -/
theorem StatsSystem.Tracked.after_failure (htracked : s.Tracked seen copied)
    {looked : Bool} (hlooked : looked = false → s.last = []) :
    StatsSystem.Tracked { s with copied := fun _ _ => none, looked }
      seen copied where
  hseen := htracked.hseen
  hraised := htracked.hraised
  hcopied _ _ _ hvalue := absurd hvalue (by simp)
  hlast := htracked.hlast
  hlooked := hlooked

end Lookup

theorem StatsStep.tracked {s s' : StatsSystem cpus}
    {seen copied : CpuRaises cpus} (htracked : s.Tracked seen copied)
    (hstep : StatsStep s s') :
    ∃ fresh copied', s'.Tracked (seen.append fresh) copied' ∧
      (s.last ≠ [] → s.Reports s' fresh) := by
  -- A step that leaves `last` alone reports nothing.
  have hsilent (cpu : Fin cpus → StatsCpu)
      (values : Fin cpus → GlbCounter → Option UInt64) (hread : s.last ≠ []) :
      s.Reports { s with cpu, copied := values } .none :=
    ⟨hread, [], (List.append_nil _).symm, countsOf_nil⟩
  cases hstep with
  | packet i env packet hidle =>
      refine ⟨.none, copied, ?_, hsilent _ _⟩
      rw [seen.append_none]
      exact htracked.withCpu i List.prefix_rfl
  | raise i raise rest hcoming =>
      refine ⟨.none, copied, ?_, hsilent _ _⟩
      rw [seen.append_none]
      exact htracked.withCpu i (List.prefix_append _ _)
  | copy i counter hcopied =>
      have hcopy := htracked.copy i counter
      rw [← seen.append_none] at hcopy
      exact ⟨.none, _, hcopy, hsilent _ _⟩
  | first hlooked hresult =>
      have hunread := htracked.hlooked hlooked
      cases hresult with
      | found values hall =>
          obtain ⟨fresh, rfl⟩ := htracked.exists_fresh
          refine ⟨fresh, seen.append fresh, ?_,
            fun hread => absurd hunread hread⟩
          rw [htracked.values_eq hall]
          exact htracked.after_lookup s.sent
      | failed =>
          have hlast : (none : Option (List GlbGlobalStats)).getD [] =
              s.last := hunread.symm
          refine ⟨.none, copied, ?_, fun hread => absurd hunread hread⟩
          rw [seen.append_none, hlast]
          exact htracked.after_failure fun _ => hunread
  | @tick hlooked result hresult last counts htick =>
      cases hresult with
      | found values hall =>
          obtain ⟨fresh, rfl⟩ := htracked.exists_fresh
          obtain ⟨counts', htick', hcounts⟩ := htracked.tick_found
          rw [htracked.values_eq hall, htick'] at htick
          cases htick
          have hafter := htracked.after_lookup (s.sent ++ counts)
          rw [← hlooked] at hafter
          exact ⟨fresh, _, hafter, fun hread =>
            ⟨htracked.cpuValues_ne_nil hread _, counts, rfl, hcounts hread⟩⟩
      | failed =>
          cases htick
          rw [List.append_nil]
          refine ⟨.none, copied, ?_, hsilent _ _⟩
          rw [seen.append_none]
          exact htracked.after_failure htracked.hlooked

theorem run_tracked {s s' : StatsSystem cpus}
    {seen copied : CpuRaises cpus} (htracked : s.Tracked seen copied)
    (hrun : Relation.ReflTransGen StatsStep s s') :
    ∃ fresh copied', s'.Tracked (seen.append fresh) copied' ∧
      (s.last ≠ [] → s.Reports s' fresh) := by
  induction hrun with
  | refl =>
      refine ⟨.none, copied, ?_, fun hread => ⟨hread, [], ?_, countsOf_nil⟩⟩
      · rw [seen.append_none]
        exact htracked
      · exact (List.append_nil _).symm
  | tail _ hstep ih =>
      obtain ⟨fresh, copied', hbefore, hreports⟩ := ih
      obtain ⟨fresh', copied'', hafter, hreports'⟩ := hstep.tracked hbefore
      rw [seen.append_assoc] at hafter
      refine ⟨_, copied'', hafter, fun hread => ?_⟩
      obtain ⟨hread', counts, hsent, hcounts⟩ := hreports hread
      obtain ⟨hread'', counts', hsent', hcounts'⟩ := hreports' hread'
      refine ⟨hread'', counts ++ counts', ?_, hcounts.append hcounts'⟩
      rw [hsent', hsent, List.append_assoc]

theorem start_tracked :
    (StatsSystem.start : StatsSystem cpus).Tracked .none .none where
  hseen _ _ := List.prefix_rfl
  hraised _ _ := List.prefix_rfl
  hcopied _ _ _ hvalue := absurd hvalue (by simp [StatsSystem.start])
  hlast := Or.inl rfl
  hlooked _ := rfl

/-- Between two moments after the first successful read, the counts sent for
each counter are those of the raises that the later read has seen and the
earlier has not. -/
theorem xdp_counts_reported_once
    {s s' : StatsSystem cpus}
    (hstart : Relation.ReflTransGen StatsStep StatsSystem.start s)
    (hread : s.last ≠ [])
    (hrun : Relation.ReflTransGen StatsStep s s') :
    (∀ i, (s'.cpu i).raised ++ (s'.cpu i).coming =
      (s'.cpu i).packets.flatMap fun packet =>
        (countedProcess packet.1 packet.2).2) ∧
    ∃ seen fresh pending : CpuRaises cpus,
      (∀ i counter, (s'.cpu i).raised =
        seen i counter ++ fresh i counter ++ pending i counter) ∧
      s.last = cpuValues seen ∧
      s'.last = cpuValues (seen.append fresh) ∧
      (∃ counts, s'.sent = s.sent ++ counts ∧
        ∀ counter : GlbCounter, sentTotal counts counter.metric =
          (∑ i, countOf (fresh i counter) counter).toInt64) ∧
      ∀ result, s'.Lookup result → statsTick s'.last result ≠ none := by
  refine ⟨run_sound (hstart.trans hrun), ?_⟩
  obtain ⟨seen, copied, htracked, _⟩ := run_tracked start_tracked hstart
  obtain ⟨fresh, copied', htracked', hreports⟩ := run_tracked htracked hrun
  obtain ⟨hread', hsent⟩ := hreports hread
  have hpending (i : Fin cpus) (counter : GlbCounter) :=
    (htracked'.hseen i counter).trans (htracked'.hraised i counter)
  choose pending hpending using hpending
  refine ⟨_, fresh, pending, fun i counter => (hpending i counter).symm,
    htracked.hlast.resolve_left hread, htracked'.hlast.resolve_left hread',
    hsent, fun result hresult => ?_⟩
  exact htracked'.tick_ne_none hresult

end Reports

/-! ## A read in the middle of a packet -/

section Runs

variable {cpus : ℕ}

def StatsSystem.copyAll (s : StatsSystem cpus) (i : Fin cpus)
    (counters : List GlbCounter) : StatsSystem cpus :=
  counters.foldl (fun s counter => s.copy i counter) s

theorem copyAll_run {s : StatsSystem cpus} {i : Fin cpus}
    {counters : List GlbCounter} (hnodup : counters.Nodup)
    (hnone : ∀ counter ∈ counters, s.copied i counter = none) :
    Relation.ReflTransGen StatsStep s (s.copyAll i counters) := by
  induction counters generalizing s with
  | nil => exact .refl
  | cons counter counters ih =>
      obtain ⟨hnew, hrest⟩ := List.nodup_cons.mp hnodup
      have hcopy := StatsStep.copy s i counter
        (hnone counter List.mem_cons_self)
      refine .head hcopy (ih hrest fun other hother => ?_)
      have hne : other ≠ counter := fun hsame => hnew (hsame ▸ hother)
      simp only [StatsSystem.copy, Function.update_self,
        Function.update_of_ne hne]
      exact hnone other (List.mem_cons_of_mem _ hother)

/-- A CPU may raise all counters of its packet. -/
theorem raises_run {s : StatsSystem cpus} {i : Fin cpus}
    {raises : List CounterRaise} (hcoming : (s.cpu i).coming = raises) :
    Relation.ReflTransGen StatsStep s (s.withCpu i { s.cpu i with
      raised := (s.cpu i).raised ++ raises
      coming := [] }) := by
  induction raises generalizing s with
  | nil =>
      have hsame : s.withCpu i { s.cpu i with
          raised := (s.cpu i).raised ++ []
          coming := [] } = s := by
        rw [List.append_nil, ← hcoming]
        simp only [StatsSystem.withCpu, Function.update_eq_self]
      rw [hsame]
  | cons raise rest ih =>
      have hstep := StatsStep.raise s i raise rest hcoming
      refine .head hstep ?_
      have hrest := ih (s := s.withCpu i { s.cpu i with
        raised := (s.cpu i).raised ++ [raise]
        coming := rest }) (by simp only [StatsSystem.withCpu,
          Function.update_self])
      simpa only [StatsSystem.withCpu, Function.update_self,
        Function.update_idem, List.append_assoc,
        List.singleton_append] using hrest

end Runs

def laterCounters : List GlbCounter :=
  [.unknownFormat, .noMatchingBind, .matched, .encapsulated,
    .encapsulatedBytes, .errorTable, .errorSecret, .errorHashConfig,
    .errorMissingRow, .errorCreatingSpace, .errorMissingGatewayMac,
    .errorMissingSourceAddress]

abbrev soleCpu : Fin 1 := Fin.last 0

theorem eq_soleCpu (i : Fin 1) : i = soleCpu :=
  Fin.ext (Nat.lt_one_iff.mp i.2)

/-- The first `Lookup` has returned. -/
def readOnce : StatsSystem 1 :=
  { StatsSystem.start with
    looked := true
    last := [.ofCounters fun _ => 0] }

theorem start_readOnce :
    Relation.ReflTransGen StatsStep StatsSystem.start readOnce := by
  have hcopies : Relation.ReflTransGen StatsStep StatsSystem.start
      (StatsSystem.start.copyAll soleCpu (.processed :: laterCounters)) :=
    copyAll_run (by decide) fun _ _ => rfl
  have hlookup : (StatsSystem.start.copyAll soleCpu
      (.processed :: laterCounters)).Lookup
        (some [.ofCounters fun _ => 0]) := by
    refine .found (fun _ _ => 0) fun i counter => ?_
    rw [eq_soleCpu i]
    cases counter <;> rfl
  exact hcopies.tail (.first _ rfl hlookup)

/-- The next one has copied `Processed` when a packet arrives. -/
def packetBegun : StatsSystem 1 :=
  (readOnce.copy soleCpu .processed).withCpu soleCpu
    ((readOnce.cpu soleCpu).begin servingMaps.env samplePacket)

def packetCounted : StatsSystem 1 :=
  packetBegun.withCpu soleCpu { packetBegun.cpu soleCpu with
    raised := [] ++ (countedProcess servingMaps.env samplePacket).2
    coming := [] }

/-- The other counters are copied when the packet has been counted. -/
def splitRead : StatsSystem 1 :=
  packetCounted.copyAll soleCpu laterCounters

theorem readOnce_splitRead :
    Relation.ReflTransGen StatsStep readOnce splitRead := by
  have hcopy := StatsStep.copy readOnce soleCpu .processed rfl
  have hpacket : StatsStep (readOnce.copy soleCpu .processed) packetBegun :=
    .packet _ soleCpu servingMaps.env samplePacket rfl
  have hraises : Relation.ReflTransGen StatsStep packetBegun packetCounted :=
    raises_run rfl
  have hcopies : Relation.ReflTransGen StatsStep packetCounted splitRead := by
    refine copyAll_run (by decide) fun counter hmem => ?_
    cases counter <;> first | rfl | exact absurd hmem (by decide)
  exact .head hcopy (.head hpacket (hraises.trans hcopies))

def splitValues (counter : GlbCounter) : UInt64 :=
  if counter = .processed then 0
  else countOf ([] ++ (countedProcess servingMaps.env samplePacket).2) counter

theorem splitRead_lookup :
    splitRead.Lookup (some [.ofCounters splitValues]) := by
  refine .found (fun _ => splitValues) fun i counter => ?_
  rw [eq_soleCpu i]
  cases counter <;> rfl

/-- The report has the packet as encapsulated, but not yet as processed. -/
theorem xdp_counts_reported_once_splitRead :
    ∃ (s' : StatsSystem 1) (counts : List StatsdCount),
      Relation.ReflTransGen StatsStep StatsSystem.start readOnce ∧
      readOnce.last ≠ [] ∧ Relation.ReflTransGen StatsStep readOnce s' ∧
      (s'.cpu soleCpu).packets = [(servingMaps.env, samplePacket)] ∧
      s'.sent = readOnce.sent ++ counts ∧
      sentTotal counts GlbCounter.processed.metric = 0 ∧
      sentTotal counts GlbCounter.encapsulated.metric = 1 ∧
      ∃ fresh : CpuRaises 1, ∀ counter : GlbCounter,
        sentTotal counts counter.metric =
          (∑ i, countOf (fresh i counter) counter).toInt64 := by
  have htick : statsTick splitRead.last (some [.ofCounters splitValues]) =
      some ([.ofCounters splitValues], statsdCounts
        (GlbGlobalStats.addDiff {} (.ofCounters splitValues)
          (.ofCounters fun _ => 0))) := rfl
  have hrun := readOnce_splitRead.tail
    (StatsStep.tick splitRead rfl splitRead_lookup htick)
  have hread : readOnce.last ≠ [] := List.cons_ne_nil _ _
  obtain ⟨_, _, fresh, _, _, _, _, ⟨counts, hsent, hcounts⟩, _⟩ :=
    xdp_counts_reported_once start_readOnce hread hrun
  have hreport : counts = statsdCounts (GlbGlobalStats.addDiff {}
      (.ofCounters splitValues) (.ofCounters fun _ => 0)) :=
    (List.append_cancel_left hsent).symm
  refine ⟨_, counts, start_readOnce, hread, hrun, rfl, hsent, ?_, ?_, fresh,
    hcounts⟩
  · rw [hreport, statsdCounts_total]
    rfl
  · obtain ⟨bytes, hbytes⟩ := countedProcess_samplePacket
    have hone : splitValues .encapsulated = 1 := by
      rw [splitValues, if_neg (by decide), hbytes]
      rfl
    rw [hreport, statsdCounts_total, addDiff_get,
      GlbGlobalStats.get_ofCounters, hone]
    rfl

end GlbDirector
