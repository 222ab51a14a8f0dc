import GlbDirector.HealthRounds
import GlbDirector.RunLengths

/-!
# What the dampener reports

The three variables of the dampener follow the run that ends with the last
result: `currentHealth` and `currentHealthCount` are its value and its length,
and `reportedHealth` is the health on which the results have settled.
-/

namespace GlbDirector

open RunLengths

/-- The loop of `DampenedResultStream` over the results that follow the first:
what it sends for each of them. -/
def dampenerLoop (thresholds : Thresholds) :
    Dampener → List HealthResult → List HealthResult
  | _, [] => []
  | dampener, nextHealth :: rest =>
      (dampener.next thresholds nextHealth).reportedHealth ::
        dampenerLoop thresholds (dampener.next thresholds nextHealth) rest

/-- The results that are sent for a source that sends `results` and is closed
after them; from a source that is closed at once the zero value is received. -/
def dampenedResultStream (thresholds : Thresholds) :
    List HealthResult → List HealthResult
  | [] => [HealthResult.zero]
  | first :: rest => first :: dampenerLoop thresholds (.first first) rest

/-- The health of the results by position. -/
def healths (results : List HealthResult) (k : ℕ) : Bool :=
  (results.getD k .zero).healthy

def Thresholds.of (thresholds : Thresholds) (healthy : Bool) : ℤ :=
  if healthy then thresholds.countBeforeHealthy
  else thresholds.countBeforeFailed

/-! ## One result -/

/-- The variables after the result at position `k`. -/
structure Dampener.Tracks (thresholds : Thresholds) (values : ℕ → Bool)
    (k : ℕ) (dampener : Dampener) : Prop where
  hcurrent : dampener.currentHealth.healthy = values k
  hcount : dampener.currentHealthCount = runLength values k
  hreported : dampener.reportedHealth.healthy =
    settled thresholds.of values k

theorem Dampener.tracks_first (thresholds : Thresholds) {values : ℕ → Bool}
    {health : HealthResult} (hhealth : health.healthy = values 0) :
    (Dampener.first health).Tracks thresholds values 0 :=
  ⟨hhealth, rfl, hhealth⟩

/-- The first half of the loop body: the run that ends with the new result. -/
def Dampener.counted (dampener : Dampener) (nextHealth : HealthResult) :
    Dampener :=
  if nextHealth.healthy = dampener.currentHealth.healthy then
    { dampener with currentHealthCount := dampener.currentHealthCount + 1 }
  else
    { dampener with currentHealthCount := 1, currentHealth := nextHealth }

theorem Dampener.counted_spec {thresholds : Thresholds} {values : ℕ → Bool}
    {k : ℕ} {dampener : Dampener} (htracks : dampener.Tracks thresholds values k)
    {nextHealth : HealthResult} (hnext : nextHealth.healthy = values (k + 1)) :
    (dampener.counted nextHealth).currentHealth.healthy = values (k + 1) ∧
      (dampener.counted nextHealth).currentHealthCount =
        runLength values (k + 1) ∧
      (dampener.counted nextHealth).reportedHealth =
        dampener.reportedHealth := by
  obtain ⟨hcurrent, hcount, _⟩ := htracks
  unfold Dampener.counted runLength
  rw [← hnext, ← hcurrent]
  by_cases hsame : nextHealth.healthy = dampener.currentHealth.healthy
  · rw [if_pos hsame, if_pos hsame, Nat.cast_succ, ← hcount]
    exact ⟨hsame.symm, rfl, rfl⟩
  · rw [if_neg hsame, if_neg hsame]
    exact ⟨rfl, rfl, rfl⟩

/-- The second half: the health of a run that is long enough is reported. -/
theorem Dampener.next_spec (thresholds : Thresholds) (dampener : Dampener)
    (nextHealth : HealthResult) :
    (dampener.next thresholds nextHealth).currentHealth =
        (dampener.counted nextHealth).currentHealth ∧
      (dampener.next thresholds nextHealth).currentHealthCount =
        (dampener.counted nextHealth).currentHealthCount ∧
      (dampener.next thresholds nextHealth).reportedHealth.healthy =
        if thresholds.of (dampener.counted nextHealth).currentHealth.healthy ≤
            (dampener.counted nextHealth).currentHealthCount then
          (dampener.counted nextHealth).currentHealth.healthy
        else (dampener.counted nextHealth).reportedHealth.healthy := by
  have hnext : dampener.next thresholds nextHealth =
      if (dampener.counted nextHealth).currentHealth.healthy &&
          !(dampener.counted nextHealth).reportedHealth.healthy &&
          (dampener.counted nextHealth).currentHealthCount ≥
            thresholds.countBeforeHealthy then
        { dampener.counted nextHealth with
          reportedHealth := (dampener.counted nextHealth).currentHealth }
      else if !(dampener.counted nextHealth).currentHealth.healthy &&
          (dampener.counted nextHealth).reportedHealth.healthy &&
          (dampener.counted nextHealth).currentHealthCount ≥
            thresholds.countBeforeFailed then
        { dampener.counted nextHealth with
          reportedHealth := (dampener.counted nextHealth).currentHealth }
      else dampener.counted nextHealth := rfl
  rw [hnext]
  generalize dampener.counted nextHealth = counted
  cases hcurrent : counted.currentHealth.healthy <;>
    cases hreported : counted.reportedHealth.healthy <;>
    simp only [Thresholds.of, Bool.not_true, Bool.not_false, Bool.and_true,
      Bool.true_and, Bool.false_and, Bool.and_false, Bool.false_eq_true,
      if_false, if_true, decide_eq_true_eq, ge_iff_le] <;>
    split <;> simp_all

theorem Dampener.Tracks.next {thresholds : Thresholds} {values : ℕ → Bool}
    {k : ℕ} {dampener : Dampener} (htracks : dampener.Tracks thresholds values k)
    {nextHealth : HealthResult} (hnext : nextHealth.healthy = values (k + 1)) :
    (dampener.next thresholds nextHealth).Tracks thresholds values (k + 1) := by
  obtain ⟨hcurrent, hcount, hkept⟩ := Dampener.counted_spec htracks hnext
  obtain ⟨hcurrent', hcount', hreported⟩ :=
    Dampener.next_spec thresholds dampener nextHealth
  constructor
  · rw [hcurrent', hcurrent]
  · rw [hcount', hcount]
  · rw [hreported, hcurrent, hcount, hkept, htracks.hreported]
    rfl

/-! ## A whole stream -/

theorem dampenerLoop_length (thresholds : Thresholds) (dampener : Dampener)
    (results : List HealthResult) :
    (dampenerLoop thresholds dampener results).length = results.length := by
  induction results generalizing dampener with
  | nil => rfl
  | cons nextHealth rest ih => exact congrArg Nat.succ (ih _)

theorem dampenerLoop_healthy {thresholds : Thresholds} {values : ℕ → Bool}
    {k : ℕ} {dampener : Dampener} (htracks : dampener.Tracks thresholds values k)
    (results : List HealthResult)
    (hvalues : ∀ i < results.length, healths results i = values (k + 1 + i)) :
    ∀ i < results.length,
      healths (dampenerLoop thresholds dampener results) i =
        settled thresholds.of values (k + 1 + i) := by
  induction results generalizing dampener k with
  | nil =>
      intro i hi
      exact absurd hi (Nat.not_lt_zero i)
  | cons nextHealth rest ih =>
      have hnext := htracks.next (hvalues 0 (Nat.succ_pos _))
      intro i hi
      cases i with
      | zero => exact hnext.hreported
      | succ i =>
          have hrest : ∀ j < rest.length,
              healths rest j = values (k + 1 + 1 + j) := by
            intro j hj
            rw [show k + 1 + 1 + j = k + 1 + (j + 1) by omega]
            exact hvalues (j + 1) (Nat.succ_lt_succ hj)
          rw [show k + 1 + (i + 1) = k + 1 + 1 + i by omega]
          exact ih hnext hrest i (Nat.lt_of_succ_lt_succ hi)

theorem dampenedResultStream_healthy (thresholds : Thresholds)
    {results : List HealthResult} {k : ℕ} (hk : k < results.length) :
    healths (dampenedResultStream thresholds results) k =
      settled thresholds.of (healths results) k := by
  cases results with
  | nil => exact absurd hk (Nat.not_lt_zero k)
  | cons first rest =>
      have htracks := Dampener.tracks_first thresholds
        (show first.healthy = healths (first :: rest) 0 from rfl)
      cases k with
      | zero => rfl
      | succ k =>
          have hloop := dampenerLoop_healthy htracks rest (fun i _ => by
            rw [Nat.zero_add, Nat.add_comm]
            rfl) k (Nat.lt_of_succ_lt_succ hk)
          rw [Nat.zero_add, Nat.add_comm] at hloop
          exact hloop

/-- What a round publishes of a target is the last result of this stream. -/
theorem dampen_eq_getLast? (thresholds : Thresholds)
    {results : List HealthResult} (hresults : results ≠ []) :
    (dampen thresholds results).map Dampener.reportedHealth =
      (dampenedResultStream thresholds results).getLast? := by
  cases results with
  | nil => exact absurd rfl hresults
  | cons first rest =>
      have hloop : ∀ (rest : List HealthResult) (dampener : Dampener),
          some (rest.foldl (Dampener.next thresholds) dampener).reportedHealth =
            (dampener.reportedHealth ::
              dampenerLoop thresholds dampener rest).getLast? := by
        intro rest
        induction rest with
        | nil => exact fun _ => rfl
        | cons nextHealth rest ih =>
            intro dampener
            rw [List.foldl_cons, ih, dampenerLoop, List.getLast?_cons_cons]
      exact hloop rest (.first first)

theorem dampened_result_stream
    (thresholds : Thresholds)
    (hhealthy : 1 ≤ thresholds.countBeforeHealthy)
    (hfailed : 1 ≤ thresholds.countBeforeFailed)
    {results : List HealthResult}
    (hresults : results ≠ []) :
    (dampenedResultStream thresholds results).length = results.length ∧
    (dampenedResultStream thresholds results).head? = results.head? ∧
    (∀ k < results.length,
      SettlesOn thresholds.of (healths results) k
        (healths (dampenedResultStream thresholds results) k)) ∧
    ∀ k, k + 1 < results.length →
      (healths (dampenedResultStream thresholds results) (k + 1) ≠
          healths (dampenedResultStream thresholds results) k ↔
        healths results (k + 1) ≠
            healths (dampenedResultStream thresholds results) k ∧
          ∃ first, MaximalRun (healths results) (k + 1) first (k + 1) ∧
            thresholds.of (healths results (k + 1)) =
              (k + 1 + 1 - first : ℕ)) := by
  have hpos : ∀ healthy, 1 ≤ thresholds.of healthy := by
    intro healthy
    cases healthy with
    | false => exact hfailed
    | true => exact hhealthy
  constructor
  · cases results with
    | nil => exact absurd rfl hresults
    | cons first rest =>
        exact congrArg Nat.succ (dampenerLoop_length thresholds _ rest)
  constructor
  · cases results with
    | nil => exact absurd rfl hresults
    | cons first rest => rfl
  constructor
  · intro k hk
    rw [dampenedResultStream_healthy thresholds hk]
    exact settlesOn_settled thresholds.of (healths results) k
  · intro k hk
    rw [dampenedResultStream_healthy thresholds hk,
      dampenedResultStream_healthy thresholds (Nat.lt_of_succ_lt hk)]
    exact settled_succ_ne_iff hpos k

def flapping : List HealthResult :=
  [⟨true, ""⟩, ⟨false, "timeout"⟩, ⟨true, ""⟩, ⟨false, "timeout"⟩,
    ⟨false, "timeout"⟩]

/-- One failure is not reported, the second in a row is. -/
theorem dampened_result_stream_flapping :
    (dampenedResultStream ⟨3, 2⟩ flapping).map HealthResult.healthy =
        [true, true, true, true, false] ∧
      SettlesOn (Thresholds.of ⟨3, 2⟩) (healths flapping) 4 false := by
  have hspec := dampened_result_stream ⟨3, 2⟩ (by decide) (by decide)
    (show flapping ≠ [] from nofun)
  exact ⟨rfl, hspec.2.2.1 4 (by decide)⟩

end GlbDirector
