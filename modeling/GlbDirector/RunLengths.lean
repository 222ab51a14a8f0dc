import Mathlib.Tactic

/-!
# Runs of equal values in a sequence

A run is a stretch of positions that hold one value.  With a threshold for each
value, a sequence settles at every position on the value of the latest maximal
run that has reached its threshold.  The same value is found by a recursion that
only looks at the length of the run ending at each position.
-/

namespace RunLengths

variable {α : Type}

structure MaximalRun (values : ℕ → α) (bound first last : ℕ) : Prop where
  hle : first ≤ last
  hbound : last ≤ bound
  hsame : ∀ i, first ≤ i → i ≤ last → values i = values first
  hbefore : first = 0 ∨ values (first - 1) ≠ values first
  hafter : last = bound ∨ values (last + 1) ≠ values first

theorem MaximalRun.restrict {values : ℕ → α} {bound first last m : ℕ}
    (hrun : MaximalRun values bound first last) (hfirst : first ≤ m)
    (hlast : m ≤ last) : MaximalRun values m first m where
  hle := hfirst
  hbound := le_rfl
  hsame := fun i hi him => hrun.hsame i hi (him.trans hlast)
  hbefore := hrun.hbefore
  hafter := .inl rfl

def Reached (threshold : α → ℤ) (values : ℕ → α) (first last : ℕ) : Prop :=
  threshold (values first) ≤ (last + 1 - first : ℕ)

/-- The latest maximal run up to `bound` that has reached its threshold holds
`value`; the first value counts while there is none. -/
def SettlesOn (threshold : α → ℤ) (values : ℕ → α) (bound : ℕ)
    (value : α) : Prop :=
  (∃ first last, MaximalRun values bound first last ∧
      Reached threshold values first last ∧
      (∀ first' last', MaximalRun values bound first' last' →
        Reached threshold values first' last' → last' ≤ last) ∧
      value = values first) ∨
    (∀ first last, MaximalRun values bound first last →
      ¬ Reached threshold values first last) ∧ value = values 0

variable [DecidableEq α]

/-- The length of the run that ends at a position. -/
def runLength (values : ℕ → α) : ℕ → ℕ
  | 0 => 1
  | k + 1 => if values (k + 1) = values k then runLength values k + 1 else 1

def settled (threshold : α → ℤ) (values : ℕ → α) : ℕ → α
  | 0 => values 0
  | k + 1 =>
      if threshold (values (k + 1)) ≤ runLength values (k + 1) then
        values (k + 1)
      else settled threshold values k

/-! ## The run that ends at a position -/

section Runs

variable (values : ℕ → α)

theorem runLength_pos (k : ℕ) : 0 < runLength values k := by
  cases k with
  | zero => exact Nat.one_pos
  | succ k =>
      unfold runLength
      split <;> omega

theorem runLength_le (k : ℕ) : runLength values k ≤ k + 1 := by
  induction k with
  | zero => exact le_rfl
  | succ k ih =>
      unfold runLength
      split <;> omega

theorem maximalRun_runLength (k : ℕ) :
    MaximalRun values k (k + 1 - runLength values k) k := by
  induction k with
  | zero =>
      refine ⟨le_rfl, le_rfl, fun i _ hi => ?_, .inl rfl, .inl rfl⟩
      rw [Nat.le_zero.mp hi]
      rfl
  | succ k ih =>
      have hpos := runLength_pos values k
      have hle := runLength_le values k
      by_cases hsame : values (k + 1) = values k
      · have hlength : runLength values (k + 1) = runLength values k + 1 :=
          if_pos hsame
        have hfirst : k + 1 + 1 - runLength values (k + 1) =
            k + 1 - runLength values k := by omega
        rw [hfirst]
        have hk : values k = values (k + 1 - runLength values k) :=
          ih.hsame k ih.hle le_rfl
        refine ⟨by omega, le_rfl, fun i hi hlast => ?_, ih.hbefore, .inl rfl⟩
        rcases Nat.le_succ_iff.mp hlast with hlast | rfl
        · exact ih.hsame i hi hlast
        · exact hsame.trans hk
      · have hlength : runLength values (k + 1) = 1 := if_neg hsame
        rw [hlength, Nat.add_sub_cancel]
        refine ⟨le_rfl, le_rfl, fun i hi hlast => ?_, .inr ?_, .inl rfl⟩
        · rw [Nat.le_antisymm hlast hi]
        · rw [Nat.add_sub_cancel]
          exact Ne.symm hsame

variable {values}

/-- A maximal run starts where the run that ends with it starts. -/
theorem MaximalRun.length_eq {bound first last : ℕ}
    (hrun : MaximalRun values bound first last) :
    runLength values last = last + 1 - first := by
  have hends := maximalRun_runLength values last
  have hpos := runLength_pos values last
  have hlength := runLength_le values last
  have hle := hrun.hle
  have hvalue : values first = values (last + 1 - runLength values last) :=
    (hrun.hsame last hle le_rfl).symm.trans
      (hends.hsame last hends.hle le_rfl)
  rcases Nat.lt_trichotomy first (last + 1 - runLength values last) with
    hlt | heq | hgt
  · rcases hends.hbefore with hzero | hbefore
    · omega
    · have hinside := hrun.hsame (last + 1 - runLength values last - 1)
        (by omega) (by omega)
      exact absurd (hinside.trans hvalue) hbefore
  · omega
  · rcases hrun.hbefore with hzero | hbefore
    · omega
    · have hinside := hends.hsame (first - 1) (by omega) (by omega)
      exact absurd (hinside.trans hvalue.symm) hbefore

theorem exists_maximalRun (values : ℕ → α) {m bound : ℕ} (hm : m ≤ bound) :
    ∃ first last, MaximalRun values bound first last ∧ first ≤ m ∧
      m ≤ last := by
  induction bound, hm using Nat.le_induction with
  | base =>
      exact ⟨_, m, maximalRun_runLength values m,
        (maximalRun_runLength values m).hle, le_rfl⟩
  | succ bound hm ih =>
      obtain ⟨first, last, hrun, hfirst, hlast⟩ := ih
      by_cases hgrows : last = bound ∧ values (bound + 1) = values first
      · obtain ⟨rfl, hsame⟩ := hgrows
        refine ⟨first, last + 1, ⟨?_, le_rfl, fun i hi hbound => ?_,
          hrun.hbefore, .inl rfl⟩, hfirst, Nat.le_succ_of_le hlast⟩
        · exact Nat.le_succ_of_le hrun.hle
        · rcases Nat.le_succ_iff.mp hbound with hbound | rfl
          · exact hrun.hsame i hi hbound
          · exact hsame
      · refine ⟨first, last, ⟨hrun.hle, Nat.le_succ_of_le hrun.hbound,
          hrun.hsame, hrun.hbefore, .inr ?_⟩, hfirst, hlast⟩
        rcases hrun.hafter with rfl | hafter
        · exact fun hsame => hgrows ⟨rfl, hsame⟩
        · exact hafter

end Runs

/-! ## The value a sequence settles on -/

section Settled

variable {threshold : α → ℤ} {values : ℕ → α}

theorem settled_of_reached {k : ℕ}
    (hreached : threshold (values k) ≤ runLength values k) :
    settled threshold values k = values k := by
  cases k with
  | zero => rfl
  | succ k => exact if_pos hreached

/-- The recursion finds the latest position at which a run has reached its
threshold. -/
theorem settled_cases (threshold : α → ℤ) (values : ℕ → α) (k : ℕ) :
    (∃ m ≤ k, threshold (values m) ≤ runLength values m ∧
        (∀ i ≤ k, threshold (values i) ≤ runLength values i → i ≤ m) ∧
        settled threshold values k = values m) ∨
      (∀ i ≤ k, ¬ threshold (values i) ≤ runLength values i) ∧
        settled threshold values k = values 0 := by
  induction k with
  | zero =>
      by_cases hreached : threshold (values 0) ≤ runLength values 0
      · exact .inl ⟨0, le_rfl, hreached, fun i hi _ => hi, rfl⟩
      · refine .inr ⟨fun i hi => ?_, rfl⟩
        rw [Nat.le_zero.mp hi]
        exact hreached
  | succ k ih =>
      by_cases hreached :
          threshold (values (k + 1)) ≤ runLength values (k + 1)
      · exact .inl ⟨k + 1, le_rfl, hreached, fun i hi _ => hi,
          settled_of_reached hreached⟩
      · have hsame : settled threshold values (k + 1) =
            settled threshold values k := if_neg hreached
        rw [hsame]
        rcases ih with ⟨m, hm, hreachedm, hlatest, hvalue⟩ | ⟨hnone, hvalue⟩
        · refine .inl ⟨m, Nat.le_succ_of_le hm, hreachedm,
            fun i hi hreachedi => ?_, hvalue⟩
          rcases Nat.le_succ_iff.mp hi with hi | rfl
          · exact hlatest i hi hreachedi
          · exact absurd hreachedi hreached
        · refine .inr ⟨fun i hi => ?_, hvalue⟩
          rcases Nat.le_succ_iff.mp hi with hi | rfl
          · exact hnone i hi
          · exact hreached

theorem MaximalRun.reached_iff {bound first last : ℕ}
    (hrun : MaximalRun values bound first last) :
    Reached threshold values first last ↔
      threshold (values last) ≤ runLength values last := by
  rw [Reached, hrun.length_eq, hrun.hsame last hrun.hle le_rfl]

theorem settlesOn_settled (threshold : α → ℤ) (values : ℕ → α) (k : ℕ) :
    SettlesOn threshold values k (settled threshold values k) := by
  rcases settled_cases threshold values k with
    ⟨m, hm, hreached, hlatest, hvalue⟩ | ⟨hnone, hvalue⟩
  · obtain ⟨first, last, hrun, hfirst, hlast⟩ := exists_maximalRun values hm
    have hshort := hrun.restrict hfirst hlast
    have hfits : Reached threshold values first m :=
      hshort.reached_iff.mpr hreached
    refine .inl ⟨first, last, hrun, ?_, fun first' last' hrun' hreached' => ?_,
      hvalue.trans (hrun.hsame m hfirst hlast)⟩
    · unfold Reached at hfits ⊢
      omega
    · exact (hlatest last' hrun'.hbound
        (hrun'.reached_iff.mp hreached')).trans hlast
  · refine .inr ⟨fun first last hrun hreached => ?_, hvalue⟩
    exact hnone last hrun.hbound (hrun.reached_iff.mp hreached)

/-- The settled value changes when a run of another value becomes exactly as
long as its threshold. -/
theorem settled_succ_ne_iff (hpos : ∀ value, 1 ≤ threshold value) (k : ℕ) :
    settled threshold values (k + 1) ≠ settled threshold values k ↔
      values (k + 1) ≠ settled threshold values k ∧
        ∃ first, MaximalRun values (k + 1) first (k + 1) ∧
          threshold (values (k + 1)) = (k + 1 + 1 - first : ℕ) := by
  have hends := maximalRun_runLength values (k + 1)
  constructor
  · intro hchanges
    by_cases hreached : threshold (values (k + 1)) ≤ runLength values (k + 1)
    · rw [settled_of_reached hreached] at hchanges
      refine ⟨hchanges, _, hends, ?_⟩
      rw [← hends.length_eq]
      apply le_antisymm hreached
      -- the run was shorter than its threshold one position earlier
      by_cases hsame : values (k + 1) = values k
      · have hlength : runLength values (k + 1) = runLength values k + 1 :=
          if_pos hsame
        have hshort : ¬ threshold (values k) ≤ runLength values k :=
          fun hbefore => hchanges (hsame.trans (settled_of_reached hbefore).symm)
        rw [← hsame] at hshort
        omega
      · have hlength : runLength values (k + 1) = 1 := if_neg hsame
        rw [hlength]
        exact hpos _
    · exact absurd (if_neg hreached) hchanges
  · rintro ⟨hother, first, hrun, hlength⟩
    have hreached : threshold (values (k + 1)) ≤ runLength values (k + 1) := by
      rw [hrun.length_eq, hlength]
    rw [settled_of_reached hreached]
    exact hother

end Settled

end RunLengths
