import Mathlib.Data.Multiset.AddSub
import Mathlib.Tactic

/-!
# Reference-counted cells

Cells carry a counter and are freed when a decrement reaches zero.  A ledger
lists every reference that is still held; it covers the cells when no counter
is below the number of entries for its cell.  Taking and dropping listed
references keeps the cover, and a listed cell is never freed.  Where the ledger
is exact, a cell is freed exactly when its last entry goes.
-/

namespace RefLedger

variable {ι : Type*} [DecidableEq ι]

structure Cells (ι : Type*) where
  count : ι → ℤ
  freed : ι → Bool

namespace Cells

def create (cells : Cells ι) (c : ι) : Cells ι where
  count := Function.update cells.count c 1
  freed := Function.update cells.freed c false

def incref (cells : Cells ι) (c : ι) : Cells ι where
  count := Function.update cells.count c (cells.count c + 1)
  freed := cells.freed

def decref (cells : Cells ι) (c : ι) : Cells ι where
  count := Function.update cells.count c (cells.count c - 1)
  freed := Function.update cells.freed c
    (cells.freed c || cells.count c - 1 = 0)

end Cells

def Covers (cells : Cells ι) (ledger : Multiset ι) : Prop :=
  ∀ c, (ledger.count c : ℤ) ≤ cells.count c ∧
    (cells.freed c = true → cells.count c ≤ 0)

variable {cells : Cells ι} {ledger : Multiset ι} {c : ι}

theorem Covers.not_freed (hcovers : Covers cells ledger) (hc : c ∈ ledger) :
    cells.freed c = false := by
  obtain ⟨hcount, hfreed⟩ := hcovers c
  have hpos : 0 < ledger.count c := Multiset.count_pos.mpr hc
  by_contra hne
  have hzero := hfreed (Bool.not_eq_false _ ▸ hne)
  omega

theorem Covers.create (hcovers : Covers cells ledger) (hfresh : c ∉ ledger) :
    Covers (cells.create c) (c ::ₘ ledger) := by
  intro d
  by_cases hd : d = c
  · subst hd
    simp [Cells.create, Multiset.count_eq_zero.mpr hfresh]
  · simpa [Cells.create, hd] using hcovers d

theorem Covers.incref (hcovers : Covers cells ledger) (hc : c ∈ ledger) :
    Covers (cells.incref c) (c ::ₘ ledger) := by
  have hlive := hcovers.not_freed hc
  intro d
  by_cases hd : d = c
  · subst hd
    have hcount := (hcovers d).1
    simp [Cells.incref, hlive]
    omega
  · simpa [Cells.incref, hd] using hcovers d

theorem Covers.decref (hcovers : Covers cells (c ::ₘ ledger)) :
    Covers (cells.decref c) ledger := by
  have hlive := hcovers.not_freed (Multiset.mem_cons_self c ledger)
  intro d
  by_cases hd : d = c
  · subst hd
    have hcount := (hcovers d).1
    rw [Multiset.count_cons_self] at hcount
    simp [Cells.decref, hlive]
    omega
  · simpa [Cells.decref, hd] using hcovers d

/-- A reference that nobody drops any more only keeps its cell alive. -/
theorem Covers.mono {kept : Multiset ι} (hcovers : Covers cells ledger)
    (hkept : kept ≤ ledger) : Covers cells kept := by
  intro d
  have hcount := Multiset.count_le_of_le d hkept
  exact ⟨le_trans (by exact_mod_cast hcount) (hcovers d).1, (hcovers d).2⟩

/-! ## Exact ledgers -/

/-- The counter of the cell is the number of its entries, and it is freed when
there is none left. -/
structure Exact (cells : Cells ι) (ledger : Multiset ι) (d : ι) : Prop where
  hcount : cells.count d = ledger.count d
  hfreed : cells.freed d = true ↔ ledger.count d = 0

variable {d : ι}

theorem Exact.create_self (hfresh : c ∉ ledger) :
    Exact (cells.create c) (c ::ₘ ledger) c := by
  have hnone := Multiset.count_eq_zero.mpr hfresh
  constructor
  · simp [Cells.create, hnone]
  · simp [Cells.create]

theorem Exact.create_of_ne (hexact : Exact cells ledger d) (hne : d ≠ c) :
    Exact (cells.create c) (c ::ₘ ledger) d := by
  obtain ⟨hcount, hfreed⟩ := hexact
  constructor
  · simpa [Cells.create, hne] using hcount
  · simpa [Cells.create, hne] using hfreed

theorem Exact.incref (hexact : Exact cells ledger d) (hc : c ∈ ledger) :
    Exact (cells.incref c) (c ::ₘ ledger) d := by
  obtain ⟨hcount, hfreed⟩ := hexact
  by_cases hd : d = c
  · subst hd
    have hpos := Multiset.count_pos.mpr hc
    have hlive : ¬ cells.freed d = true := fun h => hpos.ne' (hfreed.mp h)
    constructor
    · simp [Cells.incref, hcount]
    · simp [Cells.incref, hlive]
  · constructor
    · simpa [Cells.incref, hd] using hcount
    · simpa [Cells.incref, hd] using hfreed

theorem Exact.decref (hexact : Exact cells (c ::ₘ ledger) d) :
    Exact (cells.decref c) ledger d := by
  obtain ⟨hcount, hfreed⟩ := hexact
  by_cases hd : d = c
  · subst hd
    rw [Multiset.count_cons_self] at hcount hfreed
    have hlive : ¬ cells.freed d = true := fun h => absurd (hfreed.mp h)
      (Nat.succ_ne_zero _)
    constructor
    · simp [Cells.decref, hcount]
    · simp [Cells.decref, hlive, hcount]
  · constructor
    · simpa [Cells.decref, hd] using hcount
    · simpa [Cells.decref, hd] using hfreed

end RefLedger
