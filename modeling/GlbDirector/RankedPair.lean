import Mathlib.Data.Finset.Card
import Mathlib.Tactic

/-!
# The two smallest members of a keyed set

`twoSmallest key members` keeps the members with fewer than two members of a
smaller key.  It depends on the set only, whichever sorted list the members
are read from.
-/

namespace RankedPair

variable {α κ : Type*} [LinearOrder κ] (key : α → κ)

def twoSmallest (members : Finset α) : Finset α :=
  members.filter fun a => (members.filter fun b => key b < key a).card < 2

variable {key}

/-- A member that at most one other member undercuts is in the pair. -/
theorem mem_twoSmallest_of_smaller_subset
    {members : Finset α} {a z : α} (ha : a ∈ members)
    (hsmaller : ∀ b ∈ members, key b < key a → b = z) :
    a ∈ twoSmallest key members := by
  refine Finset.mem_filter.mpr ⟨ha, ?_⟩
  have hsubset : (members.filter fun b => key b < key a) ⊆ {z} := by
    intro b hb
    obtain ⟨hmem, hlt⟩ := Finset.mem_filter.mp hb
    exact Finset.mem_singleton.mpr (hsmaller b hmem hlt)
  have hcard := Finset.card_le_card hsubset
  rw [Finset.card_singleton] at hcard
  omega

/-! ## Sets with one guest -/

/-- What keeps `a` in the pair of every set that has at most one member more
than `fixed`: a member of `fixed` is the smallest of them, and a guest is
undercut by at most one of them. -/
structure Keeps (key : α → κ) (fixed : Finset α) (a : α) : Prop where
  few : (fixed.filter fun b => key b < key a).card < 2
  least : a ∈ fixed → ∀ b ∈ fixed, key a ≤ key b

theorem Keeps.mem_twoSmallest {fixed members : Finset α} {a guest : α}
    (hkeeps : Keeps key fixed a)
    (hmembers : ∀ b ∈ members, b ∈ fixed ∨ b = guest) (ha : a ∈ members) :
    a ∈ twoSmallest key members := by
  by_cases hfixed : a ∈ fixed
  · apply mem_twoSmallest_of_smaller_subset (z := guest) ha
    intro b hb hlt
    rcases hmembers b hb with hmem | heq
    · exact absurd hlt (hkeeps.least hfixed b hmem).not_gt
    · exact heq
  · have hguest : a = guest := (hmembers a ha).resolve_left hfixed
    refine Finset.mem_filter.mpr ⟨ha, ?_⟩
    have hsubset : (members.filter fun b => key b < key a) ⊆
        fixed.filter fun b => key b < key a := by
      intro b hb
      obtain ⟨hmem, hlt⟩ := Finset.mem_filter.mp hb
      rcases hmembers b hmem with hb | heq
      · exact Finset.mem_filter.mpr ⟨hb, hlt⟩
      · rw [heq, ← hguest] at hlt
        exact absurd hlt (lt_irrefl _)
    exact (Finset.card_le_card hsubset).trans_lt hkeeps.few

theorem keeps_of_mem_twoSmallest {fixed members : Finset α} {a : α}
    (hsubset : fixed ⊆ members) (ha : a ∈ twoSmallest key members)
    (hleast : a ∈ fixed → ∀ b ∈ fixed, key a ≤ key b) :
    Keeps key fixed a where
  few := (Finset.card_le_card (Finset.filter_subset_filter _ hsubset)).trans_lt
    (Finset.mem_filter.mp ha).2
  least := hleast

variable [DecidableEq α]

/-! ## Two sets under one key -/

/-- If two members undercut `a`, then the pair has two that do. -/
theorem two_le_card_twoSmallest_below {members : Finset α} {a : α}
    (htwo : 2 ≤ (members.filter fun b => key b < key a).card) :
    2 ≤ ((twoSmallest key members).filter fun b => key b < key a).card := by
  have hnonempty : (members.filter fun b => key b < key a).Nonempty :=
    Finset.card_pos.mp (by omega)
  obtain ⟨first, hfirst, hleast⟩ :=
    Finset.exists_min_image _ key hnonempty
  have hrest : ((members.filter fun b => key b < key a).erase
      first).Nonempty := by
    apply Finset.card_pos.mp
    rw [Finset.card_erase_of_mem hfirst]
    omega
  obtain ⟨second, hsecond, hnext⟩ := Finset.exists_min_image _ key hrest
  obtain ⟨hne, hbelow⟩ := Finset.mem_erase.mp hsecond
  obtain ⟨hfirstMem, hfirstLt⟩ := Finset.mem_filter.mp hfirst
  obtain ⟨hsecondMem, hsecondLt⟩ := Finset.mem_filter.mp hbelow
  have hfirstPair : first ∈ twoSmallest key members := by
    apply mem_twoSmallest_of_smaller_subset (z := first) hfirstMem
    intro b hb hlt
    have hmem : b ∈ members.filter fun b => key b < key a :=
      Finset.mem_filter.mpr ⟨hb, hlt.trans hfirstLt⟩
    exact absurd hlt (hleast b hmem).not_gt
  have hsecondPair : second ∈ twoSmallest key members := by
    apply mem_twoSmallest_of_smaller_subset (z := first) hsecondMem
    intro b hb hlt
    by_contra hb'
    have hmem : b ∈ members.filter fun b => key b < key a :=
      Finset.mem_filter.mpr ⟨hb, hlt.trans hsecondLt⟩
    exact absurd hlt (hnext b (Finset.mem_erase.mpr ⟨hb', hmem⟩)).not_gt
  have hsubset : ({first, second} : Finset α) ⊆
      (twoSmallest key members).filter fun b => key b < key a := by
    intro b hb
    rw [Finset.mem_insert, Finset.mem_singleton] at hb
    rcases hb with rfl | rfl
    · exact Finset.mem_filter.mpr ⟨hfirstPair, hfirstLt⟩
    · exact Finset.mem_filter.mpr ⟨hsecondPair, hsecondLt⟩
  have hcard := Finset.card_le_card hsubset
  rwa [Finset.card_pair hne.symm] at hcard

/-- Only newcomers push a member out of the pair. -/
theorem mem_twoSmallest_of_no_newcomer {members members' : Finset α} {a : α}
    (ha : a ∈ twoSmallest key members) (hstill : a ∈ members')
    (hknown : twoSmallest key members' ⊆ members) :
    a ∈ twoSmallest key members' := by
  by_contra hout
  have htwo : 2 ≤ (members'.filter fun b => key b < key a).card := by
    by_contra hfew
    exact hout (Finset.mem_filter.mpr ⟨hstill, not_le.mp hfew⟩)
  have hbelow := two_le_card_twoSmallest_below htwo
  have hsubset := Finset.card_le_card
    (Finset.filter_subset_filter (fun b => key b < key a) hknown)
  have hfew := (Finset.mem_filter.mp ha).2
  omega

/-! ## Sorted lists -/

/-- The first two elements of a strictly increasing list. -/
theorem twoSmallest_of_sorted
    {first second : α} {rest : List α}
    (hsorted : (first :: second :: rest).Pairwise
      fun a b => key a < key b) :
    twoSmallest key (first :: second :: rest).toFinset =
      {first, second} := by
  obtain ⟨hfirst, hsecond⟩ := List.pairwise_cons.mp hsorted
  obtain ⟨hrest, _⟩ := List.pairwise_cons.mp hsecond
  have hfs : key first < key second := hfirst second (by simp)
  ext a
  rw [Finset.mem_insert, Finset.mem_singleton]
  constructor
  · intro ha
    obtain ⟨hmem, hcard⟩ := Finset.mem_filter.mp ha
    rw [List.mem_toFinset, List.mem_cons, List.mem_cons] at hmem
    rcases hmem with heq | heq | hmem
    · exact Or.inl heq
    · exact Or.inr heq
    · have hne : first ≠ second := fun heq => hfs.ne (congrArg key heq)
      have hsubset : ({first, second} : Finset α) ⊆
          (first :: second :: rest).toFinset.filter
            fun b => key b < key a := by
        intro b hb
        rw [Finset.mem_insert, Finset.mem_singleton] at hb
        rw [Finset.mem_filter, List.mem_toFinset]
        rcases hb with rfl | rfl
        · exact ⟨by simp, hfs.trans (hrest a hmem)⟩
        · exact ⟨by simp, hrest a hmem⟩
      have htwo := Finset.card_le_card hsubset
      rw [Finset.card_pair hne] at htwo
      omega
  · rintro (rfl | rfl)
    · apply mem_twoSmallest_of_smaller_subset (z := second) (by simp)
      intro b hb hlt
      rw [List.mem_toFinset, List.mem_cons] at hb
      rcases hb with rfl | hb
      · exact absurd hlt (lt_irrefl _)
      · exact absurd hlt (hfirst b hb).not_gt
    · apply mem_twoSmallest_of_smaller_subset (z := first) (by simp)
      intro b hb hlt
      rw [List.mem_toFinset, List.mem_cons, List.mem_cons] at hb
      rcases hb with heq | rfl | hb
      · exact heq
      · exact absurd hlt (lt_irrefl _)
      · exact absurd hlt (hrest b hb).not_gt

end RankedPair
