import Mathlib.Data.List.Basic

/-!
# Fallback chains

A request visits the nodes of a list in order and stops at the first one that
recognises it; one that nobody recognises ends at the last node.  `accepting`
is the variant in which a node also keeps what it would hand to itself, and
`accepting_eq_chosen_iff` says when the two agree.
-/

namespace FallbackChain

variable {α : Type*}

/-- The first node that recognises the request, or the last node. -/
def chosen (valid : α → Bool) (node : α) (rest : List α) : α :=
  ((node :: rest).find? valid).getD
    ((node :: rest).getLast (List.cons_ne_nil node rest))

theorem chosen_nil (valid : α → Bool) (node : α) :
    chosen valid node [] = node := by
  by_cases hvalid : valid node = true
  · simp [chosen, hvalid]
  · simp [chosen, hvalid]

theorem chosen_of_valid {valid : α → Bool} {node : α} (rest : List α)
    (hvalid : valid node = true) : chosen valid node rest = node := by
  simp [chosen, hvalid]

theorem chosen_cons_of_not_valid {valid : α → Bool} {node : α} (next : α)
    (rest : List α) (hvalid : ¬ valid node = true) :
    chosen valid node (next :: rest) = chosen valid next rest := by
  simp [chosen, hvalid]

theorem chosen_eq_of_not_valid {valid : α → Bool} {node other : α}
    {rest : List α} (hother : ¬ valid other = true) :
    chosen valid node rest = other ↔
      (∀ x ∈ node :: rest, ¬ valid x = true) ∧
        (node :: rest).getLast (List.cons_ne_nil node rest) = other := by
  unfold chosen
  cases hfind : (node :: rest).find? valid with
  | none =>
      have hnone := List.find?_eq_none.mp hfind
      simp only [Option.getD_none]
      exact ⟨fun hlast => ⟨hnone, hlast⟩, fun h => h.2⟩
  | some found =>
      have hfound := List.find?_some hfind
      have hmem := List.mem_of_find?_eq_some hfind
      simp only [Option.getD_some]
      constructor
      · intro heq
        exact absurd (heq ▸ hfound) hother
      · intro h
        exact absurd hfound (h.1 found hmem)

/-- Nothing is lost to the first immediate repetition of a node: the request
stops at or before it, or nobody recognises it and it names the last node. -/
def RepeatHarmless (valid : α → Bool) (node : α) (rest : List α) : Prop :=
  ∀ before x after, node :: rest = before ++ x :: x :: after →
    (before ++ [x]).IsChain (· ≠ ·) →
    (∃ y ∈ before ++ [x], valid y = true) ∨
      ((∀ y ∈ node :: rest, ¬ valid y = true) ∧
        (node :: rest).getLast (List.cons_ne_nil node rest) = x)

theorem repeatHarmless_of_valid {valid : α → Bool} {node : α}
    (rest : List α) (hvalid : valid node = true) :
    RepeatHarmless valid node rest := by
  intro before x after hsplit _
  refine Or.inl ⟨node, ?_, hvalid⟩
  cases before with
  | nil =>
      rw [List.nil_append, List.cons.injEq] at hsplit
      simp [hsplit.1]
  | cons head tail =>
      rw [List.cons_append, List.cons.injEq] at hsplit
      simp [hsplit.1]

theorem repeatHarmless_self {valid : α → Bool} {node : α} {rest : List α}
    (hvalid : ¬ valid node = true) :
    RepeatHarmless valid node (node :: rest) ↔
      chosen valid node (node :: rest) = node := by
  rw [chosen_eq_of_not_valid hvalid]
  constructor
  · intro hrepeat
    rcases hrepeat [] node rest rfl (by simp) with ⟨y, hy, hyvalid⟩ | h
    · rw [List.nil_append, List.mem_singleton] at hy
      exact absurd (hy ▸ hyvalid) hvalid
    · exact h
  · intro h before x after hsplit hchain
    cases before with
    | nil =>
        rw [List.nil_append, List.cons.injEq] at hsplit
        exact Or.inr (hsplit.1 ▸ h)
    | cons head tail =>
        exfalso
        rw [List.cons_append, List.cons.injEq] at hsplit
        obtain ⟨rfl, hsplit⟩ := hsplit
        cases tail with
        | nil =>
            rw [List.nil_append, List.cons.injEq] at hsplit
            simp [hsplit.1] at hchain
        | cons second tail =>
            rw [List.cons_append, List.cons.injEq] at hsplit
            simp [hsplit.1] at hchain

theorem repeatHarmless_cons {valid : α → Bool} {node next : α}
    {rest : List α} (hvalid : ¬ valid node = true) (hne : next ≠ node) :
    RepeatHarmless valid node (next :: rest) ↔
      RepeatHarmless valid next rest := by
  constructor
  · intro hrepeat before x after hsplit hchain
    have hchain' : ((node :: before) ++ [x]).IsChain (· ≠ ·) := by
      cases before with
      | nil =>
          rw [List.nil_append, List.cons.injEq] at hsplit
          simpa [← hsplit.1] using hne.symm
      | cons head tail =>
          rw [List.cons_append, List.cons.injEq] at hsplit
          rw [List.cons_append, List.cons_append, List.isChain_cons_cons]
          exact ⟨hsplit.1 ▸ hne.symm, hchain⟩
    rcases hrepeat (node :: before) x after (by rw [hsplit]; rfl) hchain'
      with ⟨y, hy, hyvalid⟩ | ⟨hnone, hlast⟩
    · rw [List.cons_append, List.mem_cons] at hy
      rcases hy with rfl | hy
      · exact absurd hyvalid hvalid
      · exact Or.inl ⟨y, hy, hyvalid⟩
    · exact Or.inr ⟨fun y hy => hnone y (List.mem_cons_of_mem _ hy),
        by simpa using hlast⟩
  · intro hrepeat before x after hsplit hchain
    cases before with
    | nil =>
        rw [List.nil_append, List.cons.injEq, List.cons.injEq] at hsplit
        exact absurd (hsplit.2.1.trans hsplit.1.symm) hne
    | cons head tail =>
        rw [List.cons_append, List.cons.injEq] at hsplit
        obtain ⟨rfl, hsplit⟩ := hsplit
        rcases hrepeat tail x after hsplit hchain.of_cons with
          ⟨y, hy, hyvalid⟩ | ⟨hnone, hlast⟩
        · exact Or.inl ⟨y, by simp_all, hyvalid⟩
        · refine Or.inr ⟨fun y hy => ?_, by simpa using hlast⟩
          rcases List.mem_cons.mp hy with rfl | hy
          · exact hvalid
          · exact hnone y hy

section Accepting

variable [DecidableEq α]

def accepting (valid : α → Bool) : α → List α → α
  | node, [] => node
  | node, next :: rest =>
      if valid node = true ∨ next = node then node
      else accepting valid next rest

theorem accepting_pair {valid : α → Bool} {node next owner : α}
    (hvalid : ∀ x, valid x = true ↔ x = owner)
    (howner : owner = node ∨ owner = next) :
    accepting valid node [next] = owner := by
  simp only [accepting, hvalid]
  rcases howner with rfl | rfl
  · simp
  · split
    · rename_i h
      exact h.elim id Eq.symm
    · rfl

theorem accepting_eq_chosen_iff (valid : α → Bool) (node : α)
    (rest : List α) :
    accepting valid node rest = chosen valid node rest ↔
      RepeatHarmless valid node rest := by
  induction rest generalizing node with
  | nil =>
      refine iff_of_true (chosen_nil valid node).symm ?_
      intro before x after hsplit _
      have hlength := congrArg List.length hsplit
      simp at hlength
      omega
  | cons next rest ih =>
      by_cases hvalid : valid node = true
      · rw [accepting, if_pos (Or.inl hvalid), chosen_of_valid _ hvalid]
        exact iff_of_true rfl (repeatHarmless_of_valid _ hvalid)
      · by_cases heq : next = node
        · subst heq
          rw [accepting, if_pos (Or.inr rfl), repeatHarmless_self hvalid]
          exact eq_comm
        · rw [accepting, if_neg (by tauto),
            chosen_cons_of_not_valid _ _ hvalid, ih,
            repeatHarmless_cons hvalid heq]

end Accepting

end FallbackChain
