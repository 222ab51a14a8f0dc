import Mathlib.Tactic

/-!
# Runs of a labelled transition system

A run is recorded by the events it went through, newest first.  An invariant
may speak of the events as well as of the state; it holds at the end of every
run when it holds at the start and each step keeps it.  A run that never ends
is a sequence of states and events; it comes to a goal when a rank decreases at
every step that is not idle and such steps keep occurring.  A rank that never
rises settles, and what only some steps change is still the same at the next of
them.
-/

namespace LabelledRuns

variable {S E : Type}

inductive Run (step : S → E → S → Prop) (start : S) : List E → S → Prop where
  | nil : Run step start [] start
  | cons {trace : List E} {state state' : S} {event : E}
      (hrun : Run step start trace state)
      (hstep : step state event state') :
      Run step start (event :: trace) state'

variable {step : S → E → S → Prop} {start state : S} {trace : List E}

/-- The rule for events that all satisfy a property of their own. -/
theorem Run.invariant {allowed : E → Prop} (motive : List E → S → Prop)
    (hrun : Run step start trace state)
    (hallowed : ∀ event ∈ trace, allowed event) (hstart : motive [] start)
    (hstep : ∀ trace state event state', motive trace state →
      allowed event → step state event state' →
        motive (event :: trace) state') :
    motive trace state := by
  induction hrun with
  | nil => exact hstart
  | @cons trace state state' event hrun hlast ih =>
      refine hstep trace state event state' (ih ?_) ?_ hlast
      · intro earlier hmem
        exact hallowed earlier (List.mem_cons_of_mem event hmem)
      · exact hallowed event List.mem_cons_self

section Endless

variable {states : ℕ → S} {events : ℕ → E}

/-- A run goes on along a sequence of states. -/
theorem Run.exists_extend {allowed : E → Prop}
    (hrun : Run step start trace (states 0))
    (hallowed : ∀ event ∈ trace, allowed event)
    (hsteps : ∀ n, step (states n) (events n) (states (n + 1)))
    (hevents : ∀ n, allowed (events n)) (n : ℕ) :
    ∃ trace', Run step start trace' (states n) ∧
      ∀ event ∈ trace', allowed event := by
  induction n with
  | zero => exact ⟨trace, hrun, hallowed⟩
  | succ n ih =>
      obtain ⟨trace', hrun', hallowed'⟩ := ih
      refine ⟨events n :: trace', hrun'.cons (hsteps n), fun event hmem => ?_⟩
      rcases List.mem_cons.mp hmem with rfl | hmem
      · exact hevents n
      · exact hallowed' event hmem

/-- The value at the next step that may change it. -/
theorem exists_next_keeping {α : Type} (value : S → α) (acts : ℕ → Prop)
    {n : ℕ} (hfair : ∃ m, n ≤ m ∧ acts m)
    (hkeep : ∀ k, n ≤ k → ¬ acts k →
      value (states (k + 1)) = value (states k)) :
    ∃ m, n ≤ m ∧ acts m ∧ value (states m) = value (states n) := by
  classical
  obtain ⟨hle, hacts⟩ := Nat.find_spec hfair
  refine ⟨Nat.find hfair, hle, hacts, ?_⟩
  have hsame : ∀ k, n ≤ k → k ≤ Nat.find hfair →
      value (states k) = value (states n) := by
    intro k hk
    induction k, hk using Nat.le_induction with
    | base => exact fun _ => rfl
    | succ k hk ih =>
        intro hlt
        have hwaits : ¬ acts k := fun hnow =>
          Nat.find_min hfair hlt ⟨hk, hnow⟩
        exact (hkeep k hk hwaits).trans (ih (Nat.le_of_succ_le hlt))
  exact hsame _ hle le_rfl

theorem exists_settled_rank (rank : S → ℕ)
    (hdown : ∀ n, rank (states (n + 1)) ≤ rank (states n)) :
    ∃ m, ∀ n, m ≤ n → rank (states (n + 1)) = rank (states n) := by
  have hanti : Antitone fun n => rank (states n) :=
    antitone_nat_of_succ_le hdown
  obtain ⟨m, hsettled⟩ := WellFoundedGT.monotone_chain_condition
    (⟨fun n => OrderDual.toDual (rank (states n)), hanti.dual_right⟩ :
      ℕ →o ℕᵒᵈ)
  refine ⟨m, fun n hle => ?_⟩
  have hnow : rank (states m) = rank (states n) := hsettled n hle
  have hnext : rank (states m) = rank (states (n + 1)) :=
    hsettled (n + 1) (hle.trans (Nat.le_succ n))
  exact hnext.symm.trans hnow

variable {R : Type} [Preorder R] [WellFoundedLT R] (rank : S → R)
variable (idle : E → Prop) (goal : S → Prop) (events)

theorem exists_goal_of_rank
    (hidle : ∀ n, idle (events n) → rank (states (n + 1)) = rank (states n))
    (hdown : ∀ n, ¬ idle (events n) → goal (states n) ∨
      rank (states (n + 1)) < rank (states n))
    (hfair : ∀ n, ∃ m, n ≤ m ∧ ¬ idle (events m)) :
    ∃ n, goal (states n) := by
  by_contra hnever
  have hless : ∀ n, ¬ idle (events n) →
      rank (states (n + 1)) < rank (states n) := by
    intro n hactive
    exact (hdown n hactive).resolve_left fun hgoal => hnever ⟨n, hgoal⟩
  have hanti : Antitone fun n => rank (states n) := by
    apply antitone_nat_of_succ_le
    intro n
    by_cases hevent : idle (events n)
    · exact (hidle n hevent).le
    · exact (hless n hevent).le
  have hdescent : ∀ r n, rank (states n) = r → False := by
    intro r
    induction r using WellFoundedLT.induction with
    | ind r ih =>
        intro n hrank
        obtain ⟨m, hle, hactive⟩ := hfair n
        refine ih (rank (states (m + 1))) ?_ (m + 1) rfl
        calc
          rank (states (m + 1)) < rank (states m) := hless m hactive
          _ ≤ rank (states n) := hanti hle
          _ = r := hrank
  exact hdescent _ 0 rfl

end Endless

end LabelledRuns
