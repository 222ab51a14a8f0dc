import Mathlib.Data.List.Infix
import Mathlib.Tactic

/-!
# Runs that never fault

A run in `Except` may stop with an error.  Some errors are faults, which a
correct program never reaches; the others are its way to refuse an input.  A
run is safe for a postcondition when it does not fault and its result, if it
returns one, satisfies the postcondition.
-/

namespace SafeRuns

variable {ε α β σ : Type} {fault : ε → Prop}

def Safe (fault : ε → Prop) (run : Except ε α) (post : α → Prop) : Prop :=
  match run with
  | .ok value => post value
  | .error error => ¬ fault error

theorem Safe.not_fault {run : Except ε α} {post : α → Prop} {error : ε}
    (hsafe : Safe fault run post) (hfault : fault error) :
    run ≠ .error error := by
  rintro rfl
  exact hsafe hfault

theorem Safe.post_of_ok {run : Except ε α} {post : α → Prop} {value : α}
    (hsafe : Safe fault run post) (hrun : run = .ok value) : post value := by
  subst hrun
  exact hsafe

theorem Safe.strengthen {run : Except ε α} {post stronger : α → Prop}
    (hsafe : Safe fault run post)
    (himp : ∀ value, run = .ok value → post value → stronger value) :
    Safe fault run stronger := by
  cases run with
  | error error => exact hsafe
  | ok value => exact himp value rfl hsafe

/-- A run for which every error is a fault returns. -/
theorem Safe.exists_ok {run : Except ε α} {post : α → Prop}
    (hsafe : Safe (fun _ => True) run post) :
    ∃ value, run = .ok value ∧ post value := by
  cases run with
  | error error => exact absurd trivial hsafe
  | ok value => exact ⟨value, rfl, hsafe⟩

theorem Safe.bind {first : Except ε α} {next : α → Except ε β}
    {middle : α → Prop} {post : β → Prop} (hfirst : Safe fault first middle)
    (hnext : ∀ value, middle value → Safe fault (next value) post) :
    Safe fault (first >>= next) post := by
  cases first with
  | error error => exact hfirst
  | ok value => exact hnext value hfirst

theorem Safe.ite {p : Prop} [Decidable p] {yes no : Except ε α}
    {post : α → Prop} (hyes : p → Safe fault yes post)
    (hno : ¬ p → Safe fault no post) :
    Safe fault (if p then yes else no) post := by
  by_cases hp : p
  · rw [if_pos hp]
    exact hyes hp
  · rw [if_neg hp]
    exact hno hp

/-- The rule for loops; the invariant may speak of the passes that are over. -/
theorem Safe.foldlM {f : σ → α → Except ε σ} {l : List α} {start : σ}
    (inv : List α → σ → Prop) (hstart : inv [] start)
    (hstep : ∀ front a s, front ++ [a] <+: l → inv front s →
      Safe fault (f s a) (inv (front ++ [a]))) :
    Safe fault (l.foldlM f start) (inv l) := by
  induction l using List.reverseRecOn with
  | nil => exact hstart
  | append_singleton rest a ih =>
      rw [List.foldlM_append]
      apply Safe.bind (ih fun front a s hfront => hstep front a s
        (hfront.trans (List.prefix_append rest _)))
      intro s hs
      rw [List.foldlM_cons]
      apply Safe.bind (hstep rest a s List.prefix_rfl hs)
      intro s' hs'
      exact hs'

end SafeRuns
