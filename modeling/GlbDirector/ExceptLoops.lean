import Mathlib.Algebra.Order.BigOperators.Group.Finset
import Mathlib.Tactic

/-!
# Loops that may fail

A loop in `Except` that returns has run every pass.  The invariant rule
follows the passes of a loop that did return; the progress rules show that a
loop returns, given an invariant under which no pass fails, or a budget that
the passes together do not exceed.  A search whose tests all return is the
search through what they return.  A loop with an 8-bit counter returns when
its bound is below the value at which the counter wraps.
-/

namespace ExceptLoops

variable {ε α β γ δ σ : Type}

theorem bind_eq_ok_iff {first : Except ε α} {next : α → Except ε β}
    {result : β} :
    (first >>= next) = .ok result ↔
      ∃ value, first = .ok value ∧ next value = .ok result := by
  cases first <;> simp [bind, Except.bind]

/-! ## Two runs -/

/-- Two runs of one step that differ by `f` afterwards. -/
theorem bind_map_congr {first : Except ε α} {next : α → Except ε β}
    {next' : α → Except ε γ} {f : γ → β}
    (hnext : ∀ value, next value = (next' value).map f) :
    (first >>= next) = (first >>= next').map f := by
  cases first with
  | error e => rfl
  | ok value => exact hnext value

/-- Two runs that differ by `g` before a step and by `f` after it. -/
theorem map_bind_map_congr {first : Except ε α} {g : α → γ}
    {next : α → Except ε β} {next' : γ → Except ε δ} {f : β → δ}
    (hnext : ∀ value, first = .ok value →
      next' (g value) = (next value).map f) :
    (first.map g >>= next') = (first >>= next).map f := by
  cases first with
  | error e => rfl
  | ok value => exact hnext value rfl

theorem map_map_congr {run : Except ε α} {f : α → α} {g : α → β}
    (hsame : ∀ value, run = .ok value → g (f value) = g value) :
    (run.map f).map g = run.map g := by
  cases run with
  | error e => rfl
  | ok value => exact congrArg Except.ok (hsame value rfl)

/-! ## Mapping over a list -/

theorem mapM_cons_eq_ok_iff {f : α → Except ε β} {a : α} {l : List α}
    {out : List β} :
    (a :: l).mapM f = .ok out ↔
      ∃ b rest, f a = .ok b ∧ l.mapM f = .ok rest ∧ out = b :: rest := by
  rw [List.mapM_cons]
  simp only [bind_eq_ok_iff]
  constructor
  · rintro ⟨b, hb, rest, hrest, hout⟩
    exact ⟨b, rest, hb, hrest, (Except.ok.inj hout).symm⟩
  · rintro ⟨b, rest, hb, hrest, rfl⟩
    exact ⟨b, hb, rest, hrest, rfl⟩

theorem mapM_getElem? {f : α → Except ε β} {l : List α} {out : List β}
    (hrun : l.mapM f = .ok out) {i : ℕ} {a : α} (ha : l[i]? = some a) :
    ∃ b, out[i]? = some b ∧ f a = .ok b := by
  induction l generalizing out i with
  | nil => simp at ha
  | cons head l ih =>
      obtain ⟨b, rest, hb, hrest, rfl⟩ := mapM_cons_eq_ok_iff.mp hrun
      cases i with
      | zero =>
          obtain rfl : head = a := by simpa using ha
          exact ⟨b, rfl, hb⟩
      | succ i =>
          rw [List.getElem?_cons_succ] at ha ⊢
          exact ih hrest ha

theorem exists_mapM_ok {f : α → Except ε β} {l : List α}
    (hpass : ∀ a ∈ l, ∃ b, f a = .ok b) : ∃ out, l.mapM f = .ok out := by
  induction l with
  | nil => exact ⟨[], rfl⟩
  | cons a l ih =>
      obtain ⟨b, hb⟩ := hpass a List.mem_cons_self
      obtain ⟨rest, hrest⟩ :=
        ih fun a' ha' => hpass a' (List.mem_cons_of_mem a ha')
      exact ⟨b :: rest, mapM_cons_eq_ok_iff.mpr
        ⟨b, rest, hb, hrest, rfl⟩⟩

/-! ## Counting loops -/

theorem foldlM_range_succ_eq_ok_iff {f : σ → ℕ → Except ε σ} {n : ℕ}
    {start stop : σ} :
    (List.range (n + 1)).foldlM f start = .ok stop ↔
      ∃ middle, (List.range n).foldlM f start = .ok middle ∧
        f middle n = .ok stop := by
  rw [List.range_succ, List.foldlM_append]
  simp only [bind_eq_ok_iff, List.foldlM_cons, List.foldlM_nil]
  constructor
  · rintro ⟨middle, hmiddle, last, hlast, hstop⟩
    exact ⟨middle, hmiddle, hlast.trans hstop⟩
  · rintro ⟨middle, hmiddle, hstop⟩
    exact ⟨middle, hmiddle, stop, hstop, rfl⟩

theorem foldlM_range_invariant {f : σ → ℕ → Except ε σ} {n : ℕ}
    {start stop : σ} (motive : ℕ → σ → Prop) (hstart : motive 0 start)
    (hstep : ∀ k s s', k < n → motive k s → f s k = .ok s' →
      motive (k + 1) s')
    (hrun : (List.range n).foldlM f start = .ok stop) : motive n stop := by
  induction n generalizing stop with
  | zero =>
      obtain rfl : start = stop := Except.ok.inj hrun
      exact hstart
  | succ n ih =>
      obtain ⟨middle, hmiddle, hstop⟩ :=
        foldlM_range_succ_eq_ok_iff.mp hrun
      refine hstep n middle stop (Nat.lt_succ_self n) (ih ?_ hmiddle) hstop
      intro k s s' hk
      exact hstep k s s' (Nat.lt_succ_of_lt hk)

theorem exists_foldlM_range_ok {f : σ → ℕ → Except ε σ} {n : ℕ}
    {start : σ} (motive : ℕ → σ → Prop) (hstart : motive 0 start)
    (hstep : ∀ k s, k < n → motive k s →
      ∃ s', f s k = .ok s' ∧ motive (k + 1) s') :
    ∃ stop, (List.range n).foldlM f start = .ok stop ∧ motive n stop := by
  induction n with
  | zero => exact ⟨start, rfl, hstart⟩
  | succ n ih =>
      obtain ⟨middle, hmiddle, hmotive⟩ :=
        ih fun k s hk => hstep k s (Nat.lt_succ_of_lt hk)
      obtain ⟨stop, hstop, hmotive'⟩ :=
        hstep n middle (Nat.lt_succ_self n) hmotive
      exact ⟨stop, foldlM_range_succ_eq_ok_iff.mpr
        ⟨middle, hmiddle, hstop⟩, hmotive'⟩

theorem exists_foldlM_range_spending {f : σ → ℕ → Except ε σ} {n : ℕ}
    {start : σ} (left : σ → ℕ) (cost : ℕ → ℕ) (inv : σ → Prop)
    (hstart : inv start)
    (hbudget : ∑ k ∈ Finset.range n, cost k ≤ left start)
    (hstep : ∀ k s, k < n → inv s → cost k ≤ left s →
      ∃ s', f s k = .ok s' ∧ left s' + cost k = left s ∧ inv s') :
    ∃ stop, (List.range n).foldlM f start = .ok stop ∧
      left stop + ∑ k ∈ Finset.range n, cost k = left start ∧ inv stop := by
  refine exists_foldlM_range_ok (fun k s =>
    left s + ∑ i ∈ Finset.range k, cost i = left start ∧ inv s)
    ⟨rfl, hstart⟩ ?_
  rintro k s hk ⟨hspent, hinv⟩
  have hupTo : ∑ i ∈ Finset.range (k + 1), cost i ≤
      ∑ i ∈ Finset.range n, cost i :=
    Finset.sum_le_sum_of_subset (Finset.range_mono hk)
  rw [Finset.sum_range_succ] at hupTo
  have hcost : cost k ≤ left s := by omega
  obtain ⟨s', hpass, hleft, hinv'⟩ := hstep k s hk hinv hcost
  refine ⟨s', hpass, ?_, hinv'⟩
  rw [Finset.sum_range_succ]
  omega

/-! ## Counting loops in `Option` -/

theorem exists_foldlM_range_some {f : σ → ℕ → Option σ} {n : ℕ}
    {start : σ} (motive : ℕ → σ → Prop) (hstart : motive 0 start)
    (hstep : ∀ k s, k < n → motive k s →
      ∃ s', f s k = some s' ∧ motive (k + 1) s') :
    ∃ stop, (List.range n).foldlM f start = some stop ∧ motive n stop := by
  induction n with
  | zero => exact ⟨start, rfl, hstart⟩
  | succ n ih =>
      obtain ⟨middle, hmiddle, hmotive⟩ :=
        ih fun k s hk => hstep k s (Nat.lt_succ_of_lt hk)
      obtain ⟨stop, hstop, hmotive'⟩ :=
        hstep n middle (Nat.lt_succ_self n) hmotive
      refine ⟨stop, ?_, hmotive'⟩
      rw [List.range_succ, List.foldlM_append, hmiddle]
      simp [hstop]

/-! ## Searches whose tests all return -/

theorem anyM_eq_some {p : α → Option Bool} {q : α → Bool} {l : List α}
    (hreads : ∀ a ∈ l, p a = some (q a)) : l.anyM p = some (l.any q) := by
  induction l with
  | nil => rfl
  | cons a l ih =>
      rw [List.forall_mem_cons] at hreads
      rw [List.anyM, hreads.1, List.any_cons]
      cases q a with
      | true => rfl
      | false => exact ih hreads.2

theorem findM?_eq_some {p : α → Option Bool} {q : α → Bool} {l : List α}
    (hreads : ∀ a ∈ l, p a = some (q a)) :
    l.findM? p = some (l.find? q) := by
  induction l with
  | nil => rfl
  | cons a l ih =>
      rw [List.forall_mem_cons] at hreads
      rw [List.findM?, hreads.1, List.find?_cons]
      cases q a with
      | true => rfl
      | false => exact ih hreads.2

/-! ## Loops with an 8-bit counter -/

/-- The loop `for (; i < bound; i++)`, or `none` when it takes more passes than
the fuel allows. -/
def byteLoop (bound : ℕ) (body : UInt8 → σ → σ) :
    ℕ → UInt8 → σ → Option σ
  | 0, _, _ => none
  | fuel + 1, i, s =>
      if i.toNat < bound then byteLoop bound body fuel (i + 1) (body i s)
      else some s

theorem exists_byteLoop {bound : ℕ} (hbound : bound ≤ 255)
    {body : UInt8 → σ → σ} (motive : ℕ → σ → Prop)
    (hstep : ∀ (i : UInt8) s, i.toNat < bound → motive i.toNat s →
      motive (i.toNat + 1) (body i s))
    {fuel : ℕ} {i : UInt8} {start : σ} (hle : i.toNat ≤ bound)
    (hfuel : bound < i.toNat + fuel) (hstart : motive i.toNat start) :
    ∃ stop, byteLoop bound body fuel i start = some stop ∧
      motive bound stop := by
  induction fuel generalizing i start with
  | zero => omega
  | succ fuel ih =>
      unfold byteLoop
      by_cases hi : i.toNat < bound
      · have hnext : (i + 1).toNat = i.toNat + 1 := by
          rw [UInt8.toNat_add]
          exact Nat.mod_eq_of_lt (by show i.toNat + 1 < 256; omega)
        rw [if_pos hi]
        apply ih
        · omega
        · omega
        · rw [hnext]
          exact hstep i start hi hstart
      · have hend : i.toNat = bound := by omega
        rw [if_neg hi]
        rw [hend] at hstart
        exact ⟨start, rfl, hstart⟩

end ExceptLoops
