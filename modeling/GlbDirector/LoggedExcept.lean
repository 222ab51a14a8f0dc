import Mathlib.Tactic

/-!
# Computations that write as they go

A computation that may fail keeps what it has written before it failed.  One
that returns has written what its parts wrote, in order.
-/

namespace LoggedExcept

structure Logged (ω ε α : Type) where
  written : List ω
  result : Except ε α

variable {ω ε α β : Type}

namespace Logged

def bind (first : Logged ω ε α) (next : α → Logged ω ε β) : Logged ω ε β :=
  match first.result with
  | .error error => ⟨first.written, .error error⟩
  | .ok value => ⟨first.written ++ (next value).written, (next value).result⟩

instance : Monad (Logged ω ε) where
  pure value := ⟨[], .ok value⟩
  bind := bind

def write (message : ω) : Logged ω ε Unit := ⟨[message], .ok ()⟩

def writeAll (messages : List ω) : Logged ω ε Unit := ⟨messages, .ok ()⟩

def lift (run : Except ε α) : Logged ω ε α := ⟨[], run⟩

def Returns (run : Logged ω ε α) (written : List ω) (value : α) : Prop :=
  run.result = .ok value ∧ run.written = written

theorem returns_bind_iff {first : Logged ω ε α} {next : α → Logged ω ε β}
    {written : List ω} {value : β} :
    (first >>= next).Returns written value ↔
      ∃ middle front back, first.Returns front middle ∧
        (next middle).Returns back value ∧ written = front ++ back := by
  show (first.bind next).Returns written value ↔ _
  unfold Logged.bind Returns
  cases first.result with
  | error error => simp
  | ok middle =>
      constructor
      · rintro ⟨hresult, rfl⟩
        exact ⟨middle, _, _, ⟨rfl, rfl⟩, ⟨hresult, rfl⟩, rfl⟩
      · rintro ⟨other, front, back, ⟨hother, rfl⟩, ⟨hresult, rfl⟩, rfl⟩
        cases hother
        exact ⟨hresult, rfl⟩

theorem returns_pure_iff {given value : α} {written : List ω} :
    (pure given : Logged ω ε α).Returns written value ↔
      value = given ∧ written = [] := by
  constructor
  · rintro ⟨hresult, rfl⟩
    exact ⟨(Except.ok.inj hresult).symm, rfl⟩
  · rintro ⟨rfl, rfl⟩
    exact ⟨rfl, rfl⟩

theorem returns_writeAll_bind_iff {messages : List ω}
    {next : Unit → Logged ω ε β} {written : List ω} {value : β} :
    (writeAll messages >>= next).Returns written value ↔
      ∃ back, (next ()).Returns back value ∧ written = messages ++ back := by
  rw [returns_bind_iff]
  constructor
  · rintro ⟨_, _, back, ⟨_, rfl⟩, hback, rfl⟩
    exact ⟨back, hback, rfl⟩
  · rintro ⟨back, hback, rfl⟩
    exact ⟨(), _, back, ⟨rfl, rfl⟩, hback, rfl⟩

theorem returns_write_bind_iff {message : ω} {next : Unit → Logged ω ε β}
    {written : List ω} {value : β} :
    (write message >>= next).Returns written value ↔
      ∃ back, (next ()).Returns back value ∧ written = message :: back :=
  returns_writeAll_bind_iff

theorem returns_lift_bind_iff {run : Except ε α} {next : α → Logged ω ε β}
    {written : List ω} {value : β} :
    (lift run >>= next).Returns written value ↔
      ∃ middle, run = .ok middle ∧ (next middle).Returns written value := by
  rw [returns_bind_iff]
  constructor
  · rintro ⟨middle, _, back, ⟨hrun, rfl⟩, hback, rfl⟩
    exact ⟨middle, hrun, hback⟩
  · rintro ⟨middle, hrun, hback⟩
    exact ⟨middle, [], written, ⟨hrun, rfl⟩, hback, rfl⟩

/-! ## Computations that fail -/

def Stops (run : Logged ω ε α) (error : ε) : Prop :=
  run.result = .error error

theorem stops_bind_iff {first : Logged ω ε α} {next : α → Logged ω ε β}
    {error : ε} :
    (first >>= next).Stops error ↔ first.Stops error ∨
      ∃ middle, first.result = .ok middle ∧ (next middle).Stops error := by
  show (first.bind next).Stops error ↔ _
  unfold Logged.bind Stops
  cases first.result with
  | error other => simp
  | ok middle => simp

theorem not_stops_pure (value : α) (error : ε) :
    ¬ (pure value : Logged ω ε α).Stops error := nofun

theorem stops_writeAll_bind_iff {messages : List ω}
    {next : Unit → Logged ω ε β} {error : ε} :
    (writeAll messages >>= next).Stops error ↔ (next ()).Stops error :=
  Iff.rfl

theorem stops_write_bind_iff {message : ω} {next : Unit → Logged ω ε β}
    {error : ε} :
    (write message >>= next).Stops error ↔ (next ()).Stops error :=
  Iff.rfl

/-! ## What is true of all that is written -/

def Only (run : Logged ω ε α) (p : ω → Prop) : Prop :=
  ∀ message ∈ run.written, p message

theorem only_bind_iff {first : Logged ω ε α} {next : α → Logged ω ε β}
    {p : ω → Prop} :
    (first >>= next).Only p ↔ first.Only p ∧
      ∀ value, first.result = .ok value → (next value).Only p := by
  show (first.bind next).Only p ↔ _
  unfold Logged.bind Only
  cases first.result with
  | error error => simp
  | ok middle =>
      simp only [List.mem_append, or_imp, forall_and, Except.ok.injEq,
        forall_eq']

theorem only_pure (value : α) (p : ω → Prop) :
    (pure value : Logged ω ε α).Only p :=
  fun _ hmessage => absurd hmessage List.not_mem_nil

theorem only_lift (run : Except ε α) (p : ω → Prop) : (lift run).Only p :=
  fun _ hmessage => absurd hmessage List.not_mem_nil

theorem only_write_iff {message : ω} {p : ω → Prop} :
    (write message : Logged ω ε Unit).Only p ↔ p message :=
  List.forall_mem_singleton

end Logged

end LoggedExcept
