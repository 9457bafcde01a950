import MoveClient.Error

/-!
Programs that may fail and have a state.

Owns:
- how such a program runs, part by part;
- `Yields`, which says of whatever a program gives that it has a property.

Does not own: what the states are.
-/

namespace MoveClient

/-! ## Parts of a program -/

section Runs

variable {σ α β : Type} {first : ExceptT Error (StateM σ) α}

/-- A program goes on with what its first part gives. -/
theorem run_bind_of_ok
    {next : α → ExceptT Error (StateM σ) β}
    {state middle : σ}
    {value : α}
    (ran : first.run.run state = (.ok value, middle)) :
    (first >>= next).run.run state = (next value).run.run middle := by
  rw [ExceptT.run_bind, StateT.run_bind, ran]
  rfl

/-- A program that fails in its first part fails. -/
theorem run_bind_of_error
    {next : α → ExceptT Error (StateM σ) β}
    {state middle : σ}
    {error : Error}
    (ran : first.run.run state = (.error error, middle)) :
    (first >>= next).run.run state = (.error error, middle) := by
  rw [ExceptT.run_bind, StateT.run_bind, ran]
  rfl

end Runs

/-! ## What a program gives -/

/-- Whatever the program gives, in whatever state it is run, has the property. -/
def Yields
    {σ α : Type}
    (program : ExceptT Error (StateM σ) α)
    (Has : α → Prop) : Prop :=
  ∀ state value after, program.run.run state = (.ok value, after) → Has value

namespace Yields

variable {σ α β : Type} {Has : β → Prop}

theorem bind
    {first : ExceptT Error (StateM σ) α}
    {next : α → ExceptT Error (StateM σ) β}
    (yields : ∀ value, Yields (next value) Has) :
    Yields (first >>= next) Has := by
  intro state result after resultEq
  rw [ExceptT.run_bind, StateT.run_bind] at resultEq
  cases ran : first.run.run state with
  | mk outcome middle =>
      cases outcome with
      | error error =>
          rw [ran] at resultEq
          cases resultEq
      | ok value =>
          rw [ran] at resultEq
          exact yields value middle result after resultEq

theorem ofExcept
    {computed : Except Error β}
    (has : ∀ value, computed = .ok value → Has value) :
    Yields (MonadExcept.ofExcept computed : ExceptT Error (StateM σ) β) Has := by
  intro state result after resultEq
  cases computed with
  | error error => cases resultEq
  | ok value =>
      cases resultEq
      exact has _ rfl

theorem throw (error : Error) : Yields (throw error : ExceptT Error (StateM σ) β) Has := by
  intro state result after resultEq
  cases resultEq

end Yields

end MoveClient
