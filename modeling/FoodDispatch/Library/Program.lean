import Mathlib.Tactic.Common

/-! Programs that reach their surroundings only through calls, each of which
may come back with a value or with an exception. A program is the tree of all
its continuations, so one text has a sequential and an interleaved reading. -/
namespace FoodDispatch.Library

inductive Program (Call : Type) (Reply : Call → Type) (Error : Type) (α : Type) where
  | done (result : Except Error α)
  | call (request : Call)
      (next : Except Error (Reply request) → Program Call Reply Error α)

namespace Program
variable {Call : Type} {Reply : Call → Type} {Error α β σ : Type}

def bind (program : Program Call Reply Error α) (rest : α → Program Call Reply Error β) :
    Program Call Reply Error β :=
  match program with
  | .done (.ok value) => rest value
  | .done (.error error) => .done (.error error)
  | .call request next => .call request (fun reply => (next reply).bind rest)

instance : Monad (Program Call Reply Error) where
  pure value := .done (.ok value)
  bind := bind

def perform (request : Call) : Program Call Reply Error (Reply request) :=
  .call request .done

def raise (error : Error) : Program Call Reply Error α := .done (.error error)

def lift (result : Except Error α) : Program Call Reply Error α := .done result

/-- `try: program except Exception: handler`. -/
def tryExcept (program : Program Call Reply Error α)
    (handler : Error → Program Call Reply Error α) : Program Call Reply Error α :=
  match program with
  | .done (.ok value) => .done (.ok value)
  | .done (.error error) => handler error
  | .call request next => .call request (fun reply => (next reply).tryExcept handler)

/-- `for item in items: body(item)`. -/
def forEach {Item : Type} (items : List Item) (body : Item → Program Call Reply Error Unit) :
    Program Call Reply Error Unit :=
  match items with
  | [] => .done (.ok ())
  | item::rest => (body item).bind (fun _ => forEach rest body)

/-- The sequential reading: every call is answered by `handle` at once. -/
def run (handle : (request : Call) → σ → Except Error (Reply request) × σ) :
    Program Call Reply Error α → σ → Except Error α × σ
  | .done result, state => (result,state)
  | .call request next, state =>
    run handle (next (handle request state).1) (handle request state).2

variable (handle : (request : Call) → σ → Except Error (Reply request) × σ)

@[simp] theorem run_perform (request : Call) (state : σ) :
    run handle (perform request : Program Call Reply Error _) state = handle request state := rfl

theorem run_bind (program : Program Call Reply Error α)
    (rest : α → Program Call Reply Error β) (state : σ) :
    run handle (program >>= rest) state =
      match run handle program state with
      | (.ok value,middle) => run handle (rest value) middle
      | (.error error,middle) => (.error error,middle) := by
  induction program generalizing state with
  | done result => cases result <;> rfl
  | call request next ih => exact ih _ _

theorem run_bind_ok {program : Program Call Reply Error α}
    {rest : α → Program Call Reply Error β} {state middle : σ} {value : α}
    (returned : run handle program state = (.ok value,middle)) :
    run handle (program >>= rest) state = run handle (rest value) middle := by
  rw [run_bind,returned]

theorem run_bind_error {program : Program Call Reply Error α}
    {rest : α → Program Call Reply Error β} {state middle : σ} {error : Error}
    (raised : run handle program state = (.error error,middle)) :
    run handle (program >>= rest) state = (.error error,middle) := by
  rw [run_bind,raised]

theorem run_tryExcept (program : Program Call Reply Error α)
    (handler : Error → Program Call Reply Error α) (state : σ) :
    run handle (program.tryExcept handler) state =
      match run handle program state with
      | (.ok value,middle) => (.ok value,middle)
      | (.error error,middle) => run handle (handler error) middle := by
  induction program generalizing state with
  | done result => cases result <;> rfl
  | call request next ih => exact ih _ _

end Program
end FoodDispatch.Library
