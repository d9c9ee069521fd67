import FoodDispatch.Library.Monitor

/-! The exchanges of a sequential run: every call it makes, in order, with the
reply and the states around it. -/
namespace FoodDispatch.Library

structure Exchange (Call : Type) (Reply : Call → Type) (Error σ : Type) where
  request : Call
  before : σ
  reply : Except Error (Reply request)
  after : σ

namespace Program
variable {Call : Type} {Reply : Call → Type} {Error α β σ : Type}

section
variable (handle : (request : Call) → σ → Except Error (Reply request) × σ)

def exchanges : Program Call Reply Error α → σ → List (Exchange Call Reply Error σ)
  | .done _, _ => []
  | .call request next, state =>
    ⟨request,state,(handle request state).1,(handle request state).2⟩ ::
      exchanges (next (handle request state).1) (handle request state).2

@[simp] theorem exchanges_perform (request : Call) (state : σ) :
    exchanges handle (perform request : Program Call Reply Error _) state =
      [⟨request,state,(handle request state).1,(handle request state).2⟩] := rfl

theorem exchanges_bind (program : Program Call Reply Error α)
    (rest : α → Program Call Reply Error β) (state : σ) :
    exchanges handle (program >>= rest) state = exchanges handle program state ++
      match run handle program state with
      | (.ok value,middle) => exchanges handle (rest value) middle
      | (.error _,_) => [] := by
  induction program generalizing state with
  | done result => cases result <;> rfl
  | call request next ih => exact congrArg (_ :: ·) (ih _ _)

theorem exchanges_tryExcept (program : Program Call Reply Error α)
    (handler : Error → Program Call Reply Error α) (state : σ) :
    exchanges handle (program.tryExcept handler) state = exchanges handle program state ++
      match run handle program state with
      | (.ok _,_) => []
      | (.error error,middle) => exchanges handle (handler error) middle := by
  induction program generalizing state with
  | done result => cases result <;> rfl
  | call request next ih => exact congrArg (_ :: ·) (ih _ _)

end

theorem exchanges_after (handle : (request : Call) → σ → Except Error (Reply request) × σ)
    (program : Program Call Reply Error α) (state : σ) :
    ∀ exchange ∈ exchanges handle program state,
      exchange.after = (handle exchange.request exchange.before).2 := by
  induction program generalizing state with
  | done result => simp [exchanges]
  | call request next ih =>
    intro exchange member
    rcases List.mem_cons.mp member with rfl | later
    · rfl
    · exact ih _ _ exchange later

/-- A run whose every call has only `effect` ends in the effects of its calls. -/
theorem run_foldl {handle : (request : Call) → σ → Except Error (Reply request) × σ}
    {effect : Call → σ → σ} {program : Program Call Reply Error α} {state : σ}
    (each : ∀ exchange ∈ exchanges handle program state,
      exchange.after = effect exchange.request exchange.before) :
    (run handle program state).2 = (exchanges handle program state).foldl
      (fun reached exchange => effect exchange.request reached) state := by
  induction program generalizing state with
  | done result => rfl
  | call request next ih =>
    have head : (handle request state).2 = effect request state := each _ (List.mem_cons_self ..)
    have later := ih (handle request state).1
      (fun exchange member => each exchange (List.mem_cons_of_mem _ member))
    unfold run exchanges
    rw [List.foldl_cons,later,head]

/-- The monitor of programs that make no other calls than `allowed` ones. -/
def only (allowed : Call → Prop) : Monitor Call Reply Error Unit where
  allows _ request := allowed request
  expects _ _ := True
  after _ _ _ := ()

theorem exchanges_only {allowed : Call → Prop} {post : Unit → Except Error α → Prop}
    {program : Program Call Reply Error α} (obeys : program.Obeys (only allowed) post ())
    (handle : (request : Call) → σ → Except Error (Reply request) × σ) (state : σ) :
    ∀ exchange ∈ exchanges handle program state, allowed exchange.request := by
  induction program generalizing state with
  | done result => simp [exchanges]
  | call request next ih =>
    intro exchange member
    rcases List.mem_cons.mp member with rfl | later
    · exact obeys.1
    · exact ih _ (obeys.2 _ trivial) _ exchange later

/-- Calls that a monitor always allows need no watching. -/
theorem obeys_of_only {Ghost : Type} {monitor : Monitor Call Reply Error Ghost}
    {allowed : Call → Prop} {post : Unit → Except Error α → Prop}
    {program : Program Call Reply Error α} (obeys : program.Obeys (only allowed) post ())
    (free : ∀ ghost request, allowed request → monitor.allows ghost request) (ghost : Ghost) :
    program.Obeys monitor (fun _ _ => True) ghost := by
  induction program generalizing ghost with
  | done result => exact trivial
  | call request next ih =>
    exact ⟨free ghost request obeys.1,fun reply _ => ih reply (obeys.2 reply trivial) _⟩

end Program
end FoodDispatch.Library
