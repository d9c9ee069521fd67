import FoodDispatch.Library.Exchanges

/-! Programs that raise without a trace. `Still` programs never change the state;
`Clean` ones leave it as it was whenever they raise. A clean program may start with
a still one, and end with one that only returns. -/
namespace FoodDispatch.Library.Program

section
variable {Call : Type} {Reply : Call → Type} {Error α β σ : Type}
variable (handle : (request : Call) → σ → Except Error (Reply request) × σ)

def Still (program : Program Call Reply Error α) : Prop :=
  ∀ state, (run handle program state).2 = state

def Clean (program : Program Call Reply Error α) : Prop :=
  ∀ state error next, run handle program state = (.error error,next) → next = state

variable {handle}

theorem Still.clean {program : Program Call Reply Error α} (still : program.Still handle) :
    program.Clean handle := by
  intro state error next raised
  rw [← still state,raised]

theorem still_only {allowed : Call → Prop} {post : Unit → Except Error α → Prop}
    {program : Program Call Reply Error α} (obeys : program.Obeys (only allowed) post ())
    (quiet : ∀ request, allowed request → ∀ state, (handle request state).2 = state) :
    program.Still handle := by
  induction program with
  | done result => exact fun _ => rfl
  | call request next ih =>
    intro state
    have unchanged := quiet request obeys.1 state
    exact (ih _ (obeys.2 _ trivial) _).trans unchanged

theorem Still.bind_clean {program : Program Call Reply Error α}
    {rest : α → Program Call Reply Error β} (still : program.Still handle)
    (clean : ∀ value, (rest value).Clean handle) : (program >>= rest).Clean handle := by
  intro state error next raised
  have same := still state
  rw [run_bind] at raised
  rcases outcome : run handle program state with ⟨failure | value,middle⟩
  · rw [outcome] at raised same
    cases raised
    exact same
  · rw [outcome] at raised same
    exact (clean value middle error next raised).trans same

theorem Clean.bind_pure {program : Program Call Reply Error α} (clean : program.Clean handle)
    (value : β) : (program >>= fun _ => pure value).Clean handle := by
  intro state error next raised
  rw [run_bind] at raised
  rcases outcome : run handle program state with ⟨failure | returned,middle⟩
  · rw [outcome] at raised
    cases raised
    exact clean state error next outcome
  · rw [outcome] at raised
    cases raised

end
end FoodDispatch.Library.Program
