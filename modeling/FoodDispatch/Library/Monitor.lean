import FoodDispatch.Library.Program

/-! Ghost-state monitors. A monitor says which calls a program may make after
the replies it has had so far; `Obeys` is the weakest precondition under which
a program keeps to it, and has one rule for each way programs are composed. -/
namespace FoodDispatch.Library

/-- `expects` restricts the replies a program has to cope with to those its
surroundings can give. -/
structure Monitor (Call : Type) (Reply : Call → Type) (Error Ghost : Type) where
  allows : Ghost → Call → Prop
  expects : (request : Call) → Except Error (Reply request) → Prop
  after : Ghost → (request : Call) → Except Error (Reply request) → Ghost

namespace Program
variable {Call : Type} {Reply : Call → Type} {Error Ghost α β : Type}

def Obeys (monitor : Monitor Call Reply Error Ghost) (post : Ghost → Except Error α → Prop) :
    Program Call Reply Error α → Ghost → Prop
  | .done result, ghost => post ghost result
  | .call request next, ghost => monitor.allows ghost request ∧
      ∀ reply, monitor.expects request reply →
        (next reply).Obeys monitor post (monitor.after ghost request reply)

variable {monitor : Monitor Call Reply Error Ghost}

/-- What holds when a program returns, and what when it raises. -/
def outcome (returned : Ghost → α → Prop) (raised : Ghost → Prop) (ghost : Ghost) :
    Except Error α → Prop
  | .ok value => returned ghost value
  | .error _ => raised ghost

theorem obeys_mono {post weaker : Ghost → Except Error α → Prop}
    {program : Program Call Reply Error α} {ghost : Ghost} (obeys : program.Obeys monitor post ghost)
    (implies : ∀ ghost result, post ghost result → weaker ghost result) :
    program.Obeys monitor weaker ghost := by
  induction program generalizing ghost with
  | done result => exact implies _ _ obeys
  | call request next ih =>
    exact ⟨obeys.1,fun reply expected => ih reply (obeys.2 reply expected)⟩

theorem obeys_bind {post : Ghost → Except Error β → Prop}
    {middle : Ghost → Except Error α → Prop} {program : Program Call Reply Error α}
    {rest : α → Program Call Reply Error β} {ghost : Ghost}
    (first : program.Obeys monitor middle ghost)
    (second : ∀ ghost value, middle ghost (.ok value) → (rest value).Obeys monitor post ghost)
    (raised : ∀ ghost error, middle ghost (.error error) → post ghost (.error error)) :
    (program >>= rest).Obeys monitor post ghost := by
  induction program generalizing ghost with
  | done result =>
    cases result with
    | ok value => exact second _ _ first
    | error error => exact raised _ _ first
  | call request next ih =>
    exact ⟨first.1,fun reply expected => ih reply (first.2 reply expected)⟩

theorem obeys_tryExcept {post middle : Ghost → Except Error α → Prop}
    {program : Program Call Reply Error α} {handler : Error → Program Call Reply Error α}
    {ghost : Ghost} (first : program.Obeys monitor middle ghost)
    (returned : ∀ ghost value, middle ghost (.ok value) → post ghost (.ok value))
    (caught : ∀ ghost error, middle ghost (.error error) →
      (handler error).Obeys monitor post ghost) :
    (program.tryExcept handler).Obeys monitor post ghost := by
  induction program generalizing ghost with
  | done result =>
    cases result with
    | ok value => exact returned _ _ first
    | error error => exact caught _ _ first
  | call request next ih =>
    exact ⟨first.1,fun reply expected => ih reply (first.2 reply expected)⟩

/-- Every result the program may come to, whatever it is answered, is in `told`. -/
def Yields (told : Except Error α → Prop) : Program Call Reply Error α → Prop
  | .done result => told result
  | .call _ next => ∀ reply, (next reply).Yields told

theorem yields_bind {told : Except Error β → Prop} {middle : Except Error α → Prop}
    {program : Program Call Reply Error α} {rest : α → Program Call Reply Error β}
    (first : program.Yields middle) (second : ∀ value, middle (.ok value) → (rest value).Yields told)
    (raised : ∀ error, middle (.error error) → told (.error error)) :
    (program >>= rest).Yields told := by
  induction program with
  | done result =>
    cases result with
    | ok value => exact second value first
    | error error => exact raised error first
  | call request next ih => exact fun reply => ih reply (first reply)

theorem obeys_yields {post : Ghost → Except Error α → Prop} {told : Except Error α → Prop}
    {program : Program Call Reply Error α} {ghost : Ghost} (obeys : program.Obeys monitor post ghost)
    (yields : program.Yields told) :
    program.Obeys monitor (fun ghost result => post ghost result ∧ told result) ghost := by
  induction program generalizing ghost with
  | done result => exact ⟨obeys,yields⟩
  | call request next ih =>
    exact ⟨obeys.1,fun reply expected => ih reply (obeys.2 reply expected) (yields reply)⟩

/-- A loop keeps to the monitor when `invariant`, indexed by the items that are
still to come, carries its body from each item to the next. -/
theorem obeys_forEach {Item : Type} {post : Ghost → Except Error Unit → Prop}
    {body : Item → Program Call Reply Error Unit} (invariant : List Item → Ghost → Prop)
    (items : List Item) {ghost : Ghost} (enter : invariant items ghost)
    (step : ∀ item rest ghost, invariant (item::rest) ghost →
      (body item).Obeys monitor (fun ghost result => match result with
        | .ok _ => invariant rest ghost
        | .error error => post ghost (.error error)) ghost)
    (leave : ∀ ghost, invariant [] ghost → post ghost (.ok ())) :
    (forEach items body).Obeys monitor post ghost := by
  induction items generalizing ghost with
  | nil => exact leave _ enter
  | cons item rest ih =>
    exact obeys_bind (step item rest ghost enter) (fun _ _ reached => ih reached)
      (fun _ _ raised => raised)

end Program
end FoodDispatch.Library
