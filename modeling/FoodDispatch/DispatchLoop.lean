import FoodDispatch.ScoringEngine

/-! The dispatch loop: one tick fetches the actionable orders and takes each of
them through the gate, to a hold or to the scoring engine. Readings of the clock
that only reach a log line are left out. -/
namespace FoodDispatch.DispatchLoop
open Library
open Library.Program (perform lift forEach run run_bind_ok run_tryExcept)

/-- `_apply_hold`; the status it looks at is that of the fetched copy. -/
def applyHold (order : Order) : Program Unit :=
  if order.dispatchStatus = .holding then return () else perform (Call.applyHold order.id)

/-- What `_process_order` does under its `try`. -/
def evaluate (settings : Settings) (order : Order) : Program Unit := do
  let now : ℤ ← perform (Call.now (.gate order.id))
  let _ ← lift
    (PrepEstimator.minutesUntilReady Double.round (.utc order.predictedReadyAt) (.utc now))
  let within ← lift (PrepEstimator.isWithinDispatchWindow Double.round settings
    (.utc order.predictedReadyAt) (.utc now))
  if within then do
    let _ ← ScoringEngine.assignBestDriver settings order
    return ()
  else applyHold order

def processOrder (settings : Settings) (order : Order) : Program Unit :=
  (evaluate settings order).tryExcept (fun _ => return ())

/-- What `run_dispatch_tick` does under its `try`. -/
def tick (settings : Settings) : Program Unit := do
  let orders : List Order ← perform Call.fetchActionableOrders
  forEach orders (processOrder settings)

def runDispatchTick (settings : Settings) : Program Unit :=
  (tick settings).tryExcept (fun _ => return ())

/-- `evaluate` after its first reading of the clock. -/
def decided (settings : Settings) (order : Order) (now : ℤ) : Program Unit :=
  if decide (PrepEstimator.WindowOpen settings order.predictedReadyAt now) then
    ScoringEngine.assignBestDriver settings order >>= fun _ => pure ()
  else applyHold order

theorem evaluate_decided (settings : Settings) (order : Order) :
    evaluate settings order = perform (Call.now (.gate order.id)) >>= decided settings order := by
  unfold evaluate decided
  simp only [PrepEstimator.minutesUntilReady_utc,PrepEstimator.isWithinDispatchWindow_utc]
  rfl

section
variable {σ : Type} (handle : (request : Call) → σ → Except PyException (Reply request) × σ)
variable (settings : Settings)

theorem run_processOrder (order : Order) (state : σ) :
    run handle (processOrder settings order) state =
      (.ok (),(run handle (evaluate settings order) state).2) := by
  unfold processOrder
  rw [run_tryExcept]
  rcases run handle (evaluate settings order) state with ⟨error | value,next⟩ <;> rfl

theorem run_forEach_cons (order : Order) (rest : List Order) (state : σ) :
    run handle (forEach (order::rest) (processOrder settings)) state =
      run handle (forEach rest (processOrder settings))
        (run handle (evaluate settings order) state).2 :=
  run_bind_ok handle (run_processOrder handle settings order state)

theorem run_forEach_ok (orders : List Order) (state : σ) :
    (run handle (forEach orders (processOrder settings)) state).1 = .ok () := by
  induction orders generalizing state with
  | nil => rfl
  | cons order rest ih =>
    rw [run_forEach_cons]
    exact ih _

variable {handle}

theorem run_runDispatchTick_ok {orders : List Order} {state next : σ}
    (fetched : handle .fetchActionableOrders state = (.ok orders,next)) :
    run handle (runDispatchTick settings) state =
      (.ok (),(run handle (forEach orders (processOrder settings)) next).2) := by
  have ticking : run handle (tick settings) state =
      run handle (forEach orders (processOrder settings)) next := run_bind_ok handle fetched
  unfold runDispatchTick
  rw [run_tryExcept,ticking,
    ← Prod.eta (run handle (forEach orders (processOrder settings)) next),run_forEach_ok]

end
end FoodDispatch.DispatchLoop
