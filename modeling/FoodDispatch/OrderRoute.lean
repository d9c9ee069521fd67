import FoodDispatch.Failures

/-! `POST /orders`. One `try` covers the insert, the commit, the re-read and the
response, so an answer of 500 says that no order was created only when the failure
came before the commit. -/
namespace FoodDispatch
open Library
open Library.Program

def DispatchStatus.value : DispatchStatus → String
  | .pending => "pending"
  | .holding => "holding"
  | .assigned => "assigned"
  | .pickedUp => "picked_up"
  | .delivered => "delivered"
  | .cancelled => "cancelled"

structure OrderResponse where
  restaurantId : UUID
  customerId : UUID
  dispatchStatus : String
  predictedReadyAt : ℤ
  assignedDriverId : Option UUID
  assignedAt : Option ℤ

def OrderResponse.modelValidate (order : Order) : OrderResponse :=
  ⟨order.restaurantId,order.customerId,order.dispatchStatus.value,order.predictedReadyAt,
    order.assignedDriverId,order.assignedAt⟩

inductive Answer where
  | created (response : OrderResponse)
  | internalServerError (detail : String)

def Answer.statusCode : Answer → ℕ
  | .created _ => 201
  | .internalServerError _ => 500

/-- `create_order_route`; `building` is what building the response raises, if it
does. The rollback in `get_db` comes after a commit that was done or undone, and
has nothing left to undo. -/
def createOrderRoute (settings : Settings) (id : UUID) (payload : OrderCreateRequest)
    (building : Option PyException) : Program Answer :=
  (createOrder settings id payload >>= fun order =>
    match building with
    | some error => raise error
    | none => return .created (.modelValidate order)).tryExcept
      (fun _ => return .internalServerError "Order creation failed.")

/-- A request with the id its row will get, and what happens to it on the way. -/
structure OrderRequest where
  id : UUID
  payload : OrderCreateRequest
  env : Surroundings
  fails : Call → Option PyException
  building : Option PyException

namespace OrderRequest

def serve (settings : Settings) (request : OrderRequest) (db : Database) : Answer × Database :=
  match request.env.runFailing request.fails
    (createOrderRoute settings request.id request.payload request.building) db with
  | (.ok answer,next) => (answer,next)
  | (.error _,next) => (.internalServerError "Internal Server Error",next)

def serveAll (settings : Settings) : List OrderRequest → Database → List Answer × Database
  | [], db => ([],db)
  | request::rest, db =>
    let (answer,next) := request.serve settings db
    let (answers,last) := serveAll settings rest next
    (answer::answers,last)

variable (settings : Settings) (request : OrderRequest) (db : Database)

def commitCall : Call :=
  .commitOrder request.id request.payload
    (PrepEstimator.readyAt settings (request.env.clock .creation))

/-- Nothing on the way to the commit raises, and the id is free. -/
structure Commits : Prop where
  clock : request.fails (.now .creation) = none
  ready : PrepEstimator.ReadyInRange settings (request.env.clock .creation)
  commit : request.fails (request.commitCall settings) = none
  fresh : request.id ∉ db.orders.keys

/-- Nothing after the commit raises. -/
structure Answerable : Prop where
  refresh : request.fails (.refreshOrder request.id) = none
  building : request.building = none

/-- Rows count the requests answered 201, and a 500 leaves the orders as they were. -/
structure AllOrNothing (requests : List OrderRequest) : Prop where
  counted : ∀ served rest, requests = served ++ rest →
    (serveAll settings served db).2.orders.rows.length = db.orders.rows.length +
      (serveAll settings served db).1.countP (fun answer => answer.statusCode = 201)
  unchanged : ∀ served request rest, requests = served ++ request::rest →
    (serve settings request (serveAll settings served db).2).1.statusCode = 500 →
      (serve settings request (serveAll settings served db).2).2.orders =
        (serveAll settings served db).2.orders

variable {settings request db}

theorem commit_fresh {id : UUID} (fresh : id ∉ db.orders.keys) (payload : OrderCreateRequest)
    (ready : ℤ) : ∃ next,
      Call.commit (Transaction.commitOrder id payload ready) db = (.ok (),next) ∧
        next.orders.rows = db.orders.rows ++ [Order.new id payload ready] := by
  have holds : Constraints db.drivers (db.orders.insert (Order.new id payload ready) fresh) := by
    refine ⟨db.constraints.phones,?_,?_⟩
    · intro driver member order current
      have known := db.constraints.currentOrder driver member order current
      obtain ⟨row,present,same⟩ := Table.mem_keys.mp known
      exact Table.mem_keys.mpr ⟨row,Table.mem_insert.mpr (Or.inl present),same⟩
    · intro order member driver assigned
      rcases Table.mem_insert.mp member with known | new
      · exact db.constraints.assignedDriver order known driver assigned
      · subst new
        contradiction
  refine ⟨⟨_,_,holds⟩,?_,rfl⟩
  unfold Call.commit Transaction.commitOrder Transaction.insertOrder
  have unknown : (Order.new id payload ready).id ∉ db.orders.keys := fresh
  rw [dif_pos unknown,Transaction.check_of _ _ holds]

theorem commit_taken {id : UUID} {payload : OrderCreateRequest} {ready : ℤ}
    (taken : id ∈ db.orders.keys) :
    Call.commit (Transaction.commitOrder id payload ready) db = (.error .integrityError,db) := by
  unfold Call.commit Transaction.commitOrder Transaction.insertOrder
  have known : ¬(Order.new id payload ready).id ∉ db.orders.keys := not_not_intro taken
  rw [dif_neg known]

theorem refresh_known {id : UUID} (known : id ∈ db.orders.keys) :
    ∃ row, Call.commit (Transaction.refreshOrder id) db = (.ok row,db) := by
  obtain ⟨row,present,same⟩ := Table.mem_keys.mp known
  unfold Call.commit Transaction.refreshOrder
  cases found : db.orders.find? id with
  | some row => exact ⟨row,rfl⟩
  | none =>
    have missed := List.find?_eq_none.mp found row present
    simp [same] at missed

theorem run_createOrder (settings : Settings) (request : OrderRequest) (db : Database) :
    request.env.runFailing request.fails (createOrder settings request.id request.payload) db =
      match request.fails (.now .creation) with
      | some error => (.error error,db)
      | none =>
        if PrepEstimator.ReadyInRange settings (request.env.clock .creation) then
          match request.env.handleFailing request.fails (request.commitCall settings) db with
          | (.error error,next) => (.error error,next)
          | (.ok _,next) => request.env.handleFailing request.fails (.refreshOrder request.id) next
        else (.error .overflowError,db) := by
  rw [createOrder_predicted]
  unfold Surroundings.runFailing
  rw [run_bind,run_perform]
  cases clock : request.fails (.now .creation) with
  | some error => simp [Surroundings.handleFailing,clock]
  | none =>
    have read : request.env.handleFailing request.fails (.now .creation) db =
        (.ok (request.env.clock .creation),db) := by
      simp [Surroundings.handleFailing,clock,Surroundings.handle]
    rw [read]
    dsimp only
    unfold predicted
    split
    · rw [run_bind,run_perform]
      unfold commitCall
      rcases request.env.handleFailing request.fails (.commitOrder request.id request.payload
        (PrepEstimator.readyAt settings (request.env.clock .creation))) db with
          ⟨error | value,next⟩ <;> rfl
    · rfl

theorem serve_error {error : PyException} {next : Database}
    (failed : request.env.runFailing request.fails
      (createOrder settings request.id request.payload) db = (.error error,next)) :
    request.serve settings db = (.internalServerError "Order creation failed.",next) := by
  unfold Surroundings.runFailing at failed
  unfold serve Surroundings.runFailing createOrderRoute
  rw [run_tryExcept,run_bind_error _ failed]
  rfl

theorem serve_ok {order : Order} {next : Database}
    (returned : request.env.runFailing request.fails
      (createOrder settings request.id request.payload) db = (.ok order,next)) :
    request.serve settings db = match request.building with
      | some _ => (.internalServerError "Order creation failed.",next)
      | none => (.created (.modelValidate order),next) := by
  unfold Surroundings.runFailing at returned
  unfold serve Surroundings.runFailing createOrderRoute
  rw [run_tryExcept,run_bind_ok _ returned]
  cases request.building <;> rfl

/-- The three ways a request may go: created, refused with nothing done, and
created but answered with a failure. -/
inductive Served (settings : Settings) (request : OrderRequest) (db : Database) : Prop
  | created (commits : request.Commits settings db) (answerable : request.Answerable)
      (status : (request.serve settings db).1.statusCode = 201)
      (rows : (request.serve settings db).2.orders.rows.length = db.orders.rows.length + 1)
  | refused (uncommitted : ¬request.Commits settings db)
      (status : (request.serve settings db).1.statusCode = 500)
      (same : (request.serve settings db).2 = db)
  | denied (commits : request.Commits settings db) (unanswerable : ¬request.Answerable)
      (status : (request.serve settings db).1.statusCode = 500)
      (rows : (request.serve settings db).2.orders.rows.length = db.orders.rows.length + 1)

theorem served_refused {error : PyException} (uncommitted : ¬request.Commits settings db)
    (failed : request.env.runFailing request.fails
      (createOrder settings request.id request.payload) db = (.error error,db)) :
    Served settings request db := by
  have answered := serve_error failed
  exact .refused uncommitted (by rw [answered]; rfl) (by rw [answered])

theorem handle_commitCall (settings : Settings) (db : Database)
    (clock : request.fails (.now .creation) = none)
    (ready : PrepEstimator.ReadyInRange settings (request.env.clock .creation)) :
    (¬request.Commits settings db ∧ ∃ error, request.env.handleFailing request.fails
      (request.commitCall settings) db = (.error error,db)) ∨
    (request.Commits settings db ∧ ∃ next, request.env.handleFailing request.fails
      (request.commitCall settings) db = (.ok (),next) ∧
        next.orders.rows.length = db.orders.rows.length + 1 ∧ request.id ∈ next.orders.keys) := by
  unfold Surroundings.handleFailing
  cases commit : request.fails (request.commitCall settings) with
  | some error =>
    refine Or.inl ⟨fun commits => ?_,error,rfl⟩
    simp [commits.commit] at commit
  | none =>
    by_cases taken : request.id ∈ db.orders.keys
    · exact Or.inl ⟨fun commits => commits.fresh taken,.integrityError,commit_taken taken⟩
    · obtain ⟨next,done,rows⟩ := commit_fresh taken request.payload
        (PrepEstimator.readyAt settings (request.env.clock .creation))
      refine Or.inr ⟨⟨clock,ready,commit,taken⟩,next,done,by rw [rows,List.length_append]; rfl,?_⟩
      exact Table.mem_keys.mpr ⟨_,by rw [rows]; exact List.mem_append_right _ (List.mem_singleton_self _),rfl⟩

theorem served_committed {next : Database} (commits : request.Commits settings db)
    (ran : request.env.runFailing request.fails
      (createOrder settings request.id request.payload) db =
        request.env.handleFailing request.fails (.refreshOrder request.id) next)
    (rows : next.orders.rows.length = db.orders.rows.length + 1)
    (known : request.id ∈ next.orders.keys) : Served settings request db := by
  cases refresh : request.fails (.refreshOrder request.id) with
  | some error =>
    have failed : request.env.runFailing request.fails
        (createOrder settings request.id request.payload) db = (.error error,next) := by
      rw [ran]
      simp [Surroundings.handleFailing,refresh]
    have answered := serve_error failed
    refine .denied commits (fun answerable => ?_) (by rw [answered]; rfl) (by rw [answered,rows])
    simp [answerable.refresh] at refresh
  | none =>
    obtain ⟨row,read⟩ := refresh_known known
    have returned : request.env.runFailing request.fails
        (createOrder settings request.id request.payload) db = (.ok row,next) := by
      rw [ran]
      unfold Surroundings.handleFailing
      rw [refresh]
      exact read
    have answered := serve_ok returned
    cases building : request.building with
    | some error =>
      rw [building] at answered
      refine .denied commits (fun answerable => ?_) (by rw [answered]; rfl) (by rw [answered,rows])
      simp [answerable.building] at building
    | none =>
      rw [building] at answered
      exact .created commits ⟨refresh,building⟩ (by rw [answered]; rfl) (by rw [answered,rows])

theorem served (settings : Settings) (request : OrderRequest) (db : Database) :
    Served settings request db := by
  have ran := run_createOrder settings request db
  cases clock : request.fails (.now .creation) with
  | some error =>
    rw [clock] at ran
    exact served_refused (fun commits => by simp [commits.clock] at clock) ran
  | none =>
    rw [clock] at ran
    dsimp only at ran
    by_cases ready : PrepEstimator.ReadyInRange settings (request.env.clock .creation)
    · rw [if_pos ready] at ran
      rcases handle_commitCall settings db clock ready with
        ⟨uncommitted,error,failed⟩ | ⟨commits,next,done,rows,known⟩
      · rw [failed] at ran
        exact served_refused uncommitted ran
      · rw [done] at ran
        exact served_committed commits ran rows known
    · rw [if_neg ready] at ran
      exact served_refused (fun commits => ready commits.ready) ran

theorem serveAll_cons (request : OrderRequest) (rest : List OrderRequest) (db : Database) :
    serveAll settings (request::rest) db =
      ((request.serve settings db).1::(serveAll settings rest (request.serve settings db).2).1,
        (serveAll settings rest (request.serve settings db).2).2) := rfl

theorem counted_of_answerable (requests : List OrderRequest) (db : Database)
    (answerable : ∀ served request rest, requests = served ++ request::rest →
      request.Commits settings (serveAll settings served db).2 → request.Answerable) :
    (serveAll settings requests db).2.orders.rows.length = db.orders.rows.length +
      (serveAll settings requests db).1.countP (fun answer => answer.statusCode = 201) := by
  induction requests generalizing db with
  | nil => rfl
  | cons request rest ih =>
    have later := ih (request.serve settings db).2 (fun first other after located commits =>
      answerable (request::first) other after (by rw [located]; rfl) commits)
    rw [serveAll_cons,List.countP_cons,later]
    cases served settings request db with
    | created commits answerable status rows =>
      rw [rows]
      simp only [status,decide_true,if_true]
      omega
    | refused uncommitted status same =>
      rw [same]
      simp [status]
    | denied commits unanswerable status rows =>
      exact absurd (answerable [] request rest rfl commits) unanswerable

/-- Creation is all or nothing exactly when nothing raises after a commit. -/
theorem allOrNothing_iff (settings : Settings) (requests : List OrderRequest) (db : Database) :
    AllOrNothing settings db requests ↔
      ∀ served request rest, requests = served ++ request::rest →
        request.Commits settings (serveAll settings served db).2 → request.Answerable := by
  constructor
  · intro whole first request rest located commits
    have kept := whole.unchanged first request rest located
    cases served settings request (serveAll settings first db).2 with
    | created _ answerable _ _ => exact answerable
    | refused uncommitted _ _ => exact absurd commits uncommitted
    | denied _ _ status rows =>
      rw [kept status] at rows
      omega
  · intro answerable
    constructor
    · intro first rest located
      apply counted_of_answerable
      intro earlier request others split commits
      exact answerable earlier request (others ++ rest)
        (by rw [located,split,List.append_assoc]; rfl) commits
    · intro first request rest located status
      cases served settings request (serveAll settings first db).2 with
      | created _ _ accepted _ =>
        rw [accepted] at status
        contradiction
      | refused _ _ same => rw [same]
      | denied commits unanswerable _ _ =>
        exact absurd (answerable first request rest located commits) unanswerable

/-- The connection is lost between the commit and the re-read. -/
def lostRefresh : OrderRequest :=
  ⟨Sample.id 3,Sample.payload,Sample.surroundings (fun _ _ => .success 60 1000),
    fun call => match call with
      | .refreshOrder _ => some (.other "ConnectionDoesNotExistError")
      | _ => none,none⟩

/-- The request is answered 500, and its order is in the table. -/
theorem lostRefresh_created : ¬∀ (settings : Settings) (requests : List OrderRequest),
    AllOrNothing settings Database.empty requests := by
  intro claimed
  have counted := (claimed {} [lostRefresh]).counted [lostRefresh] [] rfl
  have rows : (serveAll {} [lostRefresh] Database.empty).2.orders.rows.length = 1 := by
    decide +kernel
  have answered : (serveAll {} [lostRefresh] Database.empty).1.countP
      (fun answer => answer.statusCode = 201) = 0 := by
    decide +kernel
  rw [rows,answered] at counted
  exact absurd counted (by decide)

end OrderRequest
end FoodDispatch
