import FoodDispatch.Library.Locking
import FoodDispatch.Transactions

/-! The row locks of the writers. Each transaction is the list of its statements, and
each statement takes the locks of PostgreSQL: what it writes it locks against other
writers, and what it newly refers to it locks against removal. Every writer locks
drivers along the seed list, and orders after drivers. -/
namespace FoodDispatch
open Library Transaction

inductive Row where
  | driver (id : UUID)
  | order (id : UUID)
  deriving DecidableEq

inductive RowLock where
  | forUpdate
  | noKeyUpdate
  | keyShare
  deriving DecidableEq

def RowLock.Conflicts : RowLock → RowLock → Prop
  | .keyShare, .keyShare => False
  | .keyShare, .noKeyUpdate => False
  | .noKeyUpdate, .keyShare => False
  | _, _ => True

instance (first second : RowLock) : Decidable (first.Conflicts second) := by
  cases first <;> cases second <;> unfold RowLock.Conflicts <;> infer_instance

inductive Statement where
  | selectForUpdate (driver : UUID)
  | assignDriver (driver order : UUID)
  | assignOrder (order driver : UUID) (now : ℤ)
  | holdOrder (order : UUID)
  | insertOrder (row : Order)
  | moveDriver (driver : UUID) (lat lng : Double) (now : ℤ)

namespace Statement

/-- `false` ends the transaction early. -/
def execute : Statement → Transaction Bool
  | .selectForUpdate driver => do
    let locked ← selectDriver (fun row => row.id = driver ∧ row.Available)
    return locked.isSome
  | .assignDriver driver order => do
    updateDrivers (fun row => row.id = driver) (Driver.assign order) (Driver.assign_id order)
    return true
  | .assignOrder order driver now => do
    updateOrders (fun row => row.id = order) (Order.assign driver now) (Order.assign_id driver now)
    return true
  | .holdOrder order => do
    updateOrders (fun row => row.id = order ∧ row.dispatchStatus = .pending) Order.hold Order.hold_id
    return true
  | .insertOrder row => do
    Transaction.insertOrder row
    return true
  | .moveDriver driver lat lng now => do
    updateDrivers (fun row => row.id = driver) (Driver.moveTo lat lng now)
      (Driver.moveTo_id lat lng now)
    return true

/-- Writing a foreign key locks the row it refers to; a row that is inserted is locked
like one that is updated. -/
def locks : Statement → List (Lock Row RowLock)
  | .selectForUpdate driver => [⟨.driver driver,.forUpdate⟩]
  | .assignDriver driver order => [⟨.driver driver,.noKeyUpdate⟩,⟨.order order,.keyShare⟩]
  | .assignOrder order driver _ => [⟨.order order,.noKeyUpdate⟩,⟨.driver driver,.keyShare⟩]
  | .holdOrder order => [⟨.order order,.noKeyUpdate⟩]
  | .insertOrder row => ⟨.order row.id,.noKeyUpdate⟩ ::
    row.assignedDriverId.toList.map (fun driver => ⟨.driver driver,.keyShare⟩)
  | .moveDriver driver _ _ _ => [⟨.driver driver,.noKeyUpdate⟩]

end Statement

def execute : List Statement → Transaction Bool
  | [] => return true
  | statement::rest => do
    let goesOn ← statement.execute
    if goesOn then execute rest else return false

inductive Writer where
  | assignment (order driver : UUID) (now : ℤ)
  | hold (order : UUID)
  | insertion (id : UUID) (payload : OrderCreateRequest) (predictedReadyAt : ℤ)
  | positions (now : ℤ) (states : List DriverState)

namespace Writer

def statements : Writer → List Statement
  | .assignment order driver now =>
    [.selectForUpdate driver,.assignDriver driver order,.assignOrder order driver now]
  | .hold order => [.holdOrder order]
  | .insertion id payload predictedReadyAt => [.insertOrder (Order.new id payload predictedReadyAt)]
  | .positions now states => states.map (fun state => .moveDriver state.dbId state.lat state.lng now)

def transaction : Writer → Transaction Unit
  | .assignment order driver now => do
    let _ ← attemptAtomicAssignment order driver now
    return ()
  | .hold order => applyHold order
  | .insertion id payload predictedReadyAt => commitOrder id payload predictedReadyAt
  | .positions now states => pushPositions now states

def locks (writer : Writer) : List (Lock Row RowLock) := writer.statements.flatMap Statement.locks

/-- A transaction that writes positions walks the whole seed list in its order. -/
def Walks (seeds : List UUID) : Writer → Prop
  | .positions _ states => states.map DriverState.dbId = seeds
  | _ => True

end Writer

theorem execute_cons {statement : Statement} {action : Transaction Unit}
    (written : statement.execute = action >>= fun _ => pure true) (rest : List Statement) :
    execute (statement::rest) = action >>= fun _ => execute rest := by
  have unfolded : execute (statement::rest) = statement.execute >>= fun goesOn =>
      if goesOn then execute rest else pure false := rfl
  rw [unfolded,written,bind_assoc]
  simp only [pure_bind,if_true]

theorem attempt_statements (order driver : UUID) (now : ℤ) :
    attemptAtomicAssignment order driver now =
      execute [.selectForUpdate driver,.assignDriver driver order,.assignOrder order driver now] := by
  have writes : execute [.assignDriver driver order,.assignOrder order driver now] =
      updateDrivers (fun row => row.id = driver) (Driver.assign order) (Driver.assign_id order) >>=
        fun _ => updateOrders (fun row => row.id = order) (Order.assign driver now)
          (Order.assign_id driver now) >>= fun _ => pure true := by
    rw [execute_cons rfl,execute_cons rfl]
    rfl
  have locked : execute [.selectForUpdate driver,.assignDriver driver order,
      .assignOrder order driver now] =
        selectDriver (fun row => row.id = driver ∧ row.Available) >>= fun found =>
          if found.isSome then execute [.assignDriver driver order,.assignOrder order driver now]
          else pure false := by
    change (selectDriver _ >>= fun found => pure found.isSome) >>= _ = _
    rw [bind_assoc]
    simp only [pure_bind]
  rw [locked,writes]
  unfold attemptAtomicAssignment
  funext db
  rcases selectDriver_available db driver with ⟨_,selected⟩ | ⟨_,row,same,selected⟩
  · simp only [bind,StateT.bind,Except.bind,selected]
    rfl
  · simp only [bind,StateT.bind,Except.bind,selected,same]
    rfl

theorem pushPositions_statements (now : ℤ) (states : List DriverState) :
    execute (states.map fun state => .moveDriver state.dbId state.lat state.lng now) =
      pushPositions now states >>= fun _ => pure true := by
  induction states with
  | nil => rfl
  | cons state rest ih =>
    have step : pushPositions now (state::rest) =
        updateDrivers (fun row => row.id = state.dbId) (Driver.moveTo state.lat state.lng now)
          (Driver.moveTo_id state.lat state.lng now) >>= fun _ => pushPositions now rest := rfl
    rw [List.map_cons,execute_cons rfl,ih,step,bind_assoc]

/-- The statements of a writer are its transaction. -/
theorem Writer.transaction_statements (writer : Writer) :
    writer.transaction = execute writer.statements >>= fun _ => pure () := by
  cases writer with
  | assignment order driver now =>
    change (attemptAtomicAssignment order driver now >>= fun _ => pure ()) = _
    rw [attempt_statements]
    rfl
  | hold order =>
    change applyHold order = execute [.holdOrder order] >>= _
    rw [execute_cons rfl,bind_assoc]
    exact (bind_pure _).symm
  | insertion id payload predictedReadyAt =>
    change commitOrder id payload predictedReadyAt = execute [.insertOrder _] >>= _
    rw [execute_cons rfl,bind_assoc]
    exact (bind_pure _).symm
  | positions now states =>
    change pushPositions now states = execute (states.map _) >>= _
    rw [pushPositions_statements,bind_assoc]
    simp only [pure_bind]
    exact (bind_pure _).symm

/-- What is written is locked against other writers, and a row that is newly referred
to is locked against removal. -/
structure Locked (locks : List (Lock Row RowLock)) (db next : Database) : Prop where
  drivers : ∀ row ∈ next.drivers.rows, row ∈ db.drivers.rows ∨
    ⟨.driver row.id,.noKeyUpdate⟩ ∈ locks ∧ ∀ order ∈ row.currentOrderId,
      (∃ old ∈ db.drivers.rows, old.id = row.id ∧ old.currentOrderId = some order) ∨
        ⟨.order order,.keyShare⟩ ∈ locks
  orders : ∀ row ∈ next.orders.rows, row ∈ db.orders.rows ∨
    ⟨.order row.id,.noKeyUpdate⟩ ∈ locks ∧ ∀ driver ∈ row.assignedDriverId,
      (∃ old ∈ db.orders.rows, old.id = row.id ∧ old.assignedDriverId = some driver) ∨
        ⟨.driver driver,.keyShare⟩ ∈ locks

section Locked
variable {locks more : List (Lock Row RowLock)} {db next last : Database}

theorem Locked.refl (locks : List (Lock Row RowLock)) (db : Database) : Locked locks db db :=
  ⟨fun _ member => Or.inl member,fun _ member => Or.inl member⟩

theorem Locked.mono (locked : Locked locks db next) (subset : locks ⊆ more) :
    Locked more db next where
  drivers row member := by
    rcases locked.drivers row member with kept | ⟨lock,refers⟩
    · exact Or.inl kept
    · exact Or.inr ⟨subset lock,fun order current => (refers order current).imp_right
        (fun shared => subset shared)⟩
  orders row member := by
    rcases locked.orders row member with kept | ⟨lock,refers⟩
    · exact Or.inl kept
    · exact Or.inr ⟨subset lock,fun driver assigned => (refers driver assigned).imp_right
        (fun shared => subset shared)⟩

theorem Locked.trans (first : Locked locks db next) (second : Locked locks next last) :
    Locked locks db last where
  drivers row member := by
    rcases second.drivers row member with kept | ⟨lock,refers⟩
    · exact first.drivers row kept
    · refine Or.inr ⟨lock,fun order current => ?_⟩
      rcases refers order current with ⟨middle,present,same,before⟩ | shared
      · rcases first.drivers middle present with old | ⟨_,earlier⟩
        · exact Or.inl ⟨middle,old,same,before⟩
        · exact same ▸ earlier order before
      · exact Or.inr shared
  orders row member := by
    rcases second.orders row member with kept | ⟨lock,refers⟩
    · exact first.orders row kept
    · refine Or.inr ⟨lock,fun driver assigned => ?_⟩
      rcases refers driver assigned with ⟨middle,present,same,before⟩ | shared
      · rcases first.orders middle present with old | ⟨_,earlier⟩
        · exact Or.inl ⟨middle,old,same,before⟩
        · exact same ▸ earlier driver before
      · exact Or.inr shared

theorem updateDrivers_locked {condition : Driver → Bool} {set : Driver → Driver}
    {keeps : ∀ row, (set row).id = row.id}
    (done : updateDrivers condition set keeps db = .ok ((),next))
    (lock : ∀ old, condition old = true → ⟨.driver old.id,.noKeyUpdate⟩ ∈ locks)
    (refers : ∀ old, condition old = true → ∀ order ∈ (set old).currentOrderId,
      old.currentOrderId = some order ∨ ⟨.order order,.keyShare⟩ ∈ locks) :
    Locked locks db next := by
  obtain ⟨drivers,orders⟩ := check_ok.mp done
  constructor
  · intro row member
    rw [drivers] at member
    rcases Table.mem_update_cases member with ⟨old,present,selected,rfl⟩ | ⟨present,_⟩
    · refine Or.inr ⟨keeps old ▸ lock old selected,fun order current => ?_⟩
      exact (refers old selected order current).imp_left
        (fun before => ⟨old,present,(keeps old).symm,before⟩)
    · exact Or.inl present
  · intro row member
    exact Or.inl (orders ▸ member)

theorem updateOrders_locked {condition : Order → Bool} {set : Order → Order}
    {keeps : ∀ row, (set row).id = row.id}
    (done : updateOrders condition set keeps db = .ok ((),next))
    (lock : ∀ old, condition old = true → ⟨.order old.id,.noKeyUpdate⟩ ∈ locks)
    (refers : ∀ old, condition old = true → ∀ driver ∈ (set old).assignedDriverId,
      old.assignedDriverId = some driver ∨ ⟨.driver driver,.keyShare⟩ ∈ locks) :
    Locked locks db next := by
  obtain ⟨drivers,orders⟩ := check_ok.mp done
  constructor
  · intro row member
    exact Or.inl (drivers ▸ member)
  · intro row member
    rw [orders] at member
    rcases Table.mem_update_cases member with ⟨old,present,selected,rfl⟩ | ⟨present,_⟩
    · refine Or.inr ⟨keeps old ▸ lock old selected,fun driver assigned => ?_⟩
      exact (refers old selected driver assigned).imp_left
        (fun before => ⟨old,present,(keeps old).symm,before⟩)
    · exact Or.inl present

theorem Statement.execute_locked (statement : Statement) {goesOn : Bool}
    (done : statement.execute db = .ok (goesOn,next)) : Locked statement.locks db next := by
  cases statement with
  | selectForUpdate driver =>
    obtain ⟨found,middle,ran,returned⟩ := bind_ok done
    cases ran
    cases returned
    exact .refl _ _
  | assignDriver driver order =>
    obtain ⟨_,middle,ran,returned⟩ := bind_ok done
    cases returned
    apply updateDrivers_locked ran
    · intro old selected
      rw [of_decide_eq_true selected]
      simp [locks]
    · intro old _ wanted current
      cases current
      simp [locks]
  | assignOrder order driver now =>
    obtain ⟨_,middle,ran,returned⟩ := bind_ok done
    cases returned
    apply updateOrders_locked ran
    · intro old selected
      rw [of_decide_eq_true selected]
      simp [locks]
    · intro old _ wanted assigned
      cases assigned
      simp [locks]
  | holdOrder order =>
    obtain ⟨_,middle,ran,returned⟩ := bind_ok done
    cases returned
    apply updateOrders_locked ran
    · intro old selected
      rw [(of_decide_eq_true selected).1]
      simp [locks]
    · exact fun old _ driver assigned => Or.inl assigned
  | insertOrder row =>
    obtain ⟨_,middle,ran,returned⟩ := bind_ok done
    cases returned
    change (if fresh : row.id ∉ db.orders.keys then check db.drivers (db.orders.insert row fresh)
      else .error .integrityError) = .ok ((),next) at ran
    split at ran
    next fresh =>
      obtain ⟨drivers,orders⟩ := check_ok.mp ran
      refine ⟨fun other member => Or.inl (drivers ▸ member),fun other member => ?_⟩
      rw [orders] at member
      rcases Table.mem_insert.mp member with present | rfl
      · exact Or.inl present
      · refine Or.inr ⟨by simp [locks],fun driver assigned => Or.inr ?_⟩
        simp [locks,Option.mem_def.mp assigned]
    next => contradiction
  | moveDriver driver lat lng now =>
    obtain ⟨_,middle,ran,returned⟩ := bind_ok done
    cases returned
    apply updateDrivers_locked ran
    · intro old selected
      rw [of_decide_eq_true selected]
      simp [locks]
    · exact fun old _ order current => Or.inl current

theorem execute_locked {statements : List Statement} {goesOn : Bool}
    (done : execute statements db = .ok (goesOn,next)) :
    Locked (statements.flatMap Statement.locks) db next := by
  induction statements generalizing db with
  | nil =>
    cases done
    exact .refl _ _
  | cons statement rest ih =>
    obtain ⟨further,middle,first,later⟩ := bind_ok done
    have head : Locked ((statement::rest).flatMap Statement.locks) db middle :=
      (statement.execute_locked first).mono (by simp)
    cases further with
    | false =>
      cases later
      exact head
    | true => exact head.trans ((ih later).mono (by simp))

theorem Writer.transaction_locked {writer : Writer} (done : writer.transaction db = .ok ((),next)) :
    Locked writer.locks db next := by
  rw [writer.transaction_statements] at done
  obtain ⟨goesOn,middle,ran,returned⟩ := bind_ok done
  cases returned
  exact execute_locked ran

end Locked

/-- Drivers come in the order of the seed list, and orders come after all drivers. -/
def Row.rank (seeds : List UUID) : Row → ℕ
  | .driver id => seeds.idxOf id
  | .order _ => seeds.length + 1

def Planned (seeds : List UUID) (plan : List (Lock Row RowLock)) : Prop :=
  ∃ writer : Writer, writer.Walks seeds ∧ plan = writer.locks

section Planned
variable {seeds : List UUID}

theorem RowLock.conflicts_symm (first second : RowLock) (against : first.Conflicts second) :
    second.Conflicts first := by
  cases first <;> cases second <;> exact against

/-- Nobody locks an order against those that refer to it. -/
theorem Planned.order_lock {plan : List (Lock Row RowLock)} (planned : Planned seeds plan)
    {lock : Lock Row RowLock} (member : lock ∈ plan) {order : UUID}
    (named : lock.resource = .order order) : lock.mode ≠ .forUpdate := by
  obtain ⟨writer,_,rfl⟩ := planned
  obtain ⟨statement,_,taken⟩ := List.mem_flatMap.mp member
  cases statement <;> simp only [Statement.locks,List.mem_cons,List.mem_map,List.not_mem_nil,
    or_false] at taken <;> grind

theorem assignment_ordered (order driver : UUID) (now : ℤ)
    {before after : List (Lock Row RowLock)} {lock : Lock Row RowLock}
    (split : (Writer.assignment order driver now).locks = before ++ lock::after) :
    (∃ own ∈ before, own.resource = lock.resource ∧
      Locking.Covers RowLock.Conflicts own.mode lock.mode) ∨
    ∀ own ∈ before, (∃ plan, Planned seeds plan ∧ ∃ other ∈ plan, other.resource = own.resource ∧
      own.mode.Conflicts other.mode) → own.resource.rank seeds < lock.resource.rank seeds := by
  have below : seeds.idxOf driver < seeds.length + 1 := Nat.lt_succ_of_le List.idxOf_le_length
  have listed : [⟨.driver driver,.forUpdate⟩,⟨.driver driver,.noKeyUpdate⟩,⟨.order order,.keyShare⟩,
      ⟨.order order,.noKeyUpdate⟩,⟨.driver driver,.keyShare⟩] = before ++ lock::after := split
  have strongest (mode : RowLock) : Locking.Covers RowLock.Conflicts .forUpdate mode :=
    fun other _ => by cases other <;> trivial
  rcases before with _ | ⟨first,_ | ⟨second,_ | ⟨third,_ | ⟨fourth,_ | ⟨fifth,others⟩⟩⟩⟩⟩
  · exact Or.inr (by simp)
  · cases listed
    exact Or.inl ⟨_,List.mem_cons_self ..,rfl,strongest _⟩
  · cases listed
    refine Or.inr (fun own member _ => ?_)
    have named : own.resource = .driver driver := by
      simp only [List.mem_cons,List.not_mem_nil,or_false] at member
      rcases member with rfl | rfl <;> rfl
    rw [named]
    exact below
  · cases listed
    refine Or.inr (fun own member exposed => ?_)
    simp only [List.mem_cons,List.not_mem_nil,or_false] at member
    rcases member with rfl | rfl | rfl
    · exact below
    · exact below
    · -- a key share keeps out only those who would lock the order for update
      obtain ⟨plan,planned,other,present,named,against⟩ := exposed
      have never := planned.order_lock present named
      cases mode : other.mode with
      | forUpdate => exact absurd mode never
      | noKeyUpdate | keyShare =>
        rw [mode] at against
        exact False.elim against
  · cases listed
    exact Or.inl ⟨_,List.mem_cons_self ..,rfl,strongest _⟩
  · simp at listed

theorem positions_ordered {now : ℤ} {states : List DriverState}
    (walks : states.map DriverState.dbId = seeds)
    {before after : List (Lock Row RowLock)} {lock : Lock Row RowLock}
    (split : (Writer.positions now states).locks = before ++ lock::after) :
    (∃ own ∈ before, own.resource = lock.resource ∧
      Locking.Covers RowLock.Conflicts own.mode lock.mode) ∨
    ∀ own ∈ before, own.resource.rank seeds < lock.resource.rank seeds := by
  have whole : (Writer.positions now states).locks =
      seeds.map (fun driver => ⟨.driver driver,.noKeyUpdate⟩) := by
    rw [← walks]
    unfold Writer.locks Writer.statements
    rw [List.flatMap_map,List.map_map]
    exact List.map_eq_flatMap.symm
  rw [whole] at split
  obtain ⟨front,back,cut,rfl,rest⟩ := List.map_eq_append_iff.mp split
  obtain ⟨driver,later,rfl,rfl,_⟩ := List.map_eq_cons_iff.mp rest
  by_cases again : driver ∈ front
  · exact Or.inl ⟨_,List.mem_map_of_mem again,rfl,fun _ against => against⟩
  · right
    intro own member
    obtain ⟨earlier,present,rfl⟩ := List.mem_map.mp member
    change seeds.idxOf earlier < seeds.idxOf driver
    rw [cut,List.idxOf_append_of_mem present,List.idxOf_append_of_notMem again,List.idxOf_cons_self]
    have inside : front.idxOf earlier < front.length := List.idxOf_lt_length_of_mem present
    omega

theorem planned_ordered (seeds : List UUID) :
    Locking.Ordered RowLock.Conflicts (Planned seeds) (Row.rank seeds) := by
  have single {request lock : Lock Row RowLock} {before after : List (Lock Row RowLock)}
      (split : [request] = before ++ lock::after) : before = [] := by
    cases before with
    | nil => rfl
    | cons first others => simp at split
  rintro before lock after ⟨writer,walks,split⟩
  cases writer with
  | assignment order driver now => exact assignment_ordered order driver now split.symm
  | hold order =>
    rw [single split.symm]
    exact Or.inr (by simp)
  | insertion id payload predictedReadyAt =>
    rw [single split.symm]
    exact Or.inr (by simp)
  | positions now states =>
    rcases positions_ordered walks split.symm with covered | below
    · exact Or.inl covered
    · exact Or.inr (fun own member _ => below own member)

variable {Session : Type} [DecidableEq Session]
variable {trace : List (Transition (Session → Holder Row RowLock) Session)}
variable {state : Session → Holder Row RowLock}

/-- No sessions wait for each other in a circle, however their statements interleave. -/
theorem writers_never_deadlock
    (run : Execution (Locking.Step RowLock.Conflicts (Planned seeds)) Locking.idle trace state)
    (session : Session) :
    ¬Relation.TransGen (Locking.Waits RowLock.Conflicts state) session session :=
  Locking.no_deadlock (planned_ordered seeds)
    (Locking.sound_reached RowLock.conflicts_symm run) session

/-- A position update waits for an assignment. -/
theorem heartbeat_waits : ∃ (trace : List (Transition (Bool → Holder Row RowLock) Bool))
    (state : Bool → Holder Row RowLock),
      Execution (Locking.Step RowLock.Conflicts (Planned [⟨1⟩])) Locking.idle trace state ∧
        Locking.Waits RowLock.Conflicts state true false ∧
          ∀ session, ¬Relation.TransGen (Locking.Waits RowLock.Conflicts state) session session := by
  let assigning : Writer := .assignment ⟨3⟩ ⟨1⟩ 0
  let moving : Writer := .positions 0 [⟨⟨1⟩,"driver",.finite 0,.finite 0⟩]
  let started : Bool → Holder Row RowLock := Function.update Locking.idle false ⟨[],assigning.locks⟩
  let locked : Bool → Holder Row RowLock :=
    Function.update started false ⟨[⟨.driver ⟨1⟩,.forUpdate⟩],assigning.locks.tail⟩
  let waiting : Bool → Holder Row RowLock := Function.update locked true ⟨[],moving.locks⟩
  have first : Locking.Step RowLock.Conflicts (Planned [⟨1⟩]) Locking.idle false started :=
    .start false _ rfl ⟨assigning,trivial,rfl⟩
  have second : Locking.Step RowLock.Conflicts (Planned [⟨1⟩]) started false locked := by
    apply Locking.Step.acquire false ⟨.driver ⟨1⟩,.forUpdate⟩ assigning.locks.tail rfl
    intro other apart held member
    rw [Bool.eq_true_of_not_eq_false apart] at member
    contradiction
  have third : Locking.Step RowLock.Conflicts (Planned [⟨1⟩]) locked true waiting :=
    .start true _ rfl ⟨moving,rfl,rfl⟩
  have run := ((Execution.nil.snoc first).snoc second).snoc third
  refine ⟨_,waiting,run,⟨by decide,_,_,rfl,⟨.driver ⟨1⟩,.forUpdate⟩,?_,rfl,trivial⟩,
    writers_never_deadlock run⟩
  exact List.mem_singleton_self _

end Planned

end FoodDispatch
