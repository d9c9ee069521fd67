import FoodDispatch.Effects
import FoodDispatch.Walk

/-! What a thread may rely on between its calls, as a monitor: the orders it has
fetched and not yet tried to assign, its last reading of the gate's clock, and
the creation time it has read. Every job of the deployment keeps to it. -/
namespace FoodDispatch
open Library
open Library.Program
open PrepEstimator (WindowOpen readyAt)

structure Ledger where
  owned : List Order
  gate : Option (UUID × ℤ)
  created : Option ℤ

namespace Ledger

def fresh : Ledger := ⟨[],none,none⟩

/-- An attempt that may have taken effect uses up the copy it was made for. -/
def after (ledger : Ledger) :
    (request : Call) → Except PyException (Reply request) → Ledger
  | .now (.gate order), .ok time => {ledger with gate := some (order,time)}
  | .now .creation, .ok time => {ledger with created := some time}
  | .fetchActionableOrders, .ok orders => {ledger with owned := orders}
  | .attemptAtomicAssignment _ _, .ok false => ledger
  | .attemptAtomicAssignment order _, _ =>
    {ledger with owned := ledger.owned.filter (fun copy => copy.id ≠ order)}
  | _, _ => ledger

def MayAssign (settings : Settings) (ledger : Ledger) (order : UUID) : Prop :=
  ∃ copy ∈ ledger.owned, copy.id = order ∧ ∃ time, ledger.gate = some (order,time) ∧
    WindowOpen settings copy.predictedReadyAt time

def monitor (settings : Settings) (isLoop : Prop) : Monitor Call Reply PyException Ledger where
  allows ledger
    | .fetchActionableOrders => isLoop
    | .attemptAtomicAssignment order _ => ledger.MayAssign settings order
    | .commitOrder _ _ ready => ∃ time, ledger.created = some time ∧ ready = readyAt settings time
    | _ => True
  expects
    | .fetchActionableOrders, .ok orders => (orders.map Order.id).Nodup
    | _, _ => True
  after := after

section Jobs
variable {settings : Settings} {isLoop : Prop} {ledger : Ledger}

def Spares (order : UUID) (ledger next : Ledger) : Prop :=
  ∀ copy ∈ ledger.owned, copy.id ≠ order → copy ∈ next.owned

theorem unmoved : Unmoved Call.Reads (monitor settings isLoop) ledger := by
  intro request read
  cases request with
  | now site => cases site <;> first | contradiction | exact ⟨trivial,fun reply => by cases reply <;> rfl⟩
  | selectCandidates => exact ⟨trivial,fun reply => by cases reply <;> rfl⟩
  | getDrivingEta => exact ⟨trivial,fun reply => by cases reply <;> rfl⟩
  | _ => contradiction

theorem Spares.refl (order : UUID) (ledger : Ledger) : Spares order ledger ledger :=
  fun _ member _ => member

/-- The reading of the gate lets the order be tried until an attempt may have succeeded;
the other copies are spared throughout. -/
def walk {order : Order} (owned : order ∈ ledger.owned) :
    Walk (monitor settings isLoop) settings order where
  enters next := next = ledger
  evaluates next := Spares order.id ledger next ∧ next.MayAssign settings order.id
  holds next := Spares order.id ledger next
  finds _ next := Spares order.id ledger next ∧ next.MayAssign settings order.id
  tries _ next := Spares order.id ledger next ∧ next.MayAssign settings order.id
  leaves next := Spares order.id ledger next
  gate := by
    rintro ledger rfl
    refine ⟨trivial,fun reply _ => ?_⟩
    cases reply with
    | error error => exact .refl order.id ledger
    | ok now =>
      change if WindowOpen settings order.predictedReadyAt now then _ else _
      split
      next opened => exact ⟨.refl order.id ledger,order,owned,rfl,now,rfl,opened⟩
      next => exact .refl order.id ledger
  hold next spared := ⟨trivial,fun _ _ => spared⟩
  query next may := by
    apply obeys_mono (getCandidates_obeys unmoved settings order.id)
    rintro _ (error | drivers) rfl
    · exact may.1
    · exact may
  score next drivers may := by
    apply obeys_mono (ScoringEngine.scoreCandidates_obeys unmoved.scores order drivers)
    rintro _ (error | scored) rfl
    · exact may.1
    · exact may
  attempt next candidate rest may := by
    refine ⟨may.2,fun reply _ => ?_⟩
    have used : Spares order.id ledger
        {next with owned := next.owned.filter (fun copy => copy.id ≠ order.id)} := by
      intro copy member other
      exact List.mem_filter.mpr ⟨may.1 copy member other,by simpa using other⟩
    rcases reply with error | (_ | _)
    · exact used
    · exact may
    · exact used
  unheld _ spared := spared
  unfound _ _ may := may.1
  untried _ _ may := may.1

theorem runDispatchTick_obeys (permitted : isLoop) :
    (DispatchLoop.runDispatchTick settings).Obeys (monitor settings isLoop) (fun _ _ => True) ledger := by
  apply FoodDispatch.runDispatchTick_obeys (fun rest next => (rest.map Order.id).Nodup ∧
    ∀ copy ∈ rest, copy ∈ next.owned)
  · refine ⟨permitted,fun reply expected => ?_⟩
    cases reply with
    | error error => exact trivial
    | ok orders => exact ⟨expected,fun _ member => member⟩
  · intro order rest next ⟨all,present⟩
    obtain ⟨first,distinct⟩ := List.nodup_cons.mp all
    refine ⟨walk (present order (by simp)),rfl,fun final spared => ?_⟩
    refine ⟨distinct,fun copy member => spared copy (present copy (by simp [member])) ?_⟩
    intro same
    exact first (List.mem_map.mpr ⟨copy,member,same⟩)
  · exact fun _ _ => trivial

theorem createOrder_obeys (id : UUID) (payload : OrderCreateRequest) :
    (createOrder settings id payload).Obeys (monitor settings isLoop) (fun _ _ => True) ledger := by
  rw [createOrder_predicted]
  refine ⟨trivial,fun reply _ => ?_⟩
  cases reply with
  | error error => exact trivial
  | ok now =>
    change (predicted settings id payload now).Obeys _ _ _
    unfold predicted
    split
    · refine ⟨⟨now,rfl,rfl⟩,fun reply _ => ?_⟩
      cases reply with
      | error error => exact trivial
      | ok _ => exact ⟨trivial,fun _ _ => trivial⟩
    · exact trivial

theorem body_obeys (job : Job) (permitted : job.isTick = true → isLoop) :
    (job.body settings).Obeys (monitor settings isLoop) (fun _ _ => True) fresh := by
  cases job with
  | dispatchTick => exact runDispatchTick_obeys (permitted rfl)
  | createOrder id payload =>
    exact obeys_bind (createOrder_obeys id payload) (fun _ _ _ => trivial) (fun _ _ _ => trivial)
  | seedDrivers seeds => exact ⟨trivial,fun reply _ => by cases reply <;> exact trivial⟩
  | pushPositions states =>
    refine ⟨trivial,fun reply _ => ?_⟩
    cases reply with
    | error error => exact trivial
    | ok now => exact ⟨trivial,fun reply _ => trivial⟩

end Jobs

theorem respond_expected {settings : Settings} {isLoop : Prop} {request : Call} {note : Note}
    {shared next : Shared}
    {reply : Except PyException (Reply request)}
    (done : request.respond note shared = some (reply,next)) :
    (monitor settings isLoop).expects request reply := by
  cases request with
  | fetchActionableOrders =>
    cases reply with
    | error error => exact trivial
    | ok orders =>
      have permuted := (Call.respond_fetch done).2 orders rfl
      have actionable : (shared.db.actionableOrders.map Order.id).Nodup :=
        List.Nodup.sublist (List.filter_sublist.map _) shared.db.orders.keyed
      exact (permuted.map Order.id).nodup_iff.mpr actionable
  | _ => exact trivial

/-- A copy that is owned after a call was owned before it, and not used up, or
has just been fetched. -/
theorem owned_cases {ledger : Ledger} {request : Call} {note : Note} {shared next : Shared}
    {reply : Except PyException (Reply request)}
    (done : request.respond note shared = some (reply,next)) {copy : Order}
    (member : copy ∈ (ledger.after request reply).owned) :
    (copy ∈ ledger.owned ∧
      ∀ driver, request = .attemptAtomicAssignment copy.id driver → next.db = shared.db) ∨
    (request = .fetchActionableOrders ∧ copy ∈ next.db.actionableOrders ∧ next.db = shared.db) := by
  cases request with
  | now site =>
    left
    rcases reply with error | time <;> cases site <;> exact ⟨member,by simp⟩
  | fetchActionableOrders =>
    obtain ⟨same,permuted⟩ := Call.respond_fetch done
    cases reply with
    | error error => exact Or.inl ⟨member,by simp⟩
    | ok orders => exact Or.inr ⟨rfl,same ▸ (permuted orders rfl).mem_iff.mp member,same⟩
  | attemptAtomicAssignment order driver =>
    left
    have spent : reply ≠ .ok false →
        copy ∈ ledger.owned.filter (fun copy => copy.id ≠ order) → copy ∈ ledger.owned ∧
          ∀ other, Call.attemptAtomicAssignment order driver = .attemptAtomicAssignment copy.id other →
            next.db = shared.db := by
      intro _ kept
      obtain ⟨owned,different⟩ := List.mem_filter.mp kept
      refine ⟨owned,fun other same => ?_⟩
      cases same
      simp at different
    rcases reply with error | (_ | _)
    · exact spent (by simp) member
    · refine ⟨member,fun _ _ => ?_⟩
      rcases Call.respond_attempt done with ⟨_,_,said⟩ | ⟨same,_,_,_⟩
      · exact absurd rfl said
      · exact same
    · exact spent (by simp) member
  | _ => exact Or.inl ⟨member,by simp⟩

theorem owned_row {copy : Order} {request : Call} {note : Note} {shared next : Shared}
    {reply : Except PyException (Reply request)}
    (done : request.respond note shared = some (reply,next))
    (unused : ∀ driver, request = .attemptAtomicAssignment copy.id driver → next.db = shared.db)
    {row : Order} (member : row ∈ next.db.orders.rows) (same : row.id = copy.id) :
    row ∈ shared.db.orders.rows ∨
    (∃ old ∈ shared.db.orders.rows, old.dispatchStatus = .pending ∧ row = old.hold) ∨
    (row.dispatchStatus = .pending ∧ row.assignedDriverId = none) := by
  rcases (Call.respond_written done).order_cases member with known | held |
    ⟨old,known,driver,attempt,equal⟩ | ⟨_,pending,clean,_⟩
  · exact Or.inl known
  · exact Or.inr (Or.inl held)
  · have named : old.id = copy.id := by rw [← same,equal,Order.assign_id]
    rw [unused driver (named ▸ attempt)] at member
    exact Or.inl member
  · exact Or.inr (Or.inr ⟨pending,clean⟩)

/-- What holds of an owned order in the table goes on to hold, if a hold keeps it and a
new order has it. -/
theorem owned_rows {Holds : Order → Prop} {copy : Order} {request : Call} {note : Note}
    {shared next : Shared} {reply : Except PyException (Reply request)}
    (held : ∀ old, Holds old → old.dispatchStatus = .pending → Holds old.hold)
    (new : ∀ row, row.dispatchStatus = .pending → row.assignedDriverId = none → Holds row)
    (done : request.respond note shared = some (reply,next))
    (unused : ∀ driver, request = .attemptAtomicAssignment copy.id driver → next.db = shared.db)
    (before : ∀ row ∈ shared.db.orders.rows, row.id = copy.id → Holds row) :
    ∀ row ∈ next.db.orders.rows, row.id = copy.id → Holds row := by
  intro row member same
  rcases owned_row done unused member same with known | ⟨old,known,pending,rfl⟩ | ⟨pending,clean⟩
  · exact before row known same
  · exact held old (before old known same) pending
  · exact new row pending clean

theorem fetched_row {db : Database} {copy row : Order} (fetched : copy ∈ db.actionableOrders)
    (member : row ∈ db.orders.rows) (same : row.id = copy.id) : row.Actionable := by
  obtain ⟨known,waits⟩ := List.mem_filter.mp fetched
  rw [db.orders.unique member known same]
  exact of_decide_eq_true waits

theorem gate_cases {ledger : Ledger} {request : Call} {note : Note} {shared next : Shared}
    {reply : Except PyException (Reply request)}
    (done : request.respond note shared = some (reply,next)) {order : UUID} {time : ℤ}
    (gate : (ledger.after request reply).gate = some (order,time)) :
    ledger.gate = some (order,time) ∨ time = next.clock := by
  cases request with
  | now site =>
    rcases reply with error | read
    · cases site <;> exact Or.inl gate
    · cases site with
      | gate wanted =>
        cases gate
        exact Or.inr (((Call.respond_now done).2 _ rfl).trans (Call.respond_clock done).symm)
      | _ => exact Or.inl gate
  | fetchActionableOrders => rcases reply with error | orders <;> exact Or.inl gate
  | attemptAtomicAssignment wanted driver => rcases reply with error | (_ | _) <;> exact Or.inl gate
  | _ => exact Or.inl gate

theorem created_cases {Thread Job Action : Type} {ledger : Ledger} {request : Call}
    {reply : Except PyException (Reply request)} {time : ℤ} (thread : Thread) (note : Note)
    (created : (ledger.after request reply).created = some time) :
    ledger.created = some time ∨
      (.call thread request note reply : System.Label Call Reply PyException Note Thread Job Action) =
        .call thread (.now .creation) note (.ok time) := by
  cases request with
  | now site =>
    rcases reply with error | read
    · cases site <;> exact Or.inl created
    · cases site with
      | creation =>
        cases created
        exact Or.inr rfl
      | _ => exact Or.inl created
  | fetchActionableOrders => rcases reply with error | orders <;> exact Or.inl created
  | attemptAtomicAssignment wanted driver =>
    rcases reply with error | (_ | _) <;> exact Or.inl created
  | _ => exact Or.inl created

end Ledger

section Guarded
variable {Thread Action : Type} [DecidableEq Thread] {settings : Settings} {loops : Thread → Prop}
variable {writes : Action → Database → Database → Prop}
variable {Sound : Database → Prop} {Current : Database → Order → Prop}

/-- `Sound` is kept by every write, and `Current` says of a copy that a loop owns
what remains true of its order. With a single loop, only the attempt that uses a
copy up can be for its order. -/
structure Guarded (loops : Thread → Prop) (writes : Action → Database → Database → Prop)
    (Sound : Database → Prop) (Current : Database → Order → Prop) : Prop where
  fetched : ∀ db copy, Sound db → copy ∈ db.actionableOrders → Current db copy
  sound : ∀ (request : Call) note shared reply next, Sound shared.db →
    (∀ order driver, request = .attemptAtomicAssignment order driver →
      ∃ copy, copy.id = order ∧ Current shared.db copy) →
    request.respond note shared = some (reply,next) → Sound next.db
  current : ∀ copy (request : Call) note shared reply next, Sound shared.db →
    Current shared.db copy → request.respond note shared = some (reply,next) →
    ((∀ one other, loops one → loops other → one = other) →
      ∀ driver, request = .attemptAtomicAssignment copy.id driver → next.db = shared.db) →
    Current next.db copy
  outside : ∀ action db next, writes action db next → Sound db →
    Sound next ∧ ∀ copy, Current db copy → Current next copy

namespace Guarded

theorem invariant (guarded : Guarded loops writes Sound Current) :
    (deployment settings loops writes).Invariant (fun thread => Ledger.monitor settings (loops thread))
      Ledger.fresh (fun _ shared ledgers => Sound shared.db ∧
        ∀ thread, ∀ copy ∈ (ledgers thread).owned, loops thread ∧ Current shared.db copy) where
  body _ job permitted := Ledger.body_obeys job permitted
  expected _ _ _ _ _ _ answered := Ledger.respond_expected answered
  restart trace ledgers thread move holds _ same := by
    obtain ⟨sound,current⟩ := holds
    rw [same]
    refine ⟨sound,?_⟩
    rw [Function.forall_update_iff ledgers (fun thread ledger =>
      ∀ copy ∈ ledger.owned, loops thread ∧ Current move.before.shared.db copy)]
    exact ⟨by simp [Ledger.fresh],fun other _ => current other⟩
  call trace ledgers thread request note reply move holds label allowed answered := by
    obtain ⟨sound,current⟩ := holds
    have owner : ∀ order driver, request = .attemptAtomicAssignment order driver →
        loops thread ∧ ∃ copy, copy.id = order ∧ Current move.before.shared.db copy := by
      intro order driver attempt
      subst attempt
      obtain ⟨copy,owned,same,_⟩ := allowed
      obtain ⟨isLoop,fits⟩ := current thread copy owned
      exact ⟨isLoop,copy,same,fits⟩
    have next := guarded.sound request note _ reply _ sound
      (fun order driver attempt => (owner order driver attempt).2) answered
    refine ⟨next,?_⟩
    rw [Function.forall_update_iff ledgers (fun thread ledger =>
      ∀ copy ∈ ledger.owned, loops thread ∧ Current move.after.shared.db copy)]
    constructor
    · intro copy member
      rcases Ledger.owned_cases answered member with ⟨owned,unused⟩ | ⟨fetch,actionable,_⟩
      · obtain ⟨isLoop,fits⟩ := current thread copy owned
        exact ⟨isLoop,guarded.current copy request note _ reply _ sound fits answered
          (fun _ => unused)⟩
      · subst fetch
        exact ⟨allowed,guarded.fetched _ copy next actionable⟩
    · intro other apart copy member
      obtain ⟨isLoop,fits⟩ := current other copy member
      refine ⟨isLoop,guarded.current copy request note _ reply _ sound fits answered ?_⟩
      intro single driver attempt
      exact absurd (single _ _ isLoop (owner copy.id driver attempt).1) apart
  outside trace ledgers action move holds label moved := by
    obtain ⟨sound,current⟩ := holds
    obtain ⟨next,kept⟩ := guarded.outside action _ _ moved.2 sound
    exact ⟨next,fun thread copy member =>
      ⟨(current thread copy member).1,kept copy (current thread copy member).2⟩⟩

variable {shared : Shared} {trace : List (Move Thread Action)}
variable {state : System.State Call Reply PyException Shared Thread}

theorem attempt (guarded : Guarded loops writes Sound Current) (initial : Sound shared.db)
    (run : (deployment settings loops writes).Run shared trace state) {move : Move Thread Action}
    (member : move ∈ trace) {thread : Thread} {order driver : UUID} {note : Note}
    {reply : Except PyException Bool}
    (label : move.label = .call thread (.attemptAtomicAssignment order driver) note reply) :
    loops thread ∧ Sound move.before.shared.db ∧
      ∃ copy, copy.id = order ∧ Current move.before.shared.db copy := by
  obtain ⟨first,rest,located⟩ := List.append_of_mem member
  obtain ⟨ledgers,⟨sound,current⟩,⟨copy,owned,same,_⟩,_⟩ :=
    guarded.invariant.at_call ⟨initial,by simp [Ledger.fresh]⟩ run located label
  obtain ⟨isLoop,fits⟩ := current thread copy owned
  exact ⟨isLoop,sound,copy,same,fits⟩

theorem throughout (guarded : Guarded loops writes Sound Current) (initial : Sound shared.db)
    (run : (deployment settings loops writes).Run shared trace state) :
    Execution.Throughout (System.State.idle shared) trace (fun reached => Sound reached.shared.db) := by
  apply run.throughout initial
  intro move member sound step
  rcases move_cases step with ⟨same,_⟩ | ⟨thread,request,note,reply,label,answered⟩ |
    ⟨action,_,moved⟩
  · rw [same]
    exact sound
  · refine guarded.sound request note _ reply _ sound ?_ answered
    intro order driver attempting
    subst attempting
    exact (guarded.attempt initial run member label).2.2
  · exact (guarded.outside action _ _ moved sound).1

end Guarded
end Guarded
end FoodDispatch
