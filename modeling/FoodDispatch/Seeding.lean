import FoodDispatch.Records
import FoodDispatch.Simulators

/-! The staff of the fleet. However often the simulation is started, beside itself or
after a crash, the drivers table is empty or has each seed once; and since nothing in
the program gives a driver back, the fleet serves no more orders than that. -/
namespace FoodDispatch
open Library
open Library.Program (only)
open MockDrivers

def Driver.contact (row : Driver) : String × String := (row.name,row.phone)

def DriverSeed.contact (seed : DriverSeed) : String × String := (seed.name,seed.phone)

/-- Nobody is there, or everybody of the seeds. -/
def Database.Staffed (db : Database) : Prop :=
  db.drivers.rows.map Driver.contact = [] ∨
    db.drivers.rows.map Driver.contact = driverSeeds.map DriverSeed.contact

namespace Transaction

theorem newcomers_known {phones : List String} {seeds : List (DriverSeed × UUID × ℤ)}
    (known : ∀ entry ∈ seeds, entry.1.phone ∈ phones) : newcomers phones seeds = [] := by
  induction seeds with
  | nil => rfl
  | cons entry rest ih =>
    unfold newcomers
    rw [if_pos (known entry (by simp))]
    exact ih (fun other member => known other (by simp [member]))

theorem newcomers_contact {phones : List String} {seeds : List (DriverSeed × UUID × ℤ)}
    (distinct : (seeds.map (fun entry => entry.1.phone)).Nodup)
    (unknown : ∀ entry ∈ seeds, entry.1.phone ∉ phones) :
    (newcomers phones seeds).map Prod.snd = seeds.map (fun entry => entry.1.contact) := by
  induction seeds generalizing phones with
  | nil => rfl
  | cons entry rest ih =>
    obtain ⟨fresh,others⟩ := List.nodup_cons.mp distinct
    unfold newcomers
    rw [if_neg (unknown entry (by simp)),List.map_cons,List.map_cons,ih others]
    · rfl
    · intro other member
      rw [List.mem_append,List.mem_singleton]
      rintro (known | same)
      · exact unknown other (by simp [member]) known
      · exact fresh (List.mem_map.mpr ⟨other,member,same⟩)

end Transaction

namespace Fleet

/-- A seeding is of the seeds of the script. -/
def Scripted : Call → Prop
  | .seedDrivers entries => entries.map Prod.fst = driverSeeds
  | _ => True

variable {settings : Settings}

theorem simulate_scripted (chance : Chance) (ticks tick : ℕ) (states : List Motion) :
    (simulate chance ticks tick states).Obeys (only Scripted) (fun _ _ => True) () := by
  induction ticks generalizing tick states with
  | zero => exact trivial
  | succ ticks ih =>
    refine ⟨trivial,fun reply _ => ?_⟩
    cases reply with
    | error error => exact trivial
    | ok now =>
      refine ⟨trivial,fun reply _ => ?_⟩
      cases reply with
      | error error => exact trivial
      | ok pushed => exact ih _ _

theorem duty_scripted (duty : Duty) :
    (duty.body settings).Obeys (only Scripted) (fun _ _ => True) () := by
  cases duty with
  | dispatchTick =>
    have unmoved : Unmoved Call.ByTick (only Scripted : Monitor Call Reply PyException Unit) () := by
      intro request tick
      refine ⟨?_,fun _ => rfl⟩
      cases request with
      | seedDrivers => exact tick.elim
      | _ => exact trivial
    exact Program.obeys_mono (runDispatchTick_unmoved unmoved) (fun _ _ _ => trivial)
  | createOrder id payload =>
    apply Program.obeys_of_only (createOrder_only settings id payload)
    intro _ request client
    cases request with
    | seedDrivers => exact client.elim
    | _ => exact trivial
  | runSimulation chance ticks =>
    refine ⟨?_,fun reply _ => ?_⟩
    · change (driverSeeds.map (fun seed => (seed,chance.inserted seed))).map Prod.fst = driverSeeds
      rw [List.map_map]
      exact List.map_id _
    · cases reply with
      | error error => exact trivial
      | ok states => exact simulate_scripted chance ticks 1 _

theorem Scripted.staffed {request : Call} {db next : Database} (scripted : Scripted request)
    (records : request.Records db next) (staffed : db.Staffed) : next.Staffed := by
  obtain ⟨drivers,adds,recorded⟩ := records
  have contacts : next.drivers.rows.map Driver.contact =
      db.drivers.rows.map Driver.contact ++ drivers.map Prod.snd := by
    have same := congrArg (List.map Prod.snd) recorded.drivers
    rw [List.map_append,List.map_map,List.map_map] at same
    exact same
  unfold Database.Staffed
  rw [contacts]
  rcases adds with rfl | ⟨entries,rfl,rfl⟩
  · simpa [Database.Staffed] using staffed
  · have phones : db.drivers.rows.map Driver.phone =
        (db.drivers.rows.map Driver.contact).map Prod.snd := by
      rw [List.map_map]
      rfl
    have seeded : entries.map (fun entry => entry.1.contact) =
        driverSeeds.map DriverSeed.contact := by
      rw [← scripted,List.map_map]
      rfl
    rcases staffed with nobody | everybody
    · have distinct : (entries.map (fun entry => entry.1.phone)).Nodup := by
        have same : entries.map (fun entry => entry.1.phone) = driverSeeds.map DriverSeed.phone := by
          rw [← scripted,List.map_map]
          rfl
        rw [same]
        decide +kernel
      rw [Transaction.newcomers_contact distinct (by simp [phones,nobody]),nobody,seeded]
      exact Or.inr rfl
    · have known : ∀ entry ∈ entries, entry.1.phone ∈ db.drivers.rows.map Driver.phone := by
        intro entry member
        have listed : entry.1 ∈ driverSeeds := scripted ▸ List.mem_map_of_mem member
        rw [phones,everybody,List.map_map]
        exact List.mem_map.mpr ⟨entry.1,listed,rfl⟩
      rw [Transaction.newcomers_known known,everybody]
      exact Or.inr (List.append_nil _)

variable {Thread : Type} [DecidableEq Thread] {loops : Thread → Prop} {shared : Shared}
variable {state : System.State Call Reply PyException Shared Thread}

theorem staffed_invariant : (fleet settings loops).Invariant (fun _ => only Scripted) ()
    (fun _ shared _ => shared.db.Staffed) where
  body _ duty _ := duty_scripted duty
  expected _ _ _ _ _ _ _ := trivial
  restart _ _ _ _ staffed _ same := same ▸ staffed
  call _ _ _ _ _ _ _ staffed _ allowed answered :=
    allowed.staffed (Call.respond_records answered) staffed
  outside _ _ action := action.elim

end Fleet

theorem Database.Staffed.length {db : Database} (staffed : db.Staffed) :
    db.drivers.rows.length ≤ driverSeeds.length := by
  rw [← List.length_map Driver.contact]
  rcases staffed with nobody | everybody
  · simp [nobody]
  · rw [everybody,List.length_map]

section
variable {Thread : Type} [DecidableEq Thread] {settings : Settings} {loops : Thread → Prop}
variable {shared : Shared} {state : System.State Call Reply PyException Shared Thread}

/-- An order that is assigned was assigned by some move of the run. -/
theorem assigned_origin {trace : List (Move Thread Empty)} (start : shared.db = Database.empty)
    (run : (deployment settings loops nobody).Run shared trace state) :
    ∀ row ∈ state.shared.db.orders.rows, row.dispatchStatus = .assigned →
      ∃ driver, (row.id,driver) ∈ trace.filterMap Move.assigned := by
  induction run with
  | nil =>
    intro row member
    simp [System.State.idle,start,Database.empty,Table.empty] at member
  | @snoc trace before label after run step ih =>
    intro row member assigned
    have earlier (old : Order) (known : old ∈ before.shared.db.orders.rows)
        (served : old.dispatchStatus = .assigned) :
        ∃ driver, (old.id,driver) ∈ (trace ++ [(⟨before,label,after⟩ : Move Thread Empty)]).filterMap
          Move.assigned := by
      obtain ⟨driver,listed⟩ := ih old known served
      exact ⟨driver,by rw [List.filterMap_append]; exact List.mem_append_left _ listed⟩
    have effect : Move.Effect (⟨before,label,after⟩ : Move Thread Empty) := move_effect step
    cases effect with
    | grown _ _ grown =>
      rcases grown.order row member with known | ⟨_,pending,_⟩
      · exact earlier row known assigned
      · rw [assigned] at pending
        contradiction
    | held order _ _ _ held =>
      rcases held.order_cases member with ⟨old,_,_,_,rfl⟩ | known
      · contradiction
      · exact earlier row known assigned
    | assigned order driver time taken _ moved =>
      rcases moved.order_cases member with ⟨old,_,named,rfl⟩ | ⟨known,_⟩
      · refine ⟨driver,List.mem_filterMap.mpr ⟨⟨before,label,after⟩,by simp,?_⟩⟩
        rw [taken,← named]
        rfl
      · exact earlier row known assigned

end

namespace Fleet
variable {Thread : Type} [DecidableEq Thread] {settings : Settings} {loops : Thread → Prop}
variable {shared : Shared} {state : System.State Call Reply PyException Shared Thread}

/-- With any number of loops and simulations, the table has no driver twice, and in the
whole run no more drivers are taken, and no more orders assigned, than there are seeds. -/
theorem serves_few {trace : List (fleet settings loops).Moves}
    (start : shared.db = Database.empty) (run : (fleet settings loops).Run shared trace state) :
    Execution.Throughout (System.State.idle shared) trace (·.shared.db.Staffed) ∧
      ((System.seen trace).filterMap taken).Nodup ∧
        ((System.seen trace).filterMap taken).length ≤ driverSeeds.length ∧
          (state.shared.db.orders.rows.filter (fun row => row.dispatchStatus = .assigned)).length ≤
            driverSeeds.length := by
  have initial : shared.db.Staffed := by
    rw [start]
    exact Or.inl rfl
  have staffed := staffed_invariant.throughout initial run (fun shared => shared.db.Staffed)
    (fun _ _ _ staffed => staffed)
  have staff := (staffed.final run).length
  obtain ⟨trace',other,run',played,shows⟩ := player.run run
  have none : shared.db.unavailable.val = 0 := by
    rw [start]
    rfl
  have drivers : state.shared.db.unavailable.val =
      ((System.seen trace).filterMap taken : List UUID) := by
    rw [← played.shared,← shows,taken_seen,unavailable_balance run',none,zero_add]
  have distinct : ((System.seen trace).filterMap taken).Nodup := by
    rw [← Multiset.coe_nodup,← drivers]
    exact state.shared.db.unavailable.nodup
  have few : ((System.seen trace).filterMap taken).length ≤ driverSeeds.length := by
    have size := congrArg Multiset.card drivers
    have total := state.shared.db.idle_add_unavailable
    simp only [Finset.card_val,Multiset.coe_card] at size
    omega
  refine ⟨staffed,distinct,few,?_⟩
  have served : ((state.shared.db.orders.rows.filter
      (fun row => row.dispatchStatus = .assigned)).map Order.id).Nodup :=
    List.Nodup.sublist (List.filter_sublist.map _) state.shared.db.orders.keyed
  have origin : (state.shared.db.orders.rows.filter
      (fun row => row.dispatchStatus = .assigned)).map Order.id ⊆
        (trace'.filterMap Move.assigned).map Prod.fst := by
    intro order member
    obtain ⟨row,listed,rfl⟩ := List.mem_map.mp member
    obtain ⟨present,assigned⟩ := List.mem_filter.mp listed
    rw [← played.shared] at present
    obtain ⟨driver,event⟩ := assigned_origin start run' row present (of_decide_eq_true assigned)
    exact List.mem_map.mpr ⟨_,event,rfl⟩
  have bound := (List.subperm_of_subset served origin).length_le
  have same : (trace'.filterMap Move.assigned).length = ((System.seen trace).filterMap taken).length := by
    rw [← shows,taken_seen,List.length_map]
  simp only [List.length_map] at bound
  omega

theorem shift_serves_few : ∃ (trace : List (fleet {} (· = false)).Moves)
    (state : System.State Call Reply PyException Shared Bool),
      (fleet {} (· = false)).Run ⟨Database.empty,0⟩ trace state ∧
        (System.seen trace).filterMap taken = [Sample.id 2] ∧ state.shared.db.Staffed ∧
          (state.shared.db.orders.rows.filter (fun row => row.dispatchStatus = .assigned)).length ≤
            driverSeeds.length := by
  obtain ⟨⟨trace,state⟩,replayed,shown⟩ := Option.map_eq_some_iff.mp shift_replayed
  have run := System.replay_execution replayed
  obtain ⟨staffed,_,_,few⟩ := serves_few rfl run
  exact ⟨trace,state,run,shown,staffed.final run,few⟩

end Fleet
end FoodDispatch
