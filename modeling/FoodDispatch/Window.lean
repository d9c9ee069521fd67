import FoodDispatch.Ledger

/-! No order is assigned before its dispatch window opens, with any number of
loops. A loop assigns from a copy whose ready time is that of the row, after a
reading of the clock that opened the gate, and the clock does not go back. The gate
is a comparison of doubles, which is exact up to a window of five centuries. -/
namespace FoodDispatch
open Library
open PrepEstimator (WindowOpen readyAt)

section
variable {Thread : Type} [DecidableEq Thread] {settings : Settings} {loops : Thread → Prop}

/-- The thread read the clock for a creation and is still in the job that did. -/
def ReadFor {Action : Type} (trace : List (Move Thread Action)) (thread : Thread) (time : ℤ) : Prop :=
  ∃ first reading rest, trace = first ++ reading::rest ∧
    (∃ note, reading.label = .call thread (.now .creation) note (.ok time)) ∧
      ∀ move ∈ rest, ∀ job, move.label ≠ .start thread job

/-- Some job read the clock, and then committed an order with the ready time that
belongs to its reading. -/
def CreatedAt {Action : Type} (settings : Settings) (trace : List (Move Thread Action)) (id : UUID)
    (created : ℤ) : Prop :=
  ∃ first commit rest, trace = first ++ commit::rest ∧ ∃ thread payload note reply,
    commit.label = .call thread (.commitOrder id payload (readyAt settings created)) note reply ∧
      ReadFor first thread created

/-- The row has the ready time of its creation, and was not assigned before a reading
of the clock that opened the gate for that time. -/
structure Timely {Action : Type} (settings : Settings) (trace : List (Move Thread Action))
    (row : Order) : Prop where
  created : ∃ created, CreatedAt settings trace row.id created ∧
    row.predictedReadyAt = readyAt settings created
  stamped : row.dispatchStatus = .assigned → row.assignedAt ≠ none
  opened : ∀ time ∈ row.assignedAt, ∃ read ≤ time, WindowOpen settings row.predictedReadyAt read

structure Punctual (settings : Settings) (trace : List (Move Thread Empty)) (shared : Shared)
    (ledgers : Thread → Ledger) : Prop where
  gate : ∀ thread order time, (ledgers thread).gate = some (order,time) → time ≤ shared.clock
  reading : ∀ thread time, (ledgers thread).created = some time → ReadFor trace thread time
  owned : ∀ thread, ∀ copy ∈ (ledgers thread).owned, ∃ row ∈ shared.db.orders.rows,
    row.id = copy.id ∧ row.predictedReadyAt = copy.predictedReadyAt
  rows : ∀ row ∈ shared.db.orders.rows, Timely settings trace row

omit [DecidableEq Thread] in
theorem ReadFor.later {Action : Type} {trace : List (Move Thread Action)} {thread : Thread}
    {time : ℤ} (read : ReadFor trace thread time) {move : Move Thread Action}
    (same : ∀ job, move.label ≠ .start thread job) : ReadFor (trace ++ [move]) thread time := by
  obtain ⟨first,reading,rest,located,label,between⟩ := read
  obtain ⟨extended,since⟩ := Execution.located_snoc located between same
  exact ⟨first,reading,rest ++ [move],extended,label,since⟩

omit [DecidableEq Thread] in
theorem Timely.later {Action : Type} {trace : List (Move Thread Action)} {row : Order}
    (timely : Timely settings trace row) (move : Move Thread Action) :
    Timely settings (trace ++ [move]) row := by
  obtain ⟨created,⟨first,commit,rest,located,committed⟩,ready⟩ := timely.created
  refine ⟨⟨created,⟨first,commit,rest ++ [move],?_,committed⟩,ready⟩,timely.stamped,timely.opened⟩
  rw [located,List.append_assoc,List.cons_append]

theorem Database.Written.keepsReady {call : Call} {time : ℤ} {db next : Database}
    (written : Database.Written call time db next) {row : Order} (member : row ∈ db.orders.rows) :
    ∃ new ∈ next.orders.rows, new.id = row.id ∧ new.predictedReadyAt = row.predictedReadyAt := by
  cases written with
  | unchanged same => exact ⟨row,same ▸ member,rfl,rfl⟩
  | held order hold held =>
    rcases held.keepsOrder member with kept | kept
    · exact ⟨row,kept,rfl,rfl⟩
    · exact ⟨row.hold,kept,rfl,rfl⟩
  | assigned order driver attempt assigned =>
    by_cases same : row.id = order
    · exact ⟨_,assigned.newOrder member same,rfl,rfl⟩
    · exact ⟨row,assigned.keepsOrder member same,rfl,rfl⟩
  | created id payload ready commit grown rows => exact ⟨row,grown.keepsOrder row member,rfl,rfl⟩
  | moved grown orders => exact ⟨row,grown.keepsOrder row member,rfl,rfl⟩

namespace Punctual
variable {trace : List (Move Thread Empty)} {ledgers : Thread → Ledger}

theorem restart {thread : Thread} {move : Move Thread Empty}
    (punctual : Punctual settings trace move.before.shared ledgers)
    (label : move.label = .kill thread ∨ ∃ job, move.label = .start thread job)
    (same : move.after.shared = move.before.shared) :
    Punctual settings (trace ++ [move]) move.after.shared
      (Function.update ledgers thread Ledger.fresh) := by
  rw [same]
  constructor
  · rw [Function.forall_update_iff ledgers (fun _ ledger => ∀ order time,
      ledger.gate = some (order,time) → time ≤ move.before.shared.clock)]
    exact ⟨by simp [Ledger.fresh],fun other _ => punctual.gate other⟩
  · rw [Function.forall_update_iff ledgers (fun thread ledger => ∀ time,
      ledger.created = some time → ReadFor (trace ++ [move]) thread time)]
    refine ⟨by simp [Ledger.fresh],fun other apart time created => ?_⟩
    exact (punctual.reading other time created).later (restart_others label apart).2
  · rw [Function.forall_update_iff ledgers (fun _ ledger => ∀ copy ∈ ledger.owned,
      ∃ row ∈ move.before.shared.db.orders.rows,
        row.id = copy.id ∧ row.predictedReadyAt = copy.predictedReadyAt)]
    exact ⟨by simp [Ledger.fresh],fun other _ => punctual.owned other⟩
  · intro row member
    exact (punctual.rows row member).later move

section Call
variable {thread : Thread} {request : Call} {note : Note}
variable {reply : Except PyException (Reply request)} {move : Move Thread Empty}

omit [DecidableEq Thread] in
theorem call_rows (punctual : Punctual settings trace move.before.shared ledgers)
    (label : move.label = .call thread request note reply)
    (allowed : (Ledger.monitor settings (loops thread)).allows (ledgers thread) request)
    (answered : request.respond note move.before.shared = some (reply,move.after.shared))
    (monotone : move.before.shared.clock ≤ move.after.shared.clock)
    {row : Order} (member : row ∈ move.after.shared.db.orders.rows) :
    Timely settings (trace ++ [move]) row := by
  cases Call.respond_written answered with
  | unchanged same => exact (punctual.rows row (same ▸ member)).later move
  | held order hold held =>
    rcases held.order_cases member with ⟨old,known,_,_,rfl⟩ | known
    · have timely := (punctual.rows old known).later move
      exact ⟨timely.created,by simp [Order.hold],timely.opened⟩
    · exact (punctual.rows row known).later move
  | assigned order driver attempt assigned =>
    subst attempt
    rcases assigned.order_cases member with ⟨old,known,named,rfl⟩ | ⟨known,_⟩
    · obtain ⟨copy,owned,same,time,gate,opened⟩ := allowed
      obtain ⟨fetched,present,equal,ready⟩ := punctual.owned thread copy owned
      have stored : fetched = old :=
        move.before.shared.db.orders.unique present known ((equal.trans same).trans named.symm)
      have recent := punctual.gate thread order time gate
      have clock := Call.respond_clock answered
      refine ⟨((punctual.rows old known).later move).created,by simp [Order.assign],?_⟩
      intro stamp stamped
      cases stamped
      have unchanged : (old.assign driver note.now).predictedReadyAt = copy.predictedReadyAt := by
        rw [← ready,stored]
        rfl
      exact ⟨time,by omega,unchanged ▸ opened⟩
    · exact (punctual.rows row known).later move
  | created id payload ready commit grown rows =>
    subst commit
    rw [rows] at member
    rcases List.mem_append.mp member with known | new
    · exact (punctual.rows row known).later move
    · obtain ⟨time,created,rfl⟩ := allowed
      have read := punctual.reading thread time created
      rw [List.mem_singleton.mp new]
      exact ⟨⟨time,⟨trace,move,[],rfl,thread,payload,note,reply,label,read⟩,rfl⟩,
        by simp [Order.new],by simp [Order.new]⟩
  | moved grown orders => exact (punctual.rows row (orders ▸ member)).later move

theorem call (punctual : Punctual settings trace move.before.shared ledgers)
    (label : move.label = .call thread request note reply)
    (allowed : (Ledger.monitor settings (loops thread)).allows (ledgers thread) request)
    (answered : request.respond note move.before.shared = some (reply,move.after.shared))
    (monotone : move.before.shared.clock ≤ move.after.shared.clock) :
    Punctual settings (trace ++ [move]) move.after.shared
      (Function.update ledgers thread ((ledgers thread).after request reply)) := by
  have clock := Call.respond_clock answered
  have written := Call.respond_written answered
  have keeps (copy : Order) (stored : ∃ row ∈ move.before.shared.db.orders.rows,
      row.id = copy.id ∧ row.predictedReadyAt = copy.predictedReadyAt) :
      ∃ row ∈ move.after.shared.db.orders.rows,
        row.id = copy.id ∧ row.predictedReadyAt = copy.predictedReadyAt := by
    obtain ⟨row,member,same,ready⟩ := stored
    obtain ⟨new,kept,named,equal⟩ := written.keepsReady member
    exact ⟨new,kept,named.trans same,equal.trans ready⟩
  have recent (other : Thread) (order : UUID) (time : ℤ)
      (gate : (ledgers other).gate = some (order,time)) : time ≤ move.after.shared.clock := by
    have before := punctual.gate other order time gate
    omega
  have going (other : Thread) (time : ℤ) (created : (ledgers other).created = some time) :
      ReadFor (trace ++ [move]) other time :=
    (punctual.reading other time created).later (by simp [label])
  constructor
  · rw [Function.forall_update_iff ledgers (fun _ ledger => ∀ order time,
      ledger.gate = some (order,time) → time ≤ move.after.shared.clock)]
    refine ⟨fun order time gate => ?_,fun other _ => recent other⟩
    rcases Ledger.gate_cases answered gate with earlier | now
    · exact recent thread order time earlier
    · exact now.le
  · rw [Function.forall_update_iff ledgers (fun thread ledger => ∀ time,
      ledger.created = some time → ReadFor (trace ++ [move]) thread time)]
    refine ⟨fun time created => ?_,fun other _ => going other⟩
    rcases Ledger.created_cases thread note created with earlier | reading
    · exact going thread time earlier
    · exact ⟨trace,move,[],rfl,⟨note,label.trans reading⟩,by simp⟩
  · rw [Function.forall_update_iff ledgers (fun _ ledger => ∀ copy ∈ ledger.owned,
      ∃ row ∈ move.after.shared.db.orders.rows,
        row.id = copy.id ∧ row.predictedReadyAt = copy.predictedReadyAt)]
    refine ⟨fun copy member => ?_,fun other _ copy member => keeps copy (punctual.owned other copy member)⟩
    rcases Ledger.owned_cases answered member with ⟨owned,_⟩ | ⟨_,actionable,_⟩
    · exact keeps copy (punctual.owned thread copy owned)
    · exact ⟨copy,(List.mem_filter.mp actionable).1,rfl,rfl⟩
  · intro row member
    exact punctual.call_rows label allowed answered monotone member

end Call

theorem invariant : (deployment settings loops nobody).Invariant
    (fun thread => Ledger.monitor settings (loops thread)) Ledger.fresh
    (fun trace shared ledgers => Forward trace → Punctual settings trace shared ledgers) where
  body _ job permitted := Ledger.body_obeys job permitted
  expected _ _ _ _ _ _ answered := Ledger.respond_expected answered
  restart _ _ _ _ punctual label same forward := (punctual forward.last.1).restart label same
  call _ _ _ _ _ _ _ punctual label allowed answered forward :=
    (punctual forward.last.1).call label allowed answered forward.last.2
  outside _ _ action _ _ _ _ := action.elim

end Punctual

/-- Every order has the ready time of its creation, and with a window on which the gate is
exact none is assigned before its window opens. -/
theorem assigned_within_window {shared : Shared} {trace : List (Move Thread Empty)}
    {state : System.State Call Reply PyException Shared Thread} (start : shared.db = Database.empty)
    (run : (deployment settings loops nobody).Run shared trace state) (forward : Forward trace) :
    ∀ row ∈ state.shared.db.orders.rows, ∃ created, CreatedAt settings trace row.id created ∧
      row.predictedReadyAt = readyAt settings created ∧
      (row.dispatchStatus = .assigned → row.assignedAt ≠ none) ∧
      (0 ≤ settings.dispatchWindowMinutes →
        settings.dispatchWindowMinutes ≤ PrepEstimator.exactWindow → ∀ time ∈ row.assignedAt,
          row.predictedReadyAt - minutes settings.dispatchWindowMinutes ≤ time ∧
          created + minutes (settings.prepTimeMinutes + settings.safetyBufferMinutes -
            settings.dispatchWindowMinutes) ≤ time) := by
  have initial : Punctual settings [] shared (fun _ : Thread => Ledger.fresh) :=
    ⟨by simp [Ledger.fresh],by simp [Ledger.fresh],by simp [Ledger.fresh],
      by simp [start,Database.empty,Table.empty]⟩
  have invariant : (deployment settings loops nobody).Invariant
      (fun thread => Ledger.monitor settings (loops thread)) Ledger.fresh
      (fun trace shared ledgers => Forward trace → Punctual settings trace shared ledgers) :=
    Punctual.invariant
  obtain ⟨ledgers,punctual,_⟩ := invariant.reached (fun _ => initial) run
  intro row member
  obtain ⟨⟨created,stems,ready⟩,stamped,opened⟩ := (punctual forward).rows row member
  refine ⟨created,stems,ready,stamped,fun few within time stamp => ?_⟩
  obtain ⟨read,before,open'⟩ := opened time stamp
  have bound := (PrepEstimator.windowOpen_iff few within _ _).mp open'
  have due := ready
  unfold readyAt PrepEstimator.prepMinutes minutes at due
  unfold minutes at bound ⊢
  constructor <;> omega

theorem life_within_window : ∃ (trace : List (Move Bool Empty))
    (state : System.State Call Reply PyException Shared Bool),
      (deployment {} (· = true) nobody).Run ⟨Database.empty,0⟩ trace state ∧
        state.shared.db.orders.rows.map Order.assignedAt = [some (minutes 10)] ∧
          ∀ row ∈ state.shared.db.orders.rows, ∃ created,
            CreatedAt {} trace row.id created ∧ row.predictedReadyAt = readyAt {} created ∧
              (row.dispatchStatus = .assigned → row.assignedAt ≠ none) ∧
              ∀ time ∈ row.assignedAt, row.predictedReadyAt - minutes 10 ≤ time ∧
                created + minutes 8 ≤ time := by
  have replayed : ((System.replay (deployment {} (· = true) nobody) (Sample.life true false)
      (System.State.idle ⟨Database.empty,0⟩)).map
        (fun done => (decide (Forward done.1),
          done.2.shared.db.orders.rows.map Order.assignedAt))) =
          some (true,[some (minutes 10)]) := by
    decide +kernel
  obtain ⟨⟨trace,state⟩,replayed,said⟩ := Option.map_eq_some_iff.mp replayed
  obtain ⟨forward,assigned⟩ := Prod.mk.inj said
  have run := System.replay_execution replayed
  refine ⟨trace,state,run,assigned,fun row member => ?_⟩
  obtain ⟨created,stems,ready,stamped,opened⟩ :=
    assigned_within_window rfl run (of_decide_eq_true forward) row member
  exact ⟨created,stems,ready,stamped,opened (by decide) (by decide)⟩

/-- One minute more than the gate is exact on. -/
def longWindow : Settings := {dispatchWindowMinutes := 286331154,prepTimeMinutes := 286331154}

theorem longWindow_replayed : ((System.replay (deployment longWindow (· = true) nobody)
    (Sample.lifeAt (readyAt longWindow 0) (minutes 3 - 1) true false)
    (System.State.idle ⟨Database.empty,0⟩)).map (fun done => (decide (Forward done.1),
      done.2.shared.db.orders.rows.map (fun row => (row.predictedReadyAt,row.assignedAt))))) =
        some (true,[(minutes 286331157,some (minutes 3 - 1))]) := by
  decide +kernel

/-- The window of the order opens three minutes after its creation, and it is assigned a
microsecond earlier. -/
theorem longWindow_early : ¬∀ (settings : Settings) (trace : List (Move Bool Empty))
    (state : System.State Call Reply PyException Shared Bool),
      0 ≤ settings.dispatchWindowMinutes → 0 ≤ settings.prepTimeMinutes →
      0 ≤ settings.safetyBufferMinutes →
        (deployment settings (· = true) nobody).Run ⟨Database.empty,0⟩ trace state → Forward trace →
          ∀ row ∈ state.shared.db.orders.rows, ∀ time ∈ row.assignedAt,
            row.predictedReadyAt - minutes settings.dispatchWindowMinutes ≤ time := by
  intro claimed
  obtain ⟨⟨trace,state⟩,replayed,said⟩ := Option.map_eq_some_iff.mp longWindow_replayed
  obtain ⟨forward,rows⟩ := Prod.mk.inj said
  obtain ⟨row,member,told⟩ := List.mem_map.mp
    (show (minutes 286331157,some (minutes 3 - 1)) ∈
      state.shared.db.orders.rows.map (fun row => (row.predictedReadyAt,row.assignedAt)) by simp [rows])
  obtain ⟨ready,assigned⟩ := Prod.mk.inj told
  have late := claimed longWindow trace state (by decide) (by decide) (by decide)
    (System.replay_execution replayed) (of_decide_eq_true forward) row member _ assigned
  rw [ready] at late
  exact absurd late (by decide)

end
end FoodDispatch
