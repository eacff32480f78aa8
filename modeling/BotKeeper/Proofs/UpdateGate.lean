import BotKeeper.Proofs.Stopped

/-! The gate that is closed while the shared program is being replaced. A permit is
given only when all instances are stopped, and as long as it is held none is started.
So no bot uses the program meanwhile. -/

namespace BotKeeper.Proofs

variable {keeper after : Keeper} {event : Keeper.Event}

def OfGate : Keeper.Event → Prop
  | .beginUpdate | .endUpdate => True
  | _ => False

def SameGate (before after : Keeper) : Prop :=
  after.around.gate = before.around.gate ∧ after.permits = before.permits

theorem call_sameGate (keeper : Keeper) (id : AccountId) (command : Command) :
    SameGate keeper (keeper.call id command).1 := by
  unfold Keeper.call
  split
  · exact ⟨rfl, rfl⟩
  · exact ⟨rfl, rfl⟩

private theorem stopEach_sameGate (keeper : Keeper) (targets : List AccountId) :
    SameGate keeper (keeper.stopEach targets).1 := by
  induction targets generalizing keeper with
  | nil => exact ⟨rfl, rfl⟩
  | cons id rest ih =>
    have first := call_sameGate keeper id .stop
    unfold Keeper.stopEach
    generalize keeper.call id .stop = called at first
    obtain ⟨between, outcome⟩ := called
    have later := ih between
    have both : SameGate keeper (between.stopEach rest).1 :=
      ⟨later.1.trans first.1, later.2.trans first.2⟩
    cases outcome with
    | error error => exact both
    | ok call => exact both

private theorem happen_sameGate {id : AccountId} {bot : Option Bot}
    {happening : Bot → Bot × List Report}
    (happens : keeper.happen id bot happening = some after) : SameGate keeper after := by
  unfold Keeper.happen at happens
  cases present : keeper.accounts.get? id with
  | none => simp [present] at happens
  | some account =>
    cases bot with
    | none => simp [present] at happens
    | some bot =>
      simp only [present, Option.bind_eq_bind, Option.bind_some, Option.pure_def,
        Option.some.injEq] at happens
      subst after
      exact ⟨rfl, rfl⟩

private theorem step_sameGate (other : ¬ OfGate event) (steps : keeper.step? event = some after) :
    SameGate keeper after := by
  cases event with
  | beginUpdate | endUpdate => exact absurd trivial other
  | add config drawn =>
    cases steps
    unfold Keeper.add
    split
    · exact ⟨rfl, rfl⟩
    · dsimp only
      split <;> exact ⟨rfl, rfl⟩
  | start id | stop id | reboot id | delete id =>
    cases steps
    exact call_sameGate keeper id _
  | update id config drawn =>
    cases steps
    unfold Keeper.update
    split
    · exact ⟨rfl, rfl⟩
    · split
      · exact ⟨rfl, rfl⟩
      · exact call_sameGate keeper id _
  | stopAll =>
    cases steps
    exact stopEach_sameGate keeper _
  | move id move =>
    obtain ⟨account, _, same⟩ := Option.map_eq_some_iff.mp steps
    subst after
    exact ⟨rfl, rfl⟩
  | print | printLate | exit | closeOutput | alter => exact happen_sameGate steps
  | advance | surround =>
    cases steps
    exact ⟨rfl, rfl⟩

/-- While a permit is held, and it is the only one, the gate is closed and nothing is up. -/
structure GateKept (keeper : Keeper) : Prop where
  permits : keeper.permits = if keeper.around.gate then 1 else 0
  rest : keeper.around.gate = true → ∀ id, AtRest (keeper.accounts.get? id)

private theorem checkUpdate_ok : keeper.checkUpdate = .ok () ↔
    ∀ id state, keeper.instance? id = some state → state.snapshot.phase = .stopped := by
  have idle : keeper.activeIds = [] ↔ ∀ snapshot ∈ keeper.snapshots, snapshot.phase = .stopped := by
    simp [Keeper.activeIds, Phase.isStopped]
  have checked : keeper.checkUpdate = .ok () ↔ keeper.activeIds = [] := by
    cases active : keeper.activeIds with
    | nil => simp only [Keeper.checkUpdate, active]
    | cons id rest => simp [Keeper.checkUpdate, active]
  rw [checked, idle]
  constructor
  · intro all id state registered
    exact all _ (mem_snapshots.mpr ⟨id, state, registered, rfl⟩)
  · intro all snapshot member
    obtain ⟨id, state, registered, rfl⟩ := mem_snapshots.mp member
    exact all id state registered

theorem beginUpdate_cases (keeper : Keeper) :
    (keeper.beginUpdate.2 ≠ .ok () ∧ keeper.beginUpdate.1 = keeper ∧
      (keeper.around.gate = true ∨ keeper.checkUpdate ≠ .ok ())) ∨
    (keeper.beginUpdate.2 = .ok () ∧ keeper.around.gate = false ∧ keeper.checkUpdate = .ok () ∧
      keeper.beginUpdate.1 = { keeper with
        around := { keeper.around with gate := true }
        permits := keeper.permits + 1 }) := by
  unfold Keeper.beginUpdate
  split
  · rename_i closed
    exact .inl ⟨by simp, rfl, .inl closed⟩
  · rename_i opened
    split
    · rename_i error refused
      exact .inl ⟨by simp, rfl, .inr (by simp [refused])⟩
    · rename_i agreed
      exact .inr ⟨rfl, by simpa using opened, agreed, rfl⟩

theorem GateKept.step (kept : GateKept keeper) (reachable : keeper.Reachable)
    (steps : keeper.step? event = some after) : GateKept after := by
  by_cases gate : OfGate event
  · cases event with
    | beginUpdate =>
      cases steps
      rcases beginUpdate_cases keeper with ⟨_, same, _⟩ | ⟨_, opened, agreed, given⟩
      · show GateKept keeper.beginUpdate.1
        rw [same]
        exact kept
      · rw [given]
        refine ⟨by simp [kept.permits, opened], ?_⟩
        intro _ id state found
        have registered : keeper.instance? id = some state := instance?_of_kept found
        have shown := checkUpdate_ok.mp agreed id state registered
        rwa [(reachable_sound reachable registered).seen] at shown
    | endUpdate =>
      simp only [Keeper.step?, Keeper.endUpdate?] at steps
      have bound := kept.permits
      split at steps
      · cases steps
      · rename_i permits held
        cases steps
        refine ⟨?_, fun impossible => by cases impossible⟩
        rw [held] at bound
        split at bound
        · exact Nat.succ.inj bound
        · cases bound
    | _ => cases gate
  · obtain ⟨sameGate, samePermits⟩ := step_sameGate gate steps
    refine ⟨by rw [samePermits, sameGate, kept.permits], ?_⟩
    intro closed id
    rw [sameGate] at closed
    exact ((step_happens steps id).uneventful (reachable_inOrder reachable)
      (kept.rest closed id) fun _ _ => .inl closed).rest

theorem GateKept.not_alive (kept : GateKept keeper) (reachable : keeper.Reachable)
    (closed : keeper.around.gate = true) (id : AccountId) :
    ∀ bot ∈ (keeper.ledger id).bots, bot.isAlive = false := by
  intro bot member
  unfold Keeper.ledger at member
  cases found : keeper.accounts.get? id with
  | none => simp [found] at member
  | some account =>
    rw [found] at member
    have quiet : AtRest (some account) := found ▸ kept.rest closed id
    exact not_alive_of_gone (quiet.gone (reachable_inOrder reachable account found) bot member)

theorem reachable_gateKept (reachable : keeper.Reachable) : GateKept keeper := by
  obtain ⟨around, opened, run⟩ := reachable
  induction run with
  | refl => exact ⟨by simp [opened], fun closed => by simp [opened] at closed⟩
  | step run _ happens ih => exact ih.step ⟨around, opened, run⟩ happens

theorem instance?_put (keeper : Keeper) (id : AccountId) (account : Account) :
    (keeper.put id account).instance? id = account.instance? := by
  unfold Keeper.instance?
  rw [get?_put, if_pos rfl, Option.bind_some]

private theorem beginUpdate_iff (reachable : keeper.Reachable) : keeper.beginUpdate.2 = .ok () ↔
    keeper.permits = 0 ∧
      ∀ id state, keeper.instance? id = some state → state.machine.phase = .stopped := by
  have permits := (reachable_gateKept reachable).permits
  have seen : keeper.checkUpdate = .ok () ↔
      ∀ id state, keeper.instance? id = some state → state.machine.phase = .stopped := by
    rw [checkUpdate_ok]
    refine forall_congr' fun id => forall_congr' fun state => forall_congr' fun registered => ?_
    rw [(reachable_sound reachable registered).seen]
    rfl
  rcases beginUpdate_cases keeper with ⟨refused, _, why⟩ | ⟨given, opened, agreed, _⟩
  · constructor
    · intro given
      exact absurd given refused
    · rintro ⟨free, stopped⟩
      rcases why with closed | disagreed
      · rw [permits, closed] at free
        cases free
      · exact absurd (seen.mpr stopped) disagreed
  · rw [opened] at permits
    constructor
    · intro _
      exact ⟨permits, seen.mp agreed⟩
    · intro _
      exact given

private theorem serve_closed (closed : keeper.around.gate = true) {id : AccountId} {state : Instance}
    (registered : keeper.instance? id = some state) (stopped : state.machine.phase = .stopped)
    (idle : state.busy = none) {request : Request} {rest : List Request}
    (requests : state.requests = request :: rest) (asks : starts request.command = true) :
    ∃ after, keeper.move? id .serve = some after ∧ after.instance? id =
      some ({ state with requests := rest }.answer request.ticket (.error .updateInProgress)) := by
  have served : { state with requests := rest }.serve keeper.around request =
      .kept ({ state with requests := rest }.answer request.ticket (.error .updateInProgress)) := by
    obtain ⟨ticket, command⟩ := request
    have isStopped : state.machine.phase.isStopped = true := by simp [stopped, Phase.isStopped]
    cases command with
    | start => simp only [Instance.serve, Instance.startFor, start_refused closed]
    | reboot =>
      simp only [Instance.serve, Instance.reboot, isStopped, if_true, Instance.startFor,
        start_refused closed]
    | stop | update | delete => cases asks
  have moves : state.move? keeper.around .serve = some _ := (Moves.serve idle requests).move?
  refine ⟨keeper.put id _, ?_, instance?_put keeper id (.kept _)⟩
  rw [Keeper.move?, registered, Option.bind_some, moves, served, Option.map_some]

private theorem conclude_closed (closed : keeper.around.gate = true) {id : AccountId}
    {state : Instance}
    (registered : keeper.instance? id = some state) (halted : state.busy = some .halted)
    (alone : state.stopWaiters = []) {ticket : Ticket}
    (pending : state.pendingStart = some (.requested ticket)) :
    ∃ after, keeper.move? id .conclude = some after ∧ after.instance? id = some
      ({ state with busy := none, pendingStart := none, restartAt := none }.answer ticket
        (.error .updateInProgress)) := by
  have concluded : { state with busy := none }.afterStop keeper.around =
      { state with busy := none, pendingStart := none, restartAt := none }.answer ticket
        (.error .updateInProgress) := by
    simp [Instance.afterStop, pending, start_refused closed, Instance.releaseStops, alone,
      Instance.answer]
  have moves : state.move? keeper.around .conclude = some _ := (Moves.conclude halted).move?
  refine ⟨keeper.put id _, ?_, instance?_put keeper id (.kept _)⟩
  rw [Keeper.move?, registered, Option.bind_some, moves, concluded, Option.map_some]

/-- At most one permit is held at any time, and the gate is closed exactly while one is.
A permit is given where none is held and all instances are stopped. While it is held they
stay so, no process is alive and whatever happens launches none. Whoever asks for a start
or a reboot is refused as soon as the call is looked at, and so is a reboot whose start
was pending already. -/
theorem update_gate (reachable : keeper.Reachable) :
    keeper.permits ≤ 1 ∧ (keeper.around.gate = true ↔ keeper.permits = 1) ∧
    (keeper.beginUpdate.2 = .ok () ↔ keeper.permits = 0 ∧
      ∀ id state, keeper.instance? id = some state → state.machine.phase = .stopped) ∧
    (keeper.permits = 1 →
      (∀ id state, keeper.instance? id = some state →
        state.machine.phase = .stopped ∧ state.snapshot.phase = .stopped) ∧
      (∀ id, ∀ bot ∈ (keeper.ledger id).bots, bot.isAlive = false) ∧
      (∀ event after, keeper.step? event = some after → ∀ id,
        (after.ledger id).bots.length = (keeper.ledger id).bots.length) ∧
      (∀ id state request rest, keeper.instance? id = some state → state.busy = none →
        state.requests = request :: rest → starts request.command = true →
        ∃ after, keeper.move? id .serve = some after ∧ after.instance? id =
          some ({ state with requests := rest }.answer request.ticket (.error .updateInProgress))) ∧
      ∀ id state ticket, keeper.instance? id = some state →
        state.pendingStart = some (.requested ticket) →
        ∃ after, keeper.move? id .conclude = some after ∧ after.instance? id = some
          ({ state with busy := none, pendingStart := none, restartAt := none }.answer ticket
            (.error .updateInProgress))) := by
  have kept := reachable_gateKept reachable
  have gate : keeper.around.gate = true ↔ keeper.permits = 1 := by
    rw [kept.permits]
    split <;> simp [*]
  refine ⟨?_, gate, ?_, ?_⟩
  · rw [kept.permits]
    split <;> decide
  · exact beginUpdate_iff reachable
  · intro held
    have closed := gate.mpr held
    have rest : ∀ id state, keeper.instance? id = some state → state.machine.phase = .stopped := by
      intro id state registered
      exact kept.rest closed id state (kept_of_instance? registered)
    refine ⟨?_, kept.not_alive reachable closed, ?_, ?_, ?_⟩
    · intro id state registered
      have stopped := rest id state registered
      refine ⟨stopped, ?_⟩
      rw [(reachable_sound reachable registered).seen]
      exact stopped
    · intro event after steps id
      exact ((step_happens steps id).uneventful (reachable_inOrder reachable)
        (kept.rest closed id) fun _ _ => .inl closed).bots
    · intro id state request left registered idle requests asks
      exact serve_closed closed registered (rest id state registered) idle requests asks
    · intro id state ticket registered pending
      have sound := reachable_sound reachable registered
      have some : state.pendingStart ≠ none := by simp [pending]
      have halted : state.busy = Option.some .halted :=
        (sound.pending some).resolve_left (by simp [rest id state registered])
      exact conclude_closed closed registered halted (sound.exclusive.resolve_left some) pending

/-- A bot has exited by itself and a permit is held, when its instance is asked for a start. -/
theorem update_gate_after_exit : ∃ keeper after : Keeper, keeper.Reachable ∧ keeper.permits = 1 ∧
    (∀ id state, keeper.instance? id = some state →
      state.machine.phase = .stopped ∧ state.snapshot.phase = .stopped) ∧
    keeper.move? 100001 .serve = some after ∧
    after.result? ⟨100001, 1⟩ = some (.error .updateInProgress) := by
  obtain ⟨keeper, reachable, held, served⟩ :=
    rehearsal_reachable [rehearsedConfig 100001 [], rehearsedConfig 100002 []]
      [.start 100001, .move 100001 .serve, .exit 100001 none, .move 100001 .receive,
        .move 100001 .conclude, .beginUpdate, .start 100001]
      (fun keeper => keeper.permits = 1 ∧ (keeper.move? 100001 .serve).any (fun after =>
        after.result? ⟨100001, 1⟩ = some (.error .updateInProgress)) = true) (by decide)
  obtain ⟨after, moves, refused⟩ := (Option.any_eq_true _ _).mp served
  obtain ⟨_, _, _, closed⟩ := update_gate reachable
  exact ⟨keeper, after, reachable, held, (closed held).1, moves, by simpa using refused⟩

end BotKeeper.Proofs
