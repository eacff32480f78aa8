import BotKeeper.Proofs.Channel

/-! When another process takes the place of one that is still held. While an instance holds a
process it tries no launch but that of an automatic restart, so an operator, the schedule and the
end of a process never cut off what is still to be reported. -/

namespace BotKeeper.Proofs

/-- A move with which an instance replaces its bot after a failed quick login: it hears of it and
acts at once, or it has waited for the end of the old process. -/
inductive AutoRestarts (around : Surroundings) (state : Instance) : Move → Prop where
  | heard {line reason : String} {rest : List Message} {event : LifecycleEvent} {attempt : UInt32}
      (messages : state.messages = ⟨state.generation, .line line⟩ :: rest)
      (means : classify line = some event)
      (leads : (state.machine.handle event around.uptime).2.effects =
        [.terminate false, .spawn, .notify (.autoRestarting attempt reason)]) :
      AutoRestarts around state .receive
  | waited {move : Move} {wait : Wait} {attempt : UInt32} {reason : String}
      (busy : state.busy = some (.wait wait))
      (effects : wait.effects = [.spawn, .notify (.autoRestarting attempt reason)]) :
      AutoRestarts around state move

/-- Effects with a launch among them are those of a start or of an automatic restart. -/
def Proper (effects : List Effect) : Prop :=
  .spawn ∈ effects → effects = [.spawn] ∨ ∃ attempt reason,
    effects = [.spawn, .notify (.autoRestarting attempt reason)] ∨
    effects = [.terminate false, .spawn, .notify (.autoRestarting attempt reason)]

theorem Consequence.restarts {event : LifecycleEvent} {before after : Phase} {effects : List Effect}
    (consequence : Consequence event before after effects) (launches : .spawn ∈ effects) :
    ∃ attempt reason, event = .quickLoginError reason ∧
      effects = [.terminate false, .spawn, .notify (.autoRestarting attempt reason)] := by
  cases consequence with
  | replaced message attempt => exact ⟨attempt, message, rfl, rfl⟩
  | ignored | offline | code | login | limited | stopped | unstarted | crashed => simp at launches

theorem Plan.spawns {phase : Phase} {effects : List Effect} {purpose : Purpose}
    (plan : Plan phase effects purpose) (launches : .spawn ∈ effects) :
    ∃ notice, effects = [.spawn, .notify notice] := by
  cases plan with
  | replace notice => exact ⟨notice, rfl⟩
  | stop | reboot | scheduledRestart | giveUp => simp at launches

theorem Tells.proper {id : AccountId} {thwarted scheduled : Prop} {told later : Telling}
    (tells : Tells id thwarted scheduled told later) (proper : Proper told.effects) :
    Proper later.effects := by
  intro launches
  cases tells with
  | begun => exact .inl rfl
  | meant consequence =>
    obtain ⟨attempt, reason, _, same⟩ := consequence.restarts launches
    exact .inr ⟨attempt, reason, .inr same⟩
  | notified notice =>
    rcases proper (List.mem_cons_of_mem _ launches) with same | ⟨_, _, same | same⟩ <;> cases same
  | ended =>
    rcases proper (List.mem_cons_of_mem _ launches) with same | ⟨attempt, reason, same | same⟩
    · cases same
    · cases same
    · exact .inr ⟨attempt, reason, .inl (List.cons.inj same).2⟩
  | spawned =>
    rcases proper List.mem_cons_self with same | ⟨_, _, same | same⟩
    · rw [(List.cons.inj same).2] at launches
      cases launches
    · rw [(List.cons.inj same).2] at launches
      simp at launches
    · cases same
  | heard | stopped | due | unspawned | abandoned => simp at launches

theorem Tale.proper {id : AccountId} {thwarted scheduled : Prop} {told later : Telling}
    (tale : Tale id thwarted scheduled told later) (proper : Proper told.effects) :
    Proper later.effects := by
  induction tale with
  | refl => exact proper
  | tail _ step ih => exact step.proper ih

variable {id : AccountId} {keeper : Keeper} (around : Surroundings) {state : Instance}

/-- What is launched after a wait is what an automatic restart launches. -/
theorem waited_restarts (reachable : keeper.Reachable)
    (registered : keeper.instance? id = some state) {wait : Wait}
    (busy : state.busy = some (.wait wait)) (launches : .spawn ∈ wait.effects) (move : Move) :
    AutoRestarts around state move := by
  have tale : Tale id True True _ _ := reachable_tale reachable
  have proper := tale.proper (by simp [Proper])
  rw [kept_of_instance? registered, tellingOf, telling_waiting busy] at proper
  obtain ⟨plan, _⟩ := (reachable_sound reachable registered).waits wait busy
  obtain ⟨notice, planned⟩ := plan.spawns launches
  rcases proper launches with same | ⟨attempt, reason, same | same⟩
  · cases planned.symm.trans same
  · exact .waited busy same
  · cases planned.symm.trans same

variable (state)

theorem complete_generation (purpose : Purpose) (result : Except Error Unit) :
    (state.complete purpose result).generation = state.generation :=
  congrArg Channel.generation (channel_complete state [] false purpose result)

theorem perform_generation {effects : List Effect} (none : .spawn ∉ effects) (purpose : Purpose) :
    (state.perform around effects purpose).generation = state.generation := by
  induction effects generalizing state with
  | nil => exact complete_generation state purpose _
  | cons effect rest ih =>
    have later : .spawn ∉ rest := fun member => none (List.mem_cons_of_mem _ member)
    cases effect with
    | spawn => exact absurd List.mem_cons_self none
    | notify notice => exact ih (state.publishNotice notice) later
    | terminate graceful =>
      obtain ⟨bots, messages, ending, ends⟩ := (terminate_same around state graceful).result
      rw [Instance.perform_terminate, ends]
      cases ending with
      | complete => exact ih _ later
      | failed error => exact complete_generation _ purpose _
      | awaited pressure deadline => rfl

theorem goOn_generation {wait : Wait} (none : .spawn ∉ wait.effects) {result : Instance × Ending}
    (same : SameButBots state result.1) :
    (Instance.goOn around wait result).generation = state.generation := by
  obtain ⟨bots, messages, ending, rfl⟩ := same.result
  cases ending with
  | complete => exact perform_generation around _ none wait.purpose
  | failed error => exact complete_generation _ wait.purpose _
  | awaited pressure deadline => rfl

private theorem apply_generation {event : LifecycleEvent}
    (none : .spawn ∉ (state.machine.handle event around.uptime).2.effects) :
    (state.apply around event).generation = state.generation :=
  perform_generation around _ none _

private theorem receive_restarts {message : Message} {rest : List Message}
    (messages : state.messages = message :: rest)
    (another : ({ state with messages := rest }.receive around message).generation ≠
      state.generation) : AutoRestarts around state .receive := by
  unfold Instance.receive at another
  split at another
  · rename_i current
    obtain ⟨generation, report⟩ := message
    dsimp only at current another
    subst generation
    cases report with
    | line text =>
      simp only [Instance.hear] at another
      cases means : classify text with
      | none =>
        rw [means] at another
        exact absurd rfl another
      | some event =>
        rw [means] at another
        by_cases launches : .spawn ∈ (state.machine.handle event around.uptime).2.effects
        · obtain ⟨attempt, reason, _, effects⟩ :=
            (handle_leads state.machine event around.uptime).consequence.restarts launches
          exact .heard messages means effects
        · exact (another (apply_generation around _ launches)).elim
    | exited code =>
      have leads := handle_leads state.machine (.processExited code) around.uptime
      have silent : .spawn ∉ (state.machine.handle (.processExited code) around.uptime).2.effects := by
        intro launches
        obtain ⟨_, _, impossible, _⟩ := leads.consequence.restarts launches
        cases impossible
      exact (another (apply_generation around _ silent)).elim
  · exact absurd rfl another

private theorem stop_generation (ticket : Ticket) :
    (state.stop around ticket).generation = state.generation := by
  unfold Instance.stop
  split
  · rfl
  · rcases stop_cases state.machine with ⟨_, down⟩ | ⟨machine, graceful, _, _, stops⟩
    · rw [down]
      rfl
    · rw [stops]
      exact perform_generation around _ (by simp) _

variable {around} {state}

private theorem reboot_generation (running : state.machine.phase ≠ .stopped) (ticket : Ticket) :
    (state.reboot around ticket).generation = state.generation := by
  have notStopped : state.machine.phase.isStopped = false := by
    simpa [Phase.isStopped] using running
  unfold Instance.reboot
  rw [notStopped]
  split
  · contradiction
  · split
    · rfl
    · rcases stop_cases state.machine with ⟨_, down⟩ | ⟨machine, graceful, _, _, stops⟩
      · rw [down]
        rfl
      · rw [stops]
        exact perform_generation around _ (by simp) _

private theorem serve_generation (running : state.machine.phase ≠ .stopped) (request : Request) :
    ∃ after, state.serve around request = .kept after ∧ after.generation = state.generation := by
  obtain ⟨ticket, command⟩ := request
  cases command with
  | start =>
    refine ⟨_, rfl, ?_⟩
    have same : (state.start around true).1.generation = state.generation := by
      rw [start_running around state running]
    exact same
  | stop => exact ⟨_, rfl, stop_generation around state ticket⟩
  | reboot => exact ⟨_, rfl, reboot_generation running ticket⟩
  | update config =>
    refine ⟨_, rfl, ?_⟩
    unfold Instance.update
    split <;> rfl
  | delete =>
    refine ⟨state.answer ticket (.error (.instanceBusy state.machine.id state.machine.phase)), ?_, rfl⟩
    simp [Instance.serve, Instance.delete, Machine.checkIdle, Phase.isStopped, running]

private theorem scheduledRestart_generation :
    (state.scheduledRestart around).generation = state.generation := by
  unfold Instance.scheduledRestart
  dsimp only
  split
  · rfl
  · rcases stop_cases state.machine with ⟨_, down⟩ | ⟨machine, graceful, _, _, stops⟩
    · rw [down]
    · rw [stops]
      exact perform_generation around _ (by simp) _

def triedBy (account : Option Account) : Nat :=
  ((account.bind Account.instance?).map (·.generation)).getD 0

/-- While a process is held, only an automatic restart tries another launch. -/
theorem move_restarts (reachable : keeper.Reachable) (registered : keeper.instance? id = some state)
    (held : state.handle ≠ none) {move : Move} {account : Account}
    (moves : Moves around state move account) (another : triedBy (some account) ≠ state.generation) :
    AutoRestarts around state move := by
  have sound := reachable_sound reachable registered
  have running : state.machine.phase ≠ .stopped := fun stopped => held (sound.empty.mp stopped)
  cases moves with
  | receive idle messages => exact receive_restarts around state messages another
  | @serve request rest idle requests =>
    obtain ⟨after, serves, same⟩ :=
      @serve_generation around { state with requests := rest } running request
    rw [serves] at another
    exact absurd same another
  | restart => exact absurd scheduledRestart_generation another
  | conclude halted => exact absurd (sound.halted halted) running
  | @resume wait busy ended =>
    by_cases launches : .spawn ∈ wait.effects
    · exact waited_restarts around reachable registered busy launches _
    · exact absurd (goOn_generation around state launches ⟨_, _, rfl⟩) another
  | @timeout wait bot busy alive due =>
    by_cases launches : .spawn ∈ wait.effects
    · exact waited_restarts around reachable registered busy launches _
    · refine absurd ?_ another
      simp only [triedBy, Option.bind_some, Account.instance?, Option.map_some, Option.getD_some]
      unfold Instance.runOut
      split
      · exact goOn_generation around state launches (kill_same around state)
      · exact goOn_generation around state launches ⟨_, _, rfl⟩
  | giveUp => exact absurd rfl another

end BotKeeper.Proofs
