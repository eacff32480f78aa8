import BotKeeper.Proofs.Down
import BotKeeper.Proofs.Rejections

/-! Which config an instance has. It is the one that it was registered with, or that of its
latest update, so it was checked before the instance got it. Nothing else that an instance does
changes its config. -/

namespace BotKeeper.Proofs
open Text

structure Fit (id : AccountId) (config : InstanceConfig) : Prop where
  account : config.accountId = id
  valid : config.validate = .ok ()
  named : allBlank config.name.toList = false

/-- The commands that bring no config, or one that the instance may have. -/
def Brings (id : AccountId) (command : Command) : Prop :=
  ∀ config, command.config? = some config → Fit id config

def Fitted (id : AccountId) : Account → Prop
  | .vacant _ => True
  | .kept state => Fit id state.config ∧ ∀ request ∈ state.requests, Brings id request.command

variable {id : AccountId} {state : Instance}

section names

private theorem not_blank_of_alpha {c : Char} (letter : c.isAlpha = true) : isBlank c = false := by
  delta Char.isAlpha Char.isUpper Char.isLower at letter
  simp only [Bool.or_eq_true, Bool.and_eq_true, decide_eq_true_eq, ge_iff_le,
    UInt32.le_iff_toNat_le] at letter
  have ranges : (65 ≤ c.toNat ∧ c.toNat ≤ 90) ∨ (97 ≤ c.toNat ∧ c.toNat ≤ 122) := letter
  exact not_blank_of_printable (by omega) (by omega)

private theorem drawn_not_blank (drawn : DrawnName) : allBlank drawn.letters = false := by
  obtain ⟨letters, eight, alphabetic⟩ := drawn
  cases letters with
  | nil => cases eight
  | cons first rest =>
    have letter := List.all_eq_true.mp alphabetic first List.mem_cons_self
    simp only [allBlank, List.all_cons, not_blank_of_alpha letter, Bool.false_and]

/-- A valid config is fit for its account as soon as it has a name. -/
theorem fit_withDefaultName {config : InstanceConfig} (valid : config.validate = .ok ())
    (drawn : DrawnName) : Fit config.accountId (config.withDefaultName drawn) := by
  refine ⟨accountId_withDefaultName config drawn, ?_, ?_⟩
  · simp only [InstanceConfig.withDefaultName]
    split <;> exact valid
  · simp only [InstanceConfig.withDefaultName]
    split
    · simpa using drawn_not_blank drawn
    · rename_i named
      simpa using named

end names

section kept

variable (around : Surroundings)

private theorem config_spawn (state : Instance) : (state.spawn around).1.config = state.config := by
  simp only [Instance.spawn]
  split <;> rfl

theorem config_start (operator : Bool) (state : Instance) :
    (state.start around operator).1.config = state.config := by
  simp only [Instance.start]
  split
  · rfl
  · split
    · rfl
    · rename_i machine outcome _
      generalize begun : Instance.publishTransition _ _ = between
      have same : between.config = state.config := by
        subst between
        rfl
      have launched := (config_spawn around between).trans same
      generalize between.spawn around = result at launched
      obtain ⟨after, _ | _⟩ := result
      · exact launched
      · exact launched

private theorem config_complete (purpose : Purpose) (result : Except Error Unit) (state : Instance) :
    (state.complete purpose result).config = state.config := by
  cases purpose with
  | stop ticket =>
    cases result with
    | error error => rfl
    | ok nothing =>
      simp only [Instance.complete]
      split <;> rfl
  | reboot | scheduledRestart => cases result <;> rfl
  | event stopped => cases stopped <;> rfl

private theorem config_terminate (graceful : Bool) (state : Instance) :
    (state.terminate around graceful).1.config = state.config := by
  obtain ⟨bots, messages, same⟩ := terminate_same around state graceful
  rw [same]

private theorem config_carries : Carries around fun before after => after.config = before.config where
  trans := fun one other => other.trans one
  notice := fun _ _ => rfl
  spawn := config_spawn around
  terminate := fun state graceful => config_terminate around graceful state
  busy := fun _ _ => rfl
  complete := fun state purpose result => config_complete purpose result state

theorem config_perform (effects : List Effect) (purpose : Purpose) (state : Instance) :
    (state.perform around effects purpose).config = state.config :=
  (config_carries around).perform state effects purpose

theorem config_goOn (wait : Wait) (result : Instance × Ending) :
    (Instance.goOn around wait result).config = result.1.config :=
  (config_carries around).goOn result.1 wait rfl

private theorem config_afterStop (state : Instance) :
    (state.afterStop around).config = state.config := by
  simp only [Instance.afterStop]
  split
  · rfl
  · exact config_start around _ _
  · exact config_start around _ _

private theorem config_startFor (ticket : Ticket) (state : Instance) :
    (state.startFor around ticket).config = state.config :=
  config_start around true state

private theorem config_stop (ticket : Ticket) (state : Instance) :
    (state.stop around ticket).config = state.config := by
  simp only [Instance.stop]
  split
  · rfl
  · split
    · rfl
    · exact config_perform around _ _ _

private theorem config_reboot (ticket : Ticket) (state : Instance) :
    (state.reboot around ticket).config = state.config := by
  simp only [Instance.reboot]
  split
  · exact config_startFor around ticket state
  · split
    · rfl
    · split
      · rfl
      · exact config_perform around _ _ _

private theorem config_scheduledRestart (state : Instance) :
    (state.scheduledRestart around).config = state.config := by
  simp only [Instance.scheduledRestart]
  split
  · rfl
  · split
    · rfl
    · exact config_perform around _ _ _

private theorem config_apply (event : LifecycleEvent) (state : Instance) :
    (state.apply around event).config = state.config :=
  config_perform around _ _ _

private theorem config_receive (message : Message) (state : Instance) :
    (state.receive around message).config = state.config := by
  simp only [Instance.receive]
  split
  · split
    · simp only [Instance.hear]
      split
      · exact config_apply around _ _
      · rfl
    · exact config_apply around _ _
  · rfl

private theorem config_runOut (wait : Wait) (bot : Bot) (state : Instance) :
    (state.runOut around wait bot).config = state.config := by
  simp only [Instance.runOut]
  split
  · obtain ⟨bots, messages, same⟩ := kill_same around state
    rw [config_goOn, same]
  · exact config_goOn around wait _

end kept

/-- An instance that looks at a call keeps its config or gets the one that the call brings. -/
theorem serve_config {around : Surroundings} {request : Request} {after : Instance}
    (served : state.serve around request = .kept after) :
    after.config = state.config ∨ request.command = .update after.config := by
  obtain ⟨ticket, command⟩ := request
  cases command with
  | start =>
    cases served
    exact .inl (config_startFor around ticket state)
  | stop =>
    cases served
    exact .inl (config_stop around ticket state)
  | reboot =>
    cases served
    exact .inl (config_reboot around ticket state)
  | update config =>
    cases served
    simp only [Instance.update]
    split
    · exact .inl rfl
    · exact .inr rfl
  | delete =>
    simp only [Instance.serve, Instance.delete] at served
    split at served <;> cases served
    exact .inl rfl

/-- A move leaves the config as it is, or makes a queued update. -/
theorem move_config {around : Surroundings} {move : Move} {after : Instance}
    (moves : Moves around state move (.kept after)) : after.config = state.config ∨
      ∃ request ∈ state.requests, request.command = .update after.config := by
  generalize result : Account.kept after = account at moves
  cases moves with
  | receive =>
    cases result
    exact .inl (config_receive around _ _)
  | @serve request rest idle requests =>
    rcases serve_config result.symm with same | updates
    · exact .inl same
    · exact .inr ⟨request, requests ▸ List.mem_cons_self, updates⟩
  | restart =>
    cases result
    exact .inl (config_scheduledRestart around state)
  | conclude =>
    cases result
    exact .inl (config_afterStop around _)
  | resume =>
    cases result
    exact .inl (config_goOn around _ _)
  | timeout =>
    cases result
    exact .inl (config_runOut around _ _ state)
  | giveUp =>
    cases result
    exact .inl rfl

section fitted

private theorem brings_nothing {command : Command} (none : command.config? = none) :
    Brings id command := by
  intro config given
  rw [none] at given
  cases given

theorem Fitted.take {command : Command} (fitted : Fitted id (.kept state))
    (brings : Brings id command) : Fitted id (.kept (state.take command)) := by
  refine ⟨fitted.1, fun request member => ?_⟩
  rcases List.mem_append.mp member with queued | last
  · exact fitted.2 request queued
  · rw [List.mem_singleton.mp last]
    exact brings

theorem Fitted.observe {account : Account} (fitted : Fitted id account)
    (change : Bot × List Report) : Fitted id (account.observe change) := by
  cases account with
  | vacant ledger => trivial
  | kept state => exact fitted

theorem Fitted.move {around : Surroundings} {move : Move} {account : Account}
    (order : InOrder id (.kept state)) (fitted : Fitted id (.kept state))
    (moves : Moves around state move account) : Fitted id account := by
  cases account with
  | vacant ledger => trivial
  | kept after =>
    refine ⟨?_, fun request member => fitted.2 request ?_⟩
    · rcases move_config moves with same | ⟨request, queued, updates⟩
      · exact same ▸ fitted.1
      · exact fitted.2 request queued after.config (by rw [updates]; rfl)
    · exact mem_of_taken (move_requests order moves ▸ member)

end fitted

def AllFitted (keeper : Keeper) : Prop :=
  ∀ id account, keeper.accounts.get? id = some account → Fitted id account

namespace AllFitted

variable {keeper after : Keeper} {account : Account}

theorem put (all : AllFitted keeper) (fitted : Fitted id account) :
    AllFitted (keeper.put id account) := by
  intro other found present
  rw [get?_put] at present
  split at present
  · rename_i here
    cases present
    exact here ▸ fitted
  · exact all other found present

theorem call (all : AllFitted keeper) {command : Command} (brings : Brings id command) :
    AllFitted (keeper.call id command).1 := by
  rcases call_cases keeper id command with ⟨error, refused⟩ | ⟨state, registered, taken⟩
  · rw [refused]
    exact all
  · rw [taken]
    exact all.put ((all id _ (kept_of_instance? registered)).take brings)

theorem stopEach (all : AllFitted keeper) (targets : List AccountId) :
    AllFitted (keeper.stopEach targets).1 := by
  induction targets generalizing keeper with
  | nil => exact all
  | cons id rest ih =>
    have first : AllFitted (keeper.call id .stop).1 := all.call (brings_nothing rfl)
    simp only [Keeper.stopEach]
    generalize keeper.call id .stop = called at first
    obtain ⟨between, _ | _⟩ := called
    · exact ih first
    · exact ih first

theorem add (all : AllFitted keeper) (config : InstanceConfig) (drawn : DrawnName) :
    AllFitted (keeper.add config drawn).1 := by
  simp only [Keeper.add]
  cases valid : config.validate with
  | error fault => exact all
  | ok checked =>
    dsimp only
    split
    · exact all
    · exact all.put ⟨fit_withDefaultName valid drawn, fun _ member => absurd member List.not_mem_nil⟩

theorem update (all : AllFitted keeper) (id : AccountId) (config : InstanceConfig)
    (drawn : DrawnName) : AllFitted (keeper.update id config drawn).1 := by
  simp only [Keeper.update]
  split
  · exact all
  · rename_i same
    have own : config.accountId = id := by simpa using same
    cases valid : config.validate with
    | error fault => exact all
    | ok checked =>
      apply all.call
      intro brought given
      cases given
      exact own ▸ fit_withDefaultName valid drawn

theorem happen (all : AllFitted keeper) {bot : Option Bot} {happening : Bot → Bot × List Report}
    (happens : keeper.happen id bot happening = some after) : AllFitted after := by
  simp only [Keeper.happen, Option.bind_eq_bind] at happens
  obtain ⟨account, present, happens⟩ := Option.bind_eq_some_iff.mp happens
  obtain ⟨bot, -, happens⟩ := Option.bind_eq_some_iff.mp happens
  cases happens
  exact all.put ((all id account present).observe _)

theorem step (reachable : keeper.Reachable) (all : AllFitted keeper) {event : Keeper.Event}
    (steps : keeper.step? event = some after) : AllFitted after := by
  cases event with
  | add config drawn =>
    cases steps
    exact all.add config drawn
  | start | stop | reboot | delete =>
    cases steps
    exact all.call (brings_nothing rfl)
  | update id config drawn =>
    cases steps
    exact all.update id config drawn
  | stopAll =>
    cases steps
    exact all.stopEach _
  | beginUpdate =>
    cases steps
    simp only [Keeper.beginUpdate]
    split
    · exact all
    · split <;> exact all
  | endUpdate =>
    simp only [Keeper.step?, Keeper.endUpdate?] at steps
    split at steps <;> cases steps
    exact all
  | move id move =>
    obtain ⟨state, account, registered, moves, rfl⟩ := moves_of_step steps
    have present := kept_of_instance? registered
    exact all.put ((all id _ present).move (reachable_inOrder reachable _ present) moves)
  | print | printLate | exit | closeOutput | alter => exact happen all steps
  | advance | surround =>
    cases steps
    exact all

end AllFitted

theorem reachable_fitted {keeper : Keeper} (reachable : keeper.Reachable) : AllFitted keeper := by
  obtain ⟨around, opened, run⟩ := reachable
  induction run with
  | refl =>
    intro id account present
    simp [OrderedMap.get?_empty] at present
  | step before _ happens ih => exact ih.step ⟨around, opened, before⟩ happens

end BotKeeper.Proofs
