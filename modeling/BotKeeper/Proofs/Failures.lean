import BotKeeper.Proofs.Turns

/-! When the end of a process fails. An end is begun by a step that takes an instance out of
the phases in which its bot is up, or replaces the bot. It fails if the process cannot be
killed where it has to be, and if it survives a kill for too long. -/

namespace BotKeeper.Proofs

/-- The process that is held cannot be killed: it is dead and its exit is not reported yet, or
the system lets nobody send it a signal. -/
def Unkillable (state : Instance) : Prop :=
  ∃ bot ∈ state.held?, bot.isAlive = false ∨ bot.conduct.onKill = .refuses

instance (state : Instance) : Decidable (Unkillable state) :=
  inferInstanceAs (Decidable (∃ bot ∈ state.held?, _))

/-- Whether a step between two phases begins the end of a process. A bot that stays in the
starting phase is not replaced. -/
def BeginsEnd (before after : Phase) : Prop :=
  Up before ∧ (after = .stopping ∨ after = .starting ∧ before ≠ .starting)

instance (before after : Phase) : Decidable (BeginsEnd before after) :=
  inferInstanceAs (Decidable ((_ ∧ _) ∧ (_ ∨ _ ∧ _)))

def isForced : Option Business → Bool
  | some (.wait wait) => wait.pressure == .forced
  | some .halted | none => false

/-- An end of the process has failed in a move: one that was begun there, the kill of a process
that has taken too long to end, or the wait for one that was killed. -/
def Fails (state : Instance) (move : Move) (after : Instance) : Prop :=
  Unkillable state ∧ BeginsEnd state.machine.phase after.machine.phase ∨
    move = .timeout ∧ (Unkillable state ∨ isForced state.busy = true)

instance (state : Instance) (move : Move) (after : Instance) : Decidable (Fails state move after) :=
  inferInstanceAs (Decidable (_ ∧ _ ∨ _ ∧ (_ ∨ _)))

def moveOf? (id : AccountId) : Keeper.Event → Option Move
  | .move other move => if other = id then some move else none
  | _ => none

theorem moveOf?_eq_some {id : AccountId} {event : Keeper.Event} {move : Move} :
    moveOf? id event = some move ↔ event = .move id move := by
  cases event <;> simp [moveOf?]

/-- An event in which an end of a process of an account has failed. -/
def Thwarted (id : AccountId) (before : Keeper) (event : Keeper.Event) (after : Keeper) : Prop :=
  ∃ move ∈ moveOf? id event, ∃ state ∈ before.instance? id, ∃ next ∈ after.instance? id,
    Fails state move next

instance (id : AccountId) (before : Keeper) (event : Keeper.Event) (after : Keeper) :
    Decidable (Thwarted id before event after) :=
  inferInstanceAs (Decidable (∃ move ∈ moveOf? id event, ∃ state ∈ before.instance? id,
    ∃ next ∈ after.instance? id, Fails state move next))

variable (around : Surroundings) (state : Instance)

theorem ending_not_failed (pressure : Pressure) (deadline : Nat) (error : Error) :
    (state.ending pressure deadline).2 ≠ .failed error := by
  unfold Instance.ending
  split <;> simp

/-- A kill fails exactly if the process that is held cannot be killed. -/
theorem kill_failed_iff : (∃ error, (state.kill around).2 = .failed error) ↔ Unkillable state := by
  unfold Instance.kill Unkillable
  cases held : state.held? with
  | none => simp
  | some bot =>
    cases alive : bot.isAlive with
    | false => simp [alive]
    | true => cases kill : bot.conduct.onKill <;> simp [alive, kill, ending_not_failed]

/-- Whether a process may take its time to end makes no difference to whether its end fails. -/
theorem terminate_failed_iff (graceful : Bool) :
    (∃ error, (state.terminate around graceful).2 = .failed error) ↔ Unkillable state := by
  rw [← kill_failed_iff around]
  unfold Instance.terminate
  cases held : state.held? with
  | none => simp [Instance.kill, held]
  | some bot =>
    dsimp only
    split
    · rename_i asked
      obtain ⟨⟨_, alive⟩, kills⟩ : (_ ∧ bot.isAlive = true) ∧ bot.conduct.onKill ≠ .refuses := by
        simpa using asked
      have killable : ¬ Unkillable state := by simp [Unkillable, held, alive, kills]
      rw [kill_failed_iff]
      simp [ending_not_failed, killable]
    · rfl

theorem kill_unkillable (unkillable : Unkillable state) :
    ∃ error, state.kill around = (state, .failed error) := by
  obtain ⟨bot, held, dead | refuses⟩ := unkillable
  · rw [Option.mem_def] at held
    exact ⟨noSuchProcess bot.pid, by simp [Instance.kill, held, dead]⟩
  · rw [Option.mem_def] at held
    cases alive : bot.isAlive with
    | false => exact ⟨noSuchProcess bot.pid, by simp [Instance.kill, held, alive]⟩
    | true => exact ⟨signalRefused bot.pid, by simp [Instance.kill, held, alive, refuses]⟩

/-- An end that fails leaves everything as it was. -/
theorem terminate_unkillable (unkillable : Unkillable state) (graceful : Bool) :
    ∃ error, state.terminate around graceful = (state, .failed error) := by
  have killed := kill_unkillable around state unkillable
  obtain ⟨bot, held, hopeless⟩ := unkillable
  rw [Option.mem_def] at held
  rcases hopeless with dead | refuses
  · simpa [Instance.terminate, held, dead] using killed
  · simpa [Instance.terminate, held, refuses] using killed

/-- What comes of an instance that waits for the end of its process. The wait goes on with what
the end has come to, which is a failure only where a process is killed in vain. -/
inductive Awaits (wait : Wait) (move : Move) : Account → Prop where
  | goesOn {result : Instance × Ending} (brought : Brought state result)
      (same : SameButBots state result.1) (length : result.1.bots.length = state.bots.length)
      (fails : (∃ error, result.2 = .failed error) ↔
        move = .timeout ∧ (Unkillable state ∨ isForced state.busy = true)) :
      Awaits wait move (.kept (Instance.goOn around wait result))
  | givesUp (bot : Bot) (other : move ≠ .timeout) : Awaits wait move (.kept (state.observe bot.giveUp))

variable {around} {state}

theorem Sound.awaits (sound : Sound state state) {wait : Wait}
    (busy : state.busy = some (.wait wait)) {move : Move} {account : Account}
    (moves : Moves around state move account) : Awaits around state wait move account := by
  cases moves with
  | receive idle => cases idle.symm.trans busy
  | serve idle => cases idle.symm.trans busy
  | restart idle => cases idle.symm.trans busy
  | conclude halted => cases halted.symm.trans busy
  | resume same ended =>
    cases busy.symm.trans same
    exact .goesOn (.nothing sound.toCustody ended) ⟨_, _, rfl⟩ rfl (by simp)
  | @timeout _ bot same held due =>
    cases busy.symm.trans same
    unfold Instance.runOut
    cases pressure : wait.pressure with
    | asked =>
      refine .goesOn (.kill around sound.toCustody) (kill_same around state)
        (kill_length around state) ?_
      rw [kill_failed_iff]
      simp [isForced, busy, pressure]
    | forced =>
      refine .goesOn (.failure sound.toCustody rfl) ⟨_, _, rfl⟩ rfl ?_
      simp [isForced, busy, pressure]
  | @giveUp _ _ bot => exact .givesUp bot (by simp)

end BotKeeper.Proofs
