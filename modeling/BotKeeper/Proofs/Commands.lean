import BotKeeper.Proofs.Effects

/-! The commands of an operator, the schedule and the reports of a process leave an
instance sound. Each of them begins with a step of the machine, which decides whether
anything is done at all. -/

namespace BotKeeper.Proofs

variable {origin state : Instance} (around : Surroundings)

theorem Sound.stop (sound : Sound origin state) (idle : state.busy = none) (ticket : Ticket) :
    Sound origin (state.stop around ticket) := by
  unfold Instance.stop
  split
  · rename_i scheduled
    have stopping : state.machine.phase = .stopping := by
      have some : state.pendingStart ≠ none := by simp [scheduled]
      simpa [idle] using sound.pending some
    exact (sound.toRecorded.beside _ List.prefix_rfl _ _ _ _ _).awaited idle stopping (.inl rfl)
  · rcases stop_cases state.machine with ⟨_, refused⟩ | ⟨machine, graceful, same, stopping, stopped⟩
    · rw [refused]
      exact sound.answer ticket _
    · rw [stopped]
      have records : Recorded origin
          ({ state with machine, restartAt := none }.publishTransition
            ⟨state.machine.phase, .stopping, [.terminate graceful]⟩) :=
        sound.toRecorded.advance same _ _
      refine records.terminate around idle (sound.unawaited idle same.up.2) graceful ?_
      exact stopping ▸ .stop ticket

theorem Sound.startFor (sound : Sound origin state) (idle : state.busy = none) (ticket : Ticket) :
    Sound origin (state.startFor around ticket) :=
  (sound.start around idle true).answer ticket _

theorem Sound.reboot (sound : Sound origin state) (idle : state.busy = none) (ticket : Ticket) :
    Sound origin (state.reboot around ticket) := by
  unfold Instance.reboot
  split
  · exact sound.startFor around idle ticket
  · split
    · exact sound.answer ticket _
    · rcases stop_cases state.machine with
        ⟨_, refused⟩ | ⟨machine, graceful, same, stopping, stopped⟩
      · rw [refused]
        exact sound.answer ticket _
      · rw [stopped]
        have records : Recorded origin
            ({ state with machine }.publishTransition
              ⟨state.machine.phase, .stopping, [.terminate graceful]⟩) :=
          sound.toRecorded.advance same _ _
        refine records.terminate around idle (sound.unawaited idle same.up.2) graceful ?_
        exact stopping ▸ .reboot ticket

theorem Sound.disarm (sound : Sound origin state) : Sound origin { state with restartAt := none } :=
  sound.frame (sound.toRecorded.beside _ List.prefix_rfl _ _ _ _ _) rfl rfl rfl rfl (.inr rfl)

theorem Sound.scheduledRestart (sound : Sound origin state) (idle : state.busy = none) :
    Sound origin (state.scheduledRestart around) := by
  unfold Instance.scheduledRestart
  dsimp only
  split
  · exact sound.disarm
  · rcases stop_cases state.machine with ⟨_, refused⟩ | ⟨machine, graceful, same, stopping, stopped⟩
    · rw [refused]
      exact sound.disarm
    · rw [stopped]
      have records : Recorded origin
          (({ state with restartAt := none, machine }.publishNotice .scheduledRestart).publishTransition
            ⟨state.machine.phase, .stopping, [.terminate graceful]⟩) :=
        sound.toRecorded.advance same _ _
      refine records.terminate around idle (sound.unawaited idle same.up.2) graceful ?_
      exact stopping ▸ .scheduledRestart

theorem Sound.note (sound : Sound origin state) (feed : List FeedEvent) (history : List String) :
    Sound origin { state with feed, history } :=
  sound.frame (sound.toRecorded.beside _ List.prefix_rfl _ _ _ _ _) rfl rfl rfl rfl (.inl rfl)

theorem Sound.present (sound : Sound origin state) (feed : List FeedEvent)
    (config : InstanceConfig) :
    Sound origin { state with feed, config, snapshot := state.machine.snapshot config.name } :=
  sound.frame (sound.toRecorded.present _ _) rfl rfl rfl rfl (.inl rfl)

theorem Sound.update (sound : Sound origin state) (ticket : Ticket) (config : InstanceConfig) :
    Sound origin (state.update ticket config) := by
  unfold Instance.update
  split
  · exact sound.answer ticket _
  · exact (sound.present state.feed config).answer ticket _

theorem apply_ignored {event : LifecycleEvent}
    (ignored : state.machine.handle event around.uptime = state.machine.stay []) :
    state.apply around event = { state with
      feed := state.feed ++ [.lifecycle state.id event]
      snapshot := state.machine.snapshot state.config.name } := by
  simp [Instance.apply, ignored, Machine.stay, Instance.publish, Instance.publishTransition,
    Instance.publishSnapshot, Outcome.published, Outcome.changed, Instance.perform_nil,
    Instance.complete]

theorem Sound.apply (sound : Sound origin state) (idle : state.busy = none) {event : LifecycleEvent}
    (present : ∀ code, event ≠ .processExited code) : Sound origin (state.apply around event) := by
  have reaction := handle_reaction sound.code present around.uptime
  unfold Instance.apply
  generalize state.machine.handle event around.uptime = step at reaction
  cases reaction with
  | ignored =>
    simp only [Machine.stay, Outcome.changed, bne_self_eq_false, Bool.false_and]
    exact sound.present _ _
  | @noted after same up notices =>
    have notStopped : after.phase.isStopped = false := by
      simpa [Phase.isStopped] using up.1
    simp only [notStopped, Bool.and_false]
    obtain ⟨feed, told⟩ := perform_notices around _ notices (.event false)
    rw [told]
    refine Recorded.sound (sound.toRecorded.advance same _ _) idle ?_ fun stopped => absurd stopped up.1
    exact sound.unawaited idle same.up.2
  | @ended after same stopping notice =>
    have notStopped : Phase.stopping.isStopped = false := rfl
    simp only [notStopped, Bool.and_false]
    have records := sound.toRecorded.advance same
    refine (records _ state.restartAt).terminate around idle (sound.unawaited idle same.up.2) false ?_
    exact stopping ▸ .giveUp notice
  | @replaced after same starting notice =>
    have notStopped : Phase.starting.isStopped = false := rfl
    simp only [notStopped, Bool.and_false]
    have records := sound.toRecorded.advance same
    refine (records _ state.restartAt).terminate around idle (sound.unawaited idle same.up.2) false ?_
    exact starting ▸ .replace notice

theorem Sound.hear (sound : Sound origin state) (idle : state.busy = none) (line : String) :
    Sound origin (state.hear around line) := by
  unfold Instance.hear
  dsimp only
  have kept : Sound origin ((state.remember around line).publish (.output state.id line)) :=
    sound.note _ _
  split
  · rename_i event heard
    exact kept.apply around idle (classify_present heard)
  · exact kept

theorem Sound.drop (sound : Sound origin state) {message : Message} {rest : List Message}
    (messages : state.messages = message :: rest)
    (other : ∀ code, message = ⟨state.generation, .exited code⟩ → state.handle = none) :
    Sound origin { state with messages := rest } :=
  sound.frame (sound.toRecorded.drop messages other) rfl rfl rfl rfl (.inl rfl)

/-- The exit of the process stops the instance, unless it has stopped before. -/
theorem Sound.exited (sound : Sound origin state) {code : Option Int32}
    {rest : List Message} (messages : state.messages = ⟨state.generation, .exited code⟩ :: rest) :
    Sound origin
      ({ state with messages := rest, handle := none }.apply around (.processExited code)) := by
  by_cases stopped : state.machine.phase = .stopped
  · have free := sound.empty.mp stopped
    have dropped := sound.drop messages fun _ _ => free
    rw [← free, apply_ignored]
    · exact dropped.present _ _
    · exact handle_of_stopped stopped _ _
  · obtain ⟨notices, stops⟩ := exited_stops stopped code
    have gone : AllGone state.bots := sound.final code (by simp [messages])
    have handled : state.machine.handle (.processExited code) around.uptime =
        (state.machine.enter .stopped, ⟨state.machine.phase, .stopped, notices.map .notify⟩) := by
      rw [handle_exit, stops]
    have changed : (⟨state.machine.phase, .stopped, notices.map .notify⟩ : Outcome).changed = true := by
      simpa [Outcome.changed] using stopped
    have halts : Phase.stopped.isStopped = true := rfl
    simp only [Instance.apply, handled, changed, halts, Bool.and_self]
    obtain ⟨feed, told⟩ := perform_notices around _ notices (.event true)
    rw [told]
    have fewer : ∀ message ∈ rest, message ∈ state.messages := fun message member =>
      messages ▸ List.mem_cons_of_mem _ member
    have records : Recorded origin _ := sound.toRecorded.release gone fewer feed
    exact {
      toRecorded := records.beside _ List.prefix_rfl _ _ _ _ _
      pending := fun _ => .inr rfl
      waiting := fun _ => .inr rfl
      exclusive := sound.exclusive
      disarmed := fun _ idle => by cases idle
      waits := fun wait busy => by cases busy
      halted := fun _ => rfl }

theorem Sound.receive (sound : Sound origin state) (idle : state.busy = none) {message : Message}
    {rest : List Message} (messages : state.messages = message :: rest) :
    Sound origin ({ state with messages := rest }.receive around message) := by
  unfold Instance.receive
  split
  · rename_i current
    obtain ⟨generation, report⟩ := message
    dsimp only at current
    subst generation
    cases report with
    | line text =>
      have dropped := sound.drop messages fun code impossible => by cases impossible
      exact dropped.hear around idle text
    | exited code => exact sound.exited around messages
  · rename_i stale
    exact sound.drop messages fun code same => absurd (congrArg Message.generation same) stale

structure Emptied (origin : Instance) (ledger : Ledger) : Prop where
  numbered : Numbered ledger.bots
  gone : AllGone ledger.bots
  lineage : Lineage origin.bots ledger.bots
  answers : origin.answers <+: ledger.answers
  calls : ledger.calls = origin.calls

def Left (origin : Instance) : Account → Prop
  | .vacant ledger => Emptied origin ledger
  | .kept state => Sound origin state

theorem Sound.delete (sound : Sound origin state) (ticket : Ticket) :
    Left origin (state.delete ticket) := by
  unfold Instance.delete Machine.checkIdle
  cases stopped : state.machine.phase.isStopped with
  | false => exact sound.answer ticket _
  | true =>
    have gone := sound.gone (by simpa [Phase.isStopped] using stopped)
    have more : state.answers <+: (state.answer ticket (.ok ())).remains.answers :=
      (List.prefix_append _ _).trans (List.prefix_append _ _)
    exact ⟨sound.numbered, gone, sound.lineage, sound.answers.trans more, sound.calls⟩

theorem Sound.serve (sound : Sound origin state) (idle : state.busy = none) (request : Request) :
    Left origin (state.serve around request) := by
  obtain ⟨ticket, command⟩ := request
  cases command with
  | start => exact sound.startFor around idle ticket
  | stop => exact sound.stop around idle ticket
  | reboot => exact sound.reboot around idle ticket
  | update config => exact sound.update ticket config
  | delete => exact sound.delete ticket

end BotKeeper.Proofs
