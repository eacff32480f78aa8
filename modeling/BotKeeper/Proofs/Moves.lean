import BotKeeper.Proofs.Commands

/-! Every move of an account leaves its instance sound, or leaves an account whose
processes are all gone. -/

namespace BotKeeper.Proofs

variable {origin state : Instance} (around : Surroundings)

theorem Sound.goOn (sound : Sound origin state) {wait : Wait} (busy : state.busy = some (.wait wait))
    {result : Instance × Ending} (brought : Brought origin result)
    (same : SameButBots state result.1) : Sound origin (Instance.goOn around wait result) := by
  obtain ⟨plan, unawaited⟩ := sound.waits wait busy
  exact sound.toRecorded.goOn around unawaited brought same plan

theorem Sound.resume (sound : Sound origin state) {wait : Wait}
    (busy : state.busy = some (.wait wait)) (ended : state.held? = none) :
    Sound origin (Instance.goOn around wait (state, .complete)) :=
  sound.goOn around busy (.nothing sound.toCustody ended) ⟨_, _, rfl⟩

theorem Sound.runOut (sound : Sound origin state) {wait : Wait}
    (busy : state.busy = some (.wait wait)) (bot : Bot) :
    Sound origin (state.runOut around wait bot) := by
  unfold Instance.runOut
  split
  · exact sound.goOn around busy (.kill around sound.toCustody) (kill_same around state)
  · exact sound.goOn around busy (.failure sound.toCustody rfl) ⟨_, _, rfl⟩

theorem Sound.observe (sound : Sound origin state) {bot : Bot} (member : bot ∈ state.bots)
    {change : Bot × List Report} (changes : Changes bot change) :
    Sound origin (state.observe change) :=
  sound.frame (sound.toRecorded.observe member changes) rfl rfl rfl rfl (.inl rfl)

theorem Sound.requeue (sound : Sound origin state) (requests : List Request) (calls : Nat) :
    Sound { state with requests, calls } { state with requests, calls } :=
  sound.frame (sound.toRecorded.requeue requests calls) rfl rfl rfl rfl (.inl rfl)

/-- An instance as a move finds it: the call that is served is no longer queued. -/
def taken : Move → Instance → Instance
  | .serve, state => { state with requests := state.requests.tail }
  | _, state => state

theorem mem_of_taken {move : Move} {request : Request} (member : request ∈ (taken move state).requests) :
    request ∈ state.requests := by
  cases move with
  | serve => exact List.mem_of_mem_tail member
  | receive | restart | conclude | resume | timeout | giveUp => exact member

inductive Moves (state : Instance) : Move → Account → Prop where
  | receive {message : Message} {rest : List Message} (idle : state.busy = none)
      (messages : state.messages = message :: rest) :
      Moves state .receive (.kept ({ state with messages := rest }.receive around message))
  | serve {request : Request} {rest : List Request} (idle : state.busy = none)
      (requests : state.requests = request :: rest) :
      Moves state .serve ({ state with requests := rest }.serve around request)
  | restart {deadline : Nat} (idle : state.busy = none) (armed : state.restartAt = some deadline)
      (due : deadline ≤ around.now) :
      Moves state .restart (.kept (state.scheduledRestart around))
  | conclude (halted : state.busy = some .halted) :
      Moves state .conclude (.kept ({ state with busy := none }.afterStop around))
  | resume {wait : Wait} (busy : state.busy = some (.wait wait)) (ended : state.held? = none) :
      Moves state .resume (.kept (Instance.goOn around wait (state, .complete)))
  | timeout {wait : Wait} {bot : Bot} (busy : state.busy = some (.wait wait))
      (held : state.held? = some bot) (due : wait.deadline ≤ around.now) :
      Moves state .timeout (.kept (state.runOut around wait bot))
  | giveUp {pid deadline : Nat} {bot : Bot} (found : state.bot? pid = some bot)
      (lingers : bot.deadline? = some deadline) (due : deadline ≤ around.now) :
      Moves state (.giveUp pid) (.kept (state.observe bot.giveUp))

section moves

variable {around} {move : Move} {account : Account}

theorem Moves.move? (moves : Moves around state move account) :
    state.move? around move = some account := by
  cases moves with
  | receive idle messages => simp only [Instance.move?, idle, messages]
  | serve idle requests => simp only [Instance.move?, idle, requests]
  | restart idle armed due => simp only [Instance.move?, idle, armed, due, if_true]
  | conclude halted => simp only [Instance.move?, halted]
  | resume busy ended => simp only [Instance.move?, busy, ended]
  | timeout busy held due => simp only [Instance.move?, busy, held, due, if_true]
  | giveUp found lingers due => simp only [Instance.move?, found, lingers, due, if_true]

theorem moves_of_move? (moves : state.move? around move = some account) :
    Moves around state move account := by
  cases move with
  | receive =>
    simp only [Instance.move?] at moves
    split at moves <;> cases moves
    rename_i idle messages
    exact .receive idle messages
  | serve =>
    simp only [Instance.move?] at moves
    split at moves <;> cases moves
    rename_i idle requests
    exact .serve idle requests
  | restart =>
    simp only [Instance.move?] at moves
    split at moves
    · rename_i idle armed
      split at moves <;> cases moves
      rename_i due
      exact .restart idle armed due
    · cases moves
  | conclude =>
    simp only [Instance.move?] at moves
    split at moves <;> cases moves
    rename_i halted
    exact .conclude halted
  | resume =>
    simp only [Instance.move?] at moves
    split at moves <;> cases moves
    rename_i busy ended
    exact .resume busy ended
  | timeout =>
    simp only [Instance.move?] at moves
    split at moves
    · rename_i busy held
      split at moves <;> cases moves
      rename_i due
      exact .timeout busy held due
    · cases moves
  | giveUp pid =>
    simp only [Instance.move?] at moves
    split at moves
    · rename_i bot found
      split at moves
      · rename_i lingers
        split at moves <;> cases moves
        rename_i due
        exact .giveUp found lingers due
      · cases moves
    · cases moves

end moves

/-- Whatever move an instance makes, it stays sound. -/
theorem Sound.move (sound : Sound origin state) {move : Move} {account : Account}
    (moves : Moves around state move account) : Left (taken move state) account := by
  have start := sound.rebase
  cases moves with
  | receive idle messages => exact start.receive around idle messages
  | @serve request rest idle requests =>
    simp only [taken, requests, List.tail_cons]
    exact (sound.requeue rest state.calls).serve around idle request
  | restart idle => exact start.scheduledRestart around idle
  | conclude => exact start.afterStop around
  | resume busy ended => exact start.resume around busy ended
  | timeout busy => exact start.runOut around busy _
  | giveUp found =>
    exact start.observe (List.mem_of_find?_eq_some found) (giveUp_changes _)

end BotKeeper.Proofs
