import BotKeeper.Proofs.Likeness

/-! The moves of instances that are alike: the same ones are open to both, and leave them alike. -/

namespace BotKeeper.Proofs

variable {origin origin' : Ledger} {bot bot' : Bot}

namespace Like

variable {one other : Instance} (like : Like origin origin' one other)
include like

/-- Both try another launch. -/
theorem next : Like origin origin' { one with generation := one.generation + 1 }
    { other with generation := other.generation + 1 } := by
  obtain ⟨ledgers, queues⟩ := like
  have bots := ledgers.bots.imp fun _ _ bots => bots.next
  exact .mk ⟨bots, ledgers.feed, ledgers.calls, ledgers.answers⟩
    (queues.imp fun _ _ messages => messages.next)

theorem launched (around : Surroundings) :
    Like origin origin' (one.launched around) (other.launched around) := by
  obtain @⟨ledger, messages, generation, ledgers, queues⟩ := like
  have pid : ledger.lastPid = one.lastPid := ledgers.bots.length_eq.symm
  let bot : Bot :=
    { pid := one.lastPid + 1, generation := one.generation, config := one.config
      conduct := .ofArguments one.config.args }
  have current : BotLike one.generation generation bot { bot with generation } :=
    .mk fun _ => .inl ⟨rfl, rfl⟩
  have launches : Like origin origin' { one with bots := bot :: one.bots }
      { one with
        toLedger := { ledger with bots := { bot with generation } :: ledger.bots }
        messages
        generation } :=
    .mk ⟨.cons current ledgers.bots, ledgers.feed, ledgers.calls, ledgers.answers⟩ queues
  unfold Instance.launched
  dsimp only
  rw [pid]
  exact (launches.revise (fun state => { state with
    handle := some (one.lastPid + 1)
    machine := state.machine.spawned (some (.ofNat (one.lastPid + 1))) around.moment })
    fun _ _ _ _ => rfl).revise Instance.publishSnapshot fun _ _ _ _ => rfl

theorem launchFailed : Like origin origin' one.launchFailed other.launchFailed := by
  have told (machine : Machine) (outcome : Outcome) := ((like.revise
    (fun state => { state with handle := none, machine }) fun _ _ _ _ => rfl).publishTransition
      outcome).publishNotice (.startFailed none)
  obtain ⟨ledgers, queues⟩ := like
  exact ((told one.machine.spawnFailed.1 one.machine.spawnFailed.2).revise
    (fun state => { state with restartAt := none }) fun _ _ _ _ => rfl).releaseStops

theorem spawn (around : Surroundings) :
    ResultLike origin origin' (one.spawn around) (other.spawn around) := by
  have launched := like.next.launched around
  have failed := like.next.launchFailed
  obtain ⟨ledgers, queues⟩ := like
  unfold Instance.spawn
  dsimp only
  cases around.host.launch around.files one.config with
  | ok nothing => exact ⟨launched, rfl⟩
  | error reason => exact ⟨failed, rfl⟩

theorem armSchedule (around : Surroundings) :
    Like origin origin' (one.armSchedule around) (other.armSchedule around) := by
  have armed (restartAt : Option Nat) :=
    like.revise (fun state => { state with restartAt }) fun _ _ _ _ => rfl
  obtain @⟨ledger, messages, generation, ledgers, queues⟩ := like
  have pid : ledger.lastPid = one.lastPid := ledgers.bots.length_eq.symm
  unfold Instance.armSchedule
  dsimp only [Instance.id]
  rw [pid]
  exact armed _

theorem start (around : Surroundings) (operator : Bool) :
    ResultLike origin origin' (one.start around operator) (other.start around operator) := by
  have stepped (machine : Machine) := like.revise (fun state => { state with
    machine
    history := if operator then [] else state.history }) fun _ _ _ _ => rfl
  have begun (machine : Machine) (outcome : Outcome) :=
    ((stepped machine).publishTransition outcome).spawn around
  have same := like
  obtain ⟨ledgers, queues⟩ := like
  unfold Instance.start
  split
  · exact ⟨same, rfl⟩
  · cases one.machine.start with
    | error error => exact ⟨same, rfl⟩
    | ok step =>
      obtain ⟨machine, outcome⟩ := step
      have spawned := begun machine outcome
      dsimp only at spawned ⊢
      generalize Instance.spawn around _ = mine at spawned ⊢
      generalize Instance.spawn around _ = theirs at spawned ⊢
      obtain ⟨first, _⟩ := mine
      obtain ⟨second, result⟩ := theirs
      obtain ⟨likes, rfl⟩ := spawned
      cases result with
      | ok nothing => exact ⟨likes.armSchedule around, rfl⟩
      | error error => exact ⟨likes, rfl⟩

theorem complete (purpose : Purpose) (result : Except Error Unit) :
    Like origin origin' (one.complete purpose result) (other.complete purpose result) := by
  have answered := like.answer
  have revised := like.revise
  obtain ⟨ledgers, queues⟩ := like
  cases purpose with
  | stop ticket =>
    cases result with
    | error error => exact answered ticket _
    | ok nothing =>
      unfold Instance.complete
      dsimp only
      split
      · exact answered ticket _
      · exact revised (fun state => { state with stopWaiters := state.stopWaiters ++ [ticket] })
          fun _ _ _ _ => rfl
  | reboot ticket =>
    cases result with
    | error error => exact answered ticket _
    | ok nothing =>
      exact revised (fun state => { state with pendingStart := some (.requested ticket) })
        fun _ _ _ _ => rfl
  | scheduledRestart =>
    cases result with
    | error error => exact .mk ledgers queues
    | ok nothing =>
      exact revised (fun state => { state with pendingStart := some .scheduled }) fun _ _ _ _ => rfl
  | event stopped =>
    cases stopped with
    | true => exact revised (fun state => { state with busy := some .halted }) fun _ _ _ _ => rfl
    | false => exact .mk ledgers queues

/-- Where one of two instances waits, the other one does. -/
theorem await (busy : Option Business) :
    Like origin origin' { one with busy } { other with busy } :=
  like.revise (fun state => { state with busy }) fun _ _ _ _ => rfl

theorem perform (around : Surroundings) (effects : List Effect) (purpose : Purpose) :
    Like origin origin' (one.perform around effects purpose)
      (other.perform around effects purpose) := by
  induction effects generalizing one other with
  | nil => exact like.complete purpose (.ok ())
  | cons effect rest ih =>
    cases effect with
    | notify notice =>
      rw [Instance.perform_notify, Instance.perform_notify]
      exact ih (like.publishNotice notice)
    | spawn =>
      have spawned := like.spawn around
      rw [Instance.perform_spawn, Instance.perform_spawn]
      generalize one.spawn around = mine at spawned ⊢
      generalize other.spawn around = theirs at spawned ⊢
      obtain ⟨first, _⟩ := mine
      obtain ⟨second, result⟩ := theirs
      obtain ⟨likes, rfl⟩ := spawned
      cases result with
      | ok nothing => exact ih likes
      | error error => exact likes.complete purpose _
    | terminate graceful =>
      have ended := like.terminate around graceful
      rw [Instance.perform_terminate, Instance.perform_terminate]
      generalize one.terminate around graceful = mine at ended ⊢
      generalize other.terminate around graceful = theirs at ended ⊢
      obtain ⟨first, _⟩ := mine
      obtain ⟨second, ending⟩ := theirs
      obtain ⟨likes, rfl⟩ := ended
      cases ending with
      | complete => exact ih likes
      | failed error => exact likes.complete purpose _
      | awaited pressure deadline => exact likes.await _

theorem afterStop (around : Surroundings) :
    Like origin origin' (one.afterStop around) (other.afterStop around) := by
  have released := (like.revise (fun state => { state with
    restartAt := none
    pendingStart := none }) fun _ _ _ _ => rfl).releaseStops
  have started (operator : Bool) := released.start around operator
  obtain ⟨ledgers, queues⟩ := like
  unfold Instance.afterStop
  dsimp only
  cases one.pendingStart with
  | none => exact released
  | some pending =>
    cases pending with
    | requested ticket =>
      obtain ⟨likes, result⟩ := started true
      dsimp only at likes result ⊢
      rw [result]
      exact likes.answer ticket _
    | scheduled => exact (started false).1

theorem startFor (around : Surroundings) (ticket : Ticket) :
    Like origin origin' (one.startFor around ticket) (other.startFor around ticket) := by
  obtain ⟨likes, result⟩ := like.start around true
  unfold Instance.startFor
  dsimp only
  rw [result]
  exact likes.answer ticket _

/-- Both go over to another phase, and carry out what follows from that. -/
theorem goOver (around : Surroundings) (change : Instance → Instance)
    (apart : ∀ state ledger messages generation,
      change { state with toLedger := ledger, messages, generation } =
        { change state with toLedger := ledger, messages, generation })
    (outcome : Outcome) (purpose : Purpose) :
    Like origin origin'
      (((change one).publishTransition outcome).perform around outcome.effects purpose)
      (((change other).publishTransition outcome).perform around outcome.effects purpose) :=
  ((like.revise change apart).publishTransition outcome).perform around _ purpose

theorem stop (around : Surroundings) (ticket : Ticket) :
    Like origin origin' (one.stop around ticket) (other.stop around ticket) := by
  have answered := like.answer
  have revised := like.revise
  have goesOver := like.goOver around
  obtain ⟨ledgers, queues⟩ := like
  unfold Instance.stop
  dsimp only
  split
  · exact revised (fun state => { state with
      pendingStart := none, stopWaiters := state.stopWaiters ++ [ticket] }) fun _ _ _ _ => rfl
  · cases one.machine.stop with
    | error error => exact answered ticket _
    | ok step =>
      exact goesOver (fun state => { state with machine := step.1, restartAt := none })
        (fun _ _ _ _ => rfl) step.2 _

theorem reboot (around : Surroundings) (ticket : Ticket) :
    Like origin origin' (one.reboot around ticket) (other.reboot around ticket) := by
  have started := like.startFor around ticket
  have answered := like.answer
  have goesOver := like.goOver around
  obtain ⟨ledgers, queues⟩ := like
  unfold Instance.reboot
  dsimp only
  split
  · exact started
  · cases one.machine.checkReboot with
    | error error => exact answered ticket _
    | ok nothing =>
      cases one.machine.stop with
      | error error => exact answered ticket _
      | ok step =>
        exact goesOver (fun state => { state with machine := step.1 }) (fun _ _ _ _ => rfl) step.2 _

theorem scheduledRestart (around : Surroundings) :
    Like origin origin' (one.scheduledRestart around) (other.scheduledRestart around) := by
  have disarmed := like.revise (fun state => { state with restartAt := none }) fun _ _ _ _ => rfl
  have told (machine : Machine) := (disarmed.revise (fun state => { state with machine })
    fun _ _ _ _ => rfl).publishNotice .scheduledRestart
  obtain ⟨ledgers, queues⟩ := like
  unfold Instance.scheduledRestart
  dsimp only
  split
  · exact disarmed
  · cases one.machine.stop with
    | error error => exact disarmed
    | ok step =>
      exact ((told step.1).publishTransition step.2).perform around _ _

theorem update (ticket : Ticket) (config : InstanceConfig) :
    Like origin origin' (one.update ticket config) (other.update ticket config) := by
  have answered := like.answer
  have revised := (like.revise (fun state => { state with config }.publishSnapshot)
    fun _ _ _ _ => rfl).answer ticket (.ok ())
  obtain ⟨ledgers, queues⟩ := like
  unfold Instance.update
  dsimp only
  cases one.machine.checkIdle with
  | error error => exact answered ticket _
  | ok nothing => exact revised

theorem apply (around : Surroundings) (event : LifecycleEvent) :
    Like origin origin' (one.apply around event) (other.apply around event) := by
  have applied (machine : Machine) := (like.revise (fun state => { state with machine })
    fun _ _ _ _ => rfl).publish (.lifecycle one.id event)
  obtain ⟨ledgers, queues⟩ := like
  unfold Instance.apply
  dsimp only
  exact ((applied _).publishTransition _).perform around _ _

theorem hear (around : Surroundings) (line : String) :
    Like origin origin' (one.hear around line) (other.hear around line) := by
  have heard := (like.remember around line).publish (.output one.id line)
  obtain ⟨ledgers, queues⟩ := like
  unfold Instance.hear
  dsimp only
  cases classify line with
  | none => exact heard
  | some event => exact heard.apply around event

theorem receive (around : Surroundings) {message message' : Message}
    (reports : MessageLike one.generation other.generation message message') :
    Like origin origin' (one.receive around message) (other.receive around message') := by
  have heard := like.hear around
  have exited := (like.revise (fun state => { state with handle := none })
    fun _ _ _ _ => rfl).apply around
  have same := like
  obtain ⟨ledgers, queues⟩ := like
  obtain ⟨abreast⟩ := reports
  unfold Instance.receive
  dsimp only at abreast ⊢
  simp only [abreast.current_iff]
  split
  · cases message.report with
    | line text => exact heard text
    | exited code => exact exited _
  · exact same

end Like

theorem ResultLike.goOn (around : Surroundings) (wait : Wait) {one other : Instance × Ending}
    (like : ResultLike origin origin' one other) :
    Like origin origin' (Instance.goOn around wait one) (Instance.goOn around wait other) := by
  obtain ⟨first, _⟩ := one
  obtain ⟨second, ending⟩ := other
  obtain ⟨likes, rfl⟩ := like
  cases ending with
  | complete => exact (likes.await none).perform around wait.effects wait.purpose
  | failed error => exact (likes.await none).complete wait.purpose _
  | awaited pressure deadline => exact likes.await _

namespace Like

variable {one other : Instance}

theorem runOut (like : Like origin origin' one other) (around : Surroundings) (wait : Wait)
    (bots : BotLike one.generation other.generation bot bot') :
    Like origin origin' (one.runOut around wait bot) (other.runOut around wait bot') := by
  have killed := like.kill around
  have same := like
  obtain ⟨ledgers, queues⟩ := like
  obtain ⟨abreast⟩ := bots
  unfold Instance.runOut
  cases wait.pressure with
  | asked => exact killed.goOn around wait
  | forced => exact ResultLike.goOn around wait ⟨same, rfl⟩

/-- Both instances are deleted, if one is. No process is left then. -/
theorem delete (like : Like origin origin' one other)
    (gone : other.machine.phase = .stopped → AllGone other.bots) (ticket : Ticket) :
    AccountLike origin origin' (one.delete ticket) (other.delete ticket) := by
  have answered := like.answer ticket
  obtain @⟨ledger, messages, generation, ledgers, queues⟩ := like
  unfold Instance.delete
  dsimp only at gone ⊢
  cases idle : one.machine.checkIdle with
  | error error => exact .kept (answered _)
  | ok nothing =>
    have stopped : one.machine.phase = .stopped := by
      simpa [Machine.checkIdle, Phase.isStopped] using idle
    have vacated := ledgers.vacate (gone stopped) 0 0
    exact .vacant (gone stopped) ⟨vacated.bots, vacated.feed, vacated.calls,
      (vacated.answers.append _).append _⟩

theorem serve (like : Like origin origin' one other)
    (gone : other.machine.phase = .stopped → AllGone other.bots) (around : Surroundings)
    (request : Request) :
    AccountLike origin origin' (one.serve around request) (other.serve around request) := by
  obtain ⟨ticket, command⟩ := request
  cases command with
  | start => exact .kept (like.startFor around ticket)
  | stop => exact .kept (like.stop around ticket)
  | reboot => exact .kept (like.reboot around ticket)
  | update config => exact .kept (like.update ticket config)
  | delete => exact like.delete gone ticket

theorem move_receive (like : Like origin origin' one other) (around : Surroundings) :
    Option.Rel (AccountLike origin origin') (one.move? around .receive)
      (other.move? around .receive) := by
  obtain @⟨ledger, messages, generation, ledgers, queues⟩ := like
  unfold Instance.move?
  dsimp only
  cases busy : one.busy with
  | some business => exact .none
  | none =>
    cases ours : one.messages with
    | nil =>
      rw [ours, List.forall₂_nil_left_iff] at queues
      rw [queues]
      exact .none
    | cons message rest =>
      rw [ours, List.forall₂_cons_left_iff] at queues
      obtain ⟨message', rest', reports, later, rfl⟩ := queues
      have dequeued : Like origin origin' { one with messages := rest }
          { one with toLedger := ledger, messages := rest', generation } := .mk ledgers later
      -- In the second instance, which is spelled out, the known fields have to be filled in.
      have received := dequeued.receive around reports
      rw [busy] at received
      exact .some (.kept received)

theorem move_serve (like : Like origin origin' one other)
    (gone : other.machine.phase = .stopped → AllGone other.bots) (around : Surroundings) :
    Option.Rel (AccountLike origin origin') (one.move? around .serve)
      (other.move? around .serve) := by
  have dequeued (requests : List Request) :=
    like.revise (fun state => { state with requests }) fun _ _ _ _ => rfl
  obtain ⟨ledgers, queues⟩ := like
  unfold Instance.move?
  dsimp only
  cases busy : one.busy with
  | some business => exact .none
  | none =>
    cases one.requests with
    | nil => exact .none
    | cons request rest =>
      have served := (dequeued rest).serve gone around request
      rw [busy] at served
      exact .some served

theorem move_restart (like : Like origin origin' one other) (around : Surroundings) :
    Option.Rel (AccountLike origin origin') (one.move? around .restart)
      (other.move? around .restart) := by
  have restarted := like.scheduledRestart around
  obtain ⟨ledgers, queues⟩ := like
  unfold Instance.move?
  dsimp only
  cases busy : one.busy with
  | some business => exact .none
  | none =>
    cases armed : one.restartAt with
    | none => exact .none
    | some deadline =>
      rw [busy, armed] at restarted
      dsimp only
      split
      · exact .some (.kept restarted)
      · exact .none

theorem move_conclude (like : Like origin origin' one other) (around : Surroundings) :
    Option.Rel (AccountLike origin origin') (one.move? around .conclude)
      (other.move? around .conclude) := by
  have concluded := (like.await none).afterStop around
  obtain ⟨ledgers, queues⟩ := like
  unfold Instance.move?
  dsimp only
  cases one.busy with
  | none => exact .none
  | some business =>
    cases business with
    | halted => exact .some (.kept concluded)
    | wait wait => exact .none

theorem move_resume (like : Like origin origin' one other) (around : Surroundings) :
    Option.Rel (AccountLike origin origin') (one.move? around .resume)
      (other.move? around .resume) := by
  have held := like.held?
  have done : ResultLike origin origin' (one, Ending.complete) (other, Ending.complete) :=
    ⟨like, rfl⟩
  obtain ⟨ledgers, queues⟩ := like
  unfold Instance.move?
  dsimp only
  generalize one.held? = found at held ⊢
  generalize Instance.held? _ = found' at held ⊢
  cases busy : one.busy with
  | none => exact .none
  | some business =>
    cases business with
    | halted => exact .none
    | wait wait =>
      rw [busy] at done
      cases held with
      | none => exact .some (.kept (done.goOn around wait))
      | some _ => exact .none

theorem move_timeout (like : Like origin origin' one other) (around : Surroundings) :
    Option.Rel (AccountLike origin origin') (one.move? around .timeout)
      (other.move? around .timeout) := by
  have held := like.held?
  have same := like
  obtain ⟨ledgers, queues⟩ := like
  unfold Instance.move?
  dsimp only
  generalize one.held? = found at held ⊢
  generalize Instance.held? _ = found' at held ⊢
  cases busy : one.busy with
  | none => exact .none
  | some business =>
    cases business with
    | halted => exact .none
    | wait wait =>
      cases held with
      | none => exact .none
      | some bots =>
        have killed := same.runOut around wait bots
        rw [busy] at killed
        dsimp only
        split
        · exact .some (.kept killed)
        · exact .none

theorem move_giveUp (like : Like origin origin' one other) (around : Surroundings) (pid : Nat) :
    Option.Rel (AccountLike origin origin') (one.move? around (.giveUp pid))
      (other.move? around (.giveUp pid)) := by
  have found := like.bot? pid
  unfold Instance.move?
  dsimp only
  generalize one.bot? pid = bot at found ⊢
  generalize other.bot? pid = bot' at found ⊢
  cases found with
  | none => exact .none
  | @some bot bot' bots =>
    have lingers : bot'.deadline? = bot.deadline? := by
      rw [bots.same]
      rfl
    dsimp only
    rw [lingers]
    cases bot.deadline? with
    | none => exact .none
    | some deadline =>
      dsimp only
      split
      · exact .some (.kept (like.observe bots giveUp_unnumbered (giveUp_changes bot)))
      · exact .none

/-- The same moves are open to both, and lead to accounts that are alike. -/
theorem move? (like : Like origin origin' one other)
    (gone : other.machine.phase = .stopped → AllGone other.bots) (around : Surroundings)
    (move : Move) :
    Option.Rel (AccountLike origin origin') (one.move? around move) (other.move? around move) := by
  cases move with
  | receive => exact like.move_receive around
  | serve => exact like.move_serve gone around
  | restart => exact like.move_restart around
  | conclude => exact like.move_conclude around
  | resume => exact like.move_resume around
  | timeout => exact like.move_timeout around
  | giveUp pid => exact like.move_giveUp around pid

end Like

end BotKeeper.Proofs
