import BotKeeper.Proofs.Runs

/-! Only a start leaves the stopped phase. A stopped instance stays so while the gate
is closed, and where neither a start is pending nor a call would make one. It launches
nothing meanwhile and publishes no phase. -/

namespace BotKeeper.Proofs

def starts : Command → Bool
  | .start | .reboot => true
  | .stop | .update _ | .delete => false

def Steady (published : List FeedEvent) : Prop :=
  ∀ event ∈ published, ∀ id before after, event ≠ .phaseChanged id before after

theorem Steady.append {first second : List FeedEvent} (one : Steady first) (other : Steady second) :
    Steady (first ++ second) := by
  intro event member
  rcases List.mem_append.mp member with before | after
  · exact one event before
  · exact other event after

structure StillStopped (before after : Instance) : Prop where
  phase : after.machine.phase = .stopped
  bots : after.bots.length = before.bots.length
  pending : after.pendingStart = none ∨ after.pendingStart = before.pendingStart
  feed : ∃ more, after.feed = before.feed ++ more ∧ Steady more

def Rests (before : Instance) : Account → Prop
  | .vacant ledger => ledger.bots = before.bots ∧ ledger.feed = before.feed
  | .kept after => StillStopped before after

variable {origin state : Instance} {around : Surroundings}

theorem start_refused (closed : around.gate = true) (state : Instance) (operator : Bool) :
    state.start around operator = (state, .error .updateInProgress) := by
  simp only [Instance.start, closed, if_true]

namespace StillStopped

theorem silent {after : Instance} (phase : after.machine.phase = .stopped)
    (bots : after.bots.length = state.bots.length)
    (pending : after.pendingStart = none ∨ after.pendingStart = state.pendingStart)
    (feed : after.feed = state.feed) : StillStopped state after :=
  ⟨phase, bots, pending, [], by rw [feed, List.append_nil], by simp [Steady]⟩

theorem refl (stopped : state.machine.phase = .stopped) : StillStopped state state :=
  silent stopped rfl (.inr rfl) rfl

theorem trans {first second third : Instance} (one : StillStopped first second)
    (other : StillStopped second third) : StillStopped first third := by
  obtain ⟨early, published, steady⟩ := one.feed
  obtain ⟨late, continued, stillSteady⟩ := other.feed
  refine ⟨other.phase, other.bots.trans one.bots, ?_, early ++ late, ?_, steady.append stillSteady⟩
  · rcases other.pending with none | same
    · exact .inl none
    · rw [same]
      exact one.pending
  · rw [continued, published, List.append_assoc]

theorem rests {between : Instance} (same : StillStopped state between)
    (bots : between.bots = state.bots) (feed : between.feed = state.feed) {account : Account}
    (rests : Rests between account) : Rests state account := by
  cases account with
  | vacant ledger => exact ⟨rests.1.trans bots, rests.2.trans feed⟩
  | kept after => exact same.trans rests

theorem apply (stopped : state.machine.phase = .stopped) (event : LifecycleEvent) :
    StillStopped state (state.apply around event) := by
  rw [apply_ignored around (handle_of_stopped stopped _ _)]
  exact ⟨stopped, rfl, .inr rfl, _, rfl, by simp [Steady]⟩

theorem hear (stopped : state.machine.phase = .stopped) (line : String) :
    StillStopped state (state.hear around line) := by
  have kept : StillStopped state ((state.remember around line).publish (.output state.id line)) :=
    ⟨stopped, rfl, .inr rfl, _, rfl, by simp [Steady]⟩
  unfold Instance.hear
  dsimp only
  split
  · exact kept.trans (apply kept.phase _)
  · exact kept

theorem receive (stopped : state.machine.phase = .stopped) (message : Message) :
    StillStopped state (state.receive around message) := by
  unfold Instance.receive
  split
  · split
    · exact hear stopped _
    · have released : StillStopped state { state with handle := none } :=
        silent stopped rfl (.inr rfl) rfl
      exact released.trans (apply released.phase _)
  · exact refl stopped

theorem answer (stopped : state.machine.phase = .stopped) (ticket : Ticket)
    (result : Except Error Unit) : StillStopped state (state.answer ticket result) :=
  silent stopped rfl (.inr rfl) rfl

end StillStopped

private theorem serve_stopped (sound : Sound origin state) (idle : state.busy = none)
    (stopped : state.machine.phase = .stopped) (request : Request)
    (refused : around.gate = true ∨ starts request.command = false) :
    Rests state (state.serve around request) := by
  obtain ⟨ticket, command⟩ := request
  have isStopped : state.machine.phase.isStopped = true := by simp [stopped, Phase.isStopped]
  have closed : ∀ {command}, starts command = true → around.gate = true ∨ starts command = false →
      around.gate = true := by
    intro command starting given
    exact given.resolve_right (by simp [starting])
  cases command with
  | start =>
    simp only [Instance.serve, Instance.startFor, start_refused (closed rfl refused)]
    exact StillStopped.answer stopped ticket _
  | reboot =>
    simp only [Instance.serve, Instance.reboot, isStopped, if_true, Instance.startFor,
      start_refused (closed rfl refused)]
    exact StillStopped.answer stopped ticket _
  | stop =>
    have pending : state.pendingStart ≠ some .scheduled := by
      simp [(sound.unawaited idle (by simp [stopped])).1]
    have refused := stop_refused fun up => up.1 stopped
    simp only [Instance.serve, Instance.stop, pending, if_false, refused]
    exact StillStopped.answer stopped ticket _
  | update config =>
    simp only [Instance.serve, Instance.update, Machine.checkIdle, isStopped, if_true]
    have renamed : StillStopped state { state with config }.publishSnapshot :=
      .silent stopped rfl (.inr rfl) rfl
    exact renamed.trans (.answer renamed.phase ticket _)
  | delete =>
    simp only [Instance.serve, Instance.delete, Machine.checkIdle, isStopped, if_true]
    exact ⟨rfl, rfl⟩

private theorem afterStop_refused (stopped : state.machine.phase = .stopped)
    (refused : around.gate = true ∨ state.pendingStart = none) :
    StillStopped state (state.afterStop around) := by
  unfold Instance.afterStop
  dsimp only
  generalize free : Instance.releaseStops _ = released
  have rest : StillStopped state released := by
    subst released
    exact StillStopped.silent stopped rfl (.inl rfl) rfl
  cases pending : state.pendingStart with
  | none => exact rest
  | some start =>
    have closed : around.gate = true := refused.resolve_right (by simp [pending])
    cases start with
    | requested ticket =>
      simp only [start_refused closed]
      exact rest.trans (.answer rest.phase ticket _)
    | scheduled =>
      simp only [start_refused closed]
      exact rest

/-- A stopped instance makes no move that would not be a start, by which it is left. -/
theorem move_stopped (sound : Sound origin state) (stopped : state.machine.phase = .stopped)
    (refused : around.gate = true ∨
      state.pendingStart = none ∧ ∀ request ∈ state.requests.head?, starts request.command = false)
    {move : Move} {account : Account} (moves : Moves around state move account) :
    Rests state account := by
  cases moves with
  | @receive message rest idle messages =>
    have dropped : StillStopped state { state with messages := rest } :=
      .silent stopped rfl (.inr rfl) rfl
    exact dropped.trans (.receive dropped.phase message)
  | @serve request rest idle requests =>
    have popped : StillStopped state { state with requests := rest } :=
      .silent stopped rfl (.inr rfl) rfl
    have served := serve_stopped (sound.requeue rest state.calls) idle stopped request
      (refused.imp_right fun quiet => quiet.2 request (by simp [requests]))
    exact popped.rests rfl rfl served
  | restart idle armed due =>
    have isStopped : state.machine.phase.isStopped = true := by simp [stopped, Phase.isStopped]
    simp only [Instance.scheduledRestart, isStopped, Bool.true_or, if_true]
    exact StillStopped.silent stopped rfl (.inr rfl) rfl
  | conclude halted =>
    have freed : StillStopped state { state with busy := none } :=
      .silent stopped rfl (.inr rfl) rfl
    exact freed.trans (afterStop_refused freed.phase (refused.imp_right And.left))
  | resume busy ended => exact absurd stopped (sound.waits _ busy).1.not_stopped
  | timeout busy held due => exact absurd stopped (sound.waits _ busy).1.not_stopped
  | giveUp found lingers due =>
    exact StillStopped.silent stopped (by simp [Instance.observe, Ledger.replace]) (.inr rfl) rfl

def AtRest (account : Option Account) : Prop :=
  ∀ state, account = some (.kept state) → state.machine.phase = .stopped

theorem AtRest.gone {id : AccountId} {account : Account} (rest : AtRest (some account))
    (order : InOrder id account) : AllGone account.ledger.bots := by
  cases account with
  | vacant ledger => exact order.2
  | kept state => exact order.1.gone (rest state rfl)

/-- A turn of an account in which nothing is launched and no phase is published. -/
structure Uneventful (before after : Option Account) : Prop where
  rest : AtRest after
  bots : (ledgerOf after).bots.length = (ledgerOf before).bots.length
  feed : ∃ more, (ledgerOf after).feed = (ledgerOf before).feed ++ more ∧ Steady more

theorem Uneventful.silent {before after : Option Account} (rest : AtRest after)
    (bots : (ledgerOf after).bots.length = (ledgerOf before).bots.length)
    (feed : (ledgerOf after).feed = (ledgerOf before).feed) : Uneventful before after :=
  ⟨rest, bots, [], by rw [feed, List.append_nil], by simp [Steady]⟩

private theorem observe_uneventful {account : Account} (rest : AtRest (some account))
    (change : Bot × List Report) : Uneventful (some account) (some (account.observe change)) := by
  cases account with
  | vacant ledger =>
    refine .silent (fun state impossible => by cases impossible) ?_ rfl
    simp [ledgerOf, Account.ledger, Account.observe, Ledger.replace]
  | kept state =>
    refine .silent (fun after same => by cases same; exact rest state rfl) ?_ rfl
    simp [ledgerOf, Account.ledger, Account.observe, Instance.observe, Ledger.replace]

theorem Happens.uneventful {id : AccountId} {event : Keeper.Event} {before after : Option Account}
    (order : ∀ account, before = some account → InOrder id account) (rest : AtRest before)
    (refused : ∀ state, before = some (.kept state) → around.gate = true ∨
      state.pendingStart = none ∧ ∀ request ∈ state.requests.head?, starts request.command = false)
    (happens : Happens around id event before after) : Uneventful before after := by
  cases happens with
  | nothing => exact .silent rest rfl rfl
  | registered policy config free same =>
    exact .silent (fun state same => by cases same; rfl) rfl rfl
  | called account commands brought =>
    cases before with
    | none => exact .silent (fun state impossible => by cases impossible) rfl rfl
    | some account =>
      cases account with
      | vacant ledger => exact .silent (fun state impossible => by cases impossible) rfl rfl
      | kept state =>
        obtain ⟨more, calls, same, _⟩ := asked_kept state commands
        rw [Option.map_some, same]
        exact .silent (fun after kept => by cases kept; exact rest state rfl) rfl rfl
  | @moved state move account same moves =>
    have rests := move_stopped (order _ rfl).1 (rest state rfl) (refused state rfl) moves
    cases account with
    | vacant ledger =>
      exact .silent (fun state impossible => by cases impossible) (congrArg List.length rests.1) rests.2
    | kept after =>
      exact ⟨fun state same => by cases same; exact rests.phase, rests.bots, rests.feed⟩
  | @observed account bot change member changes => exact observe_uneventful rest change

end BotKeeper.Proofs
