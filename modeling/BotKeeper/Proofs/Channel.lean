import BotKeeper.Proofs.Pipe
import BotKeeper.Proofs.Telling

/-! How the reports of a process get to the feed. They wait in the order in which they are made,
one at a time is looked at, and what it says is published at once. Every move of an instance is a
turn of such steps, which may end with the launch of another process. -/

namespace BotKeeper.Proofs

/-- What the reports of the latest process go through, with the bytes that it has written. -/
structure Channel where
  bots : List Bot
  messages : List Message
  generation : Nat
  handle : Option Nat
  feed : List FeedEvent
  written : List UInt8
  givenUp : Bool

/-- A line as it is published: the event that it means comes directly after it. -/
def spoken (id : AccountId) (line : String) : List FeedEvent :=
  .output id line :: (classify line).toList.map (.lifecycle id)

def isQuiet : FeedEvent → Bool
  | .phaseChanged _ _ _ | .notice _ _ => true
  | .output _ _ | .lifecycle _ _ => false

def AllQuiet (events : List FeedEvent) : Prop :=
  ∀ event ∈ events, isQuiet event = true

inductive Flows (id : AccountId) (channel : Channel) : Channel → Prop where
  | published {events : List FeedEvent} (quiet : AllQuiet events) :
      Flows id channel { channel with feed := channel.feed ++ events }
  | stirred {bot : Bot} {bytes : List UInt8} {givesUp : Bool} {change : Bot × List Report}
      (member : bot ∈ channel.bots) (stirs : Stirs bot bytes givesUp change) :
      Flows id channel { channel with
        bots := channel.bots.map fun other => if other.pid = change.1.pid then change.1 else other
        messages := channel.messages ++ change.2.map (⟨change.1.generation, ·⟩)
        written := channel.written ++ bytes
        givenUp := channel.givenUp || givesUp }
  | dropped {message : Message} {rest : List Message} (messages : channel.messages = message :: rest)
      (other : message.generation ≠ channel.generation) :
      Flows id channel { channel with messages := rest }
  | heard {line : String} {rest : List Message}
      (messages : channel.messages = ⟨channel.generation, .line line⟩ :: rest) :
      Flows id channel { channel with messages := rest, feed := channel.feed ++ spoken id line }
  | exited {code : Option Int32} {rest : List Message}
      (messages : channel.messages = ⟨channel.generation, .exited code⟩ :: rest) :
      Flows id channel { channel with
        messages := rest
        handle := none
        feed := channel.feed ++ [.lifecycle id (.processExited code)] }
  | unlaunched :
      Flows id channel { channel with generation := channel.generation + 1, handle := none }

abbrev Flow (id : AccountId) : Channel → Channel → Prop :=
  Relation.ReflTransGen (Flows id)

inductive Launches (channel : Channel) : Channel → Prop where
  | launched {bot : Bot} (alive : bot.isAlive = true) (empty : bot.unfinished = [])
      (generation : bot.generation = channel.generation + 1) :
      Launches channel { channel with
        bots := bot :: channel.bots
        generation := channel.generation + 1
        handle := some bot.pid }

/-- What a move makes of the reports. Only notices follow a launch in the same move. -/
inductive Turns (id : AccountId) (channel : Channel) : Channel → Prop where
  | went {after : Channel} (flow : Flow id channel after) : Turns id channel after
  | launched {between started : Channel} (flow : Flow id channel between)
      (launches : Launches between started) {events : List FeedEvent} (quiet : AllQuiet events) :
      Turns id channel { started with feed := started.feed ++ events }

/-- What is made of the reports where the instance may be deleted. Nothing waits any more then. -/
inductive Passes (id : AccountId) (channel : Channel) : Channel → Prop where
  | turned {after : Channel} (turns : Turns id channel after) : Passes id channel after
  | vacated (free : channel.handle = none) :
      Passes id channel { channel with messages := [], generation := 0 }

/-- Effects by which no process is ended: a launch at most, and notices after it. -/
def Onward (effects : List Effect) : Prop :=
  ∃ notices : List Notice, effects = notices.map .notify ∨ effects = .spawn :: notices.map .notify

def channel (state : Instance) (written : List UInt8) (givenUp : Bool) : Channel :=
  ⟨state.bots, state.messages, state.generation, state.handle, state.feed, written, givenUp⟩

def channelOf (account : Option Account) (written : List UInt8) (givenUp : Bool) : Channel :=
  match account with
  | some (.kept state) => channel state written givenUp
  | some (.vacant ledger) => ⟨ledger.bots, [], 0, none, ledger.feed, written, givenUp⟩
  | none => ⟨[], [], 0, none, [], written, givenUp⟩

/-- What the held process says if an instance brings it to its end. It is asked to end only if it
has some time for that and may be sent a signal. -/
def farewell (around : Surroundings) (state : Instance) (graceful : Bool) : List UInt8 :=
  match state.held? with
  | none => []
  | some bot =>
    if graceful && around.settings.gracefulTimeoutSecs.toNat * 1000 != 0 && bot.isAlive &&
      bot.conduct.onKill != .refuses then lastWords bot else []

def parting (around : Surroundings) (before after : Instance) : List UInt8 :=
  if Machine.stopsGracefully? before.machine.phase = some true ∧ after.machine.phase = .stopping
    then farewell around before true else []

/-- What the held process says because of a move. An instance that heeds a report asks no process
to end, but ends it outright. -/
def movePart (around : Surroundings) (move : Move) (before : Instance) (after : Account) :
    List UInt8 :=
  match move, after with
  | .receive, _ | _, .vacant _ => []
  | _, .kept next => parting around before next

def isGiveUp : Move → Bool
  | .giveUp _ => true
  | _ => false

variable {id : AccountId} {first : Channel} (around : Surroundings) (state : Instance)
  (written : List UInt8) (givenUp : Bool)

theorem Turns.after {between last : Channel} (flow : Flow id first between)
    (turns : Turns id between last) : Turns id first last := by
  cases turns with
  | went later => exact .went (flow.trans later)
  | launched later launches quiet => exact .launched (flow.trans later) launches quiet

private theorem allQuiet_nil : AllQuiet [] :=
  fun _ impossible => by cases impossible

theorem allQuiet_notices (id : AccountId) (notices : List Notice) :
    AllQuiet (notices.map (.notice id)) := by
  intro event member
  obtain ⟨notice, _, rfl⟩ := List.mem_map.mp member
  rfl

theorem allQuiet_published (outcome : Outcome) (id : AccountId) :
    AllQuiet (outcome.published id) := by
  intro event member
  unfold Outcome.published at member
  split at member
  · rw [List.mem_singleton.mp member]
    rfl
  · cases member

theorem AllQuiet.append {first second : List FeedEvent} (one : AllQuiet first)
    (other : AllQuiet second) : AllQuiet (first ++ second) := by
  intro event member
  rcases List.mem_append.mp member with early | late
  · exact one event early
  · exact other event late

theorem channel_complete (purpose : Purpose) (result : Except Error Unit) :
    channel (state.complete purpose result) written givenUp = channel state written givenUp := by
  unfold Instance.complete
  split <;> first | rfl | (split <;> rfl)

private theorem spawn_launches :
    (∃ after, state.spawn around = (after, .ok ()) ∧
      Launches (channel state written givenUp) (channel after written givenUp)) ∨
    (∃ after error, state.spawn around = (after, .error error) ∧
      Flow id (channel state written givenUp) (channel after written givenUp)) := by
  unfold Instance.spawn
  dsimp only
  cases around.host.launch around.files state.config with
  | ok nothing => exact .inl ⟨_, rfl, .launched rfl rfl rfl⟩
  | error reason =>
    refine .inr ⟨_, _, rfl, .head .unlaunched ?_⟩
    have failed := allQuiet_published state.machine.spawnFailed.2 state.machine.spawnFailed.1.id
    have quiet := failed.append
      (allQuiet_notices state.machine.spawnFailed.1.id [.startFailed none])
    have told : Flows id { channel state written givenUp with
        generation := state.generation + 1, handle := none } _ := .published quiet
    rw [← List.append_assoc] at told
    exact .single told

private theorem perform_notices_feed (notices : List Notice) (purpose : Purpose) :
    channel (state.perform around (notices.map .notify) purpose) written givenUp =
      { channel state written givenUp with
        feed := state.feed ++ notices.map (.notice state.id) } := by
  induction notices generalizing state with
  | nil =>
    rw [List.map_nil, Instance.perform_nil, channel_complete, List.map_nil, List.append_nil]
    rfl
  | cons notice rest ih =>
    rw [List.map_cons, Instance.perform_notify, ih, List.map_cons, List.append_cons]
    rfl

private theorem perform_turns {effects : List Effect} (onward : Onward effects) (purpose : Purpose) :
    Turns id (channel state written givenUp)
      (channel (state.perform around effects purpose) written givenUp) := by
  obtain ⟨notices, rfl | rfl⟩ := onward
  · rw [perform_notices_feed]
    exact .went (.single (.published (allQuiet_notices _ notices)))
  · rw [Instance.perform_spawn]
    rcases @spawn_launches id around state written givenUp with
      ⟨after, spawned, launches⟩ | ⟨after, error, failed, flow⟩
    · rw [spawned]
      dsimp only
      rw [perform_notices_feed]
      exact .launched .refl launches (allQuiet_notices _ notices)
    · rw [failed]
      dsimp only
      rw [channel_complete]
      exact .went flow

theorem goOn_turns (wait : Wait) {result : Instance × Ending}
    (flow : Flow id first (channel result.1 written givenUp)) (onward : Onward wait.effects) :
    Turns id first (channel (Instance.goOn around wait result) written givenUp) := by
  obtain ⟨after, ending⟩ := result
  cases ending with
  | complete =>
    exact .after flow (perform_turns around { after with busy := none } written givenUp onward _)
  | failed error =>
    simp only [Instance.goOn]
    rw [channel_complete]
    exact .went flow
  | awaited pressure deadline => exact .went flow

theorem ending_state (pressure : Pressure) (deadline : Nat) :
    (state.ending pressure deadline).1 = state := by
  unfold Instance.ending
  split <;> rfl

theorem observe_flow {bot : Bot} (member : bot ∈ state.bots) {bytes : List UInt8} {givesUp : Bool}
    {change : Bot × List Report} (stirs : Stirs bot bytes givesUp change) :
    Flow id (channel state written givenUp)
      (channel (state.observe change) (written ++ bytes) (givenUp || givesUp)) :=
  .single (.stirred member stirs)

private theorem kill_flow : Flow id (channel state written givenUp)
    (channel (state.kill around).1 written givenUp) := by
  unfold Instance.kill
  split
  · exact .refl
  · rename_i bot held
    split
    · rename_i alive
      split
      · have died : Flow id _ _ := observe_flow state written givenUp (of_held?_some held).1
          (.died alive none around.now)
        rw [List.append_nil, Bool.or_false] at died
        rw [ending_state]
        exact died
      · rw [ending_state]
      · exact .refl
    · exact .refl

private theorem terminate_flow (graceful : Bool) : Flow id (channel state written givenUp)
    (channel (state.terminate around graceful).1 (written ++ farewell around state graceful)
      givenUp) := by
  unfold Instance.terminate farewell
  dsimp only
  cases held : state.held? with
  | none =>
    rw [List.append_nil]
  | some bot =>
    dsimp only
    split
    · rename_i asked
      have alive : bot.isAlive = true := by
        simp only [Bool.and_eq_true] at asked
        exact asked.1.2
      have said : Flow id _ _ := observe_flow state written givenUp (of_held?_some held).1
        (.asked alive around.now)
      rw [Bool.or_false] at said
      rw [ending_state]
      exact said
    · rw [List.append_nil]
      exact kill_flow around state written givenUp

private theorem terminate_turns (idle : state.busy = none) (graceful : Bool) {rest : List Effect}
    (onward : Onward rest) (purpose : Purpose) :
    Turns id (channel state written givenUp)
      (channel (state.perform around (.terminate graceful :: rest) purpose)
        (written ++ farewell around state graceful) givenUp) := by
  rw [perform_terminate_goOn around idle]
  exact goOn_turns around _ givenUp _ (terminate_flow around state written givenUp graceful) onward

private theorem farewell_outright : farewell around state false = [] := by
  unfold farewell
  split <;> rfl

theorem start_turns (operator : Bool) :
    Turns id (channel state written givenUp)
      (channel (state.start around operator).1 written givenUp) := by
  unfold Instance.start
  split
  · exact .went .refl
  · rcases start_cases state.machine with ⟨_, refused⟩ | ⟨_, begun⟩
    · rw [refused]
      exact .went .refl
    · rw [begun]
      dsimp only
      generalize begins : Instance.publishTransition _ _ = between
      have told : Flow id (channel state written givenUp) (channel between written givenUp) := by
        subst between
        exact .single (.published (allQuiet_published _ _))
      rcases @spawn_launches id around between written givenUp with
        ⟨after, spawned, launches⟩ | ⟨after, error, failed, flow⟩
      · rw [spawned]
        have turns : Turns id (channel state written givenUp) (channel after written givenUp) := by
          have launched := Turns.launched told launches allQuiet_nil
          rw [List.append_nil] at launched
          exact launched
        exact turns
      · rw [failed]
        exact .went (told.trans flow)

private theorem afterStop_turns : Turns id (channel state written givenUp)
    (channel (state.afterStop around) written givenUp) := by
  unfold Instance.afterStop
  dsimp only
  generalize freed : Instance.releaseStops _ = released
  have same : channel state written givenUp = channel released written givenUp := by
    subst released
    rfl
  rw [same]
  cases state.pendingStart with
  | none => exact .went .refl
  | some pending =>
    cases pending with
    | requested ticket => exact start_turns around released written givenUp true
    | scheduled => exact start_turns around released written givenUp false

private theorem stop_graceful {machine after : Machine} {graceful : Bool}
    (stops : machine.stop = .ok (after, ⟨machine.phase, .stopping, [.terminate graceful]⟩)) :
    Machine.stopsGracefully? machine.phase = some graceful := by
  unfold Machine.stop at stops
  split at stops
  · rename_i asks same
    simp only [Machine.transition, Except.ok.injEq, Prod.mk.injEq, Outcome.mk.injEq,
      List.cons.injEq, Effect.terminate.injEq] at stops
    rw [same, stops.2.2.2.1]
  · cases stops

private theorem perform_terminate_machine (graceful : Bool) (purpose : Purpose) :
    (state.perform around [.terminate graceful] purpose).machine = state.machine := by
  obtain ⟨bots, messages, ending, ends⟩ := (terminate_same around state graceful).result
  rw [Instance.perform_terminate, ends]
  cases ending with
  | complete => exact complete_machine _ _ _
  | failed error => exact complete_machine _ _ _
  | awaited pressure deadline => rfl

theorem parting_none {before after : Instance}
    (other : Machine.stopsGracefully? before.machine.phase = some true →
      after.machine.phase ≠ .stopping) : parting around before after = [] :=
  if_neg fun ⟨graceful, stopping⟩ => other graceful stopping

theorem parting_same {before after : Instance} (same : after.machine = before.machine) :
    parting around before after = [] := by
  apply parting_none
  rw [same]
  intro graceful stopping
  rw [stopping] at graceful
  cases graceful

theorem still_turns {after : Instance} (machine : after.machine = state.machine)
    (same : channel after written givenUp = channel state written givenUp) :
    Turns id (channel state written givenUp)
      (channel after (written ++ parting around state after) givenUp) := by
  rw [parting_same around machine, List.append_nil, same]
  exact .went .refl

private theorem parting_stopped {before after : Instance} (stopped : before.machine.phase = .stopped) :
    parting around before after = [] := by
  apply parting_none
  rw [stopped]
  intro graceful
  cases graceful

/-- An instance that goes over to being stopped has its process say what it has still to say. -/
theorem stopping_turns {between : Instance} {machine : Machine} {graceful : Bool}
    (stops : state.machine.stop =
      .ok (machine, ⟨state.machine.phase, .stopping, [.terminate graceful]⟩))
    {purpose : Purpose} {after : Instance}
    (performs : between.perform around [.terminate graceful] purpose = after)
    (told : Flow id (channel state written givenUp) (channel between written givenUp))
    (idle : between.busy = none) (held : between.held? = state.held?)
    (stopping : between.machine.phase = .stopping) :
    Turns id (channel state written givenUp)
      (channel after (written ++ parting around state after) givenUp) := by
  have words : parting around state after = farewell around between graceful := by
    unfold parting
    rw [stop_graceful stops, ← performs, perform_terminate_machine, stopping]
    cases graceful with
    | false => rw [farewell_outright, if_neg (by simp)]
    | true =>
      rw [if_pos ⟨rfl, rfl⟩]
      unfold farewell
      rw [held]
  rw [words, ← performs]
  exact .after told (terminate_turns around between written givenUp idle graceful
    ⟨[], .inl rfl⟩ purpose)

private theorem stop_turns (idle : state.busy = none) (ticket : Ticket) :
    Turns id (channel state written givenUp) (channel (state.stop around ticket)
      (written ++ parting around state (state.stop around ticket)) givenUp) := by
  generalize stopped : state.stop around ticket = after
  unfold Instance.stop at stopped
  split at stopped
  · subst stopped
    exact still_turns around state written givenUp rfl rfl
  · rcases stop_cases state.machine with ⟨_, refused⟩ | ⟨machine, graceful, _, stopping, stops⟩
    · rw [refused] at stopped
      subst stopped
      exact still_turns around state written givenUp rfl rfl
    · rw [stops] at stopped
      exact stopping_turns around state written givenUp stops
        stopped (.single (.published (allQuiet_published _ _))) idle rfl stopping

theorem start_running (running : state.machine.phase ≠ .stopped) (operator : Bool) :
    (state.start around operator).1 = state := by
  rcases start_cases state.machine with ⟨_, refused⟩ | ⟨stopped, _⟩
  · unfold Instance.start
    rw [refused]
    split <;> rfl
  · exact absurd stopped running

private theorem startFor_turns (ticket : Ticket) :
    Turns id (channel state written givenUp) (channel (state.startFor around ticket)
      (written ++ parting around state (state.startFor around ticket)) givenUp) := by
  have none : parting around state (state.startFor around ticket) = [] := by
    by_cases stopped : state.machine.phase = .stopped
    · exact parting_stopped around stopped
    · have machine : (state.start around true).1.machine = state.machine := by
        rw [start_running around state stopped]
      exact parting_same around machine
  rw [none, List.append_nil]
  exact start_turns around state written givenUp true

private theorem reboot_turns (idle : state.busy = none) (ticket : Ticket) :
    Turns id (channel state written givenUp) (channel (state.reboot around ticket)
      (written ++ parting around state (state.reboot around ticket)) givenUp) := by
  generalize rebooted : state.reboot around ticket = after
  unfold Instance.reboot at rebooted
  split at rebooted
  · subst rebooted
    exact startFor_turns around state written givenUp ticket
  · split at rebooted
    · subst rebooted
      exact still_turns around state written givenUp rfl rfl
    · rcases stop_cases state.machine with ⟨_, refused⟩ | ⟨machine, graceful, _, stopping, stops⟩
      · rw [refused] at rebooted
        subst rebooted
        exact still_turns around state written givenUp rfl rfl
      · rw [stops] at rebooted
        exact stopping_turns around state written givenUp stops
          rebooted (.single (.published (allQuiet_published _ _))) idle rfl stopping

private theorem scheduledRestart_turns (idle : state.busy = none) :
    Turns id (channel state written givenUp) (channel (state.scheduledRestart around)
      (written ++ parting around state (state.scheduledRestart around)) givenUp) := by
  generalize restarted : state.scheduledRestart around = after
  unfold Instance.scheduledRestart at restarted
  dsimp only at restarted
  split at restarted
  · subst restarted
    exact still_turns around state written givenUp rfl rfl
  · rcases stop_cases state.machine with ⟨_, refused⟩ | ⟨machine, graceful, _, stopping, stops⟩
    · rw [refused] at restarted
      subst restarted
      exact still_turns around state written givenUp rfl rfl
    · rw [stops] at restarted
      exact stopping_turns around state written givenUp stops restarted
        (.head (.published (allQuiet_notices machine.id [.scheduledRestart]))
          (.single (.published (allQuiet_published _ _)))) idle rfl stopping

private theorem update_turns (ticket : Ticket) (config : InstanceConfig) :
    Turns id (channel state written givenUp) (channel (state.update ticket config)
      (written ++ parting around state (state.update ticket config)) givenUp) := by
  have same : (state.update ticket config).machine = state.machine ∧
      channel (state.update ticket config) written givenUp = channel state written givenUp := by
    unfold Instance.update
    split <;> exact ⟨rfl, rfl⟩
  exact still_turns around state written givenUp same.1 same.2

/-- What an event leads to is that no process is ended, or that one is ended outright at first. -/
theorem Consequence.onward {event : LifecycleEvent} {before after : Phase} {effects : List Effect}
    (consequence : Consequence event before after effects) :
    Onward effects ∨ ∃ rest, effects = .terminate false :: rest ∧ Onward rest := by
  cases consequence with
  | ignored | code | stopped => exact .inl ⟨[], .inl rfl⟩
  | offline | login | unstarted | crashed => exact .inl ⟨[_], .inl rfl⟩
  | replaced => exact .inr ⟨_, rfl, [_], .inr rfl⟩
  | limited => exact .inr ⟨_, rfl, [_], .inl rfl⟩

theorem Plan.onward {phase : Phase} {effects : List Effect} {purpose : Purpose}
    (plan : Plan phase effects purpose) : Onward effects := by
  cases plan with
  | stop | reboot | scheduledRestart => exact ⟨[], .inl rfl⟩
  | giveUp notice => exact ⟨[notice], .inl rfl⟩
  | replace notice => exact ⟨[notice], .inr rfl⟩

/-- From where an event has been published, the rest follows. -/
theorem apply_turns (idle : state.busy = none) (event : LifecycleEvent) :
    Turns id
      { channel state written givenUp with feed := state.feed ++ [.lifecycle state.id event] }
      (channel (state.apply around event) written givenUp) := by
  have leads := handle_leads state.machine event around.uptime
  unfold Instance.apply
  generalize state.machine.handle event around.uptime = step at leads
  obtain ⟨machine, outcome⟩ := step
  dsimp only
  generalize begins : Instance.publishTransition _ outcome = between
  have told : Flow id
      { channel state written givenUp with feed := state.feed ++ [.lifecycle state.id event] }
      (channel between written givenUp) := by
    subst between
    exact .single (.published (allQuiet_published outcome _))
  have stillIdle : between.busy = none := (congrArg Instance.busy begins.symm).trans idle
  rcases leads.consequence.onward with onward | ⟨rest, effects, onward⟩
  · exact .after told (perform_turns around between written givenUp onward _)
  · dsimp only at effects
    have ended : Turns id _ _ := terminate_turns around between written givenUp stillIdle false
      onward (.event (outcome.changed && outcome.after.isStopped))
    rw [farewell_outright, List.append_nil] at ended
    rw [effects]
    exact .after told ended

private theorem receive_turns {message : Message} {rest : List Message} (named : state.machine.id = id)
    (idle : state.busy = none) (messages : state.messages = message :: rest) :
    Turns id (channel state written givenUp)
      (channel ({ state with messages := rest }.receive around message) written givenUp) := by
  unfold Instance.receive
  subst named
  split
  · rename_i current
    obtain ⟨generation, report⟩ := message
    dsimp only at current
    subst generation
    cases report with
    | line text =>
      have heard : Flows state.machine.id (channel state written givenUp) _ := .heard messages
      simp only [Instance.hear]
      cases means : classify text with
      | none =>
        rw [spoken, means] at heard
        exact .went (.single heard)
      | some event =>
        rw [spoken, means, Option.toList_some, List.map_singleton, List.append_cons] at heard
        exact .after (.single heard) (apply_turns around
          (({ state with messages := rest }.remember around text).publish
            (.output state.machine.id text)) written givenUp idle event)
    | exited code =>
      exact .after (.single (.exited messages)) (apply_turns around
        { state with messages := rest, handle := none } written givenUp idle _)
  · rename_i other
    exact .went (.single (.dropped messages other))

variable {around} {state}

private theorem delete_passes (sound : Sound state state) (ticket : Ticket) :
    Passes id (channel state written givenUp)
      (channelOf (some (state.delete ticket))
        (written ++ movePart around .serve state (state.delete ticket)) givenUp) := by
  unfold Instance.delete
  cases allowed : state.machine.checkIdle with
  | error error => exact .turned (still_turns around state written givenUp rfl rfl)
  | ok nothing =>
    have stopped : state.machine.phase = .stopped := by
      simpa [Machine.checkIdle, Phase.isStopped] using allowed
    have free := sound.empty.mp stopped
    have vacated : Passes id (channel state written givenUp) _ := .vacated free
    simp only [channel, free] at vacated ⊢
    simp only [movePart, List.append_nil]
    exact vacated

private theorem serve_passes (sound : Sound state state) (idle : state.busy = none)
    (request : Request) : Passes id (channel state written givenUp)
      (channelOf (some (state.serve around request))
        (written ++ movePart around .serve state (state.serve around request)) givenUp) := by
  obtain ⟨ticket, command⟩ := request
  cases command with
  | start => exact .turned (startFor_turns around state written givenUp ticket)
  | stop => exact .turned (stop_turns around state written givenUp idle ticket)
  | reboot => exact .turned (reboot_turns around state written givenUp idle ticket)
  | update config => exact .turned (update_turns around state written givenUp ticket config)
  | delete => exact delete_passes written givenUp sound ticket

/-- While the end of a process is waited for, no process is asked to end. -/
theorem Plan.parting {effects : List Effect} {purpose : Purpose} {after : Instance}
    (plan : Plan state.machine.phase effects purpose) : parting around state after = [] := by
  apply parting_none
  intro graceful
  generalize state.machine.phase = phase at plan graceful
  cases plan <;> cases graceful

theorem move_passes (sound : Sound state state) (named : state.machine.id = id) {move : Move}
    {account : Account} (moves : Moves around state move account) :
    Passes id (channel state written givenUp)
      (channelOf (some account) (written ++ movePart around move state account)
        (givenUp || isGiveUp move)) := by
  cases moves with
  | receive idle messages =>
    simp only [isGiveUp, Bool.or_false, movePart, List.append_nil]
    exact .turned (receive_turns around state written givenUp named idle messages)
  | @serve request rest idle requests =>
    simp only [isGiveUp, Bool.or_false]
    exact serve_passes written givenUp (sound.requeue rest state.calls) idle request
  | restart idle =>
    simp only [isGiveUp, Bool.or_false]
    exact .turned (scheduledRestart_turns around state written givenUp idle)
  | conclude halted =>
    simp only [isGiveUp, Bool.or_false, movePart, parting_stopped around (sound.halted halted),
      List.append_nil]
    exact .turned (afterStop_turns around { state with busy := none } written givenUp)
  | @resume wait busy ended =>
    obtain ⟨plan, _⟩ := sound.waits wait busy
    simp only [isGiveUp, Bool.or_false, movePart, plan.parting, List.append_nil]
    exact .turned (goOn_turns around written givenUp wait .refl plan.onward)
  | @timeout wait bot busy held due =>
    obtain ⟨plan, _⟩ := sound.waits wait busy
    simp only [isGiveUp, Bool.or_false, movePart, plan.parting, List.append_nil]
    unfold Instance.runOut
    cases wait.pressure with
    | asked =>
      exact .turned (goOn_turns around written givenUp wait (kill_flow around state written givenUp)
        plan.onward)
    | forced => exact .turned (goOn_turns around written givenUp wait .refl plan.onward)
  | @giveUp _ _ bot found lingers due =>
    have gaveUp : Flow id _ _ := observe_flow state written givenUp
      (List.mem_of_find?_eq_some found) (.gaveUp lingers)
    have silent : parting around state (state.observe bot.giveUp) = [] := parting_same around rfl
    simp only [movePart, isGiveUp, silent]
    exact .turned (.went gaveUp)

end BotKeeper.Proofs
