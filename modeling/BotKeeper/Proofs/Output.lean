import BotKeeper.Proofs.Delivery
import BotKeeper.Proofs.Replacement
import BotKeeper.Proofs.Safety

/-! The output of a process over its whole course, from its launch on. Main statement: however its
bytes are split into writes, exactly its lines are published, in order and each directly before the
event that it means, and its exit once and after all of them. -/

namespace BotKeeper.Proofs

/-- Whether the exits of all processes of an account have been reported. -/
def ended (keeper : Keeper) (id : AccountId) : Bool :=
  (keeper.ledger id).bots.all Bot.isGone

/-- The bytes that get into the pipe of the process of an account by an event. What is printed
after the exit was reported is lost, and a move may have a process say its last words. -/
def writes (id : AccountId) (before : Keeper) (event : Keeper.Event) (after : Keeper) :
    List UInt8 :=
  match event with
  | .print target bytes | .printLate target bytes =>
    if target = id then (if ended before target then [] else bytes) else []
  | .move target move =>
    if target = id then
      match before.instance? target, after.accounts.get? target with
      | some state, some account => movePart before.around move state account
      | _, _ => []
    else []
  | _ => []

def givesUp (id : AccountId) : Keeper.Event → Bool
  | .move target move => target == id && isGiveUp move
  | _ => false

variable {id : AccountId} {keeper after : Keeper} (written : List UInt8) (givenUp : Bool)

private theorem asked_channel (account : Option Account) (commands : List Command) :
    channelOf (account.map (asked commands)) written givenUp = channelOf account written givenUp := by
  cases account with
  | none => rfl
  | some account =>
    cases account with
    | vacant ledger => rfl
    | kept state =>
      obtain ⟨more, calls, same, _⟩ := asked_kept state commands
      rw [Option.map_some, same]
      rfl

private theorem fresh_channel (policy : RestartPolicy) (config : InstanceConfig)
    {account : Option Account} (free : account.bind Account.instance? = none) :
    channel (Instance.fresh policy config (ledgerOf account)) written givenUp =
      channelOf account written givenUp := by
  cases account with
  | none => rfl
  | some account =>
    cases account with
    | vacant ledger => rfl
    | kept state => cases free

private theorem add_channel (keeper : Keeper) (config : InstanceConfig) (drawn : DrawnName)
    (id : AccountId) : channelOf ((keeper.add config drawn).1.accounts.get? id) written givenUp =
      channelOf (keeper.accounts.get? id) written givenUp := by
  unfold Keeper.add
  split
  · rfl
  · dsimp only
    split
    · rfl
    · rename_i free
      dsimp only
      rw [get?_put]
      split
      · subst id
        exact fresh_channel written givenUp _ _ free
      · rfl

private theorem observe_flows {account : Account} (order : InOrder id account) {bot : Bot}
    (member : bot ∈ account.ledger.bots) {bytes : List UInt8} {change : Bot × List Report}
    (stirs : Stirs bot bytes false change) :
    Flow id (channelOf (some account) written givenUp)
      (channelOf (some (account.observe change)) (written ++ bytes) givenUp) := by
  cases account with
  | kept state =>
    have flow : Flow id _ _ := observe_flow state written givenUp member stirs
    rw [Bool.or_false] at flow
    exact flow
  | vacant ledger =>
    have flows : Flows id (channelOf (some (.vacant ledger)) written givenUp) _ :=
      .stirred member stirs
    rw [Bool.or_false, (stirs.silent (order.2 bot member)).2.2] at flows
    exact .single flows

private theorem happen_flows (reachable : keeper.Reachable) {target : AccountId} {bot : Option Bot}
    {happening : Bot → Bot × List Report} (happens : keeper.happen target bot happening = some after)
    {bytes : List UInt8}
    (stirs : ∀ found, bot = some found → found ∈ (keeper.ledger target).bots ∧
      Stirs found bytes false (happening found)) (id : AccountId) :
    Flow id (channelOf (keeper.accounts.get? id) written givenUp)
      (channelOf (after.accounts.get? id) (written ++ if target = id then bytes else []) givenUp) := by
  unfold Keeper.happen at happens
  cases present : keeper.accounts.get? target with
  | none => simp [present] at happens
  | some account =>
    cases bot with
    | none => simp [present] at happens
    | some bot =>
      simp [present] at happens
      subst after
      obtain ⟨member, stirred⟩ := stirs bot rfl
      have belongs : bot ∈ account.ledger.bots := by
        simpa [Keeper.ledger, present] using member
      rw [get?_put]
      by_cases here : id = target
      · subst target
        rw [if_pos rfl, if_pos rfl, present]
        have order := reachable_inOrder reachable account present
        exact observe_flows written givenUp order belongs stirred
      · rw [if_neg here, if_neg (Ne.symm here), List.append_nil]

/-- Nothing is written where something else happens to a process. -/
theorem happen_passes (reachable : keeper.Reachable) {target : AccountId} {bot : Option Bot}
    {happening : Bot → Bot × List Report} (happens : keeper.happen target bot happening = some after)
    (stirs : ∀ found, bot = some found → found ∈ (keeper.ledger target).bots ∧
      Stirs found [] false (happening found)) (id : AccountId) :
    Passes id (channelOf (keeper.accounts.get? id) written givenUp)
      (channelOf (after.accounts.get? id) (written ++ []) (givenUp || false)) := by
  have flow := happen_flows written givenUp reachable happens stirs id
  rw [ite_self] at flow
  rw [Bool.or_false]
  exact .turned (.went flow)

private theorem ended_of_member (reachable : keeper.Reachable) {bot : Bot}
    (latest : (keeper.ledger id).bots.head? = some bot) : ended keeper id = bot.isGone := by
  unfold ended
  have past := reachable_past_gone reachable id
  obtain ⟨earlier, bots⟩ := List.head?_eq_some_iff.mp latest
  rw [bots] at past ⊢
  have gone : earlier.all Bot.isGone = true := by
    rw [List.all_eq_true]
    exact past
  rw [List.all_cons, gone, Bool.and_true]

private theorem not_ended_of_alive {bot : Bot} (member : bot ∈ (keeper.ledger id).bots)
    (alive : bot.isAlive = true) : ended keeper id = false := by
  unfold ended
  rw [List.all_eq_false]
  exact ⟨bot, member, by simp [not_gone_of_alive alive]⟩

private theorem print_flows (reachable : keeper.Reachable) {target : AccountId} {bot : Option Bot}
    {bytes : List UInt8} (happens : keeper.happen target bot (·.print bytes) = some after)
    (belongs : ∀ found, bot = some found → found ∈ (keeper.ledger target).bots ∧
      ended keeper target = found.isGone) (id : AccountId) :
    Flow id (channelOf (keeper.accounts.get? id) written givenUp)
      (channelOf (after.accounts.get? id)
        (written ++ if target = id then (if ended keeper target then [] else bytes) else [])
        givenUp) := by
  apply happen_flows written givenUp reachable happens
  intro found same
  obtain ⟨member, gone⟩ := belongs found same
  rw [gone]
  exact ⟨member, .printed bytes⟩

def stirsReports : Keeper.Event → Bool
  | .move _ _ | .print _ _ | .printLate _ _ | .exit _ _ | .closeOutput _ | .alter _ _ _ => true
  | _ => false

private theorem call_channel (keeper : Keeper) (target : AccountId) (command : Command)
    (id : AccountId) : channelOf ((keeper.call target command).1.accounts.get? id) written givenUp =
      channelOf (keeper.accounts.get? id) written givenUp := by
  obtain ⟨commands, _, asks⟩ := call_asks keeper target id command
  rw [asks, asked_channel]

/-- What operators ask for and what changes around a keeper does not concern the reports. -/
theorem other_channel {event : Keeper.Event} (other : stirsReports event = false)
    (steps : keeper.step? event = some after) (id : AccountId) :
    channelOf (after.accounts.get? id) written givenUp =
      channelOf (keeper.accounts.get? id) written givenUp := by
  cases event with
  | add config drawn =>
    cases steps
    exact add_channel written givenUp keeper config drawn id
  | start target | stop target | reboot target | delete target =>
    cases steps
    exact call_channel written givenUp keeper target _ id
  | update target config drawn =>
    cases steps
    unfold Keeper.update
    split
    · rfl
    · split
      · rfl
      · exact call_channel written givenUp keeper target _ id
  | stopAll =>
    cases steps
    obtain ⟨commands, _, asks⟩ := stopEach_asks id
      ((keeper.snapshots.filter (Keeper.isStoppable ·.phase)).map (·.id)) keeper
    unfold Keeper.stopAll
    rw [asks, asked_channel]
  | beginUpdate =>
    cases steps
    unfold Keeper.beginUpdate
    split
    · rfl
    · split <;> rfl
  | endUpdate =>
    simp only [Keeper.step?, Keeper.endUpdate?] at steps
    split at steps <;> cases steps
    rfl
  | advance millis uptime | surround host files =>
    cases steps
    rfl
  | move | print | printLate | exit | closeOutput | alter => cases other

private theorem moved_passes (reachable : keeper.Reachable) {target : AccountId} {move : Move}
    (steps : keeper.step? (.move target move) = some after) (id : AccountId) :
    Passes id (channelOf (keeper.accounts.get? id) written givenUp)
      (channelOf (after.accounts.get? id)
        (written ++ writes id keeper (.move target move) after)
        (givenUp || givesUp id (.move target move))) := by
  obtain ⟨state, account, found, moves, rfl⟩ := moves_of_step steps
  by_cases here : target = id
  · subst target
    obtain ⟨sound, named⟩ := reachable_inOrder reachable _ (kept_of_instance? found)
    have passes := move_passes written givenUp sound named moves
    simp only [writes, givesUp, found, get?_put, if_true, beq_self_eq_true, Bool.true_and,
      kept_of_instance? found]
    exact passes
  · simp only [writes, givesUp, get?_put, if_neg here, if_neg (Ne.symm here), List.append_nil,
      beq_false_of_ne here, Bool.false_and, Bool.or_false]
    exact .turned (.went .refl)

/-- Whatever happens to a keeper, the reports of an account go on their way. -/
theorem step_passes (reachable : keeper.Reachable) {event : Keeper.Event}
    (steps : keeper.step? event = some after) (id : AccountId) :
    Passes id (channelOf (keeper.accounts.get? id) written givenUp)
      (channelOf (after.accounts.get? id) (written ++ writes id keeper event after)
        (givenUp || givesUp id event)) := by
  cases event with
  | move target move => exact moved_passes written givenUp reachable steps id
  | print target bytes =>
    simp only [givesUp, Bool.or_false]
    refine .turned (.went (print_flows written givenUp reachable steps (fun found living => ?_) id))
    have member := List.mem_of_find?_eq_some living
    have alive := List.find?_some living
    exact ⟨member, (not_ended_of_alive member alive).trans (not_gone_of_alive alive).symm⟩
  | printLate target bytes =>
    simp only [givesUp, Bool.or_false]
    refine .turned (.went (print_flows written givenUp reachable steps (fun found leaking => ?_) id))
    have latest := (Option.filter_eq_some_iff.mp leaking).1
    exact ⟨List.mem_of_head? latest, ended_of_member reachable latest⟩
  | exit target code =>
    refine happen_passes written givenUp reachable steps (fun found living => ?_) id
    have alive := List.find?_some living
    have dies : found.exit code keeper.around.now = found.die code keeper.around.now := if_pos alive
    rw [dies]
    exact ⟨List.mem_of_find?_eq_some living, .died alive code _⟩
  | closeOutput target =>
    exact happen_passes written givenUp reachable steps
      (fun found latest => ⟨List.mem_of_head? latest, .closed⟩) id
  | alter target pid conduct =>
    exact happen_passes written givenUp reachable steps
      (fun found listed => ⟨List.mem_of_find?_eq_some listed, .altered conduct⟩) id
  | add | start | stop | reboot | update | delete | stopAll | beginUpdate | endUpdate | advance |
    surround =>
    have same := other_channel written givenUp rfl steps id
    simp only [writes, givesUp, List.append_nil, Bool.or_false, same]
    exact .turned (.went .refl)

def holds (keeper : Keeper) (id : AccountId) : Bool :=
  ((keeper.instance? id).bind (·.handle)).isSome

def tried (keeper : Keeper) (id : AccountId) : Nat :=
  triedBy (keeper.accounts.get? id)

/-- Another process is launched for an account, or a launch is tried while one is still held. -/
def Relaunches (id : AccountId) (before after : Keeper) : Prop :=
  (after.ledger id).bots.length ≠ (before.ledger id).bots.length ∨
    holds before id = true ∧ tried after id ≠ tried before id

instance (id : AccountId) (before after : Keeper) : Decidable (Relaunches id before after) :=
  inferInstanceAs (Decidable (_ ∨ _))

/-- The course of a process of an account from its launch on, until another one takes its place,
with the bytes that it has written and with whether its pipe was given up. -/
inductive Course (id : AccountId) (launch : Keeper) : Keeper → List UInt8 → Bool → Prop where
  | launched {before : Keeper} {event : Keeper.Event} (reachable : before.Reachable)
      (steps : before.step? event = some launch)
      (another : (launch.ledger id).bots.length ≠ (before.ledger id).bots.length) :
      Course id launch launch [] false
  | step {before after : Keeper} {event : Keeper.Event} {written : List UInt8} {givenUp : Bool}
      (course : Course id launch before written givenUp) (steps : before.step? event = some after)
      (same : ¬ Relaunches id before after) :
      Course id launch after (written ++ writes id before event after) (givenUp || givesUp id event)

/-- The reports of the present launch that the instance has not looked at yet. -/
def unread (keeper : Keeper) (id : AccountId) : List Report :=
  ((keeper.instance? id).map fun state => waiting state.generation state.messages).getD []

variable {written : List UInt8} {givenUp : Bool}

section channelOf

variable (keeper id written givenUp)

@[simp] theorem channelOf_bots :
    (channelOf (keeper.accounts.get? id) written givenUp).bots = (keeper.ledger id).bots := by
  unfold Keeper.ledger
  rcases keeper.accounts.get? id with _ | _ | _ <;> rfl

@[simp] theorem channelOf_feed :
    (channelOf (keeper.accounts.get? id) written givenUp).feed = (keeper.ledger id).feed := by
  unfold Keeper.ledger
  rcases keeper.accounts.get? id with _ | _ | _ <;> rfl

@[simp] theorem channelOf_handle :
    (channelOf (keeper.accounts.get? id) written givenUp).handle =
      (keeper.instance? id).bind (·.handle) := by
  unfold Keeper.instance?
  rcases keeper.accounts.get? id with _ | _ | _ <;> rfl

@[simp] theorem channelOf_generation :
    (channelOf (keeper.accounts.get? id) written givenUp).generation = tried keeper id := by
  unfold tried
  rcases keeper.accounts.get? id with _ | _ | _ <;> rfl

@[simp] theorem channelOf_messages :
    waiting (tried keeper id) (channelOf (keeper.accounts.get? id) written givenUp).messages =
      unread keeper id := by
  unfold tried unread Keeper.instance?
  rcases keeper.accounts.get? id with _ | _ | _ <;> rfl

@[simp] theorem channelOf_written (account : Option Account) :
    (channelOf account written givenUp).written = written := by
  rcases account with _ | _ | _ <;> rfl

@[simp] theorem channelOf_givenUp (account : Option Account) :
    (channelOf account written givenUp).givenUp = givenUp := by
  rcases account with _ | _ | _ <;> rfl

end channelOf

theorem reachable_dated (reachable : keeper.Reachable) (id : AccountId) (written : List UInt8)
    (givenUp : Bool) : Dated (channelOf (keeper.accounts.get? id) written givenUp) := by
  cases found : keeper.accounts.get? id with
  | none => exact ⟨by simp [channelOf], by simp [channelOf]⟩
  | some account =>
    have order := reachable_inOrder reachable account found
    cases account with
    | vacant ledger =>
      refine ⟨by simp [channelOf], fun bot member there => ?_⟩
      exact Bool.noConfusion (there.symm.trans (order.2 bot member))
    | kept state =>
      refine ⟨order.1.dated, fun bot member there => ?_⟩
      obtain ⟨_, _, _, generation, _⟩ := order.1.toCustody.latest member there
      exact Nat.le_of_eq generation

theorem reachable_numbered (reachable : keeper.Reachable) (id : AccountId) :
    Numbered (keeper.ledger id).bots := by
  unfold Keeper.ledger
  cases found : keeper.accounts.get? id with
  | none => trivial
  | some account =>
    have order := reachable_inOrder reachable account found
    cases account with
    | vacant ledger => exact order.1
    | kept state => exact order.1.numbered

theorem Course.reachable {launch : Keeper} (course : Course id launch keeper written givenUp) :
    keeper.Reachable := by
  induction course with
  | launched reachable steps => exact reachable_of_step reachable steps
  | step _ steps _ ih => exact reachable_of_step ih steps

private theorem launch_delivers (reachable : keeper.Reachable) {event : Keeper.Event}
    (steps : keeper.step? event = some after)
    (another : (after.ledger id).bots.length ≠ (keeper.ledger id).bots.length) :
    Delivered id (after.ledger id).feed (channelOf (after.accounts.get? id) [] false) := by
  obtain ⟨bot, earlier, bots, alive, empty, generation, held, silent⟩ :=
    (step_passes [] false reachable steps id).launched (reachable_dated reachable id [] false)
      (by simpa using another)
  simp only [channelOf_bots, channelOf_generation, channelOf_handle,
    channelOf_messages] at bots generation held silent
  have later := reachable_of_step reachable steps
  have numbered := reachable_numbered later id
  have past := reachable_past_gone later id
  rw [bots] at numbered past
  refine ⟨bot, earlier, [], ?_⟩
  constructor
  · rw [channelOf_bots, bots]
  · exact numbered
  · exact past
  · rw [channelOf_feed, List.append_nil]
  · exact allMeant_nil
  · simp only [channelOf_written, channelOf_givenUp, channelOf_generation, channelOf_messages,
      silent]
    exact .started alive empty
  · intro _
    rw [channelOf_generation, generation]
  · intro free
    rw [channelOf_handle] at free
    exact absurd free held

theorem Course.delivered {launch : Keeper} (course : Course id launch keeper written givenUp) :
    Delivered id (launch.ledger id).feed
      (channelOf (keeper.accounts.get? id) written givenUp) := by
  induction course with
  | launched reachable steps another => exact launch_delivers reachable steps another
  | @step before after event written givenUp course steps same ih =>
    unfold Relaunches at same
    rw [not_or, Classical.not_not, not_and, Classical.not_not] at same
    refine (step_passes written givenUp course.reachable steps id).delivered
      (reachable_dated course.reachable id written givenUp) (fun held => ?_) ?_ ih
    · rw [channelOf_generation, channelOf_generation]
      apply same.2
      rw [channelOf_handle] at held
      exact Option.isSome_iff_ne_none.mpr held
    · rw [channelOf_bots, channelOf_bots]
      exact same.1

/-- Another launch is tried for an account only when no process is held or by an automatic
restart. -/
theorem step_restarts (reachable : keeper.Reachable) {event : Keeper.Event}
    (steps : keeper.step? event = some after) (held : holds keeper id = true)
    (relaunches : Relaunches id keeper after) :
    ∃ state move, keeper.instance? id = some state ∧ event = .move id move ∧
      AutoRestarts keeper.around state move := by
  have another : tried after id ≠ tried keeper id := by
    rcases relaunches with length | ⟨_, another⟩
    · have older := (step_passes [] false reachable steps id).older (by simpa using length)
      simp only [channelOf_generation] at older
      omega
    · exact another
  obtain ⟨state, registered, some⟩ : ∃ state, keeper.instance? id = some state ∧
      state.handle.isSome = true := by
    unfold holds at held
    cases registered : keeper.instance? id with
    | none => simp [registered] at held
    | some state => exact ⟨state, rfl, by simpa [registered] using held⟩
  have kept := kept_of_instance? registered
  have happens := step_happens steps id
  unfold tried at another
  generalize after.accounts.get? id = later at happens another
  rw [kept] at happens another
  cases happens with
  | nothing => exact absurd rfl another
  | registered policy config free => cases free
  | called _ commands brought =>
    obtain ⟨more, calls, same, _⟩ := asked_kept state commands
    rw [Option.map_some, same] at another
    exact absurd rfl another
  | moved same moves =>
    exact ⟨state, _, registered, same, move_restarts reachable registered
      (Option.isSome_iff_ne_none.mp some) moves another⟩
  | observed => exact absurd rfl another

private theorem held?_none_of_ended {state : Instance} (registered : keeper.instance? id = some state)
    (gone : ended keeper id = true) : state.held? = none := by
  have bots : (keeper.ledger id).bots = state.bots := by
    rw [Keeper.ledger, kept_of_instance? registered]
    rfl
  unfold ended at gone
  rw [bots, List.all_eq_true] at gone
  apply Option.eq_none_iff_forall_ne_some.mpr
  intro bot some
  obtain ⟨member, there⟩ := of_held?_some some
  exact Bool.noConfusion (there.symm.trans (gone bot member))

/-- A process that is gone is not held for good: its reports are looked at, and a wait for its end
goes on. -/
theorem move_of_ended (reachable : keeper.Reachable) (gone : ended keeper id = true)
    (left : unread keeper id ≠ []) (held : holds keeper id = true) :
    ∃ move, (move = .receive ∨ move = .resume) ∧ (keeper.move? id move).isSome = true := by
  unfold unread at left
  unfold holds at held
  cases registered : keeper.instance? id with
  | none => simp [registered] at held
  | some state =>
    rw [registered] at left held
    have none := held?_none_of_ended registered gone
    cases busy : state.busy with
    | none =>
      cases messages : state.messages with
      | nil => simp [messages, waiting] at left
      | cons message rest =>
        refine ⟨.receive, .inl rfl, ?_⟩
        simp [Keeper.move?, registered, Instance.move?, busy, messages]
    | some business =>
      cases business with
      | wait wait =>
        refine ⟨.resume, .inr rfl, ?_⟩
        simp [Keeper.move?, registered, Instance.move?, busy, none]
      | halted =>
        have sound := reachable_sound reachable registered
        have free := sound.empty.mp (sound.halted busy)
        simp [free] at held

/-- What has been published of a process in its course, and what waits, are all that it has
reported. Where it is not held any more nothing waits. -/
theorem Course.told {launch : Keeper} (course : Course id launch keeper written givenUp) :
    ∃ since bot, (keeper.ledger id).feed = (launch.ledger id).feed ++ since ∧ AllMeant id since ∧
      ended keeper id = bot.isGone ∧
      Piped bot written givenUp (reported id since ++ unread keeper id) ∧
      (holds keeper id = false → bot.isGone = true ∧ unread keeper id = []) := by
  obtain ⟨bot, earlier, since, delivers⟩ := course.delivered
  have bots := delivers.bots
  have feed := delivers.feed
  have piped := delivers.piped
  have released := delivers.released
  simp only [channelOf_bots, channelOf_feed, channelOf_written, channelOf_givenUp,
    channelOf_generation, channelOf_messages, channelOf_handle] at bots feed piped released
  have latest : (keeper.ledger id).bots.head? = some bot := by
    rw [bots]
    rfl
  exact ⟨since, bot, feed, delivers.meant, ended_of_member course.reachable latest, piped,
    fun free => released (by simpa [holds] using free)⟩

/-- Where nothing waits, the exit of a process that is gone has been published. -/
theorem exited_of_silent {bot : Bot} {told : List Report} (gone : bot.isGone = true)
    (silent : unread keeper id = []) (piped : Piped bot written givenUp (told ++ unread keeper id)) :
    ∃ code, .exited code ∈ told := by
  obtain ⟨code, same⟩ := piped.gone gone
  rw [silent, List.append_nil] at same
  exact ⟨code, by simp [same]⟩

/-- However the bytes of a process are split into writes, what is published of it are exactly its
lines, in order and each directly before the event that it means, and then its exit. What has been
reported and not been published yet waits, and can be looked at once the process is gone. Another
launch cuts this off only if it is that of an automatic restart. -/
theorem output_delivered {launch : Keeper} (course : Course id launch keeper written givenUp) :
    ∃ since, (keeper.ledger id).feed = (launch.ledger id).feed ++ since ∧ AllMeant id since ∧
      (∀ code, .exited code ∈ reported id since →
        reported id since = (deliveredLines written givenUp).map .line ++ [.exited code]) ∧
      (ended keeper id = false →
        reported id since ++ unread keeper id = (endedLines written).map .line) ∧
      (ended keeper id = true →
        (∃ code, reported id since ++ unread keeper id =
          (deliveredLines written givenUp).map .line ++ [.exited code]) ∧
        ((∃ code, .exited code ∈ reported id since) ∨
          ∃ move, (move = .receive ∨ move = .resume) ∧ (keeper.move? id move).isSome = true)) ∧
      ∀ event after, keeper.step? event = some after → Relaunches id keeper after →
        (∃ code, .exited code ∈ reported id since) ∨
          ∃ state move, keeper.instance? id = some state ∧ event = .move id move ∧
            AutoRestarts keeper.around state move := by
  obtain ⟨since, bot, feed, meant, latest, piped, released⟩ := course.told
  have free : holds keeper id = false → ∃ code, .exited code ∈ reported id since := by
    intro free
    obtain ⟨gone, silent⟩ := released free
    exact exited_of_silent gone silent piped
  refine ⟨since, feed, meant, fun code member => (piped.exited member).2.2, ?_, ?_, ?_⟩
  · intro there
    exact (piped.there (latest.symm.trans there)).2.2
  · intro gone
    refine ⟨piped.gone (latest.symm.trans gone), ?_⟩
    by_cases silent : unread keeper id = []
    · exact .inl (exited_of_silent (latest.symm.trans gone) silent piped)
    · cases held : holds keeper id with
      | false => exact .inl (free held)
      | true => exact .inr (move_of_ended course.reachable gone silent held)
  · intro event after steps relaunches
    cases held : holds keeper id with
    | false => exact .inl (free held)
    | true => exact .inr (step_restarts course.reachable steps held relaunches)

def courseSteps? (id : AccountId) (keeper : Keeper) (written : List UInt8) (givenUp : Bool) :
    List Keeper.Event → Option (Keeper × List UInt8 × Bool)
  | [] => some (keeper, written, givenUp)
  | event :: rest => (keeper.step? event).bind fun after =>
    if Relaunches id keeper after then none
    else courseSteps? id after (written ++ writes id keeper event after)
      (givenUp || givesUp id event) rest

private theorem course_of_steps {launch last : Keeper} {given : List UInt8} {lost : Bool}
    (course : Course id launch keeper written givenUp) (events : List Keeper.Event)
    (steps : courseSteps? id keeper written givenUp events = some (last, given, lost)) :
    Course id launch last given lost := by
  induction events generalizing keeper written givenUp with
  | nil =>
    cases steps
    exact course
  | cons event rest ih =>
    obtain ⟨after, happens, steps⟩ := Option.bind_eq_some_iff.mp steps
    split at steps
    · cases steps
    · rename_i same
      exact ih (course.step happens same) steps

/-- A line end and a character are each split between two writes, and the last line is not ended. -/
theorem output_delivered_in_portions : ∃ launch keeper since,
    Course 100001 launch keeper [72, 105, 13, 10, 195, 169] false ∧
    (keeper.ledger 100001).feed = (launch.ledger 100001).feed ++ since ∧
    reported 100001 since = [.line "Hi", .line "é", .exited (some 4)] := by
  obtain ⟨before, reachable, checked⟩ :=
    rehearsal_reachable [rehearsedConfig 100001 []] [.start 100001]
      (fun before => (before.step? (.move 100001 .serve)).any (fun launch =>
        decide ((launch.ledger 100001).bots.length ≠ (before.ledger 100001).bots.length) &&
        (courseSteps? 100001 launch [] false
          [.print 100001 [72, 105, 13], .print 100001 [10, 195], .print 100001 [169],
            .exit 100001 (some 4), .move 100001 .receive, .move 100001 .receive,
            .move 100001 .receive]).any fun (keeper, written, givenUp) =>
              decide (written = [72, 105, 13, 10, 195, 169] ∧ givenUp = false ∧
                .exited (some 4) ∈ reported 100001 ((keeper.ledger 100001).feed.drop
                  (launch.ledger 100001).feed.length))) = true) (by decide +kernel)
  obtain ⟨launch, serves, checked⟩ := (Option.any_eq_true _ _).mp checked
  obtain ⟨another, checked⟩ := Bool.and_eq_true_iff.mp checked
  obtain ⟨⟨keeper, written, givenUp⟩, steps, checked⟩ := (Option.any_eq_true _ _).mp checked
  obtain ⟨rfl, rfl, exited⟩ := of_decide_eq_true checked
  have course := course_of_steps (.launched reachable serves (of_decide_eq_true another)) _ steps
  obtain ⟨since, feed, _, delivered, _⟩ := output_delivered course
  rw [feed, List.drop_left] at exited
  refine ⟨launch, keeper, since, course, feed, ?_⟩
  rw [delivered _ exited]
  decide +kernel

end BotKeeper.Proofs
