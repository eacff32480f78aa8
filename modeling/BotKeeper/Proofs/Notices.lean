import BotKeeper.Proofs.Telling

/-! The notices of an account stand next to the changes of phase that they are about. As long
as no end of a process fails, the feed of an account is a row of sentences. A sentence is what
one event, one command or one timer makes an account say, and in each of them every notice has
its place. -/

namespace BotKeeper.Proofs

/-- What an account says at a time, with the phases before and after it and the number of
processes that are launched meanwhile. -/
inductive Sentence (id : AccountId) : Phase → List FeedEvent → Phase → Nat → Prop where
  | output (phase : Phase) (line : String) : Sentence id phase [.output id line] phase 0
  | ignored {phase : Phase} {event : LifecycleEvent}
      (other : ∀ message, event = .quickLoginError message → ¬ Reported phase) :
      Sentence id phase [.lifecycle id event] phase 0
  | offline (phase : Phase) :
      Sentence id phase [.lifecycle id .accountOffline, .notice id .accountOffline] phase 0
  | started : Sentence id .stopped [.phaseChanged id .stopped .starting] .starting 1
  | launchFailed :
      Sentence id .stopped [.phaseChanged id .stopped .starting,
        .phaseChanged id .starting .stopped, .notice id (.startFailed none)] .stopped 0
  | code (payload : String) :
      Sentence id .starting [.lifecycle id (.qrChallenge payload),
        .phaseChanged id .starting .awaitingLogin] .awaitingLogin 0
  | login {before : Phase} (account : AccountId)
      (expected : before = .starting ∨ before = .awaitingLogin) :
      Sentence id before [.lifecycle id (.loginSuccess account), .phaseChanged id before .running,
        .notice id (.loginSucceeded account)] .running 0
  | stopBegun {before : Phase} (up : Up before) :
      Sentence id before [.phaseChanged id before .stopping] .stopping 0
  | restartBegun {before : Phase} (up : Up before) :
      Sentence id before [.notice id .scheduledRestart, .phaseChanged id before .stopping]
        .stopping 0
  | replaced {before : Phase} (message : String) (attempt : UInt32) (reported : Reported before) :
      Sentence id before [.lifecycle id (.quickLoginError message),
        .phaseChanged id before .starting, .notice id (.autoRestarting attempt message)] .starting 1
  | replacementFailed {before : Phase} (message : String) (reported : Reported before) :
      Sentence id before [.lifecycle id (.quickLoginError message),
        .phaseChanged id before .starting, .phaseChanged id .starting .stopped,
        .notice id (.startFailed none)] .stopped 0
  | limited {before : Phase} (message : String) (restarts : UInt32) (reported : Reported before) :
      Sentence id before [.lifecycle id (.quickLoginError message),
        .phaseChanged id before .stopping, .notice id (.restartLimitReached restarts)] .stopping 0
  | stopped (code : Option Int32) :
      Sentence id .stopping [.lifecycle id (.processExited code),
        .phaseChanged id .stopping .stopped] .stopped 0
  | unstarted (code : Option Int32) :
      Sentence id .starting [.lifecycle id (.processExited code),
        .phaseChanged id .starting .stopped, .notice id (.startFailed code)] .stopped 0
  | crashed {before : Phase} (code : Option Int32) (reported : Reported before) :
      Sentence id before [.lifecycle id (.processExited code), .phaseChanged id before .stopped,
        .notice id (.unexpectedExit code)] .stopped 0

/-- A feed that consists of sentences, with the phase and the number of processes after it. -/
inductive Told (id : AccountId) : List FeedEvent → Phase → Nat → Prop where
  | nothing : Told id [] .stopped 0
  | more {feed said : List FeedEvent} {before after : Phase} {launched launches : Nat}
      (told : Told id feed before launched) (sentence : Sentence id before said after launches) :
      Told id (feed ++ said) after (launched + launches)

inductive Finishes (id : AccountId) : Phase → List Effect → List FeedEvent → Phase → Nat → Prop where
  | done (phase : Phase) : Finishes id phase [] [] phase 0
  | notified {before after : Phase} {rest : List Effect} {said : List FeedEvent} {launches : Nat}
      {notice : Notice} (finishes : Finishes id before rest said after launches) :
      Finishes id before (.notify notice :: rest) (.notice id notice :: said) after launches
  | ended {before after : Phase} {rest : List Effect} {said : List FeedEvent} {launches : Nat}
      {graceful : Bool} (finishes : Finishes id before rest said after launches) :
      Finishes id before (.terminate graceful :: rest) said after launches
  | spawned {after : Phase} {rest : List Effect} {said : List FeedEvent} {launches : Nat}
      (finishes : Finishes id .starting rest said after launches) :
      Finishes id .starting (.spawn :: rest) said after (launches + 1)
  | unspawned {rest : List Effect} :
      Finishes id .starting (.spawn :: rest)
        [.phaseChanged id .starting .stopped, .notice id (.startFailed none)] .stopped 0

/-- The feed of an account is a row of sentences, however the last of them will be finished. -/
def Telling.Saying (id : AccountId) (telling : Telling) : Prop :=
  ∀ more after launches, Finishes id telling.phase telling.effects more after launches →
    Told id (telling.feed ++ more) after (telling.launched + launches)

variable {id : AccountId}

theorem Telling.Saying.told {telling : Telling} (saying : telling.Saying id)
    (done : telling.effects = []) : Told id telling.feed telling.phase telling.launched := by
  have finishes : Finishes id telling.phase telling.effects [] telling.phase 0 := by
    rw [done]
    exact .done _
  have told := saying _ _ _ finishes
  rwa [List.append_nil] at told

theorem Told.saying {feed said : List FeedEvent} {before phase : Phase} {effects : List Effect}
    {launched : Nat} (told : Told id feed before launched)
    (sentence : ∀ more after launches, Finishes id phase effects more after launches →
      Sentence id before (said ++ more) after launches) :
    Telling.Saying id ⟨feed ++ said, phase, effects, launched⟩ := by
  intro more after launches finishes
  rw [List.append_assoc]
  exact told.more (sentence _ _ _ finishes)

/-- What an event leads to makes a sentence with it. -/
theorem Consequence.sentence {event : LifecycleEvent} {before between after : Phase}
    {effects : List Effect} {more : List FeedEvent} {launches : Nat}
    (consequence : Consequence event before between effects)
    (finishes : Finishes id between effects more after launches) :
    Sentence id before (.lifecycle id event :: changed id before between ++ more) after launches := by
  cases consequence with
  | ignored other =>
    cases finishes
    simp only [changed, if_true, List.append_nil]
    exact .ignored other
  | offline =>
    cases finishes with
    | notified finishes =>
      cases finishes
      simp only [changed, if_true]
      exact .offline before
  | code payload =>
    cases finishes
    exact .code payload
  | login account expected =>
    have differ : before ≠ .running := by
      rcases expected with rfl | rfl <;> decide
    simp only [changed, differ, if_false]
    cases finishes with
    | notified finishes =>
      cases finishes
      exact .login account expected
  | replaced message attempt reported =>
    simp only [changed, reported.up.2, if_false]
    cases finishes with
    | ended finishes =>
      cases finishes with
      | spawned finishes =>
        cases finishes with
        | notified finishes =>
          cases finishes
          exact .replaced message attempt reported
      | unspawned => exact .replacementFailed message reported
  | limited message restarts reported =>
    simp only [changed, reported.up.1.2, if_false]
    cases finishes with
    | ended finishes =>
      cases finishes with
      | notified finishes =>
        cases finishes
        exact .limited message restarts reported
  | stopped code =>
    cases finishes
    exact .stopped code
  | unstarted code =>
    cases finishes with
    | notified finishes =>
      cases finishes
      exact .unstarted code
  | crashed code reported =>
    simp only [changed, reported.up.1.1, if_false]
    cases finishes with
    | notified finishes =>
      cases finishes
      exact .crashed code reported

/-- As long as no end of a process fails, each step goes on with a sentence or begins one. -/
theorem Tells.saying {scheduled : Prop} {told later : Telling}
    (tells : Tells id False scheduled told later) (saying : told.Saying id) : later.Saying id := by
  cases tells with
  | heard line =>
    refine (saying.told rfl).saying fun _ _ _ finishes => ?_
    cases finishes
    exact .output _ line
  | meant consequence => exact (saying.told rfl).saying fun _ _ _ finishes => consequence.sentence finishes
  | begun =>
    refine (saying.told rfl).saying fun _ _ _ finishes => ?_
    cases finishes with
    | spawned finishes =>
      cases finishes
      exact .started
    | unspawned => exact .launchFailed
  | stopped up =>
    refine (saying.told rfl).saying fun _ _ _ finishes => ?_
    cases finishes with
    | ended finishes =>
      cases finishes
      exact .stopBegun up
  | due schedule up =>
    refine (saying.told rfl).saying fun _ _ _ finishes => ?_
    cases finishes with
    | ended finishes =>
      cases finishes
      exact .restartBegun up
  | notified notice =>
    intro more after launches finishes
    rw [List.append_assoc]
    exact saying _ _ _ finishes.notified
  | ended => exact fun _ _ _ finishes => saying _ _ _ finishes.ended
  | spawned =>
    intro more after launches finishes
    rw [Nat.add_right_comm]
    exact saying _ _ _ finishes.spawned
  | unspawned =>
    intro more after launches finishes
    cases finishes
    rw [List.append_nil]
    exact saying _ _ _ .unspawned
  | abandoned failed => exact failed.elim

theorem Tale.saying {scheduled : Prop} {told later : Telling}
    (tale : Tale id False scheduled told later) (saying : told.Saying id) : later.Saying id := by
  induction tale with
  | refl => exact saying
  | tail _ tells ih => exact tells.saying ih

/-- What stands right before and right after an event in the feed of an account. A notice about
a change of phase stands right after it and nowhere else, so there is exactly one. -/
def Placed (id : AccountId) (past later : List FeedEvent) : FeedEvent → Prop
  | .phaseChanged _ _ .running => ∃ account,
      past.getLast? = some (.lifecycle id (.loginSuccess account)) ∧
      later.head? = some (.notice id (.loginSucceeded account))
  | .phaseChanged _ before .starting => before = .stopped ∨
      (∃ attempt message, later.head? = some (.notice id (.autoRestarting attempt message))) ∨
      [.phaseChanged id .starting .stopped, .notice id (.startFailed none)] <+: later
  | .phaseChanged _ before .stopping => ∀ message, Reported before →
      past.getLast? = some (.lifecycle id (.quickLoginError message)) →
      ∃ restarts, later.head? = some (.notice id (.restartLimitReached restarts))
  | .phaseChanged _ .starting .stopped =>
      ∃ code, later.head? = some (.notice id (.startFailed code))
  | .phaseChanged _ .stopping .stopped => ∀ code,
      later.head? ≠ some (.notice id (.startFailed code)) ∧
      later.head? ≠ some (.notice id (.unexpectedExit code))
  | .phaseChanged _ _ .stopped => ∃ code,
      past.getLast? = some (.lifecycle id (.processExited code)) ∧
      later.head? = some (.notice id (.unexpectedExit code))
  | .notice _ (.loginSucceeded _) =>
      ∃ before, past.getLast? = some (.phaseChanged id before .running)
  | .notice _ (.autoRestarting ..) => ∃ before, Reported before ∧
      past.getLast? = some (.phaseChanged id before .starting)
  | .notice _ (.restartLimitReached _) => ∃ before message, Reported before ∧
      [.lifecycle id (.quickLoginError message), .phaseChanged id before .stopping] <:+ past
  | .notice _ (.startFailed _) => past.getLast? = some (.phaseChanged id .starting .stopped)
  | .notice _ (.unexpectedExit _) => ∃ before, Reported before ∧
      past.getLast? = some (.phaseChanged id before .stopped)
  | _ => True

def AllPlaced (id : AccountId) : List FeedEvent → List FeedEvent → Prop
  | _, [] => True
  | past, event :: later => Placed id past later event ∧ AllPlaced id (past ++ [event]) later

def isTakenBack (later : List FeedEvent) : Bool :=
  match later.head? with
  | some (.phaseChanged _ .starting .stopped) => true
  | _ => false

/-- The launches that a feed tells of: the entries into the starting phase that are not taken
back at once. -/
def launchesOf : List FeedEvent → Nat
  | [] => 0
  | .phaseChanged _ _ .starting :: later =>
    launchesOf later + if isTakenBack later then 0 else 1
  | _ :: later => launchesOf later

/-- Nobody begins with a notice of an end, or by taking a start back. -/
def Begins (said : List FeedEvent) : Prop :=
  isTakenBack said = false ∧
    ∀ id notice, said.head? = some (.notice id notice) → notice = .scheduledRestart

theorem Sentence.begins {before after : Phase} {said : List FeedEvent} {launches : Nat}
    (sentence : Sentence id before said after launches) : Begins said := by
  cases sentence <;> simp [Begins, isTakenBack]

theorem Sentence.launchesOf {before after : Phase} {said : List FeedEvent} {launches : Nat}
    (sentence : Sentence id before said after launches) : launchesOf said = launches := by
  cases sentence <;> simp [Proofs.launchesOf, isTakenBack]

/-- No failed quick login of a bot that has reported something is left without a consequence. -/
def Heeded (id : AccountId) (past : List FeedEvent) (phase : Phase) : Prop :=
  ∀ message, past.getLast? = some (.lifecycle id (.quickLoginError message)) → ¬ Reported phase

theorem Sentence.heeded {before after : Phase} {said : List FeedEvent} {launches : Nat}
    (sentence : Sentence id before said after launches) (past : List FeedEvent) :
    Heeded id (past ++ said) after := by
  intro message last
  cases sentence with
  | ignored other =>
    simp at last
    exact other message last
  | _ => simp [List.getLast?_append, List.getLast?_cons] at last

theorem Sentence.placed {before after : Phase} {said : List FeedEvent} {launches : Nat}
    (sentence : Sentence id before said after launches) {past : List FeedEvent}
    (heeded : Heeded id past before) : AllPlaced id past said := by
  cases sentence with
  | output phase line => exact ⟨trivial, trivial⟩
  | ignored other => exact ⟨trivial, trivial⟩
  | offline phase => exact ⟨trivial, trivial, trivial⟩
  | started => exact ⟨.inl rfl, trivial⟩
  | launchFailed => exact ⟨.inl rfl, ⟨none, rfl⟩, by simp [Placed], trivial⟩
  | code payload => exact ⟨trivial, trivial, trivial⟩
  | login account expected => exact ⟨trivial, ⟨account, by simp, rfl⟩, ⟨before, by simp⟩, trivial⟩
  | stopBegun up =>
    -- A stop never follows a failed quick login that should have had a consequence of its own.
    exact ⟨fun message reported last => absurd reported (heeded message last), trivial⟩
  | restartBegun up => exact ⟨trivial, fun message reported last => by simp at last, trivial⟩
  | replaced message attempt reported =>
    exact ⟨trivial, .inr (.inl ⟨attempt, message, rfl⟩), ⟨_, reported, by simp⟩, trivial⟩
  | replacementFailed message reported =>
    exact ⟨trivial, .inr (.inr List.prefix_rfl), ⟨none, rfl⟩, by simp [Placed], trivial⟩
  | limited message restarts reported =>
    exact ⟨trivial, fun _ _ _ => ⟨restarts, rfl⟩, ⟨_, message, reported, by simp⟩, trivial⟩
  | stopped code => exact ⟨trivial, by simp [Placed], trivial⟩
  | unstarted code => exact ⟨trivial, ⟨code, rfl⟩, by simp [Placed], trivial⟩
  | crashed code reported =>
    rcases reported with rfl | rfl
    · exact ⟨trivial, ⟨code, by simp, rfl⟩, ⟨_, .inl rfl, by simp⟩, trivial⟩
    · exact ⟨trivial, ⟨code, by simp, rfl⟩, ⟨_, .inr rfl, by simp⟩, trivial⟩

/-- What is said next takes nothing back from what was said before. -/
theorem Placed.extend {past later : List FeedEvent} {event : FeedEvent}
    (placed : Placed id past later event) {more : List FeedEvent} (begins : Begins more) :
    Placed id past (later ++ more) event := by
  have head : ∀ {next}, later.head? = some next → (later ++ more).head? = some next := by
    intro next first
    simp [List.head?_append, first]
  unfold Placed at placed ⊢
  split at placed
  · obtain ⟨account, before, after⟩ := placed
    exact ⟨account, before, head after⟩
  · rcases placed with stopped | ⟨attempt, message, next⟩ | two
    · exact .inl stopped
    · exact .inr (.inl ⟨attempt, message, head next⟩)
    · exact .inr (.inr (two.trans (List.prefix_append _ _)))
  · intro message reported last
    obtain ⟨restarts, next⟩ := placed message reported last
    exact ⟨restarts, head next⟩
  · obtain ⟨code, next⟩ := placed
    exact ⟨code, head next⟩
  · intro code
    cases later with
    | cons next rest => exact placed code
    | nil =>
      -- What follows is not known yet, but it does not begin with one of these notices.
      constructor
      · intro next
        exact Notice.noConfusion (begins.2 id _ next)
      · intro next
        exact Notice.noConfusion (begins.2 id _ next)
  · obtain ⟨code, before, next⟩ := placed
    exact ⟨code, before, head next⟩
  all_goals exact placed

theorem AllPlaced.append {feed said past : List FeedEvent} (placed : AllPlaced id past feed)
    (begins : Begins said) (more : AllPlaced id (past ++ feed) said) :
    AllPlaced id past (feed ++ said) := by
  induction feed generalizing past with
  | nil => rwa [List.append_nil] at more
  | cons event later ih =>
    obtain ⟨here, rest⟩ := placed
    refine ⟨here.extend begins, ih rest ?_⟩
    rwa [List.append_assoc, List.singleton_append]

theorem AllPlaced.placed {feed past before later : List FeedEvent} {event : FeedEvent}
    (placed : AllPlaced id past feed) (split : feed = before ++ event :: later) :
    Placed id (past ++ before) later event := by
  induction before generalizing feed past with
  | nil =>
    subst split
    rw [List.append_nil]
    exact placed.1
  | cons first rest ih =>
    subst split
    have found := ih placed.2 rfl
    rwa [List.append_assoc, List.singleton_append] at found

private theorem launchesOf_append (feed : List FeedEvent) {said : List FeedEvent}
    (begins : Begins said) : launchesOf (feed ++ said) = launchesOf feed + launchesOf said := by
  have back : ∀ later, isTakenBack (later ++ said) = isTakenBack later := by
    intro later
    cases later with
    | nil => exact begins.1
    | cons event rest => rfl
  fun_induction launchesOf feed with
  | case1 => simp
  | case2 id before later ih =>
    simp only [List.cons_append, launchesOf, back, ih]
    omega
  | case3 event later other ih =>
    rw [← ih, List.cons_append, launchesOf]
    exact other

theorem Told.heeded {feed : List FeedEvent} {phase : Phase} {launched : Nat}
    (told : Told id feed phase launched) : Heeded id feed phase := by
  cases told with
  | nothing => exact fun message last => by cases last
  | more told sentence => exact sentence.heeded _

theorem Told.placed {feed : List FeedEvent} {phase : Phase} {launched : Nat}
    (told : Told id feed phase launched) :
    AllPlaced id [] feed ∧ launchesOf feed = launched := by
  induction told with
  | nothing => exact ⟨trivial, rfl⟩
  | more told sentence ih =>
    refine ⟨ih.1.append sentence.begins (sentence.placed told.heeded), ?_⟩
    rw [launchesOf_append _ sentence.begins, ih.2, sentence.launchesOf]

/-- A run in which no end of a process of an account fails. -/
inductive Smooth (id : AccountId) (start : Keeper) : Keeper → Prop where
  | refl : Smooth id start start
  | step {between after : Keeper} {event : Keeper.Event} (run : Smooth id start between)
      (happens : between.step? event = some after) (ends : ¬ Thwarted id between event after) :
      Smooth id start after

variable {keeper : Keeper} {around : Surroundings}

theorem Smooth.reachable (opened : around.gate = false) (smooth : Smooth id { around } keeper) :
    keeper.Reachable := by
  induction smooth with
  | refl => exact ⟨around, opened, .refl⟩
  | step _ happens _ ih => exact reachable_of_step ih happens

theorem Smooth.saying (opened : around.gate = false) (smooth : Smooth id { around } keeper) :
    (tellingOf (keeper.accounts.get? id)).Saying id := by
  induction smooth with
  | refl =>
    rw [OrderedMap.get?_empty]
    intro more after launches finishes
    cases finishes
    exact .nothing
  | @step between after event run happens ends ih =>
    have tale : Tale id False True (tellingOf (between.accounts.get? id))
        (tellingOf (after.accounts.get? id)) :=
      step_tale (run.reachable opened) happens ends fun _ => trivial
    exact tale.saying ih

private theorem tellingOf_effects
    (rests : ∀ state, keeper.instance? id = some state → state.busy = none) :
    (tellingOf (keeper.accounts.get? id)).effects = [] := by
  cases found : keeper.accounts.get? id with
  | none => rfl
  | some account =>
    cases account with
    | vacant ledger => rfl
    | kept state => rw [tellingOf, telling_idle (rests state (instance?_of_kept found)), facing]

/-- As long as no end of a process fails, what an account has published when its instance rests
is told to the end: each notice stands where its change of phase asks for it, and the starts
that were not taken back have each launched a process. -/
theorem notices_match_transitions (opened : around.gate = false)
    (smooth : Smooth id { around } keeper)
    (rests : ∀ state, keeper.instance? id = some state → state.busy = none) :
    (∀ past event later, (keeper.ledger id).feed = past ++ event :: later →
      Placed id past later event) ∧
    (keeper.ledger id).bots.length = launchesOf (keeper.ledger id).feed := by
  have told := (smooth.saying opened).told (tellingOf_effects rests)
  rw [tellingOf_feed, tellingOf_launched] at told
  obtain ⟨placed, launches⟩ := told.placed
  exact ⟨fun past event later split => placed.placed split, launches.symm⟩

def smoothSteps? (id : AccountId) (keeper : Keeper) : List Keeper.Event → Option Keeper
  | [] => some keeper
  | event :: rest => (keeper.step? event).bind fun after =>
    if Thwarted id keeper event after then none else smoothSteps? id after rest

private theorem smooth_of_steps {start between : Keeper} (smooth : Smooth id start between)
    (events : List Keeper.Event) (steps : smoothSteps? id between events = some keeper) :
    Smooth id start keeper := by
  induction events generalizing between with
  | nil => exact Option.some.inj steps ▸ smooth
  | cons event rest ih =>
    obtain ⟨after, happens, steps⟩ := Option.bind_eq_some_iff.mp steps
    split at steps
    · cases steps
    · rename_i ends
      exact ih (smooth.step happens ends) steps

/-- A bot has logged in, and has been replaced since its quick login failed. -/
theorem notices_match_transitions_after_replacement : ∃ (around : Surroundings) (keeper : Keeper),
    around.gate = false ∧ Smooth 100001 { around } keeper ∧
    (∀ state, keeper.instance? 100001 = some state → state.busy = none) ∧
    .notice 100001 (.autoRestarting 1 "x") ∈ (keeper.ledger 100001).feed ∧
    launchesOf (keeper.ledger 100001).feed = 2 := by
  let around : Surroundings := { host := { programs := ["bot"] } }
  have steps : (smoothSteps? 100001 { around }
      [.add (rehearsedConfig 100001 []) ⟨"nameless".toList, by decide, by decide⟩,
        .start 100001, .move 100001 .serve,
        .print 100001 "login success 100001\n".toUTF8.toList, .move 100001 .receive,
        .print 100001 "quick login error: x\n".toUTF8.toList, .move 100001 .receive]).any
      (fun keeper => decide ((∀ state ∈ keeper.instance? 100001, state.busy = none) ∧
        .notice 100001 (.autoRestarting 1 "x") ∈ (keeper.ledger 100001).feed ∧
        (keeper.ledger 100001).bots.length = 2)) = true := by
    decide +kernel
  obtain ⟨keeper, steps, checked⟩ := (Option.any_eq_true _ _).mp steps
  obtain ⟨rests, noticed, two⟩ := of_decide_eq_true checked
  have smooth := smooth_of_steps .refl _ steps
  have launched := (notices_match_transitions rfl smooth rests).2
  exact ⟨around, keeper, rfl, smooth, rests, noticed, launched.symm.trans two⟩

end BotKeeper.Proofs
