import BotKeeper.Proofs.Channel

/-! The delivery of what a process writes. What has been published of it and what still waits are
together what it has reported, in order, and that depends on the bytes that it has written alone. -/

namespace BotKeeper.Proofs

def reportOf? (id : AccountId) : FeedEvent → Option Report
  | .output other line => if other = id then some (.line line) else none
  | .lifecycle other (.processExited code) => if other = id then some (.exited code) else none
  | _ => none

def reported (id : AccountId) (events : List FeedEvent) : List Report :=
  events.filterMap (reportOf? id)

def Unmeant (id : AccountId) (later : List FeedEvent) : Prop :=
  ∀ event rest, later = .lifecycle id event :: rest → ∃ code, event = .processExited code

/-- What comes on the feed directly after a line: the event that it means, and where it means
none, the event of no line. -/
def MeantBy (id : AccountId) (line : String) (later : List FeedEvent) : Prop :=
  match classify line with
  | some event => ∃ rest, later = .lifecycle id event :: rest
  | none => Unmeant id later

def AllMeant (id : AccountId) (events : List FeedEvent) : Prop :=
  ∀ earlier line later, events = earlier ++ .output id line :: later → MeantBy id line later

def waiting (generation : Nat) (messages : List Message) : List Report :=
  (messages.filter (·.generation == generation)).map (·.report)

variable {id : AccountId}

theorem reported_append (first second : List FeedEvent) :
    reported id (first ++ second) = reported id first ++ reported id second :=
  List.filterMap_append

private theorem reported_quiet {events : List FeedEvent} (quiet : AllQuiet events) :
    reported id events = [] := by
  apply List.filterMap_eq_nil_iff.mpr
  intro event member
  have calm := quiet event member
  cases event <;> first | rfl | cases calm

private theorem reported_spoken (line : String) : reported id (spoken id line) = [.line line] := by
  unfold spoken reported
  cases means : classify line with
  | none => simp [reportOf?]
  | some event =>
    have present := classify_present means
    cases event with
    | processExited code => exact absurd rfl (present code)
    | qrChallenge | quickLoginError | loginSuccess | accountOffline => simp [reportOf?]

theorem allMeant_nil : AllMeant id [] := by
  intro earlier line later impossible
  simp at impossible

private theorem allMeant_quiet {events : List FeedEvent} (quiet : AllQuiet events) :
    AllMeant id events := by
  intro earlier line later same
  have calm := quiet (.output id line) (by simp [same])
  cases calm

private theorem allMeant_spoken (line : String) : AllMeant id (spoken id line) := by
  intro earlier other later same
  unfold spoken at same
  cases earlier with
  | nil =>
    obtain ⟨first, rest⟩ := List.cons.inj same
    cases first
    subst later
    unfold MeantBy
    cases classify line with
    | none => simp [Unmeant]
    | some event => exact ⟨[], rfl⟩
  | cons first earlier =>
    have inside : .output id other ∈ (classify line).toList.map (FeedEvent.lifecycle id) := by
      rw [(List.cons.inj same).2]
      simp
    simp at inside

theorem MeantBy.append {line : String} {later : List FeedEvent} (meant : MeantBy id line later)
    {more : List FeedEvent} (fits : Unmeant id more) :
    MeantBy id line (later ++ more) := by
  unfold MeantBy at meant ⊢
  split at meant
  · obtain ⟨rest, rfl⟩ := meant
    exact ⟨rest ++ more, rfl⟩
  · intro event rest same
    cases later with
    | nil => exact fits event rest same
    | cons first later =>
      obtain ⟨rfl, _⟩ := List.cons.inj same
      exact meant event later rfl

/-- More may be published if it does not begin with the event of some line. -/
theorem AllMeant.append {events more : List FeedEvent} (one : AllMeant id events)
    (other : AllMeant id more) (fits : Unmeant id more) :
    AllMeant id (events ++ more) := by
  intro earlier line later same
  rcases List.append_eq_append_iff.mp same with ⟨rest, rfl, split⟩ | ⟨rest, rfl, split⟩
  · exact other rest line later split
  · cases rest with
    | nil => exact other [] line later split.symm
    | cons first rest =>
      obtain ⟨rfl, rfl⟩ := List.cons.inj split
      exact (one earlier line rest rfl).append fits

structure Dated (channel : Channel) : Prop where
  messages : ∀ message ∈ channel.messages, message.generation ≤ channel.generation
  bots : ∀ bot ∈ channel.bots, bot.isGone = false → bot.generation ≤ channel.generation

/-- The latest process, of whose reports all have been published but those that still wait. -/
structure Delivers (id : AccountId) (past : List FeedEvent) (channel : Channel) (bot : Bot)
    (earlier : List Bot) (since : List FeedEvent) : Prop where
  bots : channel.bots = bot :: earlier
  numbered : Numbered (bot :: earlier)
  gone : AllGone earlier
  feed : channel.feed = past ++ since
  meant : AllMeant id since
  piped : Piped bot channel.written channel.givenUp
    (reported id since ++ waiting channel.generation channel.messages)
  current : channel.handle ≠ none → bot.generation = channel.generation
  released : channel.handle = none →
    bot.isGone = true ∧ waiting channel.generation channel.messages = []

def Delivered (id : AccountId) (past : List FeedEvent) (channel : Channel) : Prop :=
  ∃ bot earlier since, Delivers id past channel bot earlier since

variable {past : List FeedEvent} {before after : Channel}

theorem Stirs.silent {bot : Bot} {bytes : List UInt8} {givesUp : Bool} {change : Bot × List Report}
    (stirs : Stirs bot bytes givesUp change) (gone : bot.isGone = true) :
    bytes = [] ∧ givesUp = false ∧ change.2 = [] := by
  refine ⟨?_, ?_, stirs.changes.silent gone⟩
  · cases stirs with
    | printed => rw [if_pos gone]
    | asked alive => exact Bool.noConfusion ((not_gone_of_alive alive).symm.trans gone)
    | died | closed | gaveUp | altered => rfl
  · cases stirs with
    | gaveUp lingers =>
      simp only [Bot.isGone, beq_iff_eq] at gone
      simp [Bot.deadline?, gone] at lingers
    | printed | died | asked | closed | altered => rfl

theorem Ages.there {before after : Bot} (ages : Ages before after) (there : after.isGone = false) :
    before.isGone = false := by
  cases gone : before.isGone with
  | false => rfl
  | true => exact Bool.noConfusion (there.symm.trans (ages.gone gone))

theorem Changes.there {before : Bot} {change : Bot × List Report} (changes : Changes before change)
    {report : Report} (said : report ∈ change.2) : before.isGone = false := by
  cases gone : before.isGone with
  | false => rfl
  | true =>
    rw [changes.silent gone] at said
    cases said

theorem Flows.dated (flows : Flows id before after) (dated : Dated before) : Dated after := by
  cases flows with
  | published => exact ⟨dated.messages, dated.bots⟩
  | @stirred bot bytes givesUp change member stirs =>
    have changes := stirs.changes
    have bound : bot.isGone = false → change.1.generation ≤ before.generation := by
      intro there
      exact changes.ages.generation ▸ dated.bots bot member there
    refine ⟨fun message present => ?_, fun other present there => ?_⟩
    · rcases List.mem_append.mp present with old | new
      · exact dated.messages message old
      · obtain ⟨report, said, rfl⟩ := List.mem_map.mp new
        exact bound (changes.there said)
    · obtain ⟨original, inside, rfl⟩ := List.mem_map.mp present
      by_cases same : original.pid = change.1.pid
      · rw [if_pos same] at there ⊢
        exact bound (changes.ages.there there)
      · rw [if_neg same] at there ⊢
        exact dated.bots original inside there
  | dropped messages | heard messages | exited messages =>
    exact ⟨fun message member => dated.messages message (messages ▸ List.mem_cons_of_mem _ member),
      dated.bots⟩
  | unlaunched =>
    exact ⟨fun message member => Nat.le_succ_of_le (dated.messages message member),
      fun bot member there => Nat.le_succ_of_le (dated.bots bot member there)⟩

theorem Flows.frame (flows : Flows id before after) :
    after.bots.length = before.bots.length ∧ before.generation ≤ after.generation ∧
      (before.handle = none → after.handle = none) := by
  cases flows with
  | published | dropped | heard => exact ⟨rfl, Nat.le_refl _, fun free => free⟩
  | stirred => exact ⟨List.length_map _, Nat.le_refl _, fun free => free⟩
  | exited => exact ⟨rfl, Nat.le_refl _, fun _ => rfl⟩
  | unlaunched => exact ⟨rfl, Nat.le_succ _, fun _ => rfl⟩

theorem waiting_append (generation : Nat) (first second : List Message) :
    waiting generation (first ++ second) = waiting generation first ++ waiting generation second := by
  simp only [waiting, List.filter_append, List.map_append]

theorem waiting_current (generation : Nat) (report : Report) (rest : List Message) :
    waiting generation (⟨generation, report⟩ :: rest) = report :: waiting generation rest := by
  simp [waiting]

theorem waiting_other {generation : Nat} {message : Message} (rest : List Message)
    (other : message.generation ≠ generation) :
    waiting generation (message :: rest) = waiting generation rest := by
  simp [waiting, other]

private theorem waiting_reports (generation : Nat) (reports : List Report) :
    waiting generation (reports.map (⟨generation, ·⟩)) = reports := by
  simp [waiting, List.filter_map, Function.comp_def]

theorem Dated.waiting_next (dated : Dated before) :
    waiting (before.generation + 1) before.messages = [] := by
  unfold waiting
  rw [List.map_eq_nil_iff, List.filter_eq_nil_iff]
  intro message member
  have bound := dated.messages message member
  simp only [beq_iff_eq]
  omega

/-- The exit is the last report, so nothing waits behind it. -/
theorem last_of_exited {lines : List String} {code other : Option Int32}
    {told rest : List Report}
    (same : told ++ .exited code :: rest = lines.map .line ++ [.exited other]) : rest = [] := by
  rcases List.eq_nil_or_concat rest with none | ⟨front, last, rfl⟩
  · exact none
  · rw [List.concat_eq_append, ← List.cons_append, ← List.append_assoc] at same
    obtain ⟨lefts, _⟩ := List.append_inj' same rfl
    have member : Report.exited code ∈ lines.map .line := by
      rw [← lefts]
      simp
    simp at member

/-- An exit is told of after all lines. -/
theorem Piped.exited {bot : Bot} {written : List UInt8} {givenUp : Bool} {told rest : List Report}
    (piped : Piped bot written givenUp (told ++ rest)) {code : Option Int32}
    (member : .exited code ∈ told) :
    bot.isGone = true ∧ rest = [] ∧
      told = (deliveredLines written givenUp).map .line ++ [.exited code] := by
  obtain ⟨front, back, rfl⟩ := List.append_of_mem member
  rw [List.append_assoc, List.cons_append] at piped
  cases gone : bot.isGone with
  | false =>
    have same := (piped.there gone).2.2
    have inside : Report.exited code ∈ (endedLines written).map Report.line := by
      rw [← same]
      simp
    simp at inside
  | true =>
    obtain ⟨other, same⟩ := piped.gone gone
    obtain ⟨rfl, rfl⟩ := List.append_eq_nil_iff.mp (last_of_exited same)
    obtain ⟨lines, exit⟩ := List.append_inj' same rfl
    exact ⟨rfl, rfl, by rw [lines, (List.cons.inj exit).1]⟩

namespace Delivers

variable {bot : Bot} {earlier : List Bot} {since : List FeedEvent}

theorem published (delivers : Delivers id past before bot earlier since) {events : List FeedEvent}
    (quiet : AllQuiet events) :
    Delivers id past { before with feed := before.feed ++ events } bot earlier (since ++ events) where
  bots := delivers.bots
  numbered := delivers.numbered
  gone := delivers.gone
  feed := by rw [delivers.feed, List.append_assoc]
  meant := by
    apply delivers.meant.append (allMeant_quiet quiet)
    intro event rest same
    have calm := quiet (.lifecycle id event) (by simp [same])
    cases calm
  piped := by
    rw [reported_append, reported_quiet quiet, List.append_nil]
    exact delivers.piped
  current := delivers.current
  released := delivers.released

theorem stirred_latest (delivers : Delivers id past before bot earlier since) {bytes : List UInt8}
    {givesUp : Bool} {change : Bot × List Report} (stirs : Stirs bot bytes givesUp change) :
    Delivers id past { before with
      bots := before.bots.map fun other => if other.pid = change.1.pid then change.1 else other
      messages := before.messages ++ change.2.map (⟨change.1.generation, ·⟩)
      written := before.written ++ bytes
      givenUp := before.givenUp || givesUp } change.1 earlier since := by
  have ages := stirs.changes.ages
  have more : waiting before.generation
      (before.messages ++ change.2.map (⟨change.1.generation, ·⟩)) =
        waiting before.generation before.messages ++ change.2 := by
    rw [waiting_append]
    cases held : before.handle with
    | none =>
      rw [(stirs.silent (delivers.released held).1).2.2]
      rfl
    | some pid =>
      rw [ages.generation, delivers.current (by simp [held]), waiting_reports]
  constructor
  · dsimp only
    rw [delivers.bots, delivers.numbered.replace_latest ages.pid]
  · exact ⟨ages.pid.trans delivers.numbered.1, delivers.numbered.2⟩
  · exact delivers.gone
  · exact delivers.feed
  · exact delivers.meant
  · dsimp only
    rw [more, ← List.append_assoc]
    exact delivers.piped.stirs stirs
  · exact fun held => ages.generation.trans (delivers.current held)
  · intro free
    obtain ⟨gone, silent⟩ := delivers.released free
    dsimp only
    rw [more, silent, (stirs.silent gone).2.2]
    exact ⟨ages.gone gone, rfl⟩

/-- Nothing comes of what happens to earlier processes. -/
theorem stirred_earlier (delivers : Delivers id past before bot earlier since) {other : Bot}
    (member : other ∈ earlier) {bytes : List UInt8} {givesUp : Bool} {change : Bot × List Report}
    (stirs : Stirs other bytes givesUp change) :
    Delivers id past { before with
      bots := before.bots.map fun other => if other.pid = change.1.pid then change.1 else other
      messages := before.messages ++ change.2.map (⟨change.1.generation, ·⟩)
      written := before.written ++ bytes
      givenUp := before.givenUp || givesUp } bot
        (earlier.map fun other => if other.pid = change.1.pid then change.1 else other) since := by
  have ages := stirs.changes.ages
  have numbered := delivers.numbered
  have replaced := numbered.replace (List.mem_cons_of_mem bot member) ages
  have latest : (if bot.pid = change.1.pid then change.1 else bot) = bot := by
    have bound := numbered.2.pid_le member
    have number := numbered.1
    have same := ages.pid
    exact if_neg (by omega)
  obtain ⟨silent, keeps, none⟩ := stirs.silent (delivers.gone other member)
  rw [silent, keeps, none, List.append_nil, Bool.or_false, List.map_nil, List.append_nil]
  constructor
  · dsimp only
    rw [delivers.bots, List.map_cons, latest]
  · have all := numbered.map _ replaced
    rw [List.map_cons, latest] at all
    exact all
  · exact delivers.gone.map _ fun bot inside => replaced bot (List.mem_cons_of_mem _ inside)
  · exact delivers.feed
  · exact delivers.meant
  · exact delivers.piped
  · exact delivers.current
  · exact delivers.released

theorem dropped (delivers : Delivers id past before bot earlier since) {message : Message}
    {rest : List Message} (messages : before.messages = message :: rest)
    (other : message.generation ≠ before.generation) :
    Delivers id past { before with messages := rest } bot earlier since := by
  have same : waiting before.generation before.messages = waiting before.generation rest := by
    rw [messages, waiting_other rest other]
  exact ⟨delivers.bots, delivers.numbered, delivers.gone, delivers.feed, delivers.meant,
    same ▸ delivers.piped, delivers.current, same ▸ delivers.released⟩

theorem heard (delivers : Delivers id past before bot earlier since) {line : String}
    {rest : List Message} (messages : before.messages = ⟨before.generation, .line line⟩ :: rest) :
    Delivers id past { before with messages := rest, feed := before.feed ++ spoken id line } bot
      earlier (since ++ spoken id line) := by
  have piped := delivers.piped
  rw [messages, waiting_current] at piped
  constructor
  · exact delivers.bots
  · exact delivers.numbered
  · exact delivers.gone
  · dsimp only
    rw [delivers.feed, List.append_assoc]
  · apply delivers.meant.append (allMeant_spoken line)
    intro event rest same
    cases (List.cons.inj same).1
  · rw [reported_append, reported_spoken, List.append_assoc]
    exact piped
  · exact delivers.current
  · intro free
    have silent := (delivers.released free).2
    rw [messages, waiting_current] at silent
    cases silent

theorem exited (delivers : Delivers id past before bot earlier since) {code : Option Int32}
    {rest : List Message} (messages : before.messages = ⟨before.generation, .exited code⟩ :: rest) :
    Delivers id past { before with
      messages := rest
      handle := none
      feed := before.feed ++ [.lifecycle id (.processExited code)] } bot earlier
        (since ++ [.lifecycle id (.processExited code)]) := by
  have piped := delivers.piped
  rw [messages, waiting_current] at piped
  constructor
  · exact delivers.bots
  · exact delivers.numbered
  · exact delivers.gone
  · dsimp only
    rw [delivers.feed, List.append_assoc]
  · refine delivers.meant.append ?_ ?_
    · intro earlier line later same
      have member : FeedEvent.output id line ∈ [FeedEvent.lifecycle id (.processExited code)] := by
        rw [same]
        simp
      simp at member
    · intro event rest same
      cases (List.cons.inj same).1
      exact ⟨code, rfl⟩
  · have exit : reported id [.lifecycle id (.processExited code)] = [.exited code] := by
      simp [reported, reportOf?]
    rw [reported_append, exit, List.append_assoc]
    exact piped
  · exact fun impossible => absurd rfl impossible
  · intro _
    rw [List.append_cons] at piped
    obtain ⟨gone, silent, _⟩ := piped.exited (List.mem_append_right _ List.mem_cons_self)
    exact ⟨gone, silent⟩

/-- A launch that fails concerns nobody, if no process is held any more. -/
theorem unlaunched (delivers : Delivers id past before bot earlier since) (dated : Dated before)
    (free : before.handle = none) :
    Delivers id past { before with generation := before.generation + 1, handle := none } bot earlier
      since := by
  obtain ⟨gone, silent⟩ := delivers.released free
  refine ⟨delivers.bots, delivers.numbered, delivers.gone, delivers.feed, delivers.meant, ?_,
    fun impossible => absurd rfl impossible, fun _ => ⟨gone, dated.waiting_next⟩⟩
  have piped := delivers.piped
  rw [silent] at piped
  dsimp only
  rw [dated.waiting_next]
  exact piped

theorem vacated (delivers : Delivers id past before bot earlier since)
    (free : before.handle = none) :
    Delivers id past { before with messages := [], generation := 0 } bot earlier since := by
  obtain ⟨gone, silent⟩ := delivers.released free
  refine ⟨delivers.bots, delivers.numbered, delivers.gone, delivers.feed, delivers.meant, ?_,
    fun held => absurd free held, fun _ => ⟨gone, rfl⟩⟩
  have piped := delivers.piped
  rw [silent] at piped
  exact piped

end Delivers

/-- Unless another launch is tried while a process is held, its reports go on to be delivered. -/
theorem Flows.delivered (flows : Flows id before after) (dated : Dated before)
    (undisturbed : before.handle ≠ none → after.generation = before.generation)
    (delivered : Delivered id past before) : Delivered id past after := by
  obtain ⟨bot, earlier, since, delivers⟩ := delivered
  cases flows with
  | published quiet => exact ⟨_, _, _, delivers.published quiet⟩
  | stirred member stirs =>
    rw [delivers.bots] at member
    rcases List.mem_cons.mp member with rfl | inside
    · exact ⟨_, _, _, delivers.stirred_latest stirs⟩
    · exact ⟨_, _, _, delivers.stirred_earlier inside stirs⟩
  | dropped messages other => exact ⟨_, _, _, delivers.dropped messages other⟩
  | heard messages => exact ⟨_, _, _, delivers.heard messages⟩
  | exited messages => exact ⟨_, _, _, delivers.exited messages⟩
  | unlaunched =>
    cases free : before.handle with
    | none => exact ⟨_, _, _, delivers.unlaunched dated free⟩
    | some pid => exact absurd (undisturbed (by simp [free])) (Nat.succ_ne_self _)

theorem Flow.frame (flow : Flow id before after) :
    after.bots.length = before.bots.length ∧ before.generation ≤ after.generation ∧
      (before.handle = none → after.handle = none) := by
  induction flow with
  | refl => exact ⟨rfl, Nat.le_refl _, fun free => free⟩
  | tail _ step ih =>
    obtain ⟨length, older, free⟩ := ih
    obtain ⟨sameLength, olderYet, stillFree⟩ := step.frame
    exact ⟨sameLength.trans length, Nat.le_trans older olderYet, fun none => stillFree (free none)⟩

theorem Flow.dated (flow : Flow id before after) (dated : Dated before) : Dated after := by
  induction flow with
  | refl => exact dated
  | tail _ step ih => exact step.dated ih

theorem Flow.delivered (flow : Flow id before after) (dated : Dated before)
    (undisturbed : before.handle ≠ none → after.generation = before.generation)
    (delivered : Delivered id past before) : Delivered id past after := by
  induction flow using Relation.ReflTransGen.head_induction_on with
  | refl => exact delivered
  | head step rest ih =>
    obtain ⟨_, older, free⟩ := step.frame
    obtain ⟨_, olderYet, _⟩ := Flow.frame rest
    -- The number of launches never falls, so where it is the same at the end it is so throughout.
    refine ih (step.dated dated) (fun held => ?_)
      (step.delivered dated (fun held => ?_) delivered)
    · have same := undisturbed fun none => held (free none)
      omega
    · have same := undisturbed held
      omega

theorem Passes.delivered (passes : Passes id before after) (dated : Dated before)
    (undisturbed : before.handle ≠ none → after.generation = before.generation)
    (same : after.bots.length = before.bots.length) (delivered : Delivered id past before) :
    Delivered id past after := by
  cases passes with
  | turned turns =>
    cases turns with
    | went flow => exact flow.delivered dated undisturbed delivered
    | launched flow launches quiet =>
      cases launches
      have length := (Flow.frame flow).1
      simp [length] at same
  | vacated free =>
    obtain ⟨bot, earlier, since, delivers⟩ := delivered
    exact ⟨_, _, _, delivers.vacated free⟩

theorem Passes.older (passes : Passes id before after)
    (another : after.bots.length ≠ before.bots.length) : before.generation < after.generation := by
  cases passes with
  | turned turns =>
    cases turns with
    | went flow => exact absurd (Flow.frame flow).1 another
    | launched flow launches quiet =>
      cases launches
      exact Nat.lt_succ_of_le (Flow.frame flow).2.1
  | vacated free => exact absurd rfl another

/-- A new process has written nothing, and none of its reports waits. -/
theorem Passes.launched (passes : Passes id before after) (dated : Dated before)
    (another : after.bots.length ≠ before.bots.length) :
    ∃ bot earlier, after.bots = bot :: earlier ∧ bot.isAlive = true ∧ bot.unfinished = [] ∧
      bot.generation = after.generation ∧ after.handle ≠ none ∧
      waiting after.generation after.messages = [] := by
  cases passes with
  | turned turns =>
    cases turns with
    | went flow => exact absurd (Flow.frame flow).1 another
    | launched flow launches quiet =>
      have silent := (Flow.dated flow dated).waiting_next
      cases launches with
      | launched alive empty generation =>
        exact ⟨_, _, rfl, alive, empty, generation, by simp, silent⟩
  | vacated free => exact absurd rfl another

end BotKeeper.Proofs
