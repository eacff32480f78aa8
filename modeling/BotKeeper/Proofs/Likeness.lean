import BotKeeper.Proofs.Delivery
import Mathlib.Data.List.Forall2

/-! Instances that differ in the numbers of their launches and in what was published and answered
in the past. Of the number of a launch it only counts whether it is the latest one, and nothing
reads what was published. So two such instances make the same moves, and stay alike in them. -/

namespace BotKeeper.Proofs

/-- Two numbers of launches count for the same: each is of the latest launch, or none is. -/
def Abreast (latest latest' number number' : Nat) : Prop :=
  (number = latest ∧ number' = latest') ∨ (number < latest ∧ number' < latest')

/-- A process is like another one but for the number of its launch. While it is not gone that
number counts for the same. -/
inductive BotLike (latest latest' : Nat) (bot : Bot) : Bot → Prop where
  | mk {generation : Nat}
      (abreast : bot.isGone = false → Abreast latest latest' bot.generation generation) :
      BotLike latest latest' bot { bot with generation }

inductive MessageLike (latest latest' : Nat) (message : Message) : Message → Prop where
  | mk {generation : Nat} (abreast : Abreast latest latest' message.generation generation) :
      MessageLike latest latest' message { message with generation }

def GoesOnLike {α : Type} (origin origin' now now' : List α) : Prop :=
  ∃ more, now = origin ++ more ∧ now' = origin' ++ more

/-- Two accounts have had processes that are alike, and since their starts the same was published
and answered. -/
structure LedgerLike (origin origin' : Ledger) (latest latest' : Nat) (one other : Ledger) :
    Prop where
  bots : List.Forall₂ (BotLike latest latest') one.bots other.bots
  feed : GoesOnLike origin.feed origin'.feed one.feed other.feed
  calls : other.calls = one.calls
  answers : GoesOnLike origin.answers origin'.answers one.answers other.answers

inductive Like (origin origin' : Ledger) (one : Instance) : Instance → Prop where
  | mk {ledger : Ledger} {messages : List Message} {generation : Nat}
      (ledgers : LedgerLike origin origin' one.generation generation one.toLedger ledger)
      (queues : List.Forall₂ (MessageLike one.generation generation) one.messages messages) :
      Like origin origin' one { one with toLedger := ledger, messages, generation }

inductive AccountLike (origin origin' : Ledger) : Account → Account → Prop where
  | vacant {one other : Ledger} (gone : AllGone other.bots)
      (ledgers : LedgerLike origin origin' 0 0 one other) :
      AccountLike origin origin' (.vacant one) (.vacant other)
  | kept {one other : Instance} (like : Like origin origin' one other) :
      AccountLike origin origin' (.kept one) (.kept other)

def ResultLike {α : Type} (origin origin' : Ledger) (one other : Instance × α) : Prop :=
  Like origin origin' one.1 other.1 ∧ other.2 = one.2

def Unnumbered (happening : Bot → Bot × List Report) : Prop :=
  ∀ bot generation, happening { bot with generation } =
    ({ (happening bot).1 with generation }, (happening bot).2)

variable {origin origin' : Ledger} {latest latest' : Nat} {bot bot' : Bot}
  {happening : Bot → Bot × List Report}

theorem Abreast.next {number number' : Nat} (abreast : Abreast latest latest' number number') :
    Abreast (latest + 1) (latest' + 1) number number' := by
  unfold Abreast at abreast ⊢
  omega

theorem Abreast.current_iff {number number' : Nat}
    (abreast : Abreast latest latest' number number') : number' = latest' ↔ number = latest := by
  unfold Abreast at abreast
  omega

theorem BotLike.same (like : BotLike latest latest' bot bot') :
    bot' = { bot with generation := bot'.generation } := by
  cases like
  rfl

theorem BotLike.next (like : BotLike latest latest' bot bot') :
    BotLike (latest + 1) (latest' + 1) bot bot' := by
  obtain ⟨abreast⟩ := like
  exact .mk fun there => (abreast there).next

theorem MessageLike.next {message message' : Message}
    (like : MessageLike latest latest' message message') :
    MessageLike (latest + 1) (latest' + 1) message message' := by
  obtain ⟨abreast⟩ := like
  exact .mk abreast.next

theorem GoesOnLike.append {α : Type} {begun begun' now now' : List α}
    (like : GoesOnLike begun begun' now now') (more : List α) :
    GoesOnLike begun begun' (now ++ more) (now' ++ more) := by
  obtain ⟨said, rfl, rfl⟩ := like
  exact ⟨said ++ more, List.append_assoc .., List.append_assoc ..⟩

section happenings

theorem print_unnumbered (bytes : List UInt8) : Unnumbered (·.print bytes) := by
  intro bot generation
  obtain ⟨pid, number, config, conduct, vitality, unfinished⟩ := bot
  cases vitality <;> rfl

theorem die_unnumbered (code : Option Int32) (now : Nat) : Unnumbered (·.die code now) := by
  intro bot generation
  obtain ⟨pid, number, config, ⟨onTerm, onKill, leaks⟩, vitality, unfinished⟩ := bot
  cases leaks <;> rfl

theorem exit_unnumbered (code : Option Int32) (now : Nat) : Unnumbered (·.exit code now) := by
  intro bot generation
  obtain ⟨pid, number, config, ⟨onTerm, onKill, leaks⟩, vitality, unfinished⟩ := bot
  cases vitality <;> cases leaks <;> rfl

private theorem askToEnd_unnumbered (now : Nat) : Unnumbered (·.askToEnd now) := by
  intro bot generation
  simp only [Bot.askToEnd]
  cases bot.conduct.onTerm with
  | dies => exact die_unnumbered none now bot generation
  | ignores => rfl
  | exits code words =>
    dsimp only
    generalize Bot.lineBytes words = bytes
    have said := print_unnumbered bytes bot generation
    have died := die_unnumbered (some code) now (bot.print bytes).1 generation
    dsimp only at said died
    rw [said]
    dsimp only
    rw [died]

theorem giveUp_unnumbered : Unnumbered Bot.giveUp := by
  intro bot generation
  obtain ⟨pid, number, config, conduct, vitality, unfinished⟩ := bot
  cases vitality <;> rfl

theorem closeOutput_unnumbered : Unnumbered Bot.closeOutput := by
  intro bot generation
  obtain ⟨pid, number, config, conduct, vitality, unfinished⟩ := bot
  cases vitality <;> rfl

theorem alter_unnumbered (conduct : Conduct) :
    Unnumbered fun bot => ({ bot with conduct }, []) :=
  fun _ _ => rfl

/-- What happens to two processes that are alike leaves them alike, and the same is reported. -/
theorem BotLike.happens (like : BotLike latest latest' bot bot') (unnumbered : Unnumbered happening)
    (changes : Changes bot (happening bot)) :
    BotLike latest latest' (happening bot).1 (happening bot').1 ∧
      List.Forall₂ (MessageLike latest latest')
        ((happening bot).2.map (⟨(happening bot).1.generation, ·⟩))
        ((happening bot').2.map (⟨(happening bot').1.generation, ·⟩)) := by
  obtain @⟨generation, abreast⟩ := like
  rw [← changes.ages.generation] at abreast
  rw [unnumbered bot generation]
  refine ⟨.mk fun there => abreast (changes.ages.there there), ?_⟩
  rw [List.forall₂_map_left_iff, List.forall₂_map_right_iff, List.forall₂_same]
  intro report said
  exact .mk (abreast (changes.there said))

end happenings

section ledgers

variable {one other : Ledger}

theorem LedgerLike.happens (ledgers : LedgerLike origin origin' latest latest' one other)
    (like : BotLike latest latest' bot bot') :
    LedgerLike origin origin' latest latest' (one.replace bot) (other.replace bot') := by
  refine ⟨?_, ledgers.feed, ledgers.calls, ledgers.answers⟩
  simp only [Ledger.replace]
  rw [List.forall₂_map_left_iff, List.forall₂_map_right_iff]
  apply ledgers.bots.imp
  intro before before' same
  obtain ⟨abreast⟩ := like
  cases same with
  | mk earlier =>
    dsimp only
    split
    · exact .mk abreast
    · exact .mk earlier

/-- Where no process is left the numbers of launches count for nothing. -/
theorem LedgerLike.vacate (ledgers : LedgerLike origin origin' latest latest' one other)
    (gone : AllGone other.bots) (newest newest' : Nat) :
    LedgerLike origin origin' newest newest' one other := by
  refine ⟨?_, ledgers.feed, ledgers.calls, ledgers.answers⟩
  have bots := ledgers.bots
  generalize one.bots = ours at bots ⊢
  generalize other.bots = theirs at gone bots ⊢
  induction bots with
  | nil => exact .nil
  | cons like _ ih =>
    refine .cons ?_ (ih fun bot present => gone bot (List.mem_cons_of_mem _ present))
    have ended := gone _ List.mem_cons_self
    cases like
    exact .mk fun there => Bool.noConfusion (there.symm.trans ended)

/-- In two accounts that are alike processes that are alike are found. -/
theorem LedgerLike.find? (ledgers : LedgerLike origin origin' latest latest' one other)
    (sought : Bot → Bool) (blind : ∀ bot generation, sought { bot with generation } = sought bot) :
    Option.Rel (BotLike latest latest') (one.bots.find? sought) (other.bots.find? sought) := by
  have bots := ledgers.bots
  generalize one.bots = ours at bots ⊢
  generalize other.bots = theirs at bots ⊢
  induction bots with
  | nil => exact .none
  | @cons bot bot' rest rest' like _ ih =>
    have same : sought bot' = sought bot := by
      cases like
      exact blind bot _
    rw [List.find?_cons, List.find?_cons, same]
    cases sought bot with
    | true => exact .some like
    | false => exact ih

theorem LedgerLike.head? (ledgers : LedgerLike origin origin' latest latest' one other) :
    Option.Rel (BotLike latest latest') one.bots.head? other.bots.head? := by
  have bots := ledgers.bots
  generalize one.bots = ours at bots ⊢
  generalize other.bots = theirs at bots ⊢
  cases bots with
  | nil => exact .none
  | cons like _ => exact .some like

end ledgers

theorem rel_filter {α β : Type} {related : α → β → Prop} {found : Option α} {found' : Option β}
    (rel : Option.Rel related found found') {fits : α → Bool} {fits' : β → Bool}
    (same : ∀ one other, related one other → fits' other = fits one) :
    Option.Rel related (found.filter fits) (found'.filter fits') := by
  cases rel with
  | none => exact .none
  | @some one other like =>
    simp only [Option.filter_some, same one other like]
    cases fits one with
    | true => exact .some like
    | false => exact .none

namespace Like

variable {one other : Instance} (like : Like origin origin' one other)
include like

/-- What has nothing to do with processes, reports and launches may change in the same way. -/
theorem revise (change : Instance → Instance)
    (apart : ∀ state ledger messages generation,
      change { state with toLedger := ledger, messages, generation } =
        { change state with toLedger := ledger, messages, generation }) :
    Like origin origin' (change one) (change other) := by
  -- What the change leaves apart, it does not change where nothing else is put in its place either.
  have same := apart one one.toLedger one.messages one.generation
  have ledger := congrArg Instance.toLedger same
  have messages := congrArg Instance.messages same
  have generation := congrArg Instance.generation same
  obtain @⟨ledger', messages', generation', ledgers, queues⟩ := like
  rw [apart one ledger' messages' generation']
  refine .mk ?_ ?_
  · rw [ledger, generation]
    exact ledgers
  · rw [messages, generation]
    exact queues

theorem published (events : List FeedEvent) :
    Like origin origin' { one with feed := one.feed ++ events }
      { other with feed := other.feed ++ events } := by
  obtain ⟨ledgers, queues⟩ := like
  exact .mk ⟨ledgers.bots, ledgers.feed.append events, ledgers.calls, ledgers.answers⟩ queues

theorem answered (answers : List Answer) :
    Like origin origin' { one with answers := one.answers ++ answers }
      { other with answers := other.answers ++ answers } := by
  obtain ⟨ledgers, queues⟩ := like
  exact .mk ⟨ledgers.bots, ledgers.feed, ledgers.calls, ledgers.answers.append answers⟩ queues

theorem publish (event : FeedEvent) :
    Like origin origin' (one.publish event) (other.publish event) :=
  like.published [event]

theorem id : other.id = one.id := by
  cases like
  rfl

theorem publishNotice (notice : Notice) :
    Like origin origin' (one.publishNotice notice) (other.publishNotice notice) := by
  rw [Instance.publishNotice, Instance.publishNotice, like.id]
  exact like.publish _

theorem publishTransition (outcome : Outcome) :
    Like origin origin' (one.publishTransition outcome) (other.publishTransition outcome) := by
  rw [Instance.publishTransition, Instance.publishTransition, like.id]
  exact (like.published _).revise Instance.publishSnapshot fun _ _ _ _ => rfl

theorem answer (ticket : Ticket) (result : Except Error Unit) :
    Like origin origin' (one.answer ticket result) (other.answer ticket result) :=
  like.answered [⟨ticket, result⟩]

theorem releaseStops : Like origin origin' one.releaseStops other.releaseStops := by
  have released := like.answered (one.stopWaiters.map (⟨·, .ok ()⟩))
  cases like
  exact released.revise (fun state => { state with stopWaiters := [] }) fun _ _ _ _ => rfl

theorem remember (around : Surroundings) (line : String) :
    Like origin origin' (one.remember around line) (other.remember around line) :=
  like.revise (·.remember around line) fun _ _ _ _ => rfl

theorem ledgers : LedgerLike origin origin' one.generation other.generation one.toLedger
    other.toLedger := by
  obtain ⟨ledgers, _⟩ := like
  exact ledgers

theorem bot? (pid : Nat) :
    Option.Rel (BotLike one.generation other.generation) (one.bot? pid) (other.bot? pid) :=
  like.ledgers.find? _ fun _ _ => rfl

theorem held? :
    Option.Rel (BotLike one.generation other.generation) one.held? other.held? := by
  have found := like.bot?
  have handle : other.handle = one.handle := by
    cases like
    rfl
  rw [Instance.held?, Instance.held?, handle]
  refine rel_filter ?_ ?_
  · cases one.handle with
    | none => exact .none
    | some pid => exact found pid
  · rintro bot _ ⟨_⟩
    rfl

/-- The same happens to a process on both sides. -/
theorem observe (bots : BotLike one.generation other.generation bot bot')
    (unnumbered : Unnumbered happening) (changes : Changes bot (happening bot)) :
    Like origin origin' (one.observe (happening bot)) (other.observe (happening bot')) := by
  obtain ⟨same, reports⟩ := bots.happens unnumbered changes
  obtain ⟨ledgers, queues⟩ := like
  exact .mk (ledgers.happens same) (List.rel_append queues reports)

theorem ending (pressure : Pressure) (deadline : Nat) :
    ResultLike origin origin' (one.ending pressure deadline) (other.ending pressure deadline) := by
  have held := like.held?
  rw [Instance.ending, Instance.ending]
  generalize one.held? = found at held
  generalize other.held? = found' at held
  cases held with
  | none => exact ⟨like, rfl⟩
  | some _ => exact ⟨like, rfl⟩

theorem kill (around : Surroundings) :
    ResultLike origin origin' (one.kill around) (other.kill around) := by
  have held := like.held?
  rw [Instance.kill, Instance.kill]
  generalize one.held? = found at held
  generalize other.held? = found' at held
  cases held with
  | none => exact ⟨like, rfl⟩
  | @some bot bot' bots =>
    have same := bots.same
    have alive : bot'.isAlive = bot.isAlive := by rw [same]; rfl
    have conduct : bot'.conduct = bot.conduct := by rw [same]
    have pid : bot'.pid = bot.pid := by rw [same]
    dsimp only
    rw [alive, conduct, pid]
    split
    · rename_i lives
      cases bot.conduct.onKill with
      | dies =>
        exact (like.observe bots (die_unnumbered none around.now)
          (die_changes lives none around.now)).ending _ _
      | lasts => exact like.ending _ _
      | refuses => exact ⟨like, rfl⟩
    · exact ⟨like, rfl⟩

theorem terminate (around : Surroundings) (graceful : Bool) :
    ResultLike origin origin' (one.terminate around graceful)
      (other.terminate around graceful) := by
  have held := like.held?
  have killed := like.kill around
  rw [Instance.terminate, Instance.terminate]
  generalize one.held? = found at held
  generalize other.held? = found' at held
  cases held with
  | none => exact ⟨like, rfl⟩
  | @some bot bot' bots =>
    have same := bots.same
    have alive : bot'.isAlive = bot.isAlive := by rw [same]; rfl
    have conduct : bot'.conduct = bot.conduct := by rw [same]
    dsimp only
    rw [alive, conduct]
    split
    · rename_i asked
      have lives : bot.isAlive = true := by
        simp only [Bool.and_eq_true] at asked
        exact asked.1.2
      exact (like.observe bots (askToEnd_unnumbered around.now)
        (askToEnd_changes lives around.now)).ending _ _
    · exact killed

end Like

end BotKeeper.Proofs
