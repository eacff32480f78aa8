import BotKeeper.Machine.Run
import BotKeeper.Proofs.Consequences

/-! How often a bot may be replaced. A machine keeps the number of its restarts and the times
of some of them. Whatever it was asked for and told, the number is that of all restarts since
the last stop, and the times that it has forgotten would not count any more. -/

namespace BotKeeper.Proofs
open Machine (Input Deed Lived insideWindow times restarts since restartsWithin attempts)

structure Records (machine : Machine) (count : UInt32) (recent : List Nat) (after : Machine) :
    Prop where
  policy : after.policy = machine.policy
  count : after.restartCount = count
  recent : after.recentRestarts = recent

def Unrelated (notice : Notice) : Prop :=
  (∀ attempt reason, notice ≠ .autoRestarting attempt reason) ∧
    ∀ count, notice ≠ .restartLimitReached count

/-- A deed that has nothing to do with restarts, and begins or ends nothing for an operator. -/
structure Beside (deed : Deed) : Prop where
  command : deed.isCommand = false
  restart : deed.isRestart = false
  attempts : deed.attempts = []
  unlimited : ∀ count, .notify (.restartLimitReached count) ∉ deed.effects

/-- The restarts that still count for a machine. -/
def recalled (machine : Machine) (now : Nat) : List Nat :=
  insideWindow machine.policy now machine.recentRestarts

/-- What an input does to the record of restarts, and what comes of it. -/
inductive Recount (machine : Machine) : Input → Machine × Option Outcome → Prop where
  | started {after : Machine} (before : Phase)
      (records : Records machine machine.restartCount [] after) :
      Recount machine .start (after, some ⟨before, .starting, [.spawn]⟩)
  | stopped {after : Machine} (graceful : Bool) (records : Records machine 0 [] after) :
      Recount machine .stop (after, some ⟨machine.phase, .stopping, [.terminate graceful]⟩)
  | restarted {after : Machine} (message : String) (now : Nat)
      (room : (recalled machine now).length < machine.policy.maxRestarts.toNat)
      (records : Records machine (machine.restartCount + 1) (recalled machine now ++ [now]) after) :
      Recount machine (.event (.quickLoginError message) now)
        (after, some ⟨machine.phase, .starting, [.terminate false, .spawn,
          .notify (.autoRestarting (machine.restartCount + 1) message)]⟩)
  | limited {after : Machine} (message : String) (now : Nat)
      (full : machine.policy.maxRestarts.toNat ≤ (recalled machine now).length)
      (records : Records machine machine.restartCount (recalled machine now) after) :
      Recount machine (.event (.quickLoginError message) now)
        (after, some ⟨machine.phase, .stopping, [.terminate false,
          .notify (.restartLimitReached machine.restartCount)]⟩)
  | aside {input : Input} {after : Machine} {outcome : Option Outcome}
      (beside : Beside ⟨input, outcome⟩) (records : Records machine machine.restartCount
        machine.recentRestarts after) :
      Recount machine input (after, outcome)

section recount

variable {machine : Machine}

theorem beside_unanswered (input : Input) : Beside ⟨input, none⟩ where
  command := by simp [Deed.isCommand, Deed.isStart, Deed.isStop]
  restart := by simp [Deed.isRestart, Deed.effects]
  attempts := rfl
  unlimited := by simp [Deed.effects]

private theorem beside_noticed {input : Input} (unasked : input ≠ .start ∧ input ≠ .stop)
    (before phase : Phase) {notices : List Notice}
    (unrelated : ∀ notice ∈ notices, Unrelated notice) :
    Beside ⟨input, some ⟨before, phase, notices.map .notify⟩⟩ where
  command := by simp [Deed.isCommand, Deed.isStart, Deed.isStop, unasked]
  restart := by simp [Deed.isRestart, Deed.effects]
  attempts := by
    simp only [Deed.attempts, Deed.effects, Option.map_some, Option.getD_some,
      List.filterMap_map, List.filterMap_eq_nil_iff]
    intro notice member
    cases notice with
    | autoRestarting attempt reason => exact absurd rfl ((unrelated _ member).1 attempt reason)
    | _ => rfl
  unlimited := by
    intro count told
    obtain ⟨notice, member, same⟩ := List.mem_map.mp told
    exact (unrelated notice member).2 count (Effect.notify.inj same)

private theorem autoRestart_recounts (machine : Machine) (message : String) (now : Nat) :
    Recount machine (.event (.quickLoginError message) now)
      ((machine.autoRestart message now).1, some (machine.autoRestart message now).2) := by
  unfold Machine.autoRestart
  dsimp only
  split
  · rename_i full
    exact .limited message now full ⟨rfl, rfl, rfl⟩
  · rename_i room
    exact .restarted message now (Nat.lt_of_not_le room) ⟨rfl, rfl, rfl⟩

theorem noticed_recounts {input : Input} {after : Machine}
    (unasked : input ≠ .start ∧ input ≠ .stop) (before phase : Phase) (notices : List Notice)
    (unrelated : ∀ notice ∈ notices, Unrelated notice)
    (records : Records machine machine.restartCount machine.recentRestarts after) :
    Recount machine input (after, some ⟨before, phase, notices.map .notify⟩) :=
  .aside (beside_noticed unasked before phase unrelated) records

private theorem handle_recounts (machine : Machine) (event : LifecycleEvent) (now : Nat) :
    Recount machine (.event event now)
      ((machine.handle event now).1, some (machine.handle event now).2) := by
  have ignored : Recount machine (.event event now)
      (machine, some ⟨machine.phase, machine.phase, []⟩) :=
    noticed_recounts (by simp) _ _ [] (by simp) ⟨rfl, rfl, rfl⟩
  cases event with
  | qrChallenge payload =>
    unfold Machine.handle
    cases machine.phase <;> simp only
    case starting | awaitingLogin =>
      exact noticed_recounts (by simp) _ _ [] (by simp) ⟨rfl, rfl, rfl⟩
    all_goals exact ignored
  | quickLoginError message =>
    unfold Machine.handle
    cases machine.phase <;> simp only
    case awaitingLogin | running => exact autoRestart_recounts machine message now
    all_goals exact ignored
  | loginSuccess account =>
    unfold Machine.handle
    cases machine.phase <;> simp only
    case starting | awaitingLogin =>
      exact noticed_recounts (by simp) _ _ [.loginSucceeded account] (by simp [Unrelated])
        ⟨rfl, rfl, rfl⟩
    all_goals exact ignored
  | accountOffline =>
    unfold Machine.handle
    cases machine.phase <;> simp only
    case starting | awaitingLogin | running =>
      exact noticed_recounts (by simp) _ _ [.accountOffline] (by simp [Unrelated]) ⟨rfl, rfl, rfl⟩
    all_goals exact ignored
  | processExited code =>
    rw [handle_exit]
    unfold Machine.exited
    cases machine.phase <;> simp only
    case stopped => exact ignored
    case stopping => exact noticed_recounts (by simp) _ _ [] (by simp) ⟨rfl, rfl, rfl⟩
    case starting =>
      exact noticed_recounts (by simp) _ _ [.startFailed code] (by simp [Unrelated])
        ⟨rfl, rfl, rfl⟩
    case awaitingLogin | running =>
      exact noticed_recounts (by simp) _ _ [.unexpectedExit code] (by simp [Unrelated])
        ⟨rfl, rfl, rfl⟩

/-- Whatever a machine is asked for or told, it recounts its restarts in one of these ways. -/
theorem step_recounts (machine : Machine) (input : Input) :
    Recount machine input (machine.step input) := by
  cases input with
  | start =>
    rcases start_cases machine with ⟨_, refused⟩ | ⟨_, started⟩
    · rw [Machine.step, refused]
      exact .aside (beside_unanswered _) ⟨rfl, rfl, rfl⟩
    · rw [Machine.step, started]
      exact .started _ ⟨rfl, rfl, rfl⟩
  | stop =>
    unfold Machine.step Machine.stop
    cases Machine.stopsGracefully? machine.phase with
    | none => exact .aside (beside_unanswered _) ⟨rfl, rfl, rfl⟩
    | some graceful => exact .stopped graceful ⟨rfl, rfl, rfl⟩
  | spawned pid moment => exact .aside (beside_unanswered _) ⟨rfl, rfl, rfl⟩
  | spawnFailed =>
    simp only [Machine.step, Machine.spawnFailed]
    split
    · exact noticed_recounts (by simp) _ _ [] (by simp) ⟨rfl, rfl, rfl⟩
    · exact noticed_recounts (by simp) _ _ [] (by simp) ⟨rfl, rfl, rfl⟩
  | event event now => exact handle_recounts machine event now

private theorem isStop_of_isCommand {deed : Deed} (command : deed.isCommand = false) :
    deed.isStop = false :=
  (Bool.or_eq_false_iff.mp command).2

end recount

section since

variable {ends : Deed → Bool} {deed : Deed} {past : List Deed}

private theorem since_sublist (ends : Deed → Bool) (past : List Deed) :
    (since ends past).Sublist past :=
  List.takeWhile_sublist _

theorem restarts_since_end (ended : ends deed = true) :
    restarts (since ends (deed :: past)) = [] := by
  rw [since, List.takeWhile_cons_of_neg (by simp [ended])]
  rfl

theorem since_cons (going : ends deed = false) :
    since ends (deed :: past) = deed :: since ends past :=
  List.takeWhile_cons_of_pos (by simp [going])

theorem restarts_since_restart (going : ends deed = false) (restart : deed.isRestart = true) :
    restarts (since ends (deed :: past)) = deed :: restarts (since ends past) := by
  rw [since_cons going, restarts, List.filter_cons_of_pos restart]
  rfl

theorem restarts_since_other (going : ends deed = false) (other : deed.isRestart = false) :
    restarts (since ends (deed :: past)) = restarts (since ends past) := by
  rw [since_cons going, restarts, List.filter_cons_of_neg (by simp [other])]
  rfl

end since

section window

variable {id : AccountId} {policy : RestartPolicy} {past : List Deed} {machine : Machine}
  {deed : Deed} {now moment : Nat}

/-- On times that are in order, looking at the oldest ones only is as good as looking at all. -/
theorem insideWindow_eq_filter {times : List Nat} (ordered : times.Pairwise (· ≤ ·)) :
    insideWindow policy now times =
      times.filter (now - · < policy.windowSecs.toNat * 1000) := by
  unfold insideWindow
  induction times with
  | nil => rfl
  | cons first rest ih =>
    obtain ⟨oldest, ordered⟩ := List.pairwise_cons.mp ordered
    by_cases expired : policy.windowSecs.toNat * 1000 ≤ now - first
    · rw [List.dropWhile_cons_of_pos (by simpa using expired), ih ordered,
        List.filter_cons_of_neg (by simpa using expired)]
    · rw [List.dropWhile_cons_of_neg (by simpa using expired), List.filter_eq_self.mpr]
      intro moment member
      have least : first ≤ moment := by
        rcases List.mem_cons.mp member with same | later
        · exact Nat.le_of_eq same.symm
        · exact oldest moment later
      simp only [decide_eq_true_eq]
      omega

/-- What is inside a window now was inside it earlier. -/
theorem filter_window {moments : List Nat} (earlier : moment ≤ now)
    (known : ∀ time ∈ moments, time ≤ moment) (width : Nat) :
    (moments.filter (moment - · < width)).filter (now - · < width) =
      moments.filter (now - · < width) := by
  rw [List.filter_filter]
  apply List.filter_congr
  intro time member
  have before := known time member
  simp only [Bool.and_eq_decide, decide_eq_true_eq, decide_eq_decide]
  omega

private theorem restartsWithin_command (command : deed.isCommand = true) :
    restartsWithin policy now (deed :: past) = [] := by
  rw [restartsWithin, restarts_since_end command]
  rfl

private theorem restartsWithin_restart (command : deed.isCommand = false)
    (restart : deed.isRestart = true) (time : deed.time? = some moment) :
    restartsWithin policy now (deed :: past) =
      [moment].filter (now - · < policy.windowSecs.toNat * 1000) ++
        restartsWithin policy now past := by
  rw [restartsWithin, restarts_since_restart command restart, times,
    List.filterMap_cons_some time, ← List.singleton_append, List.filter_append]
  rfl

private theorem restartsWithin_other (command : deed.isCommand = false)
    (other : deed.isRestart = false) :
    restartsWithin policy now (deed :: past) = restartsWithin policy now past := by
  rw [restartsWithin, restarts_since_other command other]
  rfl

private theorem restartTimes_sublist (past : List Deed) :
    (times (restarts (since Deed.isCommand past))).Sublist (times past) :=
  (List.filter_sublist.trans (since_sublist _ past)).filterMap _

private theorem restartsWithin_sublist : (restartsWithin policy now past).Sublist (times past) :=
  List.filter_sublist.trans (restartTimes_sublist past)

private theorem ascending_restartsWithin (ordered : (times past).Pairwise (· ≥ ·)) :
    (restartsWithin policy now past).reverse.Pairwise (· ≤ ·) :=
  List.pairwise_reverse.mpr (ordered.sublist restartsWithin_sublist)

private theorem known_of_ordered (time : deed.time? = some moment)
    (ordered : (times (deed :: past)).Pairwise (· ≥ ·)) : ∀ time ∈ times past, time ≤ moment := by
  rw [times, List.filterMap_cons_some time] at ordered
  exact (List.pairwise_cons.mp ordered).1

/-- The restarts that count now are among those that counted earlier. -/
theorem restartsWithin_later (earlier : moment ≤ now) (known : ∀ time ∈ times past, time ≤ moment) :
    (restartsWithin policy moment past).filter (now - · < policy.windowSecs.toNat * 1000) =
      restartsWithin policy now past :=
  filter_window earlier
    (fun time member => known time ((restartTimes_sublist past).subset member)) _

private theorem lived_policy (lived : Lived id policy past machine) : machine.policy = policy := by
  induction lived with
  | new => rfl
  | @step past machine lived input ih =>
    have recount := step_recounts machine input
    generalize machine.step input = result at recount
    cases recount with
    | started _ records | stopped _ records | restarted _ _ _ records | limited _ _ _ records
    | aside _ records => exact records.policy.trans ih

/-- The times that a machine keeps decide like the times of all restarts since the last command:
those that it has dropped lie outside the window, and will do so for ever. -/
theorem recalled_eq (lived : Lived id policy past machine) (ordered : (times past).Pairwise (· ≥ ·))
    (latest : ∀ time ∈ times past, time ≤ now) :
    recalled machine now = (restartsWithin policy now past).reverse := by
  induction lived generalizing now with
  | new => rfl
  | @step past machine lived input ih =>
    have same := lived_policy lived
    have recount := step_recounts machine input
    rw [Machine.deed] at ordered latest ⊢
    generalize machine.step input = result at recount ordered latest ⊢
    have fewer : (times past).Sublist (times (⟨input, result.2⟩ :: past)) :=
      (List.sublist_cons_self _ past).filterMap _
    have before := ordered.sublist fewer
    have now_kept := ih before fun time member => latest time (fewer.subset member)
    cases recount with
    | started _ records | stopped _ records =>
      rw [recalled, records.recent, restartsWithin_command rfl]
      rfl
    | aside beside records =>
      rw [restartsWithin_other beside.command beside.restart, ← now_kept, recalled, records.policy,
        records.recent, recalled]
    | limited message moment full records =>
      have known := known_of_ordered rfl ordered
      have earlier : moment ≤ now := latest moment List.mem_cons_self
      have kept := ih before known
      rw [recalled, records.policy, records.recent, same, kept,
        insideWindow_eq_filter (ascending_restartsWithin before), List.filter_reverse,
        restartsWithin_later earlier known, restartsWithin_other rfl rfl]
    | restarted message moment room records =>
      have known := known_of_ordered rfl ordered
      have earlier : moment ≤ now := latest moment List.mem_cons_self
      have kept := ih before known
      have ascending :
          ((restartsWithin policy moment past).reverse ++ [moment]).Pairwise (· ≤ ·) := by
        refine List.pairwise_append.mpr ⟨ascending_restartsWithin before, by simp, ?_⟩
        intro time member last same
        rw [List.mem_singleton.mp same]
        exact known time (restartsWithin_sublist.subset (List.mem_reverse.mp member))
      rw [recalled, records.policy, records.recent, same, kept, insideWindow_eq_filter ascending,
        List.filter_append, List.filter_reverse, restartsWithin_later earlier known,
        restartsWithin_restart rfl rfl rfl, List.reverse_append]
      congr 1
      rw [← List.filter_reverse]
      rfl

theorem handle_reported (reported : Reported machine.phase) (message : String) (now : Nat) :
    machine.handle (.quickLoginError message) now = machine.autoRestart message now := by
  unfold Machine.handle
  rcases reported with phase | phase <;> simp only [phase]

/-- A failed quick login of a bot that has reported something replaces the bot exactly if fewer
restarts than allowed are less than a window ago, of all restarts since the last start or stop.
Otherwise the bot is brought to its end for good. -/
theorem restarts_limited_by_window (lived : Lived id policy past machine)
    (ordered : (times past).Pairwise (· ≥ ·)) (latest : ∀ time ∈ times past, time ≤ now)
    (reported : Reported machine.phase) (message : String) :
    ((restartsWithin policy now past).length < policy.maxRestarts.toNat ↔
      (machine.handle (.quickLoginError message) now).2 = ⟨machine.phase, .starting,
        [.terminate false, .spawn, .notify (.autoRestarting (machine.restartCount + 1) message)]⟩) ∧
    (policy.maxRestarts.toNat ≤ (restartsWithin policy now past).length ↔
      (machine.handle (.quickLoginError message) now).2 = ⟨machine.phase, .stopping,
        [.terminate false, .notify (.restartLimitReached machine.restartCount)]⟩) := by
  have counted : (recalled machine now).length = (restartsWithin policy now past).length := by
    rw [recalled_eq lived ordered latest, List.length_reverse]
  rw [handle_reported reported, ← counted, ← lived_policy lived]
  unfold Machine.autoRestart
  dsimp only
  split
  · rename_i full
    simp [recalled, full, Machine.transition]
  · rename_i room
    simp [recalled, Nat.lt_of_not_le room, Machine.transition]

/-- A bot that may be replaced once in ten seconds was replaced. When it fails again it is ended
just before the ten seconds are over, and replaced again when they are. -/
theorem window_over_after_ten_seconds :
    ∃ past machine, Lived 100001 ⟨1, 10⟩ past machine ∧
      (machine.handle (.quickLoginError "again") 10499).2 = ⟨.awaitingLogin, .stopping,
        [.terminate false, .notify (.restartLimitReached 1)]⟩ ∧
      (machine.handle (.quickLoginError "again") 10500).2 = ⟨.awaitingLogin, .starting,
        [.terminate false, .spawn, .notify (.autoRestarting 2 "again")]⟩ := by
  have fresh : Lived 100001 ⟨1, 10⟩ [] _ := .new
  have lived := (((fresh.step .start).step (.event (.qrChallenge "code") 0)).step
    (.event (.quickLoginError "expired") 500)).step (.event (.qrChallenge "code") 1000)
  exact ⟨_, _, lived,
    (restarts_limited_by_window lived (by decide) (by decide) (.inl rfl) "again").2.mp (by decide),
    (restarts_limited_by_window lived (by decide) (by decide) (.inl rfl) "again").1.mp (by decide)⟩

end window

section counter

variable {id : AccountId} {policy : RestartPolicy} {past : List Deed} {machine : Machine}

/-- The only deeds that touch the number of restarts are stops and restarts. -/
theorem restartCount_step (machine : Machine) (input : Input) :
    (machine.step input).1.restartCount =
      if (machine.deed input).isStop then 0
      else if (machine.deed input).isRestart then machine.restartCount + 1
      else machine.restartCount := by
  have recount := step_recounts machine input
  rw [Machine.deed]
  generalize machine.step input = result at recount ⊢
  cases recount with
  | started _ records | stopped _ records | restarted _ _ _ records | limited _ _ _ records =>
    exact records.count
  | aside beside records =>
    rw [if_neg (by simp [isStop_of_isCommand beside.command]), if_neg (by simp [beside.restart])]
    exact records.count

/-- A restart announces the next number, and nothing else announces any. -/
theorem attempts_step (machine : Machine) (input : Input) :
    (machine.deed input).attempts =
      if (machine.deed input).isRestart then [machine.restartCount + 1] else [] := by
  have recount := step_recounts machine input
  rw [Machine.deed]
  generalize machine.step input = result at recount ⊢
  cases recount with
  | started | stopped | restarted | limited => rfl
  | aside beside => rw [beside.attempts, if_neg (by simp [beside.restart])]

/-- A restart answers a failed quick login, and leads to a new start. -/
theorem restart_step {input : Input} (restart : (machine.deed input).isRestart = true) :
    ∃ message now, input = .event (.quickLoginError message) now ∧
      (machine.step input).2.map (·.after) = some .starting := by
  have recount := step_recounts machine input
  rw [Machine.deed] at restart
  generalize machine.step input = result at recount restart ⊢
  cases recount with
  | restarted message now => exact ⟨message, now, rfl, rfl⟩
  | started | stopped | limited => cases restart
  | aside beside => exact absurd restart (by simp [beside.restart])

private theorem announced_step {input : Input} {attempt : UInt32} {reason : String}
    (announced : .notify (.autoRestarting attempt reason) ∈ (machine.deed input).effects) :
    (machine.deed input).isRestart = true ∧ attempt = (machine.step input).1.restartCount := by
  have listed : attempt ∈ (machine.deed input).attempts :=
    List.mem_filterMap.mpr ⟨_, announced, rfl⟩
  rw [attempts_step] at listed
  split at listed
  · rename_i restart
    obtain ⟨message, now, rfl, _⟩ := restart_step restart
    refine ⟨restart, ?_⟩
    rw [restartCount_step, if_neg (by simp [Deed.isStop, Machine.deed]), if_pos restart]
    exact List.mem_singleton.mp listed
  · cases listed

/-- The limit is reported with the number of restarts, and is none of them. -/
theorem limited_step {input : Input} {count : UInt32}
    (limited : .notify (.restartLimitReached count) ∈ (machine.deed input).effects) :
    (machine.deed input).isRestart = false ∧ count = machine.restartCount ∧
      (machine.step input).1.restartCount = machine.restartCount := by
  have recount := step_recounts machine input
  rw [Machine.deed] at limited ⊢
  generalize machine.step input = result at recount limited ⊢
  cases recount with
  | started => simp [Deed.effects] at limited
  | stopped => simp [Deed.effects] at limited
  | restarted => simp [Deed.effects] at limited
  | limited _ _ _ records => exact ⟨rfl, by simpa [Deed.effects] using limited, records.count⟩
  | aside beside => exact absurd limited (beside.unlimited count)

theorem restarts_length_le {part : List Deed} (sublist : part.Sublist past) :
    (restarts part).length ≤ (restarts past).length :=
  (sublist.filter _).length_le

/-- The number of restarts is that of the deeds, as long as it can be written down. -/
theorem restartCount_toNat (lived : Lived id policy past machine)
    (few : (restarts past).length < UInt32.size) :
    machine.restartCount.toNat = (restarts (since Deed.isStop past)).length := by
  induction lived with
  | new => rfl
  | @step past machine lived input ih =>
    have before : (restarts past).length < UInt32.size :=
      Nat.lt_of_le_of_lt (restarts_length_le (List.sublist_cons_self _ past)) few
    rw [restartCount_step]
    split
    · rename_i stop
      rw [restarts_since_end stop]
      rfl
    · rename_i going
      rw [Bool.not_eq_true] at going
      split
      · rename_i restart
        have room := restarts_length_le (since_sublist Deed.isStop (machine.deed input :: past))
        rw [restarts_since_restart going restart, List.length_cons, ← ih before] at room ⊢
        rw [UInt32.toNat_add, UInt32.toNat_one]
        exact Nat.mod_eq_of_lt (Nat.lt_of_le_of_lt room few)
      · rename_i other
        rw [restarts_since_other going (by simpa using other), ih before]

private theorem attempts_since_cons {ends : Deed → Bool} {deed : Deed} (going : ends deed = false) :
    attempts (since ends (deed :: past)) = attempts (since ends past) ++ deed.attempts := by
  rw [since_cons going, attempts, List.reverse_cons, List.flatMap_append, List.flatMap_singleton]
  rfl

/-- Since the last stop the attempts have been numbered one by one. -/
theorem attempts_since_stop (lived : Lived id policy past machine)
    (few : (restarts past).length < UInt32.size) :
    (attempts (since Deed.isStop past)).map UInt32.toNat =
      List.range' 1 (restarts (since Deed.isStop past)).length := by
  induction lived with
  | new => rfl
  | @step past machine lived input ih =>
    have before : (restarts past).length < UInt32.size :=
      Nat.lt_of_le_of_lt (restarts_length_le (List.sublist_cons_self _ past)) few
    by_cases going : (machine.deed input).isStop = false
    · rw [attempts_since_cons going, attempts_step, List.map_append, ih before]
      split
      · rename_i restart
        have next := restartCount_toNat (lived.step input) few
        have announced := restartCount_step machine input
        rw [if_neg (by simp [going]), if_pos restart] at announced
        rw [restarts_since_restart going restart, List.length_cons] at next ⊢
        rw [List.map_singleton, ← announced, next, List.range'_concat]
        simp [Nat.add_comm]
      · rename_i other
        rw [restarts_since_other going (by simpa using other), List.map_nil, List.append_nil]
    · rw [Bool.not_eq_false] at going
      rw [restarts_since_end going, since, List.takeWhile_cons_of_neg (by simp [going])]
      rfl

/-- What a machine has done begins with what it had done at any time before. -/
theorem lived_earlier {later : List Deed} (lived : Lived id policy (later ++ past) machine) :
    ∃ earlier, Lived id policy past earlier := by
  induction later generalizing machine with
  | nil => exact ⟨machine, lived⟩
  | cons deed later ih =>
    cases lived with
    | step lived input => exact ih lived

private theorem since_between {ends : Deed → Bool} {between : List Deed}
    (going : ∀ deed ∈ between, ends deed = false) (ended : ∀ deed ∈ past.head?, ends deed = true) :
    since ends (between ++ past) = between := by
  rw [since, List.takeWhile_append_of_pos (by simpa using going)]
  cases past with
  | nil => simp
  | cons deed past => rw [List.takeWhile_cons_of_neg (by simpa using ended), List.append_nil]

/-- A machine counts its restarts since the last stop. No other deed changes the number, every
restart announces the new one, a reached limit is reported with the current one, and from one
stop to the next the announced numbers are one, two, three and so on. -/
theorem restarts_counted (lived : Lived id policy past machine)
    (few : (restarts past).length < UInt32.size) :
    machine.restartCount.toNat = (restarts (since Deed.isStop past)).length ∧
    (∀ input, let deed := machine.deed input
      let after := (machine.step input).1.restartCount
      after = (if deed.isStop then 0 else if deed.isRestart then machine.restartCount + 1
        else machine.restartCount) ∧
      (deed.isRestart = true → ∃ message now, input = .event (.quickLoginError message) now ∧
        deed.outcome.map (·.after) = some .starting) ∧
      (∀ attempt reason, .notify (.autoRestarting attempt reason) ∈ deed.effects →
        deed.isRestart = true ∧ attempt = after) ∧
      ∀ count, .notify (.restartLimitReached count) ∈ deed.effects →
        deed.isRestart = false ∧ count = machine.restartCount ∧ after = machine.restartCount) ∧
    ∀ later between earlier, past = later ++ between ++ earlier →
      (∀ deed ∈ between, deed.isStop = false) → (∀ deed ∈ earlier.head?, deed.isStop = true) →
      (attempts between).map UInt32.toNat = List.range' 1 (restarts between).length := by
  refine ⟨restartCount_toNat lived few, fun input => ⟨restartCount_step machine input,
    restart_step, fun _ _ => announced_step, fun _ => limited_step⟩, ?_⟩
  rintro later between earlier rfl going ended
  rw [List.append_assoc] at lived few
  obtain ⟨machine, lived⟩ := lived_earlier lived
  have fewer : (restarts (between ++ earlier)).length < UInt32.size :=
    Nat.lt_of_le_of_lt (restarts_length_le (List.sublist_append_right _ _)) few
  have numbered := attempts_since_stop lived fewer
  rwa [since_between going ended] at numbered

/-- An exit and a new start between two restarts do not disturb the numbers. -/
theorem restarts_numbered_across_starts :
    ∃ past machine, Lived 100001 ⟨3, 600⟩ past machine ∧ machine.restartCount = 2 ∧
      (attempts past).map UInt32.toNat = [1, 2] := by
  have fresh : Lived 100001 ⟨3, 600⟩ [] _ := .new
  have replaced := ((fresh.step .start).step (.event (.qrChallenge "code") 0)).step
    (.event (.quickLoginError "expired") 500)
  have lived := (((replaced.step (.event (.processExited none) 600)).step .start).step
    (.event (.qrChallenge "code") 700)).step (.event (.quickLoginError "expired") 800)
  obtain ⟨counted, _, numbered⟩ := restarts_counted lived (by decide)
  exact ⟨_, _, lived, UInt32.toNat_inj.mp (counted.trans (by decide)),
    (numbered [] _ [] (List.append_nil _).symm (by decide) (by decide)).trans (by decide)⟩

end counter

end BotKeeper.Proofs
