import BotKeeper.Proofs.StartQueue

/-! Starts that are asked of a stopped instance at once. However many they are, and in whatever
order they are queued, the first one that is looked at decides: if it launches a process, all
others find the instance running, and if it does not, the instance is stopped again and they fare
as the first one did. -/

namespace BotKeeper.Proofs

def AliveAfter (count : Nat) (bots : List Bot) : Prop :=
  ∀ bot ∈ bots, count < bot.pid → bot.isAlive = true

/-- The processes that an instance has launched since then are alive. -/
def LaunchedAlive (origin next : Instance) : Prop :=
  AliveAfter origin.bots.length next.bots

/-- An instance that is stopped as it was, and for which nothing is pending. -/
structure Resting (origin state : Instance) : Prop where
  stopped : state.machine.phase = .stopped
  pending : state.pendingStart = none
  config : state.config = origin.config
  bots : state.bots.length = origin.bots.length

/-- Before the first start is answered the instance rests, and after that one process was launched
and all other starts find the instance running. -/
inductive FirstLaunches (id : AccountId) (origin next : Instance) : List Answer → Prop where
  | resting (resting : Resting origin next) : FirstLaunches id origin next []
  | launched {first : Answer} {rest : List Answer} (ok : first.result = .ok ())
      (refused : ∀ answer ∈ rest, ∃ phase, phase ≠ .stopped ∧
        answer.result = .error (.alreadyRunning id phase))
      (bots : next.bots.length = origin.bots.length + 1) :
      FirstLaunches id origin next (first :: rest)

/-- What has become of the starts that were asked of a stopped instance. -/
structure StartsEnd (keeper : Keeper) (id : AccountId) (origin next : Instance) : Prop where
  /-- All are queued or answered, in the order of their numbers. -/
  placed : (toldSince origin.calls next).map (·.ticket) ++ next.requests.map (·.ticket) =
    List.range' origin.calls (next.calls - origin.calls)
  closed : keeper.permits = 1 → Untouched origin next ∧
    ∀ answer ∈ toldSince origin.calls next, answer.result = .error .updateInProgress
  launched : keeper.permits = 0 →
    keeper.around.host.launch keeper.around.files origin.config = .ok () →
    LaunchedAlive origin next → FirstLaunches id origin next (toldSince origin.calls next)
  failed : ∀ reason, keeper.permits = 0 →
    keeper.around.host.launch keeper.around.files origin.config = .error reason →
    next.machine.phase = .stopped ∧ next.bots.length = origin.bots.length ∧
      ∀ answer ∈ toldSince origin.calls next,
        answer.result = .error (.spawn id (.ofSystem reason) reason.text)

variable {keeper before after : Keeper} {id : AccountId} {origin state next : Instance}
  {around : Surroundings}

section processes

variable {bots more : List Bot} {count : Nat}

theorem AliveAfter.unaged {change : Bot → Bot} (alive : AliveAfter count (bots.map change))
    (ages : ∀ bot ∈ bots, Ages bot (change bot)) : AliveAfter count bots := by
  intro bot member late
  apply (ages bot member).alive
  apply alive _ (List.mem_map_of_mem member)
  rw [(ages bot member).pid]
  exact late

theorem AliveAfter.tail {latest : Bot} (alive : AliveAfter count (latest :: bots)) :
    AliveAfter count bots :=
  fun bot member => alive bot (List.mem_cons_of_mem _ member)

/-- Processes that are alive were alive before. -/
theorem AliveAfter.earlier (alive : AliveAfter count more) (lineage : Lineage bots more) :
    AliveAfter count bots := by
  induction lineage with
  | refl => exact alive
  | aged change _ ages ih => exact ih (alive.unaged ages)
  | launched _ _ _ _ ih => exact ih alive.tail

theorem AliveAfter.append (alive : AliveAfter count bots)
    (launched : ∀ bot ∈ more, bot.isAlive = true) : AliveAfter count (more ++ bots) := by
  intro bot member late
  rcases List.mem_append.mp member with new | old
  · exact launched bot new
  · exact alive bot old late

theorem AliveAfter.of_numbered (numbered : Numbered bots) : AliveAfter bots.length bots :=
  fun _ member late => absurd (numbered.pid_le member) (Nat.not_le_of_lt late)

theorem AliveAfter.not_gone (alive : AliveAfter count bots) (numbered : Numbered bots)
    (length : bots.length = count + 1) : ¬AllGone bots := by
  intro gone
  cases bots with
  | nil => cases length
  | cons latest earlier =>
    have late : count < latest.pid := by
      have number := numbered.1
      simp only [List.length_cons] at length
      omega
    have living := alive latest List.mem_cons_self late
    have dead := not_alive_of_gone (gone latest List.mem_cons_self)
    exact Bool.noConfusion (dead.symm.trans living)

/-- As long as the latest process is alive, no other one is launched. -/
theorem AliveAfter.length (alive : AliveAfter count more) (lineage : Lineage bots more)
    (numbered : Numbered bots) (length : bots.length = count + 1) : more.length = count + 1 := by
  induction lineage with
  | refl => exact length
  | aged change _ ages ih =>
    rw [List.length_map]
    exact ih (alive.unaged ages)
  | launched lineage gone _ _ ih =>
    exact absurd gone (alive.tail.not_gone (lineage.numbered numbered) (ih alive.tail))

theorem LaunchedAlive.running (alive : LaunchedAlive origin state) (sound : Sound state state)
    (length : state.bots.length = origin.bots.length + 1) : state.machine.phase ≠ .stopped :=
  fun stopped => AliveAfter.not_gone alive sound.numbered length (sound.gone stopped)

end processes

section runs

/-- What each turn keeps that only starts are asked in holds after a run. -/
theorem run_starts {motive : Instance → Prop} (reachable : keeper.Reachable)
    (registered : keeper.instance? id = some origin) (alone : origin.requests = [])
    (begins : toldSince origin.calls origin = [] → motive origin)
    (turns : ∀ {before : Keeper} {state next : Instance}, before.Reachable →
      before.instance? id = some state → SameLaunches keeper.around before.around →
      Lineage state.bots next.bots → StartTurn before.around origin.calls state next →
      motive state → motive next)
    (run : Keeper.Run (Meanwhile id) keeper after) :
    ∃ next, after.instance? id = some next ∧ OnlyStarts origin.calls next ∧ motive next := by
  have kept : ∃ next, after.instance? id = some next ∧ OnlyStarts origin.calls next ∧
      SameLaunches keeper.around after.around ∧ motive next := by
    induction run with
    | refl =>
      have tally := reachable_tallied reachable (kept_of_instance? registered)
      obtain ⟨only, untold⟩ := OnlyStarts.begin tally alone
      exact ⟨origin, registered, only, ⟨rfl, rfl, rfl⟩, begins untold⟩
    | @step between after event run fits happens ih =>
      obtain ⟨state, present, only, same, holds⟩ := ih
      have earlier := reachable_of_run reachable run
      obtain ⟨next, found, left, turn⟩ := only.step earlier present fits happens
      have lineage : Lineage state.bots next.bots := by
        have continues := (step_happens happens id).continues (reachable_inOrder earlier)
        rw [kept_of_instance? present, kept_of_instance? found] at continues
        exact continues.lineage
      have launches := fits.launches happens
      exact ⟨next, found, left, ⟨launches.gate.trans same.gate, launches.host.trans same.host,
        launches.files.trans same.files⟩, turns earlier present same lineage turn holds⟩
  obtain ⟨next, found, only, _, holds⟩ := kept
  exact ⟨next, found, only, holds⟩

theorem Resting.untouched (resting : Resting origin state) (untouched : Untouched state next)
    (pending : next.pendingStart = none) : Resting origin next where
  stopped := by
    rw [untouched.machine]
    exact resting.stopped
  pending := pending
  config := untouched.config.trans resting.config
  bots := untouched.bots.trans resting.bots

theorem SameLaunches.launch (same : SameLaunches keeper.around around) (config : InstanceConfig) :
    around.host.launch around.files config =
      keeper.around.host.launch keeper.around.files config := by
  rw [same.host, same.files]

/-- While a permit is held, all starts are refused and nothing comes of them. -/
theorem starts_closed (reachable : keeper.Reachable) (registered : keeper.instance? id = some origin)
    (stopped : origin.machine.phase = .stopped) (alone : origin.requests = [])
    (unpending : origin.pendingStart = none) (closed : keeper.around.gate = true)
    (run : Keeper.Run (Meanwhile id) keeper after) :
    ∃ next, after.instance? id = some next ∧ OnlyStarts origin.calls next ∧
      (Untouched origin next ∧ next.pendingStart = none) ∧
      ∀ answer ∈ toldSince origin.calls next, answer.result = .error .updateInProgress := by
  refine run_starts reachable registered alone
    (fun untold => ⟨⟨.refl origin, unpending⟩, by simp [untold]⟩) ?_ run
  intro before state next _ _ same _ turn ⟨⟨untouched, pending⟩, told⟩
  have still : state.machine.phase = .stopped := by
    rw [untouched.machine]
    exact stopped
  cases turn with
  | aside sameTold quiet =>
    obtain ⟨more, unpended⟩ := quiet still pending
    exact ⟨⟨untouched.trans more, unpended⟩, sameTold ▸ told⟩
  | served idle serves sameTold meets =>
    have gate : before.around.gate = true := same.gate.trans closed
    cases meets with
    | closed _ more unpended =>
      refine ⟨⟨untouched.trans more, unpended.trans pending⟩, ?_⟩
      rw [sameTold, List.forall_mem_append]
      exact ⟨told, by simp⟩
    | running opened | failed opened | launched opened => cases gate.symm.trans opened

/-- Where nothing can be launched, all starts fail, and each of them leaves the instance stopped. -/
theorem starts_failed (reachable : keeper.Reachable) (registered : keeper.instance? id = some origin)
    (stopped : origin.machine.phase = .stopped) (alone : origin.requests = [])
    (unpending : origin.pendingStart = none) (opened : keeper.around.gate = false)
    {reason : SystemError}
    (fails : keeper.around.host.launch keeper.around.files origin.config = .error reason)
    (run : Keeper.Run (Meanwhile id) keeper after) :
    ∃ next, after.instance? id = some next ∧ OnlyStarts origin.calls next ∧ Resting origin next ∧
      ∀ answer ∈ toldSince origin.calls next,
        answer.result = .error (.spawn id (.ofSystem reason) reason.text) := by
  refine run_starts reachable registered alone
    (fun untold => ⟨⟨stopped, unpending, rfl, rfl⟩, by simp [untold]⟩) ?_ run
  intro before state next reachable registered same _ turn ⟨resting, told⟩
  cases turn with
  | aside sameTold quiet =>
    obtain ⟨untouched, unpended⟩ := quiet resting.stopped resting.pending
    exact ⟨resting.untouched untouched unpended, sameTold ▸ told⟩
  | served idle serves sameTold meets =>
    have gate : before.around.gate = false := same.gate.trans opened
    have named : state.machine.id = id :=
      (reachable_inOrder reachable _ (kept_of_instance? registered)).2
    have launch : before.around.host.launch before.around.files state.config = .error reason := by
      rw [same.launch, resting.config, fails]
    cases meets with
    | closed closed => cases gate.symm.trans closed
    | running _ running => exact absurd resting.stopped running
    | failed _ _ why again config unpended bots =>
      cases launch.symm.trans why
      refine ⟨⟨again, unpended.trans resting.pending, config.trans resting.config,
        bots.trans resting.bots⟩, ?_⟩
      rw [sameTold, List.forall_mem_append, named]
      exact ⟨told, by simp⟩
    | launched _ _ launches => cases launch.symm.trans launches

theorem FirstLaunches.turn (reachable : before.Reachable) (registered : before.instance? id = some state)
    (opened : before.around.gate = false)
    (launches : before.around.host.launch before.around.files origin.config = .ok ())
    (turn : StartTurn before.around origin.calls state next) (lineage : Lineage state.bots next.bots)
    (alive : LaunchedAlive origin next)
    (launching : FirstLaunches id origin state (toldSince origin.calls state)) :
    FirstLaunches id origin next (toldSince origin.calls next) := by
  obtain ⟨sound, named⟩ := reachable_inOrder reachable _ (kept_of_instance? registered)
  generalize past : toldSince origin.calls state = answers at launching
  cases launching with
  | resting resting =>
    cases turn with
    | aside sameTold quiet =>
      obtain ⟨untouched, unpended⟩ := quiet resting.stopped resting.pending
      rw [sameTold, past]
      exact .resting (resting.untouched untouched unpended)
    | served idle serves sameTold meets =>
      cases meets with
      | closed closed => cases opened.symm.trans closed
      | running _ running => exact absurd resting.stopped running
      | failed _ _ fails =>
        rw [resting.config] at fails
        cases launches.symm.trans fails
      | launched _ _ _ bots =>
        rw [sameTold, past]
        exact .launched rfl (by simp) (by rw [bots, resting.bots])
  | launched ok refused bots =>
    have running := LaunchedAlive.running (AliveAfter.earlier alive lineage) sound bots
    have length := AliveAfter.length alive lineage sound.numbered bots
    cases turn with
    | aside sameTold quiet =>
      rw [sameTold, past]
      exact .launched ok refused length
    | served idle serves sameTold meets =>
      cases meets with
      | closed closed => cases opened.symm.trans closed
      | running =>
        rw [sameTold, past, named]
        refine .launched ok (List.forall_mem_append.mpr ⟨refused, ?_⟩) length
        simp [running]
      | failed _ stopped | launched _ stopped => exact absurd stopped running

/-- Where a process can be launched, the first start launches it. -/
theorem starts_launched (reachable : keeper.Reachable)
    (registered : keeper.instance? id = some origin) (stopped : origin.machine.phase = .stopped)
    (alone : origin.requests = []) (unpending : origin.pendingStart = none)
    (opened : keeper.around.gate = false)
    (launches : keeper.around.host.launch keeper.around.files origin.config = .ok ())
    (run : Keeper.Run (Meanwhile id) keeper after) :
    ∃ next, after.instance? id = some next ∧ OnlyStarts origin.calls next ∧
      (LaunchedAlive origin next → FirstLaunches id origin next (toldSince origin.calls next)) := by
  refine run_starts reachable registered alone (fun untold _ => ?_) ?_ run
  · rw [untold]
    exact .resting ⟨stopped, unpending, rfl, rfl⟩
  · intro before state next reachable registered same lineage turn launching alive
    refine .turn reachable registered (same.gate.trans opened) ?_ turn lineage alive
      (launching (AliveAfter.earlier alive lineage))
    rw [same.launch, launches]

end runs

section answering

/-- Starts that are asked at once are queued behind the calls that are there already. -/
theorem starts_queued (registered : keeper.instance? id = some state) (count : Nat) :
    ∃ asked starts, keeper.steps? (List.replicate count (.start id)) = some asked ∧
      asked.instance? id = some { state with
        calls := state.calls + count, requests := state.requests ++ starts } ∧
      ∀ request ∈ starts, request.command = .start := by
  induction count generalizing keeper state with
  | zero => exact ⟨keeper, [], rfl, by simpa using registered, by simp⟩
  | succ count ih =>
    have queued : (keeper.put id (.kept (state.take .start))).instance? id =
        some (state.take .start) := by
      rw [instance?_put]
      rfl
    obtain ⟨asked, starts, steps, present, commands⟩ := ih queued
    refine ⟨asked, ⟨state.calls, .start⟩ :: starts, ?_, ?_, List.forall_mem_cons.mpr ⟨rfl, commands⟩⟩
    · rw [List.replicate_succ, Keeper.steps?, Keeper.step?, Keeper.call, Keeper.find, registered]
      exact steps
    · rw [present]
      simp only [Instance.take, List.append_assoc, List.singleton_append, Nat.add_assoc,
        Nat.add_comm count 1]

/-- An instance with nothing else to do answers the starts in its queue one after the other. -/
theorem starts_answered {count : Nat} (reachable : keeper.Reachable)
    (registered : keeper.instance? id = some state) (idle : state.busy = none)
    (starts : ∀ request ∈ state.requests, request.command = .start)
    (alive : AliveAfter count state.bots) :
    ∃ (moves : List Move) (after : Keeper) (next : Instance),
      keeper.steps? (moves.map (.move id)) = some after ∧ after.instance? id = some next ∧
      next.requests = [] ∧ next.calls = state.calls ∧ AliveAfter count next.bots := by
  generalize queued : state.requests = requests at starts
  induction requests generalizing keeper state with
  | nil => exact ⟨[], keeper, state, rfl, registered, queued, rfl, alive⟩
  | cons request rest ih =>
    obtain ⟨ticket, command⟩ := request
    obtain ⟨rfl, others⟩ := List.forall_mem_cons.mp starts
    obtain ⟨result, serves, -⟩ :=
      startFor_meets (reachable_sound reachable registered) idle ticket keeper.around
    have tail : state.requests.tail = rest := by rw [queued, List.tail_cons]
    rw [tail] at serves
    obtain ⟨launched, bots, living⟩ := serves.bots
    have step : keeper.step? (.move id .serve) = some (keeper.put id (.kept
        ({ state with requests := rest }.startFor keeper.around ticket))) :=
      step_of_moves registered (.serve idle queued)
    obtain ⟨moves, after, next, steps, present, left, calls, ended⟩ :=
      ih (reachable_of_step reachable step) (instance?_put _ _ _) (serves.busy.trans idle)
        (bots ▸ alive.append living) (serves.requests.trans tail) others
    refine ⟨.serve :: moves, after, next, ?_, present, left, calls.trans serves.calls, ended⟩
    rw [List.map_cons, Keeper.steps?, step]
    exact steps

/-- However many starts are asked at once, they can all be answered while no process exits. -/
theorem starts_settle (reachable : keeper.Reachable) (registered : keeper.instance? id = some state)
    (stopped : state.machine.phase = .stopped) (alone : state.requests = [])
    (unpending : state.pendingStart = none) (count : Nat) :
    ∃ (asked after : Keeper) (moves : List Move) (next : Instance),
      keeper.steps? (List.replicate count (.start id)) = some asked ∧
      asked.steps? (moves.map (.move id)) = some after ∧ after.instance? id = some next ∧
      next.requests = [] ∧ next.calls = state.calls + count ∧ LaunchedAlive state next := by
  have sound := reachable_sound reachable registered
  obtain ⟨asked, starts, steps, present, commands⟩ := starts_queued registered count
  have reached : asked.Reachable :=
    reachable_of_run reachable (run_of_steps .refl _ (fun _ _ => trivial) steps)
  rw [alone, List.nil_append] at present
  have alive : AliveAfter state.bots.length state.bots := .of_numbered sound.numbered
  cases busy : state.busy with
  | none =>
    obtain ⟨moves, after, next, ends, found, left, calls, ended⟩ :=
      starts_answered reached present busy commands alive
    exact ⟨asked, after, moves, next, steps, ends, found, left, calls, ended⟩
  | some business =>
    cases business with
    | wait wait => exact absurd stopped (sound.waits wait busy).1.not_stopped
    | halted =>
      -- The end of the last process is still to be concluded, and nothing else comes of that.
      have step := step_of_moves present (.conclude busy)
      simp only [Instance.afterStop, unpending] at step
      obtain ⟨moves, after, next, ends, found, left, calls, ended⟩ :=
        starts_answered (reachable_of_step reached step) (instance?_put _ _ _) rfl commands alive
      refine ⟨asked, after, .conclude :: moves, next, steps, ?_, found, left, calls, ended⟩
      rw [List.map_cons, Keeper.steps?, step]
      exact ends

end answering

section order

/-- At rest, a stopped instance has no start to make. -/
theorem Sound.unpending (sound : Sound state state) (stopped : state.machine.phase = .stopped)
    (idle : state.busy = none) : state.pendingStart = none := by
  by_contra pending
  rcases sound.pending pending with stopping | halted
  · cases stopped.symm.trans stopping
  · cases idle.symm.trans halted

/-- Starts are asked of a stopped instance that has no other calls, and for which no start is
pending, as is so whenever it is at rest. However many are asked at once, they can all be answered.
Whatever happens beside them, they are answered in the order in which they came. While a permit is
held all are refused and nothing changes. Otherwise the first one launches a process and all others
find the instance running, or nothing can be launched and all fail. -/
theorem concurrent_starts (reachable : keeper.Reachable)
    (registered : keeper.instance? id = some state) (stopped : state.machine.phase = .stopped)
    (alone : state.requests = []) (unpending : state.pendingStart = none) :
    (∀ count, ∃ (asked after : Keeper) (moves : List Move) (next : Instance),
      keeper.steps? (List.replicate count (.start id)) = some asked ∧
      asked.steps? (moves.map (.move id)) = some after ∧ after.instance? id = some next ∧
      next.requests = [] ∧ next.calls = state.calls + count ∧ LaunchedAlive state next) ∧
    ∀ after, Keeper.Run (Meanwhile id) keeper after →
      ∃ next, after.instance? id = some next ∧ StartsEnd keeper id state next := by
  refine ⟨starts_settle reachable registered stopped alone unpending, fun after run => ?_⟩
  have permits := (reachable_gateKept reachable).permits
  cases gate : keeper.around.gate with
  | true =>
    obtain ⟨next, found, only, ⟨untouched, -⟩, refused⟩ :=
      starts_closed reachable registered stopped alone unpending gate run
    simp only [gate, if_true] at permits
    refine ⟨next, found, only.placed, fun _ => ⟨untouched, refused⟩, ?_, ?_⟩
    · exact fun none => absurd (permits.symm.trans none) (by decide)
    · exact fun _ none => absurd (permits.symm.trans none) (by decide)
  | false =>
    simp only [gate, Bool.false_eq_true, if_false] at permits
    have free : keeper.permits ≠ 1 := by simp [permits]
    cases launch : keeper.around.host.launch keeper.around.files state.config with
    | error reason =>
      obtain ⟨next, found, only, resting, failed⟩ :=
        starts_failed reachable registered stopped alone unpending gate launch run
      refine ⟨next, found, only.placed, fun held => absurd held free, ?_, ?_⟩
      · exact fun _ launches => by cases launch.symm.trans launches
      · intro other _ fails
        cases launch.symm.trans fails
        exact ⟨resting.stopped, resting.bots, failed⟩
    | ok nothing =>
      obtain ⟨next, found, only, launches⟩ :=
        starts_launched reachable registered stopped alone unpending gate launch run
      refine ⟨next, found, only.placed, fun held => absurd held free, fun _ _ => launches, ?_⟩
      exact fun _ _ fails => by cases launch.symm.trans fails

/-- A bot has exited, and then more starts are asked than the instance would take in at once. -/
theorem concurrent_starts_after_exit : ∃ (keeper after : Keeper) (state next : Instance)
    (first : Answer) (rest : List Answer),
    keeper.Reachable ∧ keeper.instance? 100001 = some state ∧ state.bots.length = 1 ∧
      Keeper.Run (Meanwhile 100001) keeper after ∧ after.instance? 100001 = some next ∧
      next.requests = [] ∧ toldSince state.calls next = first :: rest ∧ rest.length = 39 ∧
      FirstLaunches 100001 state next (first :: rest) := by
  obtain ⟨keeper, reachable, checked⟩ := rehearsal_reachable [rehearsedConfig 100001 []]
    [.start 100001, .move 100001 .serve, .exit 100001 (some 4), .move 100001 .receive,
      .move 100001 .conclude]
    (fun keeper => (keeper.instance? 100001).any (fun state => decide (
      state.machine.phase = .stopped ∧ state.busy = none ∧ state.requests = [] ∧
      state.bots.length = 1 ∧ keeper.permits = 0 ∧
      keeper.around.host.launch keeper.around.files state.config = .ok ())) = true)
    (by decide +kernel)
  obtain ⟨state, registered, checked⟩ := (Option.any_eq_true _ _).mp checked
  obtain ⟨stopped, idle, alone, bots, free, launches⟩ := of_decide_eq_true checked
  have unpending := (reachable_sound reachable registered).unpending stopped idle
  obtain ⟨settle, ends⟩ := concurrent_starts reachable registered stopped alone unpending
  obtain ⟨asked, after, moves, next, asks, answers, found, left, calls, alive⟩ := settle 40
  have run : Keeper.Run (Meanwhile 100001) keeper after := by
    refine run_of_steps (run_of_steps .refl _ ?_ asks) _ ?_ answers
    · exact fun event member => (List.eq_of_mem_replicate member) ▸ trivial
    · intro event member
      obtain ⟨move, -, rfl⟩ := List.mem_map.mp member
      trivial
  obtain ⟨same, present, ended⟩ := ends after run
  obtain rfl := Option.some.inj (found.symm.trans present)
  have told : (toldSince state.calls next).length = 40 := by
    have placed := congrArg List.length ended.placed
    simpa [left, calls] using placed
  have first := ended.launched free launches alive
  cases same : toldSince state.calls next with
  | nil => simp [same] at told
  | cons answer rest =>
    rw [same] at told first
    exact ⟨keeper, after, state, next, answer, rest, reachable, registered, bots, run, found, left,
      same, by simpa using told, first⟩

end order

end BotKeeper.Proofs
