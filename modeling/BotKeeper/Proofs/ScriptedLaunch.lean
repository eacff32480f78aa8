import BotKeeper.Proofs.BatchReading
import BotKeeper.Proofs.ShellReading

/-! What a rendered script launches. It can be read to its end, and it hands over to a program with
the arguments of the config. But the program and the directory are looked up where the variables
of the config are, and these are assigned later. So a bot is launched as its config says exactly
if no variable of the config has the name of a path and another value. Nothing is rendered but
configs whose paths are texts (`plain_of_render`), so it is enough to look at these. -/

namespace BotKeeper.Proofs
open Script

/-- What a launch script comes to, where some of its variables are passed on. -/
def comesTo (fold : String → String) (passes : String → Bool) (session : Session)
    (config : InstanceConfig) : Started :=
  let final := prepared fold session config
  { directory := (final.value? (fold "BOT_WORKDIR")).getD ""
    program := (final.value? (fold "BOT_EXECUTABLE")).getD ""
    arguments := config.launchArgs
    value? := fun name => if passes name then final.value? (fold name) else none }

section comesTo

variable (fold : String → String) (session : Session) {config : InstanceConfig} {name value : String}

private theorem prepared_assigned (member : (name, value) ∈ assignments config) :
    ∃ pair ∈ assignments config,
      (prepared fold session config).value? (fold name) = some pair.2 := by
  have folded : ∃ pair ∈ (assignments config).map fun pair => (fold pair.1, pair.2),
      pair.1 = fold name := ⟨_, List.mem_map.mpr ⟨_, member, rfl⟩, rfl⟩
  obtain ⟨last, there, _, value⟩ := assignAll_assigned session folded
  obtain ⟨pair, inside, rfl⟩ := List.mem_map.mp there
  exact ⟨pair, inside, value⟩

/-- A path is found exactly if its variable has kept the value of the config. -/
theorem found_iff (member : (name, value) ∈ assignments config) :
    ((prepared fold session config).value? (fold name)).getD "" = value ↔
      (prepared fold session config).value? (fold name) = some value := by
  obtain ⟨pair, _, last⟩ := prepared_assigned fold session member
  rw [last, Option.getD_some, Option.some_inj]

private theorem comesTo_asConfigured_iff {passes : String → Bool}
    (passed : ∀ entry ∈ config.launchEnv.entries, passes entry.1 = true) :
    AsConfigured (comesTo fold passes session config) config ↔ Undisturbed fold config := by
  have program := found_iff fold session
    (by simp [assignments] : ("BOT_EXECUTABLE", config.executable) ∈ assignments config)
  have directory := found_iff fold session
    (by simp [assignments] : ("BOT_WORKDIR", config.workingDir) ∈ assignments config)
  have environment : (∀ entry ∈ config.launchEnv.entries,
      (comesTo fold passes session config).value? entry.1 = some entry.2) ↔
      ∀ entry ∈ config.launchEnv.entries,
        (prepared fold session config).value? (fold entry.1) = some entry.2 := by
    refine forall₂_congr fun entry member => ?_
    simp only [comesTo, passed entry member, if_true]
  rw [← prepared_all_iff fold session config, assignments, List.forall_mem_cons,
    List.forall_mem_cons, ← program, ← directory, ← environment]
  exact ⟨fun configured => ⟨configured.program, configured.directory, configured.environment⟩,
    fun ⟨program, directory, environment⟩ => ⟨directory, program, rfl, environment⟩⟩

end comesTo

section undisturbed

variable {config : InstanceConfig}

theorem get?_iff_listed {name value : String} : config.launchEnv.get? name = some value ↔
    (name, value) ∈ config.launchEnv.entries :=
  (config.launchEnv.mem_entries name value).symm

/-- The value that a name has, whether it is that of a path or not. -/
theorem assigned_value
    (executable : ∀ value, config.launchEnv.get? "BOT_EXECUTABLE" = some value →
      value = config.executable)
    (workingDir : ∀ value, config.launchEnv.get? "BOT_WORKDIR" = some value →
      value = config.workingDir) {name value : String} (member : (name, value) ∈ assignments config) :
    value =
      if name = "BOT_EXECUTABLE" then config.executable
      else if name = "BOT_WORKDIR" then config.workingDir
      else (config.launchEnv.get? name).getD "" := by
  simp only [assignments, List.mem_cons, Prod.mk.injEq] at member
  rcases member with ⟨rfl, rfl⟩ | ⟨rfl, rfl⟩ | inside
  · rw [if_pos rfl]
  · rw [if_neg (by decide), if_pos rfl]
  · have present := get?_iff_listed.mpr inside
    split
    · rename_i same
      exact executable value (same ▸ present)
    · split
      · rename_i same
        exact workingDir value (same ▸ present)
      · rw [present, Option.getD_some]

/-- Where all names differ, a variable of the config can only stand in for a path. -/
theorem undisturbed_id_iff : Undisturbed id config ↔
    (∀ value, config.launchEnv.get? "BOT_EXECUTABLE" = some value → value = config.executable) ∧
      ∀ value, config.launchEnv.get? "BOT_WORKDIR" = some value → value = config.workingDir := by
  constructor
  · intro alone
    constructor
    · intro value present
      refine alone ("BOT_EXECUTABLE", value) ?_ ("BOT_EXECUTABLE", config.executable) ?_ rfl
      · exact List.mem_cons_of_mem _ (List.mem_cons_of_mem _ (get?_iff_listed.mp present))
      · simp [assignments]
    · intro value present
      refine alone ("BOT_WORKDIR", value) ?_ ("BOT_WORKDIR", config.workingDir) ?_ rfl
      · exact List.mem_cons_of_mem _ (List.mem_cons_of_mem _ (get?_iff_listed.mp present))
      · simp [assignments]
  · rintro ⟨executable, workingDir⟩ ⟨name, first⟩ member ⟨_, second⟩ other same
    cases same
    rw [assigned_value executable workingDir member, assigned_value executable workingDir other]

end undisturbed

section launches

variable {config : InstanceConfig} {text : String} (session : Session)

/-- Each variable of the config is assigned, and passed on from then on. -/
theorem exported_entries (entries : List (String × String)) :
    let after := entries.foldl (fun session entry =>
      (session.assign entry.1 entry.2).passOn entry.1) session
    after.value? = (session.assignAll entries).value? ∧
      (∀ name, session.passesOn name = true → after.passesOn name = true) ∧
      ∀ entry ∈ entries, after.passesOn entry.1 = true := by
  induction entries generalizing session with
  | nil => exact ⟨rfl, fun _ => id, by simp⟩
  | cons entry rest ih =>
    obtain ⟨values, kept, passed⟩ := ih ((session.assign entry.1 entry.2).passOn entry.1)
    have same : ∀ (between : Session) (pairs : List (String × String)),
        ((between.passOn entry.1).assignAll pairs) = (between.assignAll pairs).passOn entry.1 := by
      intro between pairs
      induction pairs generalizing between with
      | nil => rfl
      | cons pair pairs ih => exact ih (between.assign pair.1 pair.2)
    refine ⟨?_, fun name before => kept name ?_, ?_⟩
    · refine values.trans ?_
      rw [same]
      rfl
    · simp [Session.passOn, Session.assign, before]
    · intro other member
      rcases List.mem_cons.mp member with here | later
      · rw [here]
        exact kept _ (by simp [Session.passOn])
      · exact passed other later

private theorem arguments_spaced (written : List Char → List Char) (config : InstanceConfig) :
    ' ' :: spaced (config.launchArgs.map fun argument => written argument.toList) =
      config.launchArgs.flatMap fun argument => ' ' :: written argument.toList := by
  cases arguments : config.launchArgs with
  | nil => simp [InstanceConfig.launchArgs] at arguments
  | cons first rest =>
    rw [List.map_cons, space_spaced, List.flatMap_cons, List.flatMap_map, List.flatMap_cons]

private theorem prepared_eq (fold : String → String) (config : InstanceConfig) :
    prepared fold session config = config.launchEnv.entries.foldl
      (fun between entry => between.assign (fold entry.1) entry.2)
      ((session.assign (fold "BOT_EXECUTABLE") config.executable).assign (fold "BOT_WORKDIR")
        config.workingDir) := by
  unfold prepared Session.assignAll
  rw [List.foldl_map]
  rfl

/-- Whichever value the name of the program has in the end, no double quote is in it. -/
theorem unquoted_program (carried : Carried .batchFile config) (fold : String → String) :
    '"' ∉ (prepared fold session config).expansion (fold "BOT_EXECUTABLE") := by
  obtain ⟨pair, member, value⟩ := prepared_assigned fold session
    (by simp [assignments] : ("BOT_EXECUTABLE", config.executable) ∈ assignments config)
  rw [Session.expansion, value, Option.getD_some]
  simp only [assignments, List.mem_cons] at member
  rcases member with rfl | rfl | entry
  · exact carried.executable.unquoted rfl
  · exact carried.workingDir.unquoted rfl
  · exact (carried.environment pair entry).unquoted rfl

/-- A shell script is read to its end, with all variables of the config passed on. -/
theorem shellLaunch?_render (rendered : render config .shellScript .unix = .ok text) :
    ∃ passes, (∀ entry ∈ config.launchEnv.entries, passes entry.1 = true) ∧
      shellLaunch? session text = some (comesTo id passes session config) := by
  obtain ⟨_, carried, _⟩ := render_ok_iff.mp rendered
  have shebang : Shell.read session "#!/bin/sh".toList = some (.goesOn session) :=
    Shell.read_comment session "!/bin/sh".toList
  have title : Shell.read session ("# ".toList ++ (header config).toList) =
      some (.goesOn session) := Shell.read_comment session (' ' :: (header config).toList)
  have executable : Shell.read session
      ((executableOpening .shellScript).toList ++ Shell.word config.executable.toList) =
      some (.goesOn (session.assign "BOT_EXECUTABLE" config.executable)) := by
    simpa [executableOpening] using Shell.read_assignment session
      (by decide : isIdentifier "BOT_EXECUTABLE" = true) config.executable
  have workingDir : ∀ between : Session, Shell.read between
      ((workingDirOpening .shellScript).toList ++ Shell.word config.workingDir.toList) =
      some (.goesOn (between.assign "BOT_WORKDIR" config.workingDir)) := by
    intro between
    simpa [workingDirOpening] using Shell.read_assignment between
      (by decide : isIdentifier "BOT_WORKDIR" = true) config.workingDir
  have exports : ∀ entry ∈ config.launchEnv.entries, ∀ between : Session, Shell.read between
      ("export ".toList ++ entry.1.toList ++ '=' :: Shell.word entry.2.toList) =
      some (.goesOn ((between.assign entry.1 entry.2).passOn entry.1)) := fun entry member between =>
    Shell.read_export between (carried.keys entry member) entry.2
  have command : "exec \"$BOT_EXECUTABLE\" ".toList ++
      spaced (config.launchArgs.map fun argument => Shell.word argument.toList) =
      "exec \"$BOT_EXECUTABLE\"".toList ++
        config.launchArgs.flatMap fun argument => ' ' :: Shell.word argument.toList := by
    rw [← arguments_spaced]
    simp
  obtain ⟨values, _, passed⟩ := exported_entries
    ((session.assign "BOT_EXECUTABLE" config.executable).assign "BOT_WORKDIR" config.workingDir)
    config.launchEnv.entries
  unfold shellLaunch?
  rw [lines_of_render rendered, scriptLines, shellLines, command, List.append_assoc]
  simp only [List.cons_append, List.nil_append]
  rw [launch?_goesOn _ shebang, launch?_goesOn _ title, launch?_goesOn _ executable,
    launch?_goesOn _ (workingDir _), launch?_entries _ exports]
  generalize config.launchEnv.entries.foldl _ _ = final at values passed ⊢
  rw [launch?_goesOn _ (Shell.read_change final), launch?_starts _ (Shell.read_exec _ _)]
  refine ⟨final.passesOn, passed, ?_⟩
  have same : prepared id session config = ((session.assign "BOT_EXECUTABLE"
      config.executable).assign "BOT_WORKDIR" config.workingDir).assignAll
        config.launchEnv.entries := prepared_eq session id config
  simp only [comesTo, same, ← values]
  rfl

/-- A batch file is read to its end. All of its variables are passed on. -/
theorem batchLaunch?_render (rendered : render config .batchFile .windows = .ok text)
    (fold : String → String) :
    batchLaunch? fold session text = some (comesTo fold (fun _ => true) session config) := by
  obtain ⟨_, carried, _⟩ := render_ok_iff.mp rendered
  have echo : Batch.read fold session "@echo off".toList = some (.goesOn session) := rfl
  have page : Batch.read fold session "chcp 65001 > nul".toList = some (.goesOn session) := rfl
  have title := Batch.read_remark fold session (header config).toList
  have executable : Batch.read fold session
      ((executableOpening .batchFile).toList ++ Batch.word config.executable.toList ++ ['"']) =
      some (.goesOn (session.assign (fold "BOT_EXECUTABLE") config.executable)) := by
    simpa [executableOpening] using Batch.read_assignment fold session
      (by decide : isIdentifier "BOT_EXECUTABLE" = true) config.executable
  have workingDir : ∀ between : Session, Batch.read fold between
      ((workingDirOpening .batchFile).toList ++ Batch.word config.workingDir.toList ++ ['"']) =
      some (.goesOn (between.assign (fold "BOT_WORKDIR") config.workingDir)) := by
    intro between
    simpa [workingDirOpening] using Batch.read_assignment fold between
      (by decide : isIdentifier "BOT_WORKDIR" = true) config.workingDir
  have assigns : ∀ entry ∈ config.launchEnv.entries, ∀ between : Session, Batch.read fold between
      ("set \"".toList ++ entry.1.toList ++ '=' :: Batch.word entry.2.toList ++ ['"']) =
      some (.goesOn (between.assign (fold entry.1) entry.2)) := fun entry member between =>
    Batch.read_assignment fold between (carried.keys entry member) entry.2
  have command : "\"%BOT_EXECUTABLE%\" ".toList ++
      spaced (config.launchArgs.map fun argument => '"' :: Batch.word argument.toList ++ ['"']) =
      "\"%BOT_EXECUTABLE%\"".toList ++
        config.launchArgs.flatMap fun argument => ' ' :: '"' :: Batch.word argument.toList ++ ['"'] := by
    have words := arguments_spaced (fun text => '"' :: Batch.word text ++ ['"']) config
    simpa using words
  have arguments : ∀ argument ∈ config.launchArgs, '"' ∉ argument.toList :=
    fun argument member => (carried.args argument member).unquoted rfl
  have changes := Batch.read_change fold (prepared fold session config)
  have calls := Batch.read_program fold ((prepared fold session config).change
    (((prepared fold session config).value? (fold "BOT_WORKDIR")).getD ""))
    (unquoted_program session carried fold) arguments
  unfold batchLaunch?
  rw [lines_of_render rendered, scriptLines, batchLines, command, List.append_assoc]
  generalize "\"%BOT_EXECUTABLE%\"".toList ++ config.launchArgs.flatMap _ = last at calls ⊢
  simp only [List.cons_append, List.nil_append]
  rw [launch?_goesOn _ echo, launch?_goesOn _ page, launch?_goesOn _ title,
    launch?_goesOn _ executable, launch?_goesOn _ (workingDir _), launch?_entries _ assigns,
    ← prepared_eq]
  rw [launch?_goesOn _ changes, launch?_starts _ calls]
  rfl

end launches

/-- A rendered script hands over to a program with the arguments of the config, in their order. It
launches the bot as configured exactly if no two values were assigned to one name. In a shell that
is so unless a variable of the config has the name of one of the paths and another value. -/
theorem rendered_script_launches_iff (config : InstanceConfig) (session : Session) (text : String) :
    (render config .shellScript .unix = .ok text → ∃ started,
      shellLaunch? session text = some started ∧ started.arguments = config.launchArgs ∧
      (AsConfigured started config ↔
        (∀ value, config.launchEnv.get? "BOT_EXECUTABLE" = some value → value = config.executable) ∧
        ∀ value, config.launchEnv.get? "BOT_WORKDIR" = some value → value = config.workingDir)) ∧
    (render config .batchFile .windows = .ok text → ∀ fold, ∃ started,
      batchLaunch? fold session text = some started ∧ started.arguments = config.launchArgs ∧
      (AsConfigured started config ↔ Undisturbed fold config)) := by
  constructor
  · intro rendered
    obtain ⟨passes, passed, launches⟩ := shellLaunch?_render session rendered
    exact ⟨_, launches, rfl, (comesTo_asConfigured_iff id session passed).trans undisturbed_id_iff⟩
  · intro rendered fold
    exact ⟨_, batchLaunch?_render session rendered fold, rfl,
      comesTo_asConfigured_iff fold session fun _ _ => rfl⟩

def bareSession : Session where
  value? := fun _ => none
  passesOn := fun _ => false
  directory := "/"

def quotedConfig : InstanceConfig where
  accountId := 100001
  name := "main"
  executable := "/home/o'neil/bot 1/run"
  args := ["--say=it's $HOME", ""]
  workingDir := "/home/o'neil/100%"
  env := .ofList [("TZ", "Asia/Shanghai")]

/-- A folding of names in which case means nothing. -/
def upperCase (name : String) : String :=
  .ofList (name.toList.map Char.toUpper)

theorem quoted_script_launches :
    (∃ text started, render quotedConfig .shellScript .unix = .ok text ∧
      shellLaunch? bareSession text = some started ∧ AsConfigured started quotedConfig) ∧
    ∃ text started, render quotedConfig .batchFile .windows = .ok text ∧
      batchLaunch? upperCase bareSession text = some started ∧
      AsConfigured started quotedConfig := by
  constructor
  · obtain ⟨text, rendered⟩ : ∃ text, render quotedConfig .shellScript .unix = .ok text :=
      exists_render rfl (by decide +kernel)
    obtain ⟨started, launches, _, configured⟩ :=
      (rendered_script_launches_iff quotedConfig bareSession _).1 rendered
    have none : quotedConfig.launchEnv.get? "BOT_EXECUTABLE" = none ∧
        quotedConfig.launchEnv.get? "BOT_WORKDIR" = none := by decide +kernel
    refine ⟨_, started, rendered, launches, configured.mpr ⟨?_, ?_⟩⟩
    · simp [none.1]
    · simp [none.2]
  · obtain ⟨text, rendered⟩ : ∃ text, render quotedConfig .batchFile .windows = .ok text :=
      exists_render rfl (by decide +kernel)
    obtain ⟨started, launches, _, configured⟩ :=
      (rendered_script_launches_iff quotedConfig bareSession _).2 rendered upperCase
    have undisturbed : Undisturbed upperCase quotedConfig := by
      unfold Undisturbed
      decide +kernel
    exact ⟨_, started, rendered, launches, configured.mpr undisturbed⟩

/-- A variable of the bot with the name of the script's own variable for the directory. -/
def redirectedConfig : InstanceConfig where
  accountId := 100001
  name := "main"
  executable := "/opt/bot"
  workingDir := "/opt"
  env := .ofList [("BOT_WORKDIR", "/tmp")]

theorem redirected_script_changes_elsewhere : ∃ text started,
    render redirectedConfig .shellScript .unix = .ok text ∧
    shellLaunch? bareSession text = some started ∧ started.directory = "/tmp" ∧
    started.directory ≠ redirectedConfig.workingDir := by
  obtain ⟨text, rendered⟩ : ∃ text, render redirectedConfig .shellScript .unix = .ok text :=
    exists_render rfl (by decide +kernel)
  obtain ⟨passes, _, launches⟩ := shellLaunch?_render bareSession rendered
  have directory : (comesTo id passes bareSession redirectedConfig).directory = "/tmp" := by
    have last : ((prepared id bareSession redirectedConfig).value? "BOT_WORKDIR").getD "" = "/tmp" := by
      decide +kernel
    exact last
  exact ⟨_, _, rendered, launches, directory, by rw [directory]; decide⟩

end BotKeeper.Proofs
