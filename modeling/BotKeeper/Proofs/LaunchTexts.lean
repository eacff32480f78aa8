import BotKeeper.Launch
import BotKeeper.Proofs.IntervalText
import BotKeeper.Proofs.Rendering

/-! What a launch hands to the system. Texts with a NUL in them cannot be handed over, and neither
can a variable without a proper name. The check of a config sees to the names and to the values
that the config gives them itself, but it does not look at the texts that a launch adds to these.
Main statement: which parts of a config it would have to look at as well. -/

namespace BotKeeper.Proofs

def NulFree (text : String) : Prop :=
  '\x00' ∉ text.toList

instance (text : String) : Decidable (NulFree text) :=
  inferInstanceAs (Decidable ('\x00' ∉ text.toList))

structure VariableName (name : String) : Prop where
  nonempty : name ≠ ""
  unassigned : '=' ∉ name.toList
  nulFree : NulFree name

/-- A config of which the system takes all that is handed over at a launch. -/
structure WellFormed (config : InstanceConfig) : Prop where
  executable : NulFree config.executable
  workingDir : NulFree config.workingDir
  args : ∀ arg ∈ config.launchArgs, NulFree arg
  names : ∀ entry ∈ config.launchEnv.entries, VariableName entry.1
  values : ∀ entry ∈ config.launchEnv.entries, NulFree entry.2

/-- A variable of a launch that the config does not set itself has a text that the system takes. -/
def Derives (config : InstanceConfig) (name text : String) : Prop :=
  config.env.get? name = none → NulFree text

/-- The texts of a config that get into a launch and are not checked. -/
structure Unspoiled (config : InstanceConfig) : Prop where
  executable : NulFree config.executable
  workingDir : NulFree config.workingDir
  args : ∀ arg ∈ config.args, NulFree arg
  secret : Derives config "BOT_SECRET" config.connection.secret
  httpHost : config.connection.http.enable = true →
    Derives config "BOT_HTTP_HOST" config.connection.http.host
  webSocketHost : config.connection.websocket.enable = true →
    Derives config "BOT_WS_HOST" config.connection.websocket.host

variable {config : InstanceConfig} {name value : String}

section texts

theorem hasNul_eq_false : hasNul value = false ↔ NulFree value := by
  simp [hasNul, NulFree]

theorem nulFree_decimal (amount : Nat) : NulFree (toString amount) := by
  intro member
  have digit : '\x00' ∈ Nat.toDigits 10 amount := by simpa using member
  exact absurd (isDigit_toDigits digit) (by decide)

theorem nulFree_flag (on : Bool) : NulFree (InstanceConfig.flag on) := by
  cases on <;> decide

private theorem nulFree_level (level : LogLevel) : NulFree level.name := by
  cases level <;> decide

private theorem variableName_iff : VariableName name ↔
    (name.isEmpty || name.toList.contains '=' || hasNul name) = false := by
  simp only [Bool.or_eq_false_iff, hasNul_eq_false]
  constructor
  · intro proper
    simp [proper.nonempty, proper.unassigned, proper.nulFree]
  · rintro ⟨⟨nonempty, unassigned⟩, nulFree⟩
    exact ⟨by simpa using nonempty, by simpa using unassigned, nulFree⟩

instance (name : String) : Decidable (VariableName name) :=
  decidable_of_iff' _ variableName_iff

end texts

section checked

theorem passed_first {ε : Type} {first rest : Except ε Unit}
    (passed : (first >>= fun _ => rest) = .ok ()) : first = .ok () ∧ rest = .ok () := by
  cases first with
  | error fault => cases passed
  | ok nothing => exact ⟨rfl, passed⟩

private theorem checkVariable_ok_iff {key value : String} :
    checkVariable key value = .ok () ↔ VariableName key ∧ NulFree value := by
  rw [variableName_iff, ← hasNul_eq_false]
  unfold checkVariable require
  cases key.isEmpty || key.toList.contains '=' || hasNul key <;> cases hasNul value <;>
    simp [bind, Except.bind]

private theorem require_ok_iff {condition : Bool} {fault : ConfigFault} :
    require condition fault = .ok () ↔ condition = true := by
  cases condition <;> simp [require]

/-- What the check sees to behind the paths and the endpoints of a config. -/
theorem checked_parts (valid : config.validate = .ok ()) :
    (config.env.entries.forM fun (key, value) => checkVariable key value) = .ok () ∧
      config.autoRestart.jitterSecs.toNat ≤ maxJitterSecs ∧
      config.autoRestart.interval.seconds ≤ maxRestartIntervalDays * TimeUnit.day.seconds := by
  obtain ⟨_, rest⟩ := passed_first valid
  obtain ⟨_, rest⟩ := passed_first rest
  obtain ⟨_, rest⟩ := passed_first rest
  obtain ⟨_, rest⟩ := passed_first rest
  obtain ⟨_, rest⟩ := passed_first rest
  obtain ⟨assigned, rest⟩ := passed_first rest
  obtain ⟨jitter, interval⟩ := passed_first rest
  exact ⟨assigned, of_decide_eq_true (require_ok_iff.mp jitter),
    of_decide_eq_true (require_ok_iff.mp interval)⟩

/-- What the check sees to in the variables that a config gives itself. -/
theorem checked_variables (valid : config.validate = .ok ()) :
    ∀ entry ∈ config.env.entries, VariableName entry.1 ∧ NulFree entry.2 := by
  obtain ⟨assigned, _⟩ := checked_parts valid
  intro entry member
  exact checkVariable_ok_iff.mp ((forM_ok_iff _ _).mp assigned entry member)

end checked

section derived

/-- A variable of a launch is one of the config itself, or else a derived one. -/
theorem get?_launchEnv : config.launchEnv.get? name =
    (config.env.get? name).or (config.derivedVariables.reverse.lookup name) := by
  rw [InstanceConfig.launchEnv, OrderedMap.get?_ofList, List.reverse_append, List.lookup_append,
    ← OrderedMap.get?_ofList, OrderedMap.ofList_entries]

/-- Of the derived variables only three have a text that somebody has chosen. -/
theorem derived_variable (derived : (name, value) ∈ config.derivedVariables) :
    VariableName name ∧
      (NulFree value ∨ name = "BOT_SECRET" ∧ value = config.connection.secret ∨
        (config.connection.http.enable = true ∧
          name = "BOT_HTTP_HOST" ∧ value = config.connection.http.host) ∨
        config.connection.websocket.enable = true ∧
          name = "BOT_WS_HOST" ∧ value = config.connection.websocket.host) := by
  simp only [InstanceConfig.derivedVariables, InstanceConfig.endpointVariables, List.mem_append,
    List.mem_cons, List.mem_ite_nil_left, List.mem_ite_nil_right, List.not_mem_nil, or_false,
    Prod.mk.injEq] at derived
  rcases derived with ((settled | ⟨_, rfl, rfl⟩) | ⟨enabled, host | port⟩) | ⟨enabled, host | port⟩
  · rcases settled with ⟨rfl, rfl⟩ | ⟨rfl, rfl⟩ | ⟨rfl, rfl⟩ | ⟨rfl, rfl⟩ | ⟨rfl, rfl⟩ | ⟨rfl, rfl⟩ |
      ⟨rfl, rfl⟩
    · exact ⟨by decide, .inl (nulFree_decimal _)⟩
    · exact ⟨by decide, .inl (nulFree_flag _)⟩
    · exact ⟨by decide, .inl (nulFree_flag _)⟩
    · exact ⟨by decide, .inl (nulFree_level _)⟩
    · exact ⟨by decide, .inl (nulFree_flag _)⟩
    · exact ⟨by decide, .inl (nulFree_level _)⟩
    · exact ⟨by decide, .inl (nulFree_decimal _)⟩
  · exact ⟨by decide, .inr (.inl ⟨rfl, rfl⟩)⟩
  · exact ⟨by rw [host.1]; decide, .inr (.inr (.inl ⟨enabled, host⟩))⟩
  · exact ⟨by rw [port.1]; decide, .inl (by rw [port.2]; exact nulFree_decimal _)⟩
  · exact ⟨by rw [host.1]; decide, .inr (.inr (.inr ⟨enabled, host⟩))⟩
  · exact ⟨by rw [port.1]; decide, .inl (by rw [port.2]; exact nulFree_decimal _)⟩

private theorem derived_of_lookup (found : config.derivedVariables.reverse.lookup name = some value) :
    (name, value) ∈ config.derivedVariables := by
  obtain ⟨before, after, same, _⟩ := List.lookup_eq_some_iff.mp found
  rw [← List.mem_reverse, same]
  exact List.mem_append_right before List.mem_cons_self

/-- Where a variable of a launch has its value from. -/
theorem launch_variable (member : (name, value) ∈ config.launchEnv.entries) :
    (name, value) ∈ config.env.entries ∨
      config.env.get? name = none ∧ (name, value) ∈ config.derivedVariables := by
  have present := (OrderedMap.mem_entries _ _ _).mp member
  rw [get?_launchEnv] at present
  cases own : config.env.get? name with
  | some given =>
    rw [own, Option.some_or] at present
    exact .inl ((OrderedMap.mem_entries _ _ _).mpr (own.trans present))
  | none =>
    rw [own, Option.none_or] at present
    exact .inr ⟨rfl, derived_of_lookup present⟩

/-- A derived variable is handed over as it is, unless the config gives it another value. -/
theorem derived_listed (unset : config.env.get? name = none)
    (found : config.derivedVariables.reverse.lookup name = some value) :
    (name, value) ∈ config.launchEnv.entries := by
  rw [OrderedMap.mem_entries, get?_launchEnv, unset, Option.none_or, found]

private theorem lookup_secret (chosen : config.connection.secret ≠ "") :
    config.derivedVariables.reverse.lookup "BOT_SECRET" = some config.connection.secret := by
  have present : config.connection.secret.isEmpty = false := by simpa using chosen
  cases http : config.connection.http.enable <;> cases websocket : config.connection.websocket.enable <;>
    simp [InstanceConfig.derivedVariables, InstanceConfig.endpointVariables, *, List.lookup_cons]

private theorem lookup_httpHost (enabled : config.connection.http.enable = true) :
    config.derivedVariables.reverse.lookup "BOT_HTTP_HOST" = some config.connection.http.host := by
  cases websocket : config.connection.websocket.enable <;>
    simp [InstanceConfig.derivedVariables, InstanceConfig.endpointVariables, *, List.lookup_cons]

private theorem lookup_webSocketHost (enabled : config.connection.websocket.enable = true) :
    config.derivedVariables.reverse.lookup "BOT_WS_HOST" =
      some config.connection.websocket.host := by
  simp [InstanceConfig.derivedVariables, InstanceConfig.endpointVariables, *, List.lookup_cons]

end derived

section launch

/-- The names of a launch are always proper ones. -/
theorem launch_names (valid : config.validate = .ok ()) :
    ∀ entry ∈ config.launchEnv.entries, VariableName entry.1 := by
  rintro ⟨name, value⟩ member
  rcases launch_variable member with own | ⟨_, derived⟩
  · exact (checked_variables valid _ own).1
  · exact (derived_variable derived).1

private theorem launch_values (valid : config.validate = .ok ()) (unspoiled : Unspoiled config) :
    ∀ entry ∈ config.launchEnv.entries, NulFree entry.2 := by
  rintro ⟨name, value⟩ member
  rcases launch_variable member with own | ⟨unset, derived⟩
  · exact (checked_variables valid _ own).2
  · rcases (derived_variable derived).2 with
      nulFree | ⟨rfl, rfl⟩ | ⟨enabled, rfl, rfl⟩ | ⟨enabled, rfl, rfl⟩
    · exact nulFree
    · exact unspoiled.secret unset
    · exact unspoiled.httpHost enabled unset
    · exact unspoiled.webSocketHost enabled unset

private theorem wellFormed_of_unspoiled (valid : config.validate = .ok ())
    (unspoiled : Unspoiled config) : WellFormed config where
  executable := unspoiled.executable
  workingDir := unspoiled.workingDir
  args := by
    intro arg member
    simp only [InstanceConfig.launchArgs, List.mem_append, List.mem_cons, List.not_mem_nil,
      or_false] at member
    rcases member with own | rfl | rfl
    · exact unspoiled.args arg own
    · decide
    · exact nulFree_decimal config.accountId.toNat
  names := launch_names valid
  values := launch_values valid unspoiled

private theorem unspoiled_of_wellFormed (wellFormed : WellFormed config) : Unspoiled config where
  executable := wellFormed.executable
  workingDir := wellFormed.workingDir
  args := fun arg member => wellFormed.args arg (List.mem_append_left _ member)
  secret := by
    intro unset
    by_cases chosen : config.connection.secret = ""
    · rw [chosen]
      decide
    · exact wellFormed.values _ (derived_listed unset (lookup_secret chosen))
  httpHost := fun enabled unset =>
    wellFormed.values _ (derived_listed unset (lookup_httpHost enabled))
  webSocketHost := fun enabled unset =>
    wellFormed.values _ (derived_listed unset (lookup_webSocketHost enabled))

/-- What the system refuses at a launch. -/
theorem holdsNul_eq_false_iff : Host.holdsNul config = false ↔
    NulFree config.executable ∧ NulFree config.workingDir ∧
      (∀ arg ∈ config.launchArgs, NulFree arg) ∧
      ∀ entry ∈ config.launchEnv.entries, NulFree entry.1 ∧ NulFree entry.2 := by
  simp [Host.holdsNul, ← hasNul_eq_false, and_assoc]

private theorem launch_refused (host : Host) (files : FileTree) (held : Host.holdsNul config = true) :
    host.launch files config = .error .nulInData := by
  simp [Host.launch, held, bind, Except.bind]

/-- All variables of a launch of a checked config have proper names, and those that the config
gives itself have values that the system takes. All that is handed over is well formed exactly
if the texts that the check passes over hold no NUL; else no host launches the config. -/
theorem checked_config_wellFormed_iff (valid : config.validate = .ok ()) :
    (∀ entry ∈ config.launchEnv.entries, VariableName entry.1) ∧
      (∀ entry ∈ config.env.entries, NulFree entry.2) ∧
      (WellFormed config ↔ Unspoiled config) ∧
      (¬WellFormed config → ∀ (host : Host) (files : FileTree),
        host.launch files config = .error .nulInData) := by
  refine ⟨launch_names valid, fun entry member => (checked_variables valid entry member).2,
    ⟨unspoiled_of_wellFormed, wellFormed_of_unspoiled valid⟩, fun spoiled host files => ?_⟩
  refine launch_refused host files (Bool.eq_false_imp_eq_true.mp fun free => ?_)
  obtain ⟨executable, workingDir, args, assigned⟩ := holdsNul_eq_false_iff.mp free
  exact (spoiled ⟨executable, workingDir, args, launch_names valid, fun entry member =>
    (assigned entry member).2⟩).elim

def spoiledSecret (env : Environment) : InstanceConfig where
  accountId := 100001
  executable := "/opt/napbot"
  workingDir := "/opt"
  env := env
  connection := {
    secret := "open\x00sesame"
    http := { enable := true, host := "127.0.0.1", port := 3000 } }

/-- The secret does not get into the launch where the config gives another one itself. -/
theorem overridden_secret_is_wellFormed :
    (spoiledSecret (.ofList [("BOT_SECRET", "sesame")])).validate = .ok () ∧
      WellFormed (spoiledSecret (.ofList [("BOT_SECRET", "sesame")])) := by
  have valid : (spoiledSecret (.ofList [("BOT_SECRET", "sesame")])).validate = .ok () := by decide
  have unspoiled : Unspoiled (spoiledSecret (.ofList [("BOT_SECRET", "sesame")])) := {
    executable := by decide
    workingDir := by decide
    args := by decide
    secret := by
      intro unset
      exact absurd unset (by decide)
    httpHost := fun _ _ => by decide
    webSocketHost := by
      intro enabled
      exact absurd enabled (by decide) }
  exact ⟨valid, (checked_config_wellFormed_iff valid).2.2.1.mpr unspoiled⟩

/-- Where the config gives no other secret, it is accepted all the same, and cannot be launched. -/
theorem spoiled_secret_is_accepted :
    (spoiledSecret .empty).validate = .ok () ∧ ¬WellFormed (spoiledSecret .empty) ∧
      ∀ (host : Host) (files : FileTree),
        host.launch files (spoiledSecret .empty) = .error .nulInData := by
  refine ⟨by decide, fun wellFormed => ?_, fun host files => launch_refused host files (by decide)⟩
  have listed : ("BOT_SECRET", "open\x00sesame") ∈ (spoiledSecret .empty).launchEnv.entries := by
    decide
  exact absurd (wellFormed.values _ listed) (by decide)

end launch

end BotKeeper.Proofs
