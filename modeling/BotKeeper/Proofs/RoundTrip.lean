import BotKeeper.Codec.Config
import BotKeeper.Codec.Lifecycle
import BotKeeper.Codec.Settings
import BotKeeper.Proofs.IntervalText
import BotKeeper.Proofs.Layouts
import BotKeeper.Script.Target

/-! What is written of a value is read back as that value. A record may be given in every form
that a document has for it, at each level of its own; the fields that were left out have their
defaults then, and nothing else has changed. -/

namespace BotKeeper.Proofs
open Codec

section scalars

@[simp] theorem uint16?_ofNat (word : UInt16) : (Value.ofNat word.toNat).uint16? = some word := by
  simp [Value.uint16?, Value.ofNat, Value.natBelow?, word.toNat_lt]

@[simp] theorem uint32?_ofNat (word : UInt32) : (Value.ofNat word.toNat).uint32? = some word := by
  simp [Value.uint32?, Value.ofNat, Value.natBelow?, word.toNat_lt]

@[simp] theorem uint64?_ofNat (word : UInt64) : (Value.ofNat word.toNat).uint64? = some word := by
  simp [Value.uint64?, Value.ofNat, Value.natBelow?, word.toNat_lt]

@[simp] theorem int32?_int (code : Int32) : (Value.int code.toInt).int32? = some code := by
  have inside : Int32.minValue.toInt ≤ code.toInt ∧ code.toInt ≤ Int32.maxValue.toInt :=
    ⟨code.minValue_le_toInt, code.toInt_le⟩
  simp only [Value.int32?, if_pos inside, Int32.ofInt_toInt]

@[simp] theorem strings_read (texts : List String) :
    (Value.ofStrings texts).list? Value.string? = some texts := by
  have each : Value.string? ∘ Value.str = fun text => pure text := rfl
  rw [Value.ofStrings, Value.list?, List.mapM_map, each, List.mapM_pure, List.map_id']
  rfl

@[simp] theorem interval_read (interval : Interval) : Interval.decode? interval.encode = some interval := by
  simp [Interval.decode?, Interval.encode, Value.string?, parse_text, Except.toOption]

@[simp] theorem level_read (level : LogLevel) : LogLevel.decode? level.encode = some level := by
  cases level <;> rfl

@[simp] theorem phase_read (phase : Phase) : Phase.decode? phase.encode = some phase := by
  cases phase <;> rfl

@[simp] theorem target_read (target : ScriptTarget) :
    ScriptTarget.decode? target.encode = some target := by
  cases target <;> rfl

@[simp] theorem environment_read (env : Environment) :
    Environment.decode? (Environment.encode env) = some env := by
  have entries : (Environment.encode env).entries? Value.string? = some env.entries := by
    have each : (fun entry : String × Value => (Value.string? entry.2).map (entry.1, ·)) ∘
        (fun entry : String × String => (entry.1, Value.str entry.2)) = fun entry => pure entry :=
      rfl
    rw [Environment.encode, Value.entries?, List.mapM_map, each, List.mapM_pure, List.map_id']
    rfl
  rw [Environment.decode?, entries, Option.map_some, OrderedMap.ofList_entries]

end scalars

/-! The forms of the records, one for each record that a document of the kind may hold, and what
is read from them. -/

structure ConnectionLayout where
  record : Layout
  http : Layout
  websocket : Layout

structure ConfigLayout where
  record : Layout
  connection : ConnectionLayout
  advanced : Layout
  autoRestart : Layout

structure SettingsLayout where
  record : Layout
  restartPolicy : Layout

def ConnectionLayout.whole : ConnectionLayout :=
  ⟨.whole, .whole, .whole⟩

def ConnectionLayout.arrays : ConnectionLayout :=
  ⟨.array, .array, .array⟩

def ConfigLayout.whole : ConfigLayout :=
  ⟨.whole, .whole, .whole, .whole⟩

def ConfigLayout.arrays : ConfigLayout :=
  ⟨.array, .arrays, .array, .array⟩

def SettingsLayout.whole : SettingsLayout :=
  ⟨.whole, .whole⟩

def SettingsLayout.arrays : SettingsLayout :=
  ⟨.array, .array⟩

def ConnectionLayout.rewrite (layout : ConnectionLayout) : Value → Value :=
  layout.record.rewrite [] fun
    | "http" => layout.http.rewrite [] asWritten
    | "websocket" => layout.websocket.rewrite [] asWritten
    | _ => id

def ConfigLayout.rewrite (layout : ConfigLayout) : Value → Value :=
  layout.record.rewrite ["account_id", "executable", "working_dir"] fun
    | "connection" => layout.connection.rewrite
    | "advanced" => layout.advanced.rewrite [] asWritten
    | "auto_restart" => layout.autoRestart.rewrite [] asWritten
    | _ => id

def SettingsLayout.rewrite (layout : SettingsLayout) : Value → Value :=
  layout.record.rewrite [] fun
    | "restart_policy" => layout.restartPolicy.rewrite [] asWritten
    | _ => id

def endpointIn (layout : Layout) (endpoint : Endpoint) : Endpoint where
  enable := layout.keep "enable" ({} : Endpoint).enable endpoint.enable
  host := layout.keep "host" ({} : Endpoint).host endpoint.host
  port := layout.keep "port" ({} : Endpoint).port endpoint.port

def connectionIn (layout : ConnectionLayout) (connection : ConnectionSettings) :
    ConnectionSettings where
  http := layout.record.keep "http" {} (endpointIn layout.http connection.http)
  websocket := layout.record.keep "websocket" {} (endpointIn layout.websocket connection.websocket)
  secret := layout.record.keep "secret" ({} : ConnectionSettings).secret connection.secret
  heartbeatIntervalMs := layout.record.keep "heartbeat_interval_ms"
    ({} : ConnectionSettings).heartbeatIntervalMs connection.heartbeatIntervalMs

def advancedIn (layout : Layout) (advanced : AdvancedSettings) : AdvancedSettings where
  debug := layout.keep "debug" ({} : AdvancedSettings).debug advanced.debug
  fileLog := layout.keep "file_log" ({} : AdvancedSettings).fileLog advanced.fileLog
  consoleLog := layout.keep "console_log" ({} : AdvancedSettings).consoleLog advanced.consoleLog
  fileLogLevel := layout.keep "file_log_level" ({} : AdvancedSettings).fileLogLevel
    advanced.fileLogLevel
  consoleLogLevel := layout.keep "console_log_level" ({} : AdvancedSettings).consoleLogLevel
    advanced.consoleLogLevel

def scheduleIn (layout : Layout) (schedule : AutoRestartSchedule) : AutoRestartSchedule where
  enable := layout.keep "enable" ({} : AutoRestartSchedule).enable schedule.enable
  interval := layout.keep "interval" ({} : AutoRestartSchedule).interval schedule.interval
  jitterSecs := layout.keep "jitter_secs" ({} : AutoRestartSchedule).jitterSecs schedule.jitterSecs

def configIn (layout : ConfigLayout) (config : InstanceConfig) : InstanceConfig where
  accountId := config.accountId
  name := layout.record.keep "name" "" config.name
  executable := config.executable
  args := layout.record.keep "args" [] config.args
  workingDir := config.workingDir
  env := layout.record.keep "env" .empty config.env
  connection := layout.record.keep "connection" {} (connectionIn layout.connection config.connection)
  advanced := layout.record.keep "advanced" {} (advancedIn layout.advanced config.advanced)
  autoRestart := layout.record.keep "auto_restart" {}
    (scheduleIn layout.autoRestart config.autoRestart)

def policyIn (layout : Layout) (policy : RestartPolicy) : RestartPolicy where
  maxRestarts := layout.keep "max_restarts" ({} : RestartPolicy).maxRestarts policy.maxRestarts
  windowSecs := layout.keep "window_secs" ({} : RestartPolicy).windowSecs policy.windowSecs

def settingsIn (layout : SettingsLayout) (settings : KeeperSettings) : KeeperSettings where
  gracefulTimeoutSecs := layout.record.keep "graceful_shutdown_timeout_secs"
    ({} : KeeperSettings).gracefulTimeoutSecs settings.gracefulTimeoutSecs
  eventCapacity := layout.record.keep "event_capacity" ({} : KeeperSettings).eventCapacity
    settings.eventCapacity
  outputHistoryLines := layout.record.keep "output_history_lines"
    ({} : KeeperSettings).outputHistoryLines settings.outputHistoryLines
  restartPolicy := layout.record.keep "restart_policy" {}
    (policyIn layout.restartPolicy settings.restartPolicy)

/-- The fields without which an event or a notice is not read. -/
def indispensable : List String :=
  ["kind", "payload", "message", "account_id", "attempt", "reason", "restarts"]

/-- Only an exit code may be left out of an event or a notice. -/
def eventIn (layout : Layout) : LifecycleEvent → LifecycleEvent
  | .processExited code => .processExited (layout.keep "code" none code)
  | event => event

def noticeIn (layout : Layout) : Notice → Notice
  | .startFailed code => .startFailed (layout.keep "code" none code)
  | .unexpectedExit code => .unexpectedExit (layout.keep "code" none code)
  | notice => notice

section records

variable {layout : Layout}

@[simp] theorem endpoint_read (endpoint : Endpoint) :
    Endpoint.decode? (layout.rewrite [] asWritten endpoint.encode) =
      some (endpointIn layout endpoint) := by
  simp [Endpoint.decode?, Endpoint.encode, Endpoint.fieldNames, fields?_write .refused,
    List.lookup_cons, asWritten, Value.bool?, Value.string?, endpointIn]

@[simp] theorem connection_read (layout : ConnectionLayout) (connection : ConnectionSettings) :
    ConnectionSettings.decode? (layout.rewrite connection.encode) =
      some (connectionIn layout connection) := by
  simp [ConnectionSettings.decode?, ConnectionSettings.encode, ConnectionSettings.fieldNames,
    ConnectionLayout.rewrite, fields?_write .refused, List.lookup_cons, Value.string?, connectionIn]

@[simp] theorem advanced_read (advanced : AdvancedSettings) :
    AdvancedSettings.decode? (layout.rewrite [] asWritten advanced.encode) =
      some (advancedIn layout advanced) := by
  simp [AdvancedSettings.decode?, AdvancedSettings.encode, AdvancedSettings.fieldNames,
    fields?_write .refused, List.lookup_cons, asWritten, Value.bool?, advancedIn]

@[simp] theorem schedule_read (schedule : AutoRestartSchedule) :
    AutoRestartSchedule.decode? (layout.rewrite [] asWritten schedule.encode) =
      some (scheduleIn layout schedule) := by
  simp [AutoRestartSchedule.decode?, AutoRestartSchedule.encode, AutoRestartSchedule.fieldNames,
    fields?_write .refused, List.lookup_cons, asWritten, Value.bool?, scheduleIn]

private theorem config_read (layout : ConfigLayout) (config : InstanceConfig) :
    InstanceConfig.decode? (layout.rewrite config.encode) = some (configIn layout config) := by
  simp [InstanceConfig.decode?, InstanceConfig.encode, InstanceConfig.fieldNames,
    ConfigLayout.rewrite, fields?_write .refused, List.lookup_cons, Value.string?, configIn]

@[simp] theorem policy_read (surplus : Surplus) (policy : RestartPolicy) :
    RestartPolicy.decode? surplus (layout.rewrite [] asWritten policy.encode) =
      some (policyIn layout policy) := by
  simp [RestartPolicy.decode?, RestartPolicy.encode, RestartPolicy.fieldNames,
    fields?_write surplus, List.lookup_cons, asWritten, policyIn]

private theorem settings_read (surplus : Surplus) (layout : SettingsLayout)
    (settings : KeeperSettings) : KeeperSettings.decode? surplus (layout.rewrite settings.encode) =
      some (settingsIn layout settings) := by
  simp [KeeperSettings.decode?, KeeperSettings.encode, KeeperSettings.fieldNames,
    SettingsLayout.rewrite, fields?_write surplus, List.lookup_cons, settingsIn]

@[simp] theorem code_read {needed : List String} {kind : String}
    (free : needed.contains "code" = false) (code : Option Int32) :
    (layout.told needed kind [("code", encodeCode code)]).nullable "code" Value.int32? =
      some (layout.keep "code" none code) :=
  nullable_told free (by decide) rfl nofun int32?_int

private theorem event_read (event : LifecycleEvent) :
    LifecycleEvent.decode? (layout.rewrite indispensable asWritten event.encode) =
      some (eventIn layout event) := by
  cases event <;>
    simp [LifecycleEvent.decode?, LifecycleEvent.encode, fields?_rest .refused, asWritten,
      Value.string?, eventIn, indispensable]

private theorem notice_read (notice : Notice) :
    Notice.decode? (layout.rewrite indispensable asWritten notice.encode) =
      some (noticeIn layout notice) := by
  cases notice <;>
    simp [Notice.decode?, Notice.encode, fields?_rest .refused, List.lookup_cons, asWritten,
      Value.string?, noticeIn, indispensable]

end records

/-- Documents of one kind are read as what they say. A value is read back from what is written
of it, and from the values alone if all its records are given so. In any other form as well,
what a document leaves out has its default, and the rest is as it was. -/
structure ReadBack {Form : Type} (encode : α → Value) (decode? : Value → Option α)
    (rewrite : Form → Value → Value) (left : Form → α → α) (arrays : Form) : Prop where
  written : ∀ value, decode? (encode value) = some value
  listed : ∀ value, decode? (rewrite arrays (encode value)) = some value
  formed : ∀ form value, decode? (rewrite form (encode value)) = some (left form value)

theorem readBack_of_formed {Form : Type} {encode : α → Value} {decode? : Value → Option α}
    {rewrite : Form → Value → Value} {left : Form → α → α} {arrays : Form} (whole : Form)
    (formed : ∀ form value, decode? (rewrite form (encode value)) = some (left form value))
    (same : ∀ value, rewrite whole (encode value) = encode value)
    (keeps : ∀ value, left whole value = value) (lists : ∀ value, left arrays value = value) :
    ReadBack encode decode? rewrite left arrays where
  written value := by
    have read := formed whole value
    rwa [same, keeps] at read
  listed value := by rw [formed, lists]
  formed := formed

section whole

@[simp] theorem endpoint_whole (endpoint : Endpoint) :
    Layout.whole.rewrite [] asWritten endpoint.encode = endpoint.encode := by
  simp [Endpoint.encode, asWritten]

@[simp] theorem connection_whole (connection : ConnectionSettings) :
    ConnectionLayout.whole.rewrite connection.encode = connection.encode := by
  simp [ConnectionSettings.encode, ConnectionLayout.rewrite, ConnectionLayout.whole]

@[simp] theorem advanced_whole (advanced : AdvancedSettings) :
    Layout.whole.rewrite [] asWritten advanced.encode = advanced.encode := by
  simp [AdvancedSettings.encode, asWritten]

@[simp] theorem schedule_whole (schedule : AutoRestartSchedule) :
    Layout.whole.rewrite [] asWritten schedule.encode = schedule.encode := by
  simp [AutoRestartSchedule.encode, asWritten]

private theorem config_whole (config : InstanceConfig) :
    ConfigLayout.whole.rewrite config.encode = config.encode := by
  simp [InstanceConfig.encode, ConfigLayout.rewrite, ConfigLayout.whole]

@[simp] theorem policy_whole (policy : RestartPolicy) :
    Layout.whole.rewrite [] asWritten policy.encode = policy.encode := by
  simp [RestartPolicy.encode, asWritten]

private theorem settings_whole (settings : KeeperSettings) :
    SettingsLayout.whole.rewrite settings.encode = settings.encode := by
  simp [KeeperSettings.encode, SettingsLayout.rewrite, SettingsLayout.whole]

private theorem event_whole (event : LifecycleEvent) :
    Layout.whole.rewrite indispensable asWritten event.encode = event.encode := by
  cases event <;> simp [LifecycleEvent.encode, asWritten]

private theorem notice_whole (notice : Notice) :
    Layout.whole.rewrite indispensable asWritten notice.encode = notice.encode := by
  cases notice <;> simp [Notice.encode, asWritten]

end whole

/-- Everything that a document can hold is read back as it was written, in each of its forms. -/
theorem documents_read_back (surplus : Surplus) :
    ReadBack InstanceConfig.encode InstanceConfig.decode? ConfigLayout.rewrite configIn .arrays ∧
    ReadBack ConnectionSettings.encode ConnectionSettings.decode? ConnectionLayout.rewrite
      connectionIn .arrays ∧
    ReadBack Endpoint.encode Endpoint.decode? (Layout.rewrite · [] asWritten) endpointIn .array ∧
    ReadBack AdvancedSettings.encode AdvancedSettings.decode? (Layout.rewrite · [] asWritten)
      advancedIn .array ∧
    ReadBack AutoRestartSchedule.encode AutoRestartSchedule.decode?
      (Layout.rewrite · [] asWritten) scheduleIn .array ∧
    ReadBack KeeperSettings.encode (KeeperSettings.decode? surplus) SettingsLayout.rewrite
      settingsIn .arrays ∧
    ReadBack RestartPolicy.encode (RestartPolicy.decode? surplus) (Layout.rewrite · [] asWritten)
      policyIn .array ∧
    ReadBack LifecycleEvent.encode LifecycleEvent.decode?
      (Layout.rewrite · indispensable asWritten) eventIn .array ∧
    ReadBack Notice.encode Notice.decode? (Layout.rewrite · indispensable asWritten) noticeIn
      .array ∧
    (∀ level : LogLevel, LogLevel.decode? level.encode = some level) ∧
    (∀ phase : Phase, Phase.decode? phase.encode = some phase) ∧
    (∀ target : ScriptTarget, ScriptTarget.decode? target.encode = some target) := by
  refine ⟨?config, ?connection, ?endpoint, ?advanced, ?schedule, ?settings, ?policy, ?event,
    ?notice, level_read, phase_read, target_read⟩
  case config =>
    exact readBack_of_formed .whole config_read config_whole (fun _ => rfl) fun _ => rfl
  case connection =>
    exact readBack_of_formed .whole connection_read connection_whole (fun _ => rfl) fun _ => rfl
  case endpoint =>
    exact readBack_of_formed .whole (fun _ => endpoint_read) endpoint_whole (fun _ => rfl)
      fun _ => rfl
  case advanced =>
    exact readBack_of_formed .whole (fun _ => advanced_read) advanced_whole (fun _ => rfl)
      fun _ => rfl
  case schedule =>
    exact readBack_of_formed .whole (fun _ => schedule_read) schedule_whole (fun _ => rfl)
      fun _ => rfl
  case settings =>
    exact readBack_of_formed .whole (settings_read surplus) settings_whole (fun _ => rfl)
      fun _ => rfl
  case policy =>
    exact readBack_of_formed .whole (fun _ => policy_read surplus) policy_whole (fun _ => rfl)
      fun _ => rfl
  case event =>
    refine readBack_of_formed .whole (fun _ => event_read) event_whole ?_ ?_ <;>
      intro event <;> cases event <;> rfl
  case notice =>
    refine readBack_of_formed .whole (fun _ => notice_read) notice_whole ?_ ?_ <;>
      intro notice <;> cases notice <;> rfl

end BotKeeper.Proofs
