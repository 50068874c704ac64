import Mathlib
import Mintmark.Proofs.Settings.Checked
import Mintmark.Proofs.Text.Integers
import Mintmark.Settings.Load

/-!
# Text settings from the environment

The value of a variable is read as a flag or a number if it can be, and a text setting then holds
that flag or number in its own writing. Words for flags in capitals, integers that are not written
plainly and other numbers that are not in their shortest form do not come back as they were. The
path of the metrics and the address of the chosen store always do, for their check asks of them what
no number has.
-/

namespace Mintmark.Settings

open Store (Disk)

/-- What a text setting holds that was given as the value of a variable: a word for a flag in small
letters, a number in its own writing, and any other text as it stands. -/
inductive ReadBack (v : String) : String → Prop
  | flag {b : Bool} (word : Loose.lower v = toString b) : ReadBack v (toString b)
  | whole {i : Int} (wordless : ∀ b : Bool, Loose.lower v ≠ toString b)
    (read : Text.readInt64? v.toList = some i) : ReadBack v (Text.ofInt i)
  | real {x : Number.Binary64} (wordless : ∀ b : Bool, Loose.lower v ≠ toString b)
    (broken : Text.readInt64? v.toList = none)
    (read : Number.Binary64.ofText? v.toList = some x) : ReadBack v x.text
  | text (wordless : ∀ b : Bool, Loose.lower v ≠ toString b)
    (broken : Text.readInt64? v.toList = none)
    (numberless : Number.Binary64.ofText? v.toList = none) : ReadBack v v

/-- The values that come back as they are: a flag in small letters, an integer written plainly,
another number in its shortest form, and all that is none of these. -/
structure Lasting (v : String) : Prop where
  flag : ∀ b : Bool, Loose.lower v = toString b → v = toString b
  whole : ∀ i, Text.readInt64? v.toList = some i → Text.WrittenPlainly v.toList
  real : ∀ x, Text.readInt64? v.toList = none → Number.Binary64.ofText? v.toList = some x →
    x.text = v

theorem lower_word (b : Bool) : Loose.lower (toString b) = toString b := by
  cases b <;> cbv

/-- The words for flags are no numbers. -/
theorem numberless_word (b : Bool) :
    Text.readInt64? (toString b).toList = none ∧
      Number.Binary64.ofText? (toString b).toList = none := by
  cases b <;> decide

namespace Variables

theorem readBack_of_valueOf {v text : String} (read : (valueOf v).text? = some text) :
    ReadBack v text := by
  unfold valueOf at read
  split at read
  · next word =>
    cases read
    exact .flag (b := true) word
  · next word =>
    cases read
    exact .flag (b := false) word
  · next noTrue noFalse =>
    have wordless (b : Bool) : Loose.lower v ≠ toString b := by
      cases b
      · exact noFalse
      · exact noTrue
    split at read
    · next whole =>
      cases read
      exact .whole wordless whole
    · next broken real =>
      cases read
      exact .real wordless broken real
    · next broken numberless =>
      cases read
      exact .text wordless broken numberless

theorem valueOf_of_readInt64? {v : String} {i : Int} (small : Loose.lower v = v)
    (read : Text.readInt64? v.toList = some i) : valueOf v = .whole i := by
  -- as no letter is a capital, a word would be this very text, and words are no numbers
  have wordless (b : Bool) : Loose.lower v ≠ toString b := by
    rw [small]
    rintro rfl
    rw [(numberless_word b).1] at read
    cases read
  unfold valueOf
  split
  · next word => exact absurd word (wordless true)
  · next word => exact absurd word (wordless false)
  · rw [read]

/-- No variable holds a table. -/
theorem layOver_valueOf (v : String) (below : Loose) :
    Loose.layOver (valueOf v) below = valueOf v := by
  unfold valueOf
  split
  · rfl
  · rfl
  · split <;> rfl

theorem key?_eq (name : String) :
    key? name =
      let cs := name.toList.map Text.lower
      if nameStart.isPrefixOf cs then some (String.ofList (pointed (cs.drop nameStart.length)))
      else none := by
  rw [key?, Loose.lower, String.toList_map]

theorem entries_append (env others : Variables) :
    entries (env ++ others) = env.entries ++ others.entries := List.filterMap_append

theorem entries_cons {name key v : String} {env : Variables} (named : key? name = some key) :
    entries ((name, v) :: env) = (key, valueOf v) :: env.entries := by
  have first : (key? name).map (·, valueOf v) = some (key, valueOf v) := by
    rw [named]
    rfl
  exact List.filterMap_cons_some first

end Variables

theorem lasting_word (b : Bool) : Lasting (toString b) := by
  obtain ⟨broken, numberless⟩ := numberless_word b
  refine ⟨fun c same => by rwa [lower_word] at same, ?_, ?_⟩
  · rw [broken]
    exact nofun
  · rw [numberless]
    exact nofun

theorem ReadBack.eq_iff {v text : String} (back : ReadBack v text) : text = v ↔ Lasting v := by
  cases back with
  | flag word =>
    constructor
    · rintro rfl
      exact lasting_word _
    · exact fun lasting => (lasting.flag _ word).symm
  | whole wordless read =>
    refine (Text.ofInt_eq_iff read).trans ⟨fun plain => ?_, fun lasting => lasting.whole _ read⟩
    refine ⟨fun b word => absurd word (wordless b), fun _ _ => plain, fun _ broken => ?_⟩
    rw [read] at broken
    cases broken
  | real wordless broken read =>
    constructor
    · intro shown
      refine ⟨fun b word => absurd word (wordless b), fun i whole => ?_, fun x _ other => ?_⟩
      · rw [broken] at whole
        cases whole
      · rw [read] at other
        cases other
        exact shown
    · exact fun lasting => lasting.real _ broken read
  | text wordless broken numberless =>
    refine iff_of_true rfl ⟨fun b word => absurd word (wordless b), ?_, ?_⟩
    · rw [broken]
      exact nofun
    · rw [numberless]
      exact nofun

/-- What holds a character that stands in no flag and no number was neither. -/
theorem ReadBack.eq_of_mark {v text : String} (back : ReadBack v text) {mark : Char}
    (member : mark ∈ text.toList) (foreign : Number.isNumberChar mark = false) : text = v := by
  cases back with
  | @flag b word =>
    have letters : (toString b).toList.all Number.isNumberChar = true := by
      cases b <;> decide
    rw [List.all_eq_true.mp letters mark member] at foreign
    cases foreign
  | whole wordless read =>
    rw [Number.isNumberChar_of_mem_ofInt member] at foreign
    cases foreign
  | real wordless broken read =>
    rw [Number.isNumberChar_of_mem_text member] at foreign
    cases foreign
  | text wordless broken numberless => rfl

namespace TextSetting

/-- The variable of a setting. -/
def variableName : TextSetting → String
  | dataFolder => "CUSTOMID_WORKER__STORAGE__FILE__DATA_DIR"
  | redisUrl => "CUSTOMID_WORKER__STORAGE__REDIS__URL"
  | keyStart => "CUSTOMID_WORKER__STORAGE__REDIS__KEY_PREFIX"
  | mysqlUrl => "CUSTOMID_WORKER__STORAGE__MYSQL__URL"
  | postgresqlUrl => "CUSTOMID_WORKER__STORAGE__POSTGRESQL__URL"
  | logLevel => "CUSTOMID_WORKER__OBSERVABILITY__LOG_LEVEL"
  | logFormat => "CUSTOMID_WORKER__OBSERVABILITY__LOG_FORMAT"
  | metricsPath => "CUSTOMID_WORKER__OBSERVABILITY__METRICS_PATH"

theorem key?_variableName (setting : TextSetting) :
    Variables.key? setting.variableName = some (".".intercalate setting.names) := by
  rw [Variables.key?_eq]
  cases setting <;> decide

end TextSetting

/-- The variables of the environment, with those of the file of variables. -/
def environment (disk : Disk) (env : Variables) : Variables :=
  match readText? disk [".env"] with
  | some text => VariableFile.add env text
  | none => env

/-- The file of the profile that the variables name. -/
def profileFile (env : Variables) : String :=
  "config/" ++ (env.find? "CUSTOMID_PROFILE").getD "development"

/-- The settings that layers make up. -/
def settled (layers : Loose) : Except LoadFault Settings :=
  match Loose.model.settings? layers with
  | none => .error .unreadable
  | some settings =>
    match settings.check with
    | .ok () => .ok settings
    | .error fault => .error (.invalid fault)

theorem load_eq (disk : Disk) (env : Variables) :
    load disk env =
      (layFile disk "config/default" (.table [])).bind fun layers =>
        (layFile disk (profileFile (environment disk env)) layers).bind fun below =>
          settled (Loose.layAll (environment disk env).entries below) := rfl

theorem parts_of_settled {layers : Loose} {settings : Settings}
    (loaded : settled layers = .ok settings) :
    Loose.model.settings? layers = some settings ∧ settings.check = .ok () := by
  unfold settled at loaded
  split at loaded
  · cases loaded
  · next found =>
    split at loaded
    · next accepted =>
      cases loaded
      exact ⟨found, accepted⟩
    · cases loaded

/-- The variables have the last word on what is loaded and checked. -/
theorem exists_of_load {disk : Disk} {env : Variables} {settings : Settings}
    (loaded : load disk env = .ok settings) :
    ∃ below, Loose.model.settings? (Loose.layAll (environment disk env).entries below) =
        some settings ∧ settings.check = .ok () := by
  rw [load_eq] at loaded
  obtain ⟨layers, -, loaded⟩ := exists_of_bind loaded
  obtain ⟨below, -, loaded⟩ := exists_of_bind loaded
  exact ⟨below, parts_of_settled loaded⟩

/-- The variable leads elsewhere than the names do, if it belongs to the settings at all. -/
def PartsFrom (name : String) (names : List String) : Prop :=
  ∀ key, Variables.key? name = some key → Step.Apart (keyPath key) names

/-- The variable of a setting holds a value, and no variable behind it touches the setting. -/
def Gives (env : Variables) (setting : TextSetting) (v : String) : Prop :=
  ∃ before after, env = before ++ (setting.variableName, v) :: after ∧
    ∀ other ∈ after, PartsFrom other.1 setting.names

theorem at?_layAll_of_gives {env : Variables} {setting : TextSetting} {v : String}
    (gives : Gives env setting v) (below : Loose) :
    (Loose.layAll env.entries below).at? setting.names = some (Variables.valueOf v) := by
  obtain ⟨before, after, rfl, parts⟩ := gives
  -- those that do not belong to the settings give no entry, and the others part from the setting
  have apart : ∀ entry ∈ Variables.entries after, Step.Apart (keyPath entry.1) setting.names := by
    intro entry member
    obtain ⟨⟨name, value⟩, listed, found⟩ := List.mem_filterMap.mp member
    obtain ⟨key, named, rfl⟩ := Option.map_eq_some_iff.mp found
    exact parts _ listed key named
  rw [Variables.entries_append, Variables.entries_cons setting.key?_variableName]
  exact Loose.at?_layAll (Variables.layOver_valueOf v) setting.keyPath_names _ apart below

/-- A text setting holds what is read back from the value of its variable. This is the value itself
if it is lasting, and only then. What the check looks into is always the value itself. -/
theorem text_settings_hold_what_is_read_back {disk : Disk} {env : Variables}
    {setting : TextSetting} {v : String} {settings : Settings}
    (gives : Gives (environment disk env) setting v) (loaded : load disk env = .ok settings) :
    ReadBack v (setting.get settings) ∧ (setting.get settings = v ↔ Lasting v) ∧
      (Examined settings setting → setting.get settings = v) := by
  obtain ⟨below, decoded, accepted⟩ := exists_of_load loaded
  have read := Loose.reads_names decoded setting _ (at?_layAll_of_gives gives below)
  have back := Variables.readBack_of_valueOf read
  refine ⟨back, back.eq_iff, fun examined => ?_⟩
  obtain ⟨mark, member, foreign⟩ := examined.exists_mark accepted
  exact back.eq_of_mark member foreign

/-- A prefix that looks like a number, for casks. -/
def caskVariables : Variables :=
  [(TextSetting.keyStart.variableName, "007"), ("CUSTOMID_WORKER__SERVER__PORT", "8081")]

def caskSettings : Settings :=
  { host := { port := 8081 }, stores := { redis := { keyStart := "7" } } }

theorem environment_caskVariables : environment .empty caskVariables = caskVariables := by
  cbv

theorem key?_port : Variables.key? "CUSTOMID_WORKER__SERVER__PORT" = some "server.port" := by
  rw [Variables.key?_eq]
  decide

theorem entries_caskVariables : caskVariables.entries =
    [("storage.redis.key_prefix", .whole 7), ("server.port", .whole 8081)] := by
  have start : Variables.valueOf "007" = .whole 7 :=
    Variables.valueOf_of_readInt64? (by cbv) (by decide)
  have port : Variables.valueOf "8081" = .whole 8081 :=
    Variables.valueOf_of_readInt64? (by cbv) (by decide)
  rw [caskVariables, Variables.entries_cons TextSetting.keyStart.key?_variableName,
    Variables.entries_cons key?_port, start, port]
  rfl

theorem load_caskVariables : load .empty caskVariables = .ok caskSettings := by
  -- without files all that is laid down comes from the variables
  have default : layFile .empty "config/default" (.table []) = .ok (.table []) := by cbv
  have profile : layFile .empty (profileFile caskVariables) (.table []) = .ok (.table []) := by cbv
  rw [load_eq, default, Except.bind, environment_caskVariables, profile, Except.bind,
    entries_caskVariables]
  cbv

theorem gives_caskVariables : Gives (environment .empty caskVariables) .keyStart "007" := by
  refine ⟨[], _, environment_caskVariables, ?_⟩
  intro other member key named
  cases List.mem_singleton.mp member
  rw [key?_port] at named
  cases named
  exact .here (by decide)

theorem cask_prefix_is_read_back :
    Gives (environment .empty caskVariables) .keyStart "007" ∧
      load .empty caskVariables = .ok caskSettings ∧
      ReadBack "007" "7" ∧ ("7" = "007" ↔ Lasting "007") ∧
      (Examined caskSettings .keyStart → "7" = "007") :=
  ⟨gives_caskVariables, load_caskVariables,
    text_settings_hold_what_is_read_back gives_caskVariables load_caskVariables⟩

/-- Not every text comes back from the environment: zeros in front are lost. -/
theorem zeros_in_front_are_lost :
    ¬ ∀ (disk : Disk) (env : Variables) (setting : TextSetting) (v : String) (settings : Settings),
      Gives (environment disk env) setting v → load disk env = .ok settings →
        setting.get settings = v := by
  intro faithful
  have same := faithful _ _ _ _ _ gives_caskVariables load_caskVariables
  exact absurd same (by decide)

end Mintmark.Settings
