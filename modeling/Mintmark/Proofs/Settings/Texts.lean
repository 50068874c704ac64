import Mintmark.Proofs.Settings.Layers

/-!
# Text settings

The settings that are texts, and where each is looked for among the values that were laid over one
another. Each section is opened and one of its fields is read, until a text is left.
-/

namespace Mintmark.Settings

inductive TextSetting where
  | dataFolder
  | redisUrl
  | keyStart
  | mysqlUrl
  | postgresqlUrl
  | logLevel
  | logFormat
  | metricsPath
deriving DecidableEq, Repr

namespace TextSetting

/-- The names that lead to a setting. -/
def names : TextSetting → List String
  | dataFolder => ["storage", "file", "data_dir"]
  | redisUrl => ["storage", "redis", "url"]
  | keyStart => ["storage", "redis", "key_prefix"]
  | mysqlUrl => ["storage", "mysql", "url"]
  | postgresqlUrl => ["storage", "postgresql", "url"]
  | logLevel => ["observability", "log_level"]
  | logFormat => ["observability", "log_format"]
  | metricsPath => ["observability", "metrics_path"]

def get (s : Settings) : TextSetting → String
  | dataFolder => s.stores.dataFolder
  | redisUrl => s.stores.redis.url
  | keyStart => s.stores.redis.keyStart
  | mysqlUrl => s.stores.mysql.url
  | postgresqlUrl => s.stores.postgresql.url
  | logLevel => s.observability.logLevel
  | logFormat => s.observability.logFormat
  | metricsPath => s.observability.metricsPath

theorem keyPath_names (setting : TextSetting) :
    keyPath (".".intercalate setting.names) = setting.names.map .key := by
  cases setting <;> decide

end TextSetting

namespace Loose

open ValueModel (field)

variable {v : Loose}

/-- What stands at the end of some names, if anything does, is read as this. -/
def Reads {α : Type} (v : Loose) (names : List String) (read? : Loose → Option α) (a : α) : Prop :=
  ∀ x, v.at? names = some x → read? x = some a

theorem Reads.beyond {α β : Type} {name : String} {names : List String} {outer? : Loose → Option β}
    {inner? : Loose → Option α} {b : β} {a : α} (outer : v.Reads [name] outer? b)
    (inner : ∀ w, outer? w = some b → w.Reads names inner? a) :
    v.Reads (name :: names) inner? a := by
  intro x found
  cases v with
  | table entries =>
    obtain ⟨below, here, rest⟩ := Option.bind_eq_some_iff.mp found
    have read : outer? below = some b := outer below (by rw [at?, here]; rfl)
    exact inner below read x rest
  | null | flag | whole | real | text | list => cases found

theorem reads_of_field {α : Type} {names : List String} {find : String → Option Loose}
    {name : String} {default a : α} {read? : Loose → Option α}
    (opened : model.fields? names v = some find)
    (decoded : field find name default read? = some a) : v.Reads [name] read? a := by
  intro x found
  cases v with
  | table entries =>
    cases opened
    obtain ⟨_, here, ⟨⟩⟩ := Option.bind_eq_some_iff.mp found
    rw [field, here] at decoded
    exact decoded
  | null | flag | whole | real | text | list => cases found

theorem reads_of_settings? {s : Settings} (decoded : model.settings? v = some s) :
    v.Reads ["storage"] model.stores? s.stores ∧
      v.Reads ["observability"] model.observability? s.observability := by
  simp only [ValueModel.settings?, Option.bind_eq_bind, Option.bind_eq_some_iff] at decoded
  obtain ⟨find, opened, host, -, stores, storage, start, -, shown, observability, ⟨⟩⟩ := decoded
  exact ⟨reads_of_field opened storage, reads_of_field opened observability⟩

theorem reads_of_stores? {s : Stores} (decoded : model.stores? v = some s) :
    v.Reads ["file"] model.dataFolder? s.dataFolder ∧
      v.Reads ["redis"] model.keyValueServer? s.redis ∧
      v.Reads ["mysql"] model.database? s.mysql ∧
      v.Reads ["postgresql"] model.database? s.postgresql := by
  simp only [ValueModel.stores?, Option.bind_eq_bind, Option.bind_eq_some_iff] at decoded
  obtain ⟨find, opened, kind, -, folder, file, server, redis, decoded⟩ := decoded
  obtain ⟨first, mysql, second, postgresql, ⟨⟩⟩ := decoded
  exact ⟨reads_of_field opened file, reads_of_field opened redis, reads_of_field opened mysql,
    reads_of_field opened postgresql⟩

theorem reads_of_dataFolder? {s : String} (decoded : model.dataFolder? v = some s) :
    v.Reads ["data_dir"] text? s := by
  simp only [ValueModel.dataFolder?, Option.bind_eq_bind, Option.bind_eq_some_iff] at decoded
  obtain ⟨find, opened, folder⟩ := decoded
  exact reads_of_field opened folder

theorem reads_of_keyValueServer? {s : KeyValueServer}
    (decoded : model.keyValueServer? v = some s) :
    v.Reads ["url"] text? s.url ∧ v.Reads ["key_prefix"] text? s.keyStart := by
  simp only [ValueModel.keyValueServer?, Option.bind_eq_bind, Option.bind_eq_some_iff] at decoded
  obtain ⟨find, opened, address, url, pool, -, start, keyStart, timeout, -, ⟨⟩⟩ := decoded
  exact ⟨reads_of_field opened url, reads_of_field opened keyStart⟩

theorem reads_of_database? {d : Database} (decoded : model.database? v = some d) :
    v.Reads ["url"] text? d.url := by
  simp only [ValueModel.database?, Option.bind_eq_bind, Option.bind_eq_some_iff] at decoded
  obtain ⟨find, opened, address, url, least, -, greatest, -, timeout, -, ⟨⟩⟩ := decoded
  exact reads_of_field opened url

theorem reads_of_observability? {o : Observability}
    (decoded : model.observability? v = some o) :
    v.Reads ["log_level"] text? o.logLevel ∧ v.Reads ["log_format"] text? o.logFormat ∧
      v.Reads ["metrics_path"] text? o.metricsPath := by
  simp only [ValueModel.observability?, Option.bind_eq_bind, Option.bind_eq_some_iff] at decoded
  obtain ⟨find, opened, level, logLevel, format, logFormat, decoded⟩ := decoded
  obtain ⟨enabled, -, path, metricsPath, ⟨⟩⟩ := decoded
  exact ⟨reads_of_field opened logLevel, reads_of_field opened logFormat,
    reads_of_field opened metricsPath⟩

/-- What stands where a text setting is looked for is read as what this setting holds. -/
theorem reads_names {s : Settings} (decoded : model.settings? v = some s) (setting : TextSetting) :
    v.Reads setting.names text? (setting.get s) := by
  obtain ⟨storage, observability⟩ := reads_of_settings? decoded
  cases setting with
  | dataFolder =>
    exact storage.beyond fun _ stores =>
      (reads_of_stores? stores).1.beyond fun _ folder => reads_of_dataFolder? folder
  | redisUrl =>
    exact storage.beyond fun _ stores =>
      (reads_of_stores? stores).2.1.beyond fun _ server => (reads_of_keyValueServer? server).1
  | keyStart =>
    exact storage.beyond fun _ stores =>
      (reads_of_stores? stores).2.1.beyond fun _ server => (reads_of_keyValueServer? server).2
  | mysqlUrl =>
    exact storage.beyond fun _ stores =>
      (reads_of_stores? stores).2.2.1.beyond fun _ database => reads_of_database? database
  | postgresqlUrl =>
    exact storage.beyond fun _ stores =>
      (reads_of_stores? stores).2.2.2.beyond fun _ database => reads_of_database? database
  | logLevel => exact observability.beyond fun _ shown => (reads_of_observability? shown).1
  | logFormat => exact observability.beyond fun _ shown => (reads_of_observability? shown).2.1
  | metricsPath => exact observability.beyond fun _ shown => (reads_of_observability? shown).2.2

end Loose

end Mintmark.Settings
