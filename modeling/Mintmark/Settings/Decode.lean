import Mintmark.Json.Value
import Mintmark.Settings.Basic

/-!
# Decoding settings

Settings come from values of different sources, which differ in what they take for a number or a
text. A value model says how one source is understood; the sections and their fields are the same for
all. A section is an object, or a list of its fields in their order.
-/

namespace Mintmark.Settings

structure ValueModel (V : Type) where
  text? : V → Option String
  flag? : V → Option Bool
  /-- a number from zero up to a bound -/
  number? (greatest : Nat) : V → Option Nat
  /-- the name of one of several alternatives -/
  choice? : V → Option String
  /-- the fields of a section that has these names -/
  fields? (names : List String) : V → Option (String → Option V)

namespace ValueModel

variable {V : Type} (m : ValueModel V)

/-- A field that may be left out. -/
def field {α : Type} (find : String → Option V) (name : String) (default : α)
    (read? : V → Option α) : Option α :=
  match find name with
  | none => some default
  | some v => read? v

def host? (v : V) : Option Host := do
  let find ← m.fields? ["host", "port"] v
  let address ← field find "host" ({} : Host).address fun v => (m.text? v).bind Net.Address.parse?
  let port ← field find "port" ({} : Host).port (m.number? (Number.bound16 - 1))
  return { address, port }

def dataFolder? (v : V) : Option String := do
  let find ← m.fields? ["data_dir"] v
  field find "data_dir" ({} : Stores).dataFolder m.text?

def keyValueServer? (v : V) : Option KeyValueServer := do
  let find ← m.fields? ["url", "pool_size", "key_prefix", "connect_timeout"] v
  let url ← field find "url" ({} : KeyValueServer).url m.text?
  let poolSize ← field find "pool_size" ({} : KeyValueServer).poolSize (m.number? (Number.bound64 - 1))
  let keyStart ← field find "key_prefix" ({} : KeyValueServer).keyStart m.text?
  let connectTimeout ←
    field find "connect_timeout" ({} : KeyValueServer).connectTimeout (m.number? (Number.bound64 - 1))
  return { url, poolSize, keyStart, connectTimeout }

def database? (v : V) : Option Database := do
  let find ← m.fields? ["url", "min_connections", "max_connections", "connect_timeout"] v
  let url ← field find "url" ({} : Database).url m.text?
  let minConnections ←
    field find "min_connections" ({} : Database).minConnections (m.number? (Number.bound32 - 1))
  let maxConnections ←
    field find "max_connections" ({} : Database).maxConnections (m.number? (Number.bound32 - 1))
  let connectTimeout ←
    field find "connect_timeout" ({} : Database).connectTimeout (m.number? (Number.bound64 - 1))
  return { url, minConnections, maxConnections, connectTimeout }

def stores? (v : V) : Option Stores := do
  let find ← m.fields? ["backend", "file", "redis", "mysql", "postgresql"] v
  let kind ← field find "backend" ({} : Stores).kind fun v =>
    (m.choice? v).bind StoreKind.ofName?
  let dataFolder ← field find "file" ({} : Stores).dataFolder m.dataFolder?
  let redis ← field find "redis" {} m.keyValueServer?
  let mysql ← field find "mysql" {} m.database?
  let postgresql ← field find "postgresql" {} m.database?
  return { kind, dataFolder, redis, mysql, postgresql }

def startValue? (v : V) : Option Nat := do
  let find ← m.fields? ["start_value"] v
  field find "start_value" ({} : Settings).startValue (m.number? (Number.bound64 - 1))

def observability? (v : V) : Option Observability := do
  let find ← m.fields? ["log_level", "log_format", "metrics_enabled", "metrics_path"] v
  let logLevel ← field find "log_level" ({} : Observability).logLevel m.text?
  let logFormat ← field find "log_format" ({} : Observability).logFormat m.text?
  let metricsEnabled ← field find "metrics_enabled" ({} : Observability).metricsEnabled m.flag?
  let metricsPath ← field find "metrics_path" ({} : Observability).metricsPath m.text?
  return { logLevel, logFormat, metricsEnabled, metricsPath }

def settings? (v : V) : Option Settings := do
  let find ← m.fields? ["server", "storage", "sequence", "observability"] v
  let host ← field find "server" {} m.host?
  let stores ← field find "storage" {} m.stores?
  let startValue ← field find "sequence" ({} : Settings).startValue m.startValue?
  let observability ← field find "observability" {} m.observability?
  return { host, stores, startValue, observability }

end ValueModel

/-- Values of a JSON document, taken as they are. -/
def strictJson : ValueModel Json.Value where
  text?
    | .string s => some s
    | _ => none
  flag?
    | .bool b => some b
    | _ => none
  number? greatest
    | .number n => n.natural?.filter (· ≤ greatest)
    | _ => none
  choice?
    | .string s => some s
    | .object [(name, .null)] => some name
    | _ => none
  fields? names
    | .object entries => some fun name => (Json.Value.object entries).get? name
    | .array items =>
      if items.length ≤ names.length then some fun name => (names.zip items).lookup name else none
    | _ => none

end Mintmark.Settings
