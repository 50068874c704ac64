import Mintmark.Net.Address

/-!
# Settings

What can be set, and what holds where nothing is set.
-/

namespace Mintmark

namespace Settings

structure Host where
  address : Net.Address := .v4 [0, 0, 0, 0]
  port : Nat := 8080
deriving DecidableEq, Repr

inductive StoreKind where
  | memory
  | file
  | redis
  | mysql
  | postgresql
deriving DecidableEq, Repr

namespace StoreKind

def all : List StoreKind := [memory, file, redis, mysql, postgresql]

def name : StoreKind → String
  | memory => "memory"
  | file => "file"
  | redis => "redis"
  | mysql => "mysql"
  | postgresql => "postgresql"

def ofName? (s : String) : Option StoreKind := all.find? (·.name == s)

theorem ofName?_name (k : StoreKind) : ofName? k.name = some k := by cases k <;> decide

end StoreKind

structure KeyValueServer where
  url : String := "redis://127.0.0.1:6379"
  poolSize : Nat := 10
  /-- what all keys begin with -/
  keyStart : String := "customid:"
  /-- in seconds -/
  connectTimeout : Nat := 5
deriving DecidableEq, Repr

structure Database where
  url : String := ""
  minConnections : Nat := 1
  maxConnections : Nat := 10
  /-- in seconds -/
  connectTimeout : Nat := 5
deriving DecidableEq, Repr

structure Stores where
  kind : StoreKind := .file
  dataFolder : String := "./data"
  redis : KeyValueServer := {}
  mysql : Database := {}
  postgresql : Database := {}
deriving DecidableEq, Repr

structure Observability where
  logLevel : String := "info"
  logFormat : String := "text"
  metricsEnabled : Bool := true
  metricsPath : String := "/metrics"
deriving DecidableEq, Repr

/-- Where the metrics are asked for, if they are. -/
def Observability.metricsPath? (o : Observability) : Option String :=
  if o.metricsEnabled then some o.metricsPath else none

end Settings

structure Settings where
  host : Settings.Host := {}
  stores : Settings.Stores := {}
  /-- the first value of a fresh counter -/
  startValue : Nat := 1
  observability : Settings.Observability := {}
deriving DecidableEq, Repr

end Mintmark
