import Mintmark.Net.Url
import Mintmark.Settings.Basic

/-!
# Checking settings

The first setting that cannot be used is reported. Of the stores only the chosen one is looked at.
-/

namespace Mintmark

namespace Settings

inductive SettingFault where
  | zero (key : String)
  | empty (key : String)
  | badUrl (key : String) (fault : Net.UrlFault)
  | badScheme (key scheme : String) (expected : List String)
  | minAboveMax (key : String)
  | startValue
  | logFormat
  | metricsPath
deriving DecidableEq, Repr

def SettingFault.message : SettingFault → String
  | zero key => s!"{key} cannot be 0"
  | empty key => s!"{key} cannot be empty"
  | badUrl key fault => key ++ ": " ++ fault.message
  | badScheme key scheme expected =>
    key ++ ": unsupported scheme \x27" ++ scheme ++ "\x27 (expected one of "
      ++ ", ".intercalate expected ++ ")"
  | minAboveMax key => s!"{key}.min_connections cannot exceed max_connections"
  | startValue => "sequence.start_value must be 0 or 1"
  | logFormat => "observability.log_format must be \"text\" or \"json\""
  | metricsPath => "observability.metrics_path must start with \x27/\x27"

/-- Fails with a fault if something is the case. -/
def refuseIf (bad : Bool) (fault : SettingFault) : Except SettingFault Unit :=
  if bad then .error fault else .ok ()

def checkUrl (key url : String) (schemes : List String) : Except SettingFault Unit := do
  refuseIf url.isEmpty (.empty key)
  let scheme ← (Net.Url.scheme url).mapError (.badUrl key)
  refuseIf (!schemes.contains scheme) (.badScheme key scheme schemes)

def Database.check (key : String) (schemes : List String) (d : Database) :
    Except SettingFault Unit := do
  checkUrl (key ++ ".url") d.url schemes
  refuseIf (d.maxConnections == 0) (.zero (key ++ ".max_connections"))
  refuseIf (d.maxConnections < d.minConnections) (.minAboveMax key)

def Stores.check (s : Stores) : Except SettingFault Unit :=
  match s.kind with
  | .memory => .ok ()
  | .file => refuseIf s.dataFolder.isEmpty (.empty "storage.file.data_dir")
  | .redis => do
    checkUrl "storage.redis.url" s.redis.url ["redis", "rediss"]
    refuseIf (s.redis.poolSize == 0) (.zero "storage.redis.pool_size")
  | .mysql => s.mysql.check "storage.mysql" ["mysql", "mariadb"]
  | .postgresql => s.postgresql.check "storage.postgresql" ["postgres", "postgresql"]

end Settings

def Settings.check (s : Settings) : Except Settings.SettingFault Unit := do
  refuseIf (s.host.port == 0) (.zero "server.port")
  s.stores.check
  refuseIf (1 < s.startValue) .startValue
  refuseIf (s.observability.logFormat != "text" && s.observability.logFormat != "json") .logFormat
  refuseIf (!s.observability.metricsPath.startsWith "/") .metricsPath

end Mintmark
