import Gatehouse.Environment
import Gatehouse.Files.Basic
import Gatehouse.Settings.Validation
import Gatehouse.Toml.Document
import Gatehouse.Toml.Reader

/-!
# Settings documents

The text of the settings is a TOML document with references to the environment.  It
becomes settings in three steps, each of which can fail: the references are expanded,
the document is read into the types of `Gatehouse.Settings`, and the settings are
checked.

Every table of the document is a record with known fields.  A field that is left out
has its default, unless it is one that has none.

The settings of a program stand in a file.  Its path is named in an error only where
the file itself is the problem.
-/

namespace Gatehouse

open Toml (Reader)

/-- Why a text holds no settings. -/
inductive SettingsError where
  /-- A reference has no value. -/
  | unset (name : String)
  /-- The text is no TOML, or it does not have the shape of settings. -/
  | malformed
  | invalid (fault : SettingsFault)
  deriving DecidableEq, Repr

/-- The wording of an error. -/
def SettingsError.message : SettingsError → String
  | unset name => "Environment variable not found: " ++ name
  | malformed => "Failed to parse config: "
  | invalid fault => "Configuration validation error: " ++ fault.message

namespace Settings

/-- Which decisions leave an audit event. -/
def readAudit : Reader AuditSettings := fun v => do
  let fields ← v.fields? ["log_allowed", "log_denied"]
  return ⟨← fields.getD "log_allowed" .bool AuditSettings.standard.logAllowed,
    ← fields.getD "log_denied" .bool AuditSettings.standard.logDenied⟩

/-- A role. -/
def readRole : Reader Role := fun v => do
  let fields ← v.fields? ["name", "policies"]
  return ⟨← fields.required "name" .string, ← fields.required "policies" (.list .string)⟩

/-- The grants of one subject. -/
def readAssignment : Reader Assignment := fun v => do
  let fields ← v.fields? ["subject", "policies", "roles", "variables"]
  return ⟨← fields.required "subject" .string, ← fields.getD "policies" (.list .string) [],
    ← fields.getD "roles" (.list .string) [], ← fields.getD "variables" (.map .string) .empty⟩

/-- The settings for authorization. -/
def readAuthorization : Reader AuthorizationSettings := fun v => do
  let d := AuthorizationSettings.standard
  let fields ← v.fields? ["policy_files", "policy_dir", "cache_resolved_policies",
    "cache_max_subjects", "audit", "roles", "assignments"]
  return ⟨← fields.getD "policy_files" (.list .string) d.policyFiles,
    ← fields.optional "policy_dir" .string,
    ← fields.getD "cache_resolved_policies" .bool d.remembers,
    ← fields.getD "cache_max_subjects" .word64 d.maxSubjects,
    ← fields.getD "audit" readAudit d.audit,
    ← fields.getD "roles" (.list readRole) d.roles,
    ← fields.getD "assignments" (.list readAssignment) d.assignments⟩

/-- A route. -/
def readRoute : Reader Route := fun v => do
  let fields ← v.fields? ["pattern", "queue"]
  return ⟨← fields.required "pattern" .string, ← fields.required "queue" .string⟩

/-- The settings of a breaker. -/
def readBreaker : Reader BreakerConfig := fun v => do
  let d := BreakerConfig.standard
  let fields ← v.fields? ["enabled", "failure_threshold", "cool_down_ms", "backoff_multiplier",
    "max_cool_down_ms", "tracked_errors"]
  return ⟨← fields.getD "enabled" .bool d.enabled,
    ← fields.getD "failure_threshold" .word32 d.failureThreshold,
    ← fields.getD "cool_down_ms" .word64 d.coolDown,
    ← fields.getD "backoff_multiplier" .real d.multiplier,
    ← fields.getD "max_cool_down_ms" .word64 d.maxCoolDown,
    ← fields.getD "tracked_errors" (.list .string) d.tracked⟩

/-- The settings for dispatch. -/
def readDispatch : Reader DispatchSettings := fun v => do
  let d := DispatchSettings.standard
  let fields ← v.fields? ["default_queue", "routes", "circuit_breaker"]
  return ⟨← fields.getD "default_queue" .string d.defaultQueue,
    ← fields.getD "routes" (.list readRoute) d.routes,
    ← fields.getD "circuit_breaker" readBreaker d.breaker⟩

/-- The settings for the log. -/
def readLogging : Reader LoggingSettings := fun v => do
  let d := LoggingSettings.standard
  let fields ← v.fields? ["level", "format", "timestamps", "file_line", "filter"]
  return ⟨← fields.getD "level" (.word LogLevel.words) d.level,
    ← fields.getD "format" (.word LogFormat.words) d.format,
    ← fields.getD "timestamps" .bool d.timestamps,
    ← fields.getD "file_line" .bool d.fileLine,
    ← fields.optional "filter" .string⟩

/-- The settings for metrics. -/
def readMetrics : Reader MetricsSettings := fun v => do
  let d := MetricsSettings.standard
  let fields ← v.fields? ["enabled", "listen"]
  return ⟨← fields.getD "enabled" .bool d.enabled, ← fields.getD "listen" .string d.listen⟩

/-- The settings for what can be observed. -/
def readObservability : Reader ObservabilitySettings := fun v => do
  let d := ObservabilitySettings.standard
  let fields ← v.fields? ["logging", "metrics"]
  return ⟨← fields.getD "logging" readLogging d.logging,
    ← fields.getD "metrics" readMetrics d.metrics⟩

/-- All settings. -/
def read : Reader Settings := fun v => do
  let d := Settings.standard
  let fields ← v.fields? ["authz", "dispatch", "observability"]
  return ⟨← fields.getD "authz" readAuthorization d.authorization,
    ← fields.getD "dispatch" readDispatch d.dispatch,
    ← fields.getD "observability" readObservability d.observability⟩

/-- The settings that a text holds, with references to variables. -/
def parse (lookup : Lookup) (text : String) : Except SettingsError Settings :=
  match References.expand lookup text with
  | .error name => .error (.unset name)
  | .ok expanded =>
    match (Toml.parse? expanded).bind read with
    | none => .error .malformed
    | some settings =>
      match settings.fault? with
      | some fault => .error (.invalid fault)
      | none => .ok settings

end Settings

/-! ## Settings files -/

/-- Why a file gives no settings. -/
inductive SettingsFileError where
  /-- The file at the path cannot be read. -/
  | unreadable (path : String) (fault : FileFault)
  | text (error : SettingsError)

/-- The wording of an error. -/
def SettingsFileError.message : SettingsFileError → String
  | unreadable path fault => "Failed to read config file " ++ path ++ ": " ++ fault.message
  | text error => error.message

/-- Load the settings from the file at a path. -/
def Settings.load (files : Files) (lookup : Lookup) (path : String) :
    Except SettingsFileError Settings :=
  match files.text path with
  | .error fault => .error (.unreadable path fault)
  | .ok text => (Settings.parse lookup text).mapError .text

end Gatehouse
