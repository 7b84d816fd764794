import Gatehouse.Bindings
import Gatehouse.Breaker.Config
import Gatehouse.Registry.Grant

/-!
# Settings

All that can be set for the whole library: where the policies are and to whom they
are granted, how tasks are dispatched, and what is logged.  Every section and nearly
every field has a default, so that the empty settings are settings.
-/

namespace Gatehouse

/-- Which decisions leave an audit event. -/
structure AuditSettings where
  logAllowed : Bool
  logDenied : Bool
  deriving DecidableEq, Repr

/-- A refusal is news, a permission is not. -/
def AuditSettings.standard : AuditSettings := ⟨false, true⟩

/-- Grants of one subject that are made from the start. -/
structure Assignment where
  subject : String
  policies : List String
  roles : List String
  /-- The variables of each of these grants. -/
  prebound : Bindings
  deriving DecidableEq

/-- The settings for authorization. -/
structure AuthorizationSettings where
  /-- Files with policies, in the order of loading. -/
  policyFiles : List String
  /-- A folder whose policies are loaded after those files. -/
  policyDir : Option String
  /-- Remember the policies of a subject once they are resolved. -/
  remembers : Bool
  /-- So many subjects are remembered at most; zero stands for no limit. -/
  maxSubjects : Nat
  audit : AuditSettings
  roles : List Role
  assignments : List Assignment
  deriving DecidableEq

/-- The settings where none are given. -/
def AuthorizationSettings.standard : AuthorizationSettings :=
  ⟨[], none, true, 10000, .standard, [], []⟩

/-- Tasks whose name fits a pattern go to a queue. -/
structure Route where
  pattern : String
  queue : String
  deriving DecidableEq, Repr

/-- The settings for the dispatch of tasks. -/
structure DispatchSettings where
  /-- The queue of tasks that no route fits. -/
  defaultQueue : String
  /-- The routes, the first of which that fits counts. -/
  routes : List Route
  breaker : BreakerConfig

/-- The settings where none are given. -/
def DispatchSettings.standard : DispatchSettings := ⟨"celery", [], .standard⟩

/-- How much is logged. -/
inductive LogLevel where
  | trace
  | debug
  | info
  | warn
  | error
  deriving DecidableEq, Repr

/-- The levels with their words. -/
def LogLevel.words : List (String × LogLevel) :=
  [("trace", trace), ("debug", debug), ("info", info), ("warn", warn), ("error", error)]

/-- The word for a level. -/
def LogLevel.word : LogLevel → String
  | trace => "trace"
  | debug => "debug"
  | info => "info"
  | warn => "warn"
  | error => "error"

/-- What a line of the log looks like. -/
inductive LogFormat where
  | pretty
  | compact
  | json
  deriving DecidableEq, Repr

/-- The formats with their words. -/
def LogFormat.words : List (String × LogFormat) :=
  [("pretty", pretty), ("compact", compact), ("json", json)]

/-- The word for a format. -/
def LogFormat.word : LogFormat → String
  | pretty => "pretty"
  | compact => "compact"
  | json => "json"

/-- The settings for the log. -/
structure LoggingSettings where
  level : LogLevel
  format : LogFormat
  timestamps : Bool
  fileLine : Bool
  filter : Option String
  deriving DecidableEq, Repr

/-- The settings where none are given. -/
def LoggingSettings.standard : LoggingSettings := ⟨.info, .compact, true, false, none⟩

/-- The settings for metrics. -/
structure MetricsSettings where
  enabled : Bool
  listen : String
  deriving DecidableEq, Repr

/-- The settings where none are given. -/
def MetricsSettings.standard : MetricsSettings := ⟨false, "127.0.0.1:9464"⟩

/-- The settings for what can be observed. -/
structure ObservabilitySettings where
  logging : LoggingSettings
  metrics : MetricsSettings
  deriving DecidableEq, Repr

/-- The settings where none are given. -/
def ObservabilitySettings.standard : ObservabilitySettings := ⟨.standard, .standard⟩

/-- All settings. -/
structure Settings where
  authorization : AuthorizationSettings
  dispatch : DispatchSettings
  observability : ObservabilitySettings

/-- The settings where none are given. -/
def Settings.standard : Settings := ⟨.standard, .standard, .standard⟩

end Gatehouse
