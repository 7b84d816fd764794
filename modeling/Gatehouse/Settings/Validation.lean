import Gatehouse.Pattern.Action
import Gatehouse.Settings
import Gatehouse.Text

/-!
# What settings have to satisfy

Settings that can be read may still make no sense.  They are checked in the order of
the sections, and in each section in the order of the lists, and the first fault is
the one that is reported.

Whoever uses checked settings relies on it: roles have names, routes have patterns
and queues, and every task has a queue to go to.
-/

namespace Gatehouse

/-- Why settings are refused. -/
inductive SettingsFault where
  | unnamedRole
  | unnamedSubject
  | noThreshold
  | shrinkingWait
  | noDefaultQueue
  | routePattern (error : PatternError)
  | routeWithoutQueue (pattern : String)
  | metricsUnavailable
  deriving DecidableEq, Repr

/-- The wording of a fault. -/
def SettingsFault.message : SettingsFault → String
  | unnamedRole => "authz.roles: role name must not be empty"
  | unnamedSubject => "authz.assignments: subject must not be empty"
  | noThreshold => "dispatch.circuit_breaker.failure_threshold must be at least 1"
  | shrinkingWait => "dispatch.circuit_breaker.backoff_multiplier must be at least 1.0"
  | noDefaultQueue => "dispatch.default_queue must not be empty"
  | routePattern error => "dispatch.routes: " ++ error.message
  | routeWithoutQueue pattern => "dispatch.routes: route '" ++ pattern ++ "' has an empty queue"
  | metricsUnavailable => "observability.metrics.enabled requires the 'prometheus' feature"

/-- What is wrong with a route. -/
def Route.fault? (route : Route) : Option SettingsFault :=
  match ActionPattern.parse route.pattern with
  | .error error => some (.routePattern error)
  | .ok _ => if route.queue = "" then some (.routeWithoutQueue route.pattern) else none

/-- What is wrong with the settings of a breaker. -/
def BreakerConfig.fault? (config : BreakerConfig) : Option SettingsFault :=
  if config.failureThreshold = 0 then some .noThreshold
  else if config.multiplier < 1.0 then some .shrinkingWait
  else none

/-- What is wrong with the settings for dispatch. -/
def DispatchSettings.fault? (settings : DispatchSettings) : Option SettingsFault :=
  settings.breaker.fault?.or
    (if settings.defaultQueue = "" then some .noDefaultQueue
    else settings.routes.findSome? Route.fault?)

/-- What is wrong with the settings for authorization. -/
def AuthorizationSettings.fault? (settings : AuthorizationSettings) : Option SettingsFault :=
  if settings.roles.any fun role => Text.isBlank role.name then some .unnamedRole
  else if settings.assignments.any fun entry => Text.isBlank entry.subject then
    some .unnamedSubject
  else none

/-- What is wrong with the settings for what can be observed. -/
def ObservabilitySettings.fault? (settings : ObservabilitySettings) : Option SettingsFault :=
  if settings.metrics.enabled then some .metricsUnavailable else none

/-- The first thing that is wrong with settings. -/
def Settings.fault? (settings : Settings) : Option SettingsFault :=
  settings.authorization.fault?.or (settings.dispatch.fault?.or settings.observability.fault?)

end Gatehouse
