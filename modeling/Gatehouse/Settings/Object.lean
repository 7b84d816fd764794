import Gatehouse.Json.Reader
import Gatehouse.Settings

/-!
# Settings of the dispatch as JSON

The settings of a breaker, and those of the dispatch as a whole, can be given as JSON
documents too.  The fields and their defaults are the same as in a settings file.
-/

namespace Gatehouse

open Json (Reader ReadError Slot RecordShape)

namespace BreakerConfig

/-- What has been read of a breaker's settings. -/
structure Draft where
  enabled : Option Bool
  failureThreshold : Option Nat
  coolDown : Option Nat
  multiplier : Option Float
  maxCoolDown : Option Nat
  tracked : Option (List String)

/-- The settings of a breaker. -/
def shape : RecordShape Draft BreakerConfig where
  label := "struct CircuitBreakerConfig"
  blank := ⟨none, none, none, none, none, none⟩
  slots := [
    .of "enabled" (·.enabled) (fun d x => { d with enabled := some x }) .bool,
    .of "failure_threshold" (·.failureThreshold)
      (fun d x => { d with failureThreshold := some x }) .word32,
    .of "cool_down_ms" (·.coolDown) (fun d x => { d with coolDown := some x }) .word64,
    .of "backoff_multiplier" (·.multiplier) (fun d x => { d with multiplier := some x }) .real,
    .of "max_cool_down_ms" (·.maxCoolDown) (fun d x => { d with maxCoolDown := some x }) .word64,
    .of "tracked_errors" (·.tracked) (fun d x => { d with tracked := some x }) (.list .text)]
  isOpen := false
  finish d :=
    .ok ⟨d.enabled.getD standard.enabled, d.failureThreshold.getD standard.failureThreshold,
      d.coolDown.getD standard.coolDown, d.multiplier.getD standard.multiplier,
      d.maxCoolDown.getD standard.maxCoolDown, d.tracked.getD standard.tracked⟩

/-- Read the settings of a breaker. -/
def ofJson (text : String) : Except ReadError BreakerConfig := shape.read.document text

end BreakerConfig

namespace DispatchSettings

/-- What has been read of a route. -/
structure RouteDraft where
  pattern : Option String
  queue : Option String

/-- A route. -/
def routeShape : RecordShape RouteDraft Route where
  label := "struct RouteConfig"
  blank := ⟨none, none⟩
  slots := [
    .of "pattern" (·.pattern) (fun d x => { d with pattern := some x }) .text,
    .of "queue" (·.queue) (fun d x => { d with queue := some x }) .text]
  isOpen := false
  finish d :=
    match d.pattern, d.queue with
    | none, _ => .error "pattern"
    | _, none => .error "queue"
    | some pattern, some queue => .ok ⟨pattern, queue⟩

/-- What has been read of the settings for dispatch. -/
structure Draft where
  defaultQueue : Option String
  routes : Option (List Route)
  breaker : Option BreakerConfig

/-- The settings for dispatch. -/
def shape : RecordShape Draft DispatchSettings where
  label := "struct DispatchConfig"
  blank := ⟨none, none, none⟩
  slots := [
    .of "default_queue" (·.defaultQueue) (fun d x => { d with defaultQueue := some x }) .text,
    .of "routes" (·.routes) (fun d x => { d with routes := some x }) (.list routeShape.read),
    .of "circuit_breaker" (·.breaker) (fun d x => { d with breaker := some x })
      BreakerConfig.shape.read]
  isOpen := false
  finish d :=
    .ok ⟨d.defaultQueue.getD standard.defaultQueue, d.routes.getD standard.routes,
      d.breaker.getD standard.breaker⟩

/-- Read the settings for dispatch. -/
def ofJson (text : String) : Except ReadError DispatchSettings := shape.read.document text

end DispatchSettings

end Gatehouse
