import Gatehouse.Json.Reader
import Gatehouse.Pattern.Action
import Gatehouse.Settings

/-!
# Tasks and their queues

A task is a piece of work for somebody else: it has an identity, a name that says
what is to be done, and a payload that only the receiver understands.

A router finds the queue of a task by the name of the task.  Routes are looked at in
order and the first one whose pattern admits the name counts; if there is none the
task goes to the default queue.
-/

namespace Gatehouse

open Json (Reader ReadError RecordShape Slot)

/-! ## Tasks -/

/-- A piece of work. -/
structure Task where
  id : String
  /-- The name, in parts with dots between them. -/
  name : String
  payload : Json

namespace Task

/-- A task that is being read. -/
structure Draft where
  id : Option String
  name : Option String
  payload : Option Json

/-- Tasks in documents: the payload may be left out, and members with other names are
passed over. -/
def shape : RecordShape Draft Task where
  label := "struct TaskMessage"
  blank := ⟨none, none, none⟩
  slots := [
    .of "id" (·.id) (fun draft id => { draft with id := some id }) .text,
    .of "name" (·.name) (fun draft name => { draft with name := some name }) .text,
    .of "payload" (·.payload) (fun draft payload => { draft with payload := some payload }) .any]
  isOpen := true
  finish draft :=
    match draft.id, draft.name with
    | none, _ => .error "id"
    | _, none => .error "name"
    | some id, some name => .ok ⟨id, name, draft.payload.getD .null⟩

/-- Read the document of a task. -/
def ofJson (text : String) : Except ReadError Task := Reader.document shape.read text

end Task

/-! ## Routers -/

/-- A route whose pattern is well formed. -/
structure QueueRoute where
  pattern : ActionPattern
  queue : String
  deriving DecidableEq

/-- Routes with a default queue. -/
structure Router where
  defaultQueue : String
  routes : List QueueRoute
  deriving DecidableEq

namespace Router

/-- Read the pattern of a route. -/
def readRoute (route : Route) : Except PatternError QueueRoute :=
  (ActionPattern.parse route.pattern).map fun pattern => ⟨pattern, route.queue⟩

/-- Make a router; the first pattern that is not well formed is the error. -/
def make (defaultQueue : String) (routes : List Route) : Except PatternError Router :=
  (routes.mapM readRoute).map fun routes => ⟨defaultQueue, routes⟩

/-- The queue of a task. -/
def queueFor (r : Router) (task : String) : String :=
  match r.routes.find? fun route => route.pattern.admits task with
  | some route => route.queue
  | none => r.defaultQueue

end Router

end Gatehouse
