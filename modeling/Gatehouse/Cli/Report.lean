import Gatehouse.Cli.Help
import Gatehouse.Json
import Gatehouse.Settings.Document
import Gatehouse.Startup

/-!
# Reports

What the program answers to a request: lines of output, perhaps a complaint, and an
exit status.  A permission and a valid file are success.  A refusal and an invalid
file are failure.  If there is nothing to decide with, because the settings or the
policies cannot be loaded or the request is not understood, the status says trouble.

The settings are loaded first, whatever the command is.  Where results are wanted as
JSON they are one value on one line.
-/

namespace Gatehouse.Cli

/-- How a program ends. -/
inductive Status where
  | success
  | failure
  | trouble
  deriving DecidableEq, Repr

/-- The exit status as a number. -/
def Status.code : Status → Nat
  | success => 0
  | failure => 1
  | trouble => 2

/-- What the program answers. -/
structure Report where
  status : Status
  output : List String
  complaint : Option String
  deriving DecidableEq, Repr

namespace Report

/-- There is nothing to decide with. -/
def ofComplaint (text : String) : Report := ⟨.trouble, [], some text⟩

/-- Output on success. -/
def ofOutput (lines : List String) : Report := ⟨.success, lines, none⟩

end Report

/-! ## Check -/

/-- The bindings as a JSON object. -/
def bindingsJson (bindings : Bindings) : Json :=
  .object (bindings.entries.map fun e => (e.1, .string e.2))

/-- A verdict as a JSON object. -/
def verdictJson (v : Verdict) : Json :=
  .object [("allowed", .bool v.isAllowed), ("bindings", bindingsJson v.bindings),
    ("decision", .string v.decision.word), ("policy_name", .optional v.policy)]

/-- A verdict in words, with its bindings. -/
def verdictLines (v : Verdict) : List String :=
  let word := if v.isAllowed then "ALLOW" else "DENY"
  let head := match v.policy with
    | some policy => word ++ " (" ++ v.decision.word ++ ", policy '" ++ policy ++ "')"
    | none => word ++ " (no policy matched)"
  head :: v.bindings.entries.map fun e => "  " ++ e.1 ++ " = " ++ e.2

/-- The report on a verdict. -/
def Report.ofVerdict (asJson : Bool) (v : Verdict) : Report :=
  ⟨if v.isAllowed then .success else .failure,
    if asJson then [(verdictJson v).text] else verdictLines v, none⟩

/-! ## Validate -/

/-- A file with what came of loading it. -/
abbrev CheckedFile := String × Except PolicyFileError Policy

/-- A checked file as a JSON object. -/
def checkedJson : CheckedFile → Json
  | (file, .ok policy) => .object [("clauses", .natural policy.clauses.length),
      ("file", .string file), ("policy", .string policy.name)]
  | (file, .error e) => .object [("error", .string e.message), ("file", .string file)]

/-- A checked file in words. -/
def checkedLine : CheckedFile → String
  | (file, .ok policy) => "ok      " ++ file ++ " (" ++ policy.name ++ ", " ++
      toString policy.clauses.length ++ " clauses)"
  | (file, .error e) => "invalid " ++ file ++ ": " ++ e.message

/-- The report on checked files. -/
def Report.ofChecked (asJson : Bool) (checked : List CheckedFile) : Report :=
  ⟨if checked.all fun c => c.2.isOk then .success else .failure,
    if asJson then [(Json.array (checked.map checkedJson)).text] else checked.map checkedLine, none⟩

/-! ## Policies of a subject -/

/-- An instance as a JSON object. -/
def instanceJson (i : PolicyInstance) : Json :=
  .object [("policy", .string i.policy.name), ("variables", bindingsJson i.prebound),
    ("via_role", .optional i.role)]

/-- An instance in words. -/
def instanceLine (i : PolicyInstance) : String :=
  let via := match i.role with
    | some role => " (role " ++ role ++ ")"
    | none => ""
  let fixed :=
    if i.prebound.isEmpty then "" else " " ++ Text.quotedPairs i.prebound.entries
  i.policy.name ++ via ++ fixed

/-- The report on the policies of a subject. -/
def Report.ofInstances (asJson : Bool) (instances : List PolicyInstance) : Report :=
  .ofOutput <|
    if asJson then [(Json.array (instances.map instanceJson)).text]
    else instances.map instanceLine

/-! ## Requests -/

/-- The settings of an invocation. -/
def loadSettings (files : Files) (lookup : Lookup) (i : Invocation) :
    Except Report Settings :=
  match i.settings with
  | none => .ok .standard
  | some path =>
    (Settings.load files lookup path).mapError fun e =>
      .ofComplaint ("Failed to load config from " ++ path ++ ": " ++ e.message)

/-- Go on with what has been built, or complain. -/
def withBuilt {α : Type} (built : Except StartupError α) (report : α → Report) : Report :=
  match built with
  | .error e => .ofComplaint ("Failed to load policies: " ++ e.message)
  | .ok x => report x

/-- Carry out an invocation whose settings are loaded. -/
def execute (files : Files) (settings : Settings) (i : Invocation) : Report :=
  match i.command with
  | .check subject action path =>
    withBuilt (Startup.authorizer files settings.authorization) fun a =>
      .ofVerdict i.asJson (a.decide (.ofText subject) action path).1.verdict
  | .validate paths => .ofChecked i.asJson (paths.map fun path => (path, Policy.load files path))
  | .policiesFor subject =>
    withBuilt (Startup.directory files settings.authorization) fun d =>
      .ofInstances i.asJson (d.policiesFor (.ofText subject)).1

/-- Carry out an invocation. -/
def invoke (files : Files) (lookup : Lookup) (i : Invocation) : Report :=
  match loadSettings files lookup i with
  | .error report => report
  | .ok settings => execute files settings i

/-- Answer a request. -/
def respond (files : Files) (lookup : Lookup) : Except UsageError Request → Report
  | .error e => .ofComplaint e.message
  | .ok (.help page inFull) => .ofOutput (page.lines inFull)
  | .ok .version => .ofOutput [programName ++ " " ++ programVersion]
  | .ok (.run invocation) => invoke files lookup invocation

/-- Answer the words on the command line. -/
def answer (files : Files) (lookup : Lookup) (args : List String) : Report :=
  respond files lookup (Request.ofArguments args)

end Gatehouse.Cli
