import Gatehouse.Cli.Report
import Gatehouse.Environment

/-!
# The program

Reads what the request needs, answers it, and ends.  Which files are needed is known
step by step: the settings first, then the folder with the policies, then the policies
in it.
-/

namespace Gatehouse.Program

/-- The number of an error, which may come with a sign. -/
def errorNumber (code : UInt32) : Nat :=
  if code.toNat < Nat.pow 2 31 then code.toNat else Nat.pow 2 32 - code.toNat

/-- The fault that reading has run into. -/
def faultOf : IO.Error → FileFault
  | .noFileOrDirectory .. => .missing
  | .permissionDenied .. => .other "Permission denied" 13
  | .inappropriateType _ code _ => if errorNumber code = 20 then .notFolder else .isFolder
  | .invalidArgument _ code details =>
    if errorNumber code = 36 then .nameTooLong else .other details (errorNumber code)
  | e => .other (toString e) 5

/-- Read something at a path, and take a failure as a fault. -/
def attempt {α : Type} (path : String) (read : IO α) : IO (Except FileFault α) := do
  if path = "" then return .error .missing
  if path.toList.contains '\x00' then return .error .zeroInName
  try
    return .ok (← read)
  catch e =>
    return .error (faultOf e)

/-- The names of the regular files in a folder. -/
def namesIn (path : String) : IO (Except FileFault (List String)) :=
  attempt path do
    let entries ← ((← IO.currentDir) / path).readDir
    let regular ← entries.toList.filterM fun entry => do
      try
        return (← entry.path.metadata).type == .file
      catch _ =>
        return false
    return regular.map (·.fileName)

/-- Read files, in addition to what has been read. -/
def readInto (files : Files) (paths : List String) : IO Files :=
  paths.foldlM
    (fun files (path : String) =>
      return files.setBytes path (← attempt path (IO.FS.readBinFile path)))
    files

/-- Read the policies that settings name. -/
def readPolicies (files : Files) (s : AuthorizationSettings) : IO Files := do
  let files ← s.policyDir.toList.foldlM
    (fun files folder => return files.setNames folder (← namesIn folder)) files
  match Startup.policyPaths files s with
  | .error _ => return files
  | .ok paths => readInto files paths

/-- The part of the environment that the settings refer to. -/
def environmentFor (files : Files) (i : Cli.Invocation) : IO Environment := do
  let texts := i.settings.toList.filterMap fun path => (files.text path).toOption
  let values ← (texts.flatMap References.names).mapM fun name => return (name, ← IO.getEnv name)
  return .ofEntries (values.filterMap fun (name, value?) => value?.map fun value => (name, value))

/-- Carry out an invocation. -/
def invoke (i : Cli.Invocation) : IO Cli.Report := do
  let files ← readInto .none i.settings.toList
  match Cli.loadSettings files (← environmentFor files i).lookup i with
  | .error report => return report
  | .ok settings =>
    match i.command with
    | .validate paths => return Cli.execute (← readInto files paths) settings i
    | _ => return Cli.execute (← readPolicies files settings.authorization) settings i

/-- Answer a request. -/
def respond : Except Cli.UsageError Cli.Request → IO Cli.Report
  | .ok (.run invocation) => invoke invocation
  | request => return Cli.respond .none (fun _ => none) request

end Gatehouse.Program

/-- The program. -/
def main (args : List String) : IO UInt32 := do
  let report ← Gatehouse.Program.respond (Gatehouse.Cli.Request.ofArguments args)
  report.output.forM IO.println
  report.complaint.forM IO.eprintln
  return UInt32.ofNat report.status.code
