/-!
# Arguments

What the words on the command line ask for.  First comes a command with its own words,
and options can stand anywhere between them.

```text
check SUBJECT ACTION PATH
validate FILE...
policies-for SUBJECT
help [COMMAND]
```

*Words.*  A word that begins with a hyphen is one or more options, except for the
hyphen alone.  Two hyphens alone end the options.  The value of an option is the next
word, or follows it in the same word.

*Twice the same option.*  An option stands once before the command and once after it
at most, and what stands after the command wins.

*Which error wins.*  The words are taken one after the other, and the first request
for help, or for the version, ends the reading: what is wrong after it does not
matter, and neither does a command that is not complete.  The value of an option is
looked at when the next option comes or the words are over, which is `settle`; before
a command it is looked at after the words of the command.
-/

namespace Gatehouse.Cli

/-- What is to be done. -/
inductive Command where
  | check (subject action path : String)
  | validate (files : List String)
  | policiesFor (subject : String)
  deriving DecidableEq, Repr

/-- The names of the commands. -/
inductive CommandName where
  | check
  | validate
  | policiesFor
  deriving DecidableEq, Repr

/-- What can be done with a word that is no option: which command it names. -/
def CommandName.ofText? : String → Option CommandName
  | "check" => some check
  | "validate" => some validate
  | "policies-for" => some policiesFor
  | _ => none

/-- A command with what applies to all commands. -/
structure Invocation where
  command : Command
  /-- The path of the settings file. -/
  settings : Option String
  asJson : Bool
  deriving DecidableEq, Repr

/-- A page of help. -/
inductive Page where
  | program
  | command (name : CommandName)
  | help
  deriving DecidableEq, Repr

/-- What the words ask for. -/
inductive Request where
  | run (invocation : Invocation)
  /-- A page of help, in full or in short. -/
  | help (page : Page) (inFull : Bool)
  | version
  deriving DecidableEq, Repr

/-- Why the words make no request. -/
inductive UsageError where
  | unknownOption (word : String)
  | unknownCommand (word : String)
  | noCommand
  | noValue
  | emptyValue
  /-- The option takes no value. -/
  | needlessValue (word : String)
  /-- The same option stands there twice. -/
  | repeated
  /-- One word too many. -/
  | needlessWord (word : String)
  | missingWords
  deriving DecidableEq, Repr

/-- The wording of an error. -/
def UsageError.message : UsageError → String
  | unknownOption word => "error: unexpected argument '" ++ word ++ "' found"
  | unknownCommand word => "error: unrecognized subcommand '" ++ word ++ "'"
  | noCommand => "error: a subcommand is required"
  | noValue => "error: a value is required for '--config <CONFIG>'"
  | emptyValue => "error: a value is required, but none was supplied"
  | needlessValue word => "error: unexpected value for '" ++ word ++ "' found"
  | repeated => "error: an argument cannot be used multiple times"
  | needlessWord word => "error: unexpected argument '" ++ word ++ "' found"
  | missingWords => "error: required arguments were not provided"

/-! ## Words -/

/-- An option. -/
inductive Flag where
  | settings
  | json
  | help (inFull : Bool)
  | version
  deriving DecidableEq, Repr

/-- The option of a long name.  The version is asked for before the command only. -/
def longFlag? (beforeCommand : Bool) : String → Option Flag
  | "config" => some .settings
  | "json" => some .json
  | "help" => some (.help true)
  | "version" => if beforeCommand then some .version else none
  | _ => none

/-- The option of a letter. -/
def shortFlag? (beforeCommand : Bool) : Char → Option Flag
  | 'c' => some .settings
  | 'h' => some (.help false)
  | 'V' => if beforeCommand then some .version else none
  | _ => none

/-- A word by its form. -/
inductive Word where
  /-- The options end here. -/
  | endOfOptions
  /-- An option by its name, perhaps with a value. -/
  | long (name : String) (value : Option String)
  /-- Options by their letters. -/
  | short (letters : List Char)
  | plain (text : String)
  deriving DecidableEq, Repr

/-- The form of a word. -/
def Word.ofText (text : String) : Word :=
  match text.toList with
  | ['-', '-'] => endOfOptions
  | '-' :: '-' :: cs =>
    let name := String.ofList (cs.takeWhile (· != '='))
    match cs.dropWhile (· != '=') with
    | [] => long name none
    | _ :: value => long name (some (String.ofList value))
  | '-' :: c :: cs => short (c :: cs)
  | _ => plain text

/-! ## Options -/

/-- The options of one side of the command. -/
structure Options where
  settings : Option String
  asJson : Bool
  deriving DecidableEq, Repr

/-- A value that is still to come, or still to be looked at. -/
inductive Pending where
  | nothing
  | awaited
  | given (value : String)
  deriving DecidableEq, Repr

/-- The options so far. -/
structure Scan where
  options : Options
  pending : Pending
  deriving DecidableEq, Repr

/-- No options so far. -/
def Scan.start : Scan := ⟨⟨none, false⟩, .nothing⟩

/-- Where a word leads: on, or to the end of the reading. -/
inductive Progress (α : Type) where
  | going (state : α)
  | stopped (result : Except UsageError Request)

namespace Scan

/-- Set the path of the settings file. -/
def setSettings (s : Scan) (value : String) : Except UsageError Scan :=
  if s.options.settings.isSome then .error .repeated
  else if value = "" then .error .emptyValue
  else .ok ⟨{ s.options with settings := some value }, .nothing⟩

/-- Look at a value that has been given. -/
def settle (s : Scan) : Except UsageError Scan :=
  match s.pending with
  | .nothing => .ok s
  | .awaited => .error .noValue
  | .given value => s.setSettings value

/-- The options when the words are over. -/
def finish (s : Scan) : Except UsageError Options := s.settle.map (·.options)

/-- An option that takes no value. -/
def raise (s : Scan) (page : Page) (flag : Flag) : Progress Scan :=
  match s.settle with
  | .error e => .stopped (.error e)
  | .ok s =>
    match flag with
    | .help inFull => .stopped (.ok (.help page inFull))
    | .version => .stopped (.ok .version)
    | .settings => .going { s with pending := .awaited }
    | .json =>
      if s.options.asJson then .stopped (.error .repeated)
      else .going { s with options := { s.options with asJson := true } }

/-- An option with its value in the same word. -/
def assign (s : Scan) (value : String) : Progress Scan :=
  match s.settle.bind (·.setSettings value) with
  | .error e => .stopped (.error e)
  | .ok s => .going s

/-- Options by their letters. -/
def letters (page : Page) (word : String) : Scan → List Char → Progress Scan
  | s, [] => .going s
  | s, c :: cs =>
    match shortFlag? (page == .program) c with
    | none => .stopped (.error (.unknownOption word))
    | some .settings =>
      match cs with
      | [] => s.raise page .settings
      | '=' :: value => s.assign (String.ofList value)
      | value => s.assign (String.ofList value)
    | some flag =>
      match s.raise page flag with
      | .going s => letters page word s cs
      | stopped => stopped

/-- An option by its name. -/
def long (s : Scan) (page : Page) (name : String) (value : Option String) : Progress Scan :=
  match longFlag? (page == .program) name, value with
  | none, _ => .stopped (.error (.unknownOption ("--" ++ name)))
  | some .settings, some value => s.assign value
  | some _, some _ => .stopped (.error (.needlessValue ("--" ++ name)))
  | some flag, none => s.raise page flag

end Scan

/-! ## The words of a command -/

namespace CommandName

/-- So many words belong to the command at most. -/
def limit? : CommandName → Option Nat
  | check => some 3
  | validate => none
  | policiesFor => some 1

/-- One more word for a command. -/
def take (name : CommandName) (words : List String) (word : String) :
    Except UsageError (List String) :=
  if name.limit? = some words.length then .error (.needlessWord word)
  else if name = validate ∧ word = "" then .error .emptyValue
  else .ok (words ++ [word])

/-- The command that the words make. -/
def command? : CommandName → List String → Except UsageError Command
  | check, [subject, action, path] => .ok (.check subject action path)
  | policiesFor, [subject] => .ok (.policiesFor subject)
  | validate, file :: files => .ok (.validate (file :: files))
  | _, _ => .error .missingWords

/-- The command at the end of the words, with the options that stood among them. -/
def finish (name : CommandName) (s : Scan) (words : List String) :
    Except UsageError (Command × Options) := do
  let options ← s.finish
  let command ← name.command? words
  return (command, options)

end CommandName

/-- What the words after a command make of it. -/
inductive CommandReading where
  | command (command : Command) (options : Options)
  | stopped (result : Except UsageError Request)

/-- The reading that a result is. -/
def CommandReading.ofResult : Except UsageError (Command × Options) → CommandReading
  | .ok result => .command result.1 result.2
  | .error e => .stopped (.error e)

/-- Read the words after a command: they are the command's own where the options have
ended. -/
def readCommand (name : CommandName) : Bool → Scan → List String → List String → CommandReading
  | _, s, words, [] => .ofResult (name.finish s words)
  | true, s, words, arg :: args =>
    match name.take words arg with
    | .error e => .stopped (.error e)
    | .ok words => readCommand name true s words args
  | false, s, words, arg :: args =>
    match Word.ofText arg with
    | .endOfOptions =>
      if s.pending = .awaited then .stopped (.error .noValue)
      else readCommand name true s words args
    | .long option value =>
      match s.long (.command name) option value with
      | .going s => readCommand name false s words args
      | .stopped result => .stopped result
    | .short cs =>
      match Scan.letters (.command name) arg s cs with
      | .going s => readCommand name false s words args
      | .stopped result => .stopped result
    | .plain text =>
      if s.pending = .awaited then
        readCommand name false { s with pending := .given text } words args
      else
        match name.take words text with
        | .error e => .stopped (.error e)
        | .ok words => readCommand name false s words args

/-! ## All words -/

/-- The page of help that some words name. -/
def helpRequest : List String → Except UsageError Request
  | [] => .ok (.help .program true)
  | ["help"] => .ok (.help .help true)
  | "help" :: word :: _ => .error (.unknownCommand word)
  | word :: words =>
    match CommandName.ofText? word, words with
    | none, _ => .error (.unknownCommand word)
    | some name, [] => .ok (.help (.command name) true)
    | some _, more :: _ => .error (.unknownCommand more)

/-- A command with the options on both sides of it. -/
def invocation (before : Scan) (reading : CommandReading) : Except UsageError Request :=
  match reading with
  | .stopped result => result
  | .command command after => do
    let before ← before.finish
    return .run ⟨command, after.settings.or before.settings, before.asJson || after.asJson⟩

/-- Read the words before the command, and all others with it. -/
def readWords : Scan → List String → Except UsageError Request
  | s, [] => s.finish.bind fun _ => .error .noCommand
  | s, arg :: args =>
    match Word.ofText arg with
    | .endOfOptions => .error .noCommand
    | .long option value =>
      match s.long .program option value with
      | .going s => readWords s args
      | .stopped result => result
    | .short cs =>
      match Scan.letters .program arg s cs with
      | .going s => readWords s args
      | .stopped result => result
    | .plain text =>
      if s.pending = .awaited then readWords { s with pending := .given text } args
      else if text = "help" then helpRequest args
      else
        match CommandName.ofText? text with
        | none => .error (.unknownCommand text)
        | some name => invocation s (readCommand name false .start [] args)

/-- What the words on the command line ask for. -/
def Request.ofArguments (args : List String) : Except UsageError Request :=
  readWords .start args

end Gatehouse.Cli
