import Gatehouse.Cli.Arguments

/-!
# Help

The pages of help.  A page says what a command does, how it is used, and what its
words and options mean.  Only the page of `check` has more to say than fits on it in
short, and its full form gives every entry its own paragraph.
-/

namespace Gatehouse.Cli

/-- The name of the program. -/
def programName : String := "tutelary"

/-- The version of the program. -/
def programVersion : String := "0.3.0"

/-- An entry of a page: a term and what it means. -/
structure Entry where
  term : String
  meaning : String
  deriving DecidableEq, Repr

/-- The entries under a title. -/
structure Section where
  title : String
  entries : List Entry
  deriving DecidableEq, Repr

/-- Entries with their meanings in one column. -/
def Section.inColumns (s : Section) : List String :=
  let width := (s.entries.map (·.term.length)).foldl max 0
  (s.title ++ ":") :: s.entries.map fun e =>
    "  " ++ e.term ++ String.ofList (List.replicate (width - e.term.length + 2) ' ') ++ e.meaning

/-- Entries with their meanings on lines of their own. -/
def Section.inParagraphs (s : Section) : List String :=
  let paragraphs := s.entries.map fun e => ["  " ++ e.term, "          " ++ e.meaning]
  (s.title ++ ":") :: ([""].intercalate paragraphs)

/-- The options that every command takes. -/
def commonOptions : List Entry :=
  [⟨"-c, --config <CONFIG>", "Path to config file"⟩, ⟨"    --json", "Print results as JSON"⟩]

/-- The options of a command, with what its option for help says. -/
def optionsSection (help : String) (more : List Entry) : Section :=
  ⟨"Options", commonOptions ++ ⟨"-h, --help", help⟩ :: more⟩

/-- What a command does, in short. -/
def CommandName.purpose : CommandName → String
  | check => "Decide whether a subject may perform an action on an object path"
  | validate => "Parse policy files and report errors"
  | policiesFor => "List the policies a subject resolves to, in evaluation order"

/-- How a command is called. -/
def CommandName.text : CommandName → String
  | check => "check"
  | validate => "validate"
  | policiesFor => "policies-for"

/-- The words of a command. -/
def CommandName.words : CommandName → List Entry
  | check => [
    ⟨"<SUBJECT>", "User id, or `default` / `anonymous`"⟩,
    ⟨"<ACTION>", "Dotted action name, e.g. `project.update`"⟩,
    ⟨"<PATH>", "Object path, e.g. `organization/acme/project/p1`"⟩]
  | validate => [⟨"<FILES>...", ""⟩]
  | policiesFor => [⟨"<SUBJECT>", ""⟩]

/-- What help is for. -/
def helpPurpose : String := "Print this message or the help of the given subcommand(s)"

/-- A line on the use of something. -/
def usageLine (words : List String) : String :=
  "Usage: " ++ " ".intercalate (programName :: words)

/-- The page of the program. -/
def programPage : List String :=
  let commands := [CommandName.check, .validate, .policiesFor].map fun c =>
    (⟨c.text, c.purpose⟩ : Entry)
  ["Path-scoped access control policies", "", usageLine ["[OPTIONS]", "<COMMAND>"], ""] ++
    (Section.mk "Commands" (commands ++ [⟨"help", helpPurpose⟩])).inColumns ++ [""] ++
    (optionsSection "Print help" [⟨"-V, --version", "Print version"⟩]).inColumns

/-- The page of help on help. -/
def helpPage : List String :=
  [helpPurpose, "", usageLine ["help", "[COMMAND]..."], ""] ++
    (Section.mk "Arguments" [⟨"[COMMAND]...", "Print help for the subcommand(s)"⟩]).inColumns

/-- The page of a command. -/
def commandPage (c : CommandName) (inFull : Bool) : List String :=
  let use := usageLine (c.text :: "[OPTIONS]" :: c.words.map (·.term))
  let arguments := Section.mk "Arguments" c.words
  if c = .check then
    if inFull then
      [c.purpose, "", "Exits with status 0 when allowed and 1 when denied.", "", use, ""] ++
        arguments.inParagraphs ++ [""] ++
        (optionsSection "Print help (see a summary with '-h')" []).inParagraphs
    else
      [c.purpose, "", use, ""] ++ arguments.inColumns ++ [""] ++
        (optionsSection "Print help (see more with '--help')" []).inColumns
  else
    [c.purpose, "", use, ""] ++ arguments.inColumns ++ [""] ++
      (optionsSection "Print help" []).inColumns

/-- The lines of a page. -/
def Page.lines (inFull : Bool) : Page → List String
  | program => programPage
  | command name => commandPage name inFull
  | help => helpPage

end Gatehouse.Cli
