/-!
# TOML values

The value of a settings file.  Dates have no use in settings, so they are no values
here, and a document that holds one is not read.

The lines of a TOML document fill its tables one after the other, and whether a line
is allowed depends on how the tables that it names came about.  A table is opened by
a header once.  It may exist before its header, because the header of a table within
it came first.  A dotted key opens tables too, and no header reaches those again.

So a table under construction remembers its `Origin`.  `reach` is the one way into a
tree of tables: it follows a path of names, makes the tables that are missing, and
works on the entries at the end of the path.
-/

namespace Gatehouse

/-- A TOML value. -/
inductive Toml where
  | text (s : String)
  | integer (n : Int)
  | real (x : Float)
  | truth (b : Bool)
  | array (items : List Toml)
  | table (entries : List (String × Toml))

instance : Inhabited Toml := ⟨.truth false⟩

namespace Toml

/-! ## Tables under construction -/

/-- How a table came about. -/
inductive Origin where
  /-- By its own header. -/
  | header
  /-- By the header of a table within it. -/
  | path
  /-- By a dotted key. -/
  | dotted
  deriving DecidableEq, Repr

/-- An entry of a table under construction. -/
inductive Node where
  /-- A finished value. -/
  | value (v : Toml)
  | table (origin : Origin) (entries : List (String × Node))
  /-- Tables of one name, each opened by a header; only the last one is still open. -/
  | tables (finished : List (List (String × Node))) (last : List (String × Node))

/-- The entries of a table under construction. -/
abbrev Entries := List (String × Node)

namespace Entries

/-- The entry of a name. -/
def find? (entries : Entries) (name : String) : Option Node :=
  (List.find? (fun e => e.1 == name) entries).map (·.2)

/-- The entries with another one in the place of an entry. -/
def replace (entries : Entries) (name : String) (node : Node) : Entries :=
  entries.map fun e => if e.1 == name then (name, node) else e

/-- Work on the entries of the table that a path leads to.  With `dotted` the path is
part of a dotted key: new tables are marked so, and a table that has a header of its
own is closed to it. -/
def reach (dotted : Bool) (act : Origin → Entries → Option Entries) :
    List String → Origin → Entries → Option Entries
  | [], origin, entries => act origin entries
  | name :: path, _, entries =>
    match entries.find? name with
    | none =>
      let origin := if dotted then Origin.dotted else .path
      (reach dotted act path origin []).map fun inner => entries ++ [(name, .table origin inner)]
    | some (.table origin inner) =>
      if dotted ∧ origin = .header then none
      else (reach dotted act path origin inner).map fun inner =>
        entries.replace name (.table origin inner)
    | some (.tables finished last) =>
      (reach dotted act path .header last).map fun last =>
        entries.replace name (.tables finished last)
    | some (.value _) => none

/-- Give a value to a name that has none.  A dotted key writes into tables of dotted
keys only, and a plain key into the others. -/
def assign (path : List String) (name : String) (v : Toml) (entries : Entries) : Option Entries :=
  reach true (fun origin entries =>
    if decide (origin = .dotted) = path.isEmpty then none
    else
      match entries.find? name with
      | some _ => none
      | none => some (entries ++ [(name, .value v)])) path .header entries

/-- Open a table by its header. -/
def openTable (path : List String) (name : String) (entries : Entries) : Option Entries :=
  reach false (fun _ entries =>
    match entries.find? name with
    | none => some (entries ++ [(name, .table .header [])])
    | some (.table .path inner) => some (entries.replace name (.table .header inner))
    | some _ => none) path .header entries

/-- Open one more table of a name. -/
def appendTable (path : List String) (name : String) (entries : Entries) : Option Entries :=
  reach false (fun _ entries =>
    match entries.find? name with
    | none => some (entries ++ [(name, .tables [] [])])
    | some (.tables finished last) =>
      some (entries.replace name (.tables (finished ++ [last]) []))
    | some _ => none) path .header entries

/-- Give a value to a name in the table that was opened last. -/
def assignIn (current path : List String) (name : String) (v : Toml) (entries : Entries) :
    Option Entries :=
  reach false (fun _ inner => assign path name v inner) current .header entries

end Entries

mutual

/-- The value of an entry. -/
def Node.finish : Node → Toml
  | .value v => v
  | .table _ entries => .table (finishEntries entries)
  | .tables finished last => .array (finishTables finished ++ [.table (finishEntries last)])

/-- The values of a table's entries. -/
def finishEntries : List (String × Node) → List (String × Toml)
  | [] => []
  | (name, node) :: entries => (name, node.finish) :: finishEntries entries

/-- The values of tables of one name. -/
def finishTables : List (List (String × Node)) → List Toml
  | [] => []
  | entries :: rest => .table (finishEntries entries) :: finishTables rest

end

end Toml

end Gatehouse
