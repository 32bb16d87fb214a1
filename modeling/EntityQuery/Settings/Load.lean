/-
  EntityQuery.Settings.Load — the settings of a program, from a settings file and from the
  environment.

  Variables count whose name begins with that of the application and two underscores, in
  any case of the letters; the rest of the name, with dots for double underscores, spells a
  path. In the file the first word of a key spells a path, and the other words are keys. The
  variables win over the file. A file that cannot be read is passed over with a warning.
  Settings stand under `query`, and what is not given there has its default.
-/
import EntityQuery.Settings.File
import EntityQuery.Settings.Basic
import EntityQuery.Text.Quoted

namespace EntityQuery.Settings

open Number Text

/-- Two underscores become a dot. -/
def dotted : List Char → List Char
  | '_' :: '_' :: cs => '.' :: dotted cs
  | c :: cs => c :: dotted cs
  | [] => []

/-- Puts a value under the path that a name spells or, where keys follow, further down. All
    keys are in small letters, but an item takes what follows it as it stands. -/
def putNamed (t : Tree) (name : String) (below : List String) (v : Tree) : Tree :=
  let path := (pathOf name).map Step.small
  if path.getLast?.any Step.isItem then
    t.change none (fun item => item.put (some .file) (below.map .key) v) path
  else t.put none (path ++ below.map fun k => .key (lower k)) v

/-- Puts a variable into the tree, if it is one of the application's. -/
def putVariable (application : String) (t : Tree) (name value : String) : Tree :=
  let mark := (lower application).toList ++ ['_', '_']
  let name := (lower name).toList
  if mark.isPrefixOf name then
    putNamed t (String.ofList (dotted (name.drop mark.length))) [] (.text value .environment)
  else t

/-- Puts an assignment of the file into the tree. -/
def putAssigned (t : Tree) (words : List String) (v : Tree) : Tree :=
  match words with
  | [] => t
  | name :: below => putNamed t name below v

inductive LoadError where
  /-- What stands under `query` is neither a table nor a list. -/
  | notTable (found : Tree)
  | unknownStyle (name : String)
  /-- The style is neither a name nor a table with a single key. -/
  | notStyle
  | notBoolean (place : String) (found : Tree)

/-- What was found, in the words of a complaint. -/
def Tree.found : Tree → String
  | .nothing => "unit value"
  | .text s _ => "string " ++ quoted s
  | .integer n => "integer \x60" ++ toString n ++ "\x60"
  | .real x => "floating point \x60" ++ x.plain ++ "\x60"
  | .boolean b => "boolean \x60" ++ (if b then "true" else "false") ++ "\x60"
  | .list _ => "sequence"
  | .table _ _ => "map"

def Origin.place : Origin → String
  | .environment => "the environment"
  | .file => "config/config.toml"

/-- Where it was found, if it remembers. -/
def Tree.whence : Tree → String
  | .text _ origin => " in " ++ origin.place
  | .table _ (some origin) => " in " ++ origin.place
  | _ => ""

def LoadError.reason : LoadError → String
  | .notTable found => "invalid type: " ++ found.found ++ ", expected struct CompilerSettings"
  | .unknownStyle name => "enum PlaceholderStyle does not have variant constructor " ++ name
  | .notStyle =>
    "value of enum PlaceholderStyle should be represented by either string or table with exactly one key"
  | .notBoolean place found =>
    "invalid type: " ++ found.found ++ ", expected a boolean for key \x60" ++ place ++ "\x60" ++ found.whence

def LoadError.message (e : LoadError) : String := "Query configuration could not be loaded: " ++ e.reason

def styleOfName (name : String) : Except LoadError PlaceholderStyle :=
  if lower name = "question" then .ok .question
  else if lower name = "dollar" then .ok .dollar
  else .error (.unknownStyle name)

/-- A style is given by its name, or as the only key of a table. -/
def readStyle : Tree → Except LoadError PlaceholderStyle
  | .text s _ => styleOfName s
  | .table [(key, _)] _ => styleOfName key
  | _ => .error .notStyle

def readBoolean (place : String) : Tree → Except LoadError Bool
  | .boolean b => .ok b
  | .integer n => .ok (n ≠ 0)
  | .real x => .ok (match x.read with
    | .finite _ m _ => m ≠ 0
    | _ => true)
  | .text s origin =>
    let s := lower s
    if s = "1" || s = "true" || s = "on" || s = "yes" then .ok true
    else if s = "0" || s = "false" || s = "off" || s = "no" then .ok false
    else .error (.notBoolean place (.text s origin))
  | found => .error (.notBoolean place found)

/-- Settings from what was found of them, and the place of the second. -/
def readSettings (style? quote? : Option Tree) (place : String) : Except LoadError Settings :=
  match style?.elim (.ok .question) readStyle with
  | .error e => .error e
  | .ok placeholder => match quote?.elim (.ok false) (readBoolean place) with
    | .error e => .error e
    | .ok quoteIdentifiers => .ok { placeholder, quoteIdentifiers }

/-- Settings are given by name in a table, or by position in a list. -/
def readQuery : Tree → Except LoadError Settings
  | .table entries _ =>
    readSettings (entries.lookup "placeholder") (entries.lookup "quote_identifiers") "query.quote_identifiers"
  | .list items => readSettings items[0]? items[1]? "query[1]"
  | found => .error (.notTable found)

structure Loaded where
  settings : Except LoadError Settings
  /-- The file was there but could not be read. -/
  warned : Bool

/-- Everything collected from the file and then from the variables. -/
def collect (application : String) (values : List (List String × Tree)) (given : List (String × String)) : Tree :=
  let t := values.foldl (fun t (words, v) => putAssigned t words v) Tree.empty
  given.foldl (fun t (name, value) => putVariable application t name value) t

def load (application : String) (file : Option File) (given : List (String × String)) : Loaded :=
  let values := file.elim (some []) File.read
  let t := collect application (values.getD []) given
  ⟨(t.child? "query").elim (.ok {}) readQuery, values.isNone⟩

end EntityQuery.Settings
