import RouteWrap.Config.Setting
import RouteWrap.Text.Visible

/-!
Why configuration is refused, and the words for it.
-/

namespace RouteWrap

inductive Wanted
  | text
  | boolean
  | sequence
  | nothing
  | choice
  | presetKind
  | quoteStyle
  | naming
  | group
deriving DecidableEq, Repr, Inhabited

def Wanted.words : Wanted → String
  | text => "a string"
  | boolean => "a boolean"
  | sequence => "a sequence"
  | nothing => "unit"
  | choice => "enum"
  | presetKind => "enum PresetKind"
  | quoteStyle => "enum QuoteStyle"
  | naming => "struct WrapperNaming"
  | group => "struct WrapperGroup"

/-- How a value that is not wanted is described; a character is a string of one. -/
def Data.words : Data → String
  | text s => "string " ++ Visible.quoted s
  | character c => "string " ++ Visible.quoted (String.singleton c)
  | boolean b => "bool " ++ (if b then "true" else "false")
  | integer n signed =>
      (if signed then "signed" else "unsigned") ++ " int \x60" ++ toString n ++ "\x60"
  | float x => "float \x60" ++ x.text ++ "\x60"
  | list _ => "sequence"
  | table _ => "map"

inductive ConfigFaultKind
  | missingFile (path : String)
  | unreadable (reason : String)
  | malformed (line column : Nat)
  | wrongType (found : Data) (wanted : Wanted)
  | unknownName (found : String) (known : List String)
  | missingField (name : String)
  | tooShort (length : Nat) (wanted : Wanted) (fields : Nat)
deriving Repr, Inhabited

def knownNames : List String → String
  | [] => "none"
  | [a] => "\x60" ++ a ++ "\x60"
  | [a, b] => "\x60" ++ a ++ "\x60 or \x60" ++ b ++ "\x60"
  | names => "one of " ++ ", ".intercalate (names.map fun n => "\x60" ++ n ++ "\x60")

def ConfigFaultKind.words : ConfigFaultKind → String
  | missingFile path => "config file not found: " ++ path
  | unreadable reason => reason
  | malformed line column =>
      "TOML parse error at line " ++ toString line ++ ", column " ++ toString column
  | wrongType found wanted => "invalid type: found " ++ found.words ++ ", expected " ++ wanted.words
  | unknownName found known =>
      "unknown variant: found \x60" ++ found ++ "\x60, expected \x60" ++ knownNames known ++ "\x60"
  | missingField name => "missing field \x60" ++ name ++ "\x60"
  | tooShort length wanted fields =>
      "invalid length " ++ toString length ++ ", expected " ++ wanted.words ++ " with "
        ++ toString fields ++ " elements"

/-- A fault, the names that lead to the value at fault, and where that was set. -/
structure ConfigFault where
  kind : ConfigFaultKind
  path : List String
  source : Option Source
deriving Repr, Inhabited

namespace ConfigFault

/-- The environment is addressed in capitals, a file through its one profile. -/
def keyIn (path : List String) : Source → String
  | .file _ => Visible.quoted (".".intercalate ("default" :: path))
  | .environment => Visible.quoted (".".intercalate (path.map String.toUpper))

def sourceText : Source → String
  | .file name => name ++ " TOML file"
  | .environment => "\x60RDT_\x60 environment variable(s)"

def message (f : ConfigFault) : String :=
  let place := match f.source with
    | none => ""
    | some s =>
        (if f.path.isEmpty then "" else " for key " ++ keyIn f.path s) ++ " in " ++ sourceText s
  "Configuration error: " ++ f.kind.words ++ place

def ofKind (kind : ConfigFaultKind) : ConfigFault := ⟨kind, [], none⟩

/-- The fault as seen from outside the value of a name. -/
def inside (name : String) (f : ConfigFault) : ConfigFault :=
  { f with path := name :: f.path }

end ConfigFault

end RouteWrap
