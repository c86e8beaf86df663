import RouteWrap.Config.Setting
import RouteWrap.Text.Blank
import RouteWrap.Toml.Quoted

/-!
Configuration in environment variables. The name of a variable, without its beginning, is the way
to a value; two underscores stand between the names of a way. What a variable holds is read as a
value if it can be, and is taken as it stands otherwise.
-/

namespace RouteWrap

abbrev Environment := Entries String

namespace Variable

/-- Readers of values; a reader that finds something else has no result. -/
abbrev Reader := StateT (List Char) Option

def isSpace (c : Char) : Bool :=
  c == ' ' || c == '\t' || c == '\n' || c == '\x0c' || c == '\r'

def isSeparator (c : Char) : Bool :=
  c == ',' || c == '\x7b' || c == '\x7d' || c == '[' || c == ']'

def isKeyChar (c : Char) : Bool :=
  Toml.Reader.isDigit c || ('a' ≤ c && c ≤ 'z') || ('A' ≤ c && c ≤ 'Z') || c == '-' || c == '_'

def skipSpace : Reader Unit := modify (·.dropWhile isSpace)

def exactly (c : Char) : Reader Unit := do
  match ← get with
  | d :: rest => if c == d then set rest else failure
  | [] => failure

def takeWhile (p : Char → Bool) : Reader (List Char) := do
  let cs ← get
  set (cs.dropWhile p)
  return cs.takeWhile p

/-- Everything up to a quote that no backslash precedes. -/
def toQuote : List Char → List Char × List Char
  | [] => ([], [])
  | ['\\'] => (['\\'], [])
  | '\\' :: c :: rest =>
      let (inner, after) := toQuote rest
      ('\\' :: c :: inner, after)
  | c :: rest =>
      if c == '"' then ([], c :: rest)
      else
        let (inner, after) := toQuote rest
        (c :: inner, after)

/-- Text with its escapes replaced; the escapes are those of TOML. -/
def unescape (cs : List Char) : Option (List Char) :=
  let r : Toml.Reader (List Char) := do
    let out ← Toml.Reader.many
      (Toml.Reader.orElse
        (Toml.Reader.satisfying fun c => c == '"' || Toml.Reader.isPlain c)
        Toml.Reader.escaped)
    Toml.Reader.atEnd
    return out
  match r ⟨cs, 0⟩ with
  | .ok (out, _) => some out
  | .error _ => none

def string : Reader String := do
  exactly '"'
  let (inner, after) := toQuote (← get)
  set after
  exactly '"'
  match unescape inner with
  | some cs => return String.ofList cs
  | none => failure

def key : Reader String := do
  match ← get with
  | '"' :: _ => string
  | _ =>
      let cs ← takeWhile isKeyChar
      if cs.isEmpty then failure else return String.ofList cs

/-- Digits that may have a plus in front. -/
def natural? (cs : List Char) : Option Nat :=
  let ds := match cs with
    | '+' :: ds => ds
    | ds => ds
  if !ds.isEmpty && ds.all Signed64.isDigit then some (Signed64.ofDigits ds) else none

/-- A value without quotes or brackets: a float must have a point, and numbers too great for a
word are text. -/
def bare (cs : List Char) : Data :=
  let whole := match natural? cs with
    | some n => if n < Binary64.twoTo 64 then some (Data.integer n false) else none
    | none =>
        match cs with
        | '-' :: ds =>
            if ds.head? == some '+' then none
            else
              match natural? ds with
              | some n => if n ≤ Binary64.twoTo 63 then some (Data.integer (-n) true) else none
              | none => none
        | _ => none
  let float := if cs.contains '.' then (Signed64.ofText? cs).map Data.float else none
  match float with
  | some d => d
  | none => whole.getD (.text (String.ofList cs))

/-- Items between brackets, with commas between them and perhaps one after them. -/
def items {α : Type} (item : Reader α) (closing : Char) : Nat → Reader (List α)
  | 0 => failure
  | n + 1 => do
      match ← get with
      | c :: rest =>
          if c == closing then
            set rest
            return []
          else
            let a ← item
            match ← get with
            | ',' :: rest =>
                set rest
                return a :: (← items item closing n)
            | _ =>
                exactly closing
                return [a]
      | [] => failure

def spaced {α : Type} (r : Reader α) : Reader α := do
  skipSpace
  let a ← r
  skipSpace
  return a

/-- A value with at most `depth` values around one another in it. -/
def value : Nat → Reader Data
  | 0 => failure
  | depth + 1 => spaced do
      let cs ← get
      match cs with
      | 't' :: 'r' :: 'u' :: 'e' :: rest =>
          set rest
          return .boolean true
      | 'f' :: 'a' :: 'l' :: 's' :: 'e' :: rest =>
          set rest
          return .boolean false
      | '\x7b' :: rest =>
          set rest
          let pairs ← items
            (do
              let k ← spaced key
              exactly '='
              return (k, ← spaced (value depth)))
            '\x7d' (cs.length + 1)
          return .table (pairs.foldl (fun es (k, d) => Entries.put k d es) [])
      | '[' :: rest =>
          set rest
          return .list (← items (value depth) ']' (cs.length + 1))
      | '"' :: _ => return .text (← string)
      | '\'' :: c :: '\'' :: rest =>
          set rest
          return .character c
      | '\'' :: _ => failure
      | _ =>
          return bare (Blank.trim (← takeWhile fun c => !isSeparator c))

def parse (s : String) : Data :=
  match value (s.length + 1) s.toList with
  | some (d, []) => d
  | _ => .text s

def lower (cs : List Char) : List Char := cs.map Char.toLower

/-- Two underscores are a point. -/
def splitUnderscores : List Char → List Char
  | '_' :: '_' :: rest => '.' :: splitUnderscores rest
  | c :: rest => c :: splitUnderscores rest
  | [] => []

def namePrefix : List Char := ['r', 'd', 't', '_']

/-- The way that a variable sets, if it is one of the program's. -/
def path? (name : String) : Option (List String) :=
  let cs := lower (Blank.trim name.toList)
  if namePrefix.isPrefixOf cs then
    let key := Blank.trim (splitUnderscores (cs.drop namePrefix.length))
    let names := (key.splitOn '.').map String.ofList
    if names.any String.isEmpty then none else some names
  else none

def nest : List String → Setting → Setting
  | [], s => s
  | name :: rest, s => .table .environment [(name, nest rest s)]

/-- The settings that one variable makes; a variable that sets no name makes none. -/
def settings (name value : String) : Settings :=
  match path? name with
  | some (first :: rest) => [(first, nest rest (.ofData .environment (parse value)))]
  | _ => []

end Variable

/-- What the variables set, later ones over earlier ones. -/
def Environment.settings (env : Environment) : Settings :=
  env.foldl (fun lower (name, value) =>
    Setting.ontoEntries (Variable.settings name value) lower) []

end RouteWrap
