import RouteWrap.Toml.Number
import RouteWrap.Toml.Quoted
import RouteWrap.Toml.Table

/-!
Keys and values of TOML text.
-/

namespace RouteWrap.Toml

/-- Values are nested less than this deep, and keys have fewer names. -/
def depthLimit : Nat := 80

namespace Reader

def isBareKey (c : Char) : Bool :=
  isDigit c || ('a' ≤ c && c ≤ 'z') || ('A' ≤ c && c ≤ 'Z') || c == '-' || c == '_'

def simpleKey : Reader String := do
  match ← next? with
  | some '"' => return String.ofList (← basicString)
  | some '\'' => return String.ofList (← literalString)
  | _ => return String.ofList (← takeSome isBareKey)

def key : Reader DottedKey :=
  demand do
    let names ← separated (do blanks; let k ← simpleKey; blanks; return k) (char '.')
    match names with
    | first :: rest =>
        return if names.length < depthLimit then some (.ofNames first rest) else none
    | [] => return none

/-- Items with separators between them, perhaps none at all. -/
def anyNumber {α : Type} (item : Reader α) (separator : Reader Unit) : Reader (List α) := do
  return (← optional (separated item separator)).getD []

def array (item : Reader Data) : Reader Data := do
  char '['
  let items ← sure do
    if (← next?) == some ']' then return []
    else
      let items ← anyNumber (do gap; let d ← item; gap; return d) (char ',')
      if !items.isEmpty then discard (optional (char ','))
      gap
      return items
  sure (char ']')
  return .list items

def insertAll? : List (DottedKey × Data) → Tables → Option Tables
  | [], es => some es
  | (k, d) :: rest, es => (Tables.insert? k d es).bind (insertAll? rest)

def inlineTable (item : Reader Data) : Reader Data := do
  char '\x7b'
  let entries ← sure (demand do
    let pairs ← anyNumber
      (do
        let k ← key
        sure do
          char '='
          blanks
          let d ← item
          blanks
          return (k, d))
      (char ',')
    blanks
    return insertAll? pairs [])
  sure (char '\x7d')
  return .table (Node.entries entries)

def truth (w : List Char) (b : Bool) : Reader Data :=
  sure do
    word w
    return .boolean b

/-- A value with at most `depth` values around one another in it. -/
def value (depth : Nat) : Reader Data := do
  match ← next? with
  | some c =>
      if c == '"' || c == '\'' then return .text (String.ofList (← quoted))
      else if c == '[' || c == '\x7b' then
        match depth with
        | 0 => sure refuse
        | depth + 1 => if c == '[' then array (value depth) else inlineTable (value depth)
      else if c == '+' || c == '-' || isDigit c then
        firstOf [momentTable, float, integer]
      else if c == '_' then integer
      else if c == '.' then float
      else if c == 't' then truth ['t', 'r', 'u', 'e'] true
      else if c == 'f' then truth ['f', 'a', 'l', 's', 'e'] false
      else if c == 'i' then return .float (.number false (← infinity))
      else if c == 'n' then notNumber; return .float .notNumber
      else refuse
  | none => refuse

end Reader

end RouteWrap.Toml
