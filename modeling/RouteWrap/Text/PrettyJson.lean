/-!
JSON as it is written for readers: one member or element a line, two blanks deeper at each level.
-/

namespace RouteWrap

inductive PrettyJson
  | text (s : String)
  | truth (b : Bool)
  | list (elements : List PrettyJson)
  | object (members : List (String × PrettyJson))
deriving Repr, Inhabited

namespace PrettyJson

def escapeChar (c : Char) : List Char :=
  match c with
  | '"' => ['\\', '"']
  | '\\' => ['\\', '\\']
  | '\x08' => ['\\', 'b']
  | '\t' => ['\\', 't']
  | '\n' => ['\\', 'n']
  | '\x0c' => ['\\', 'f']
  | '\r' => ['\\', 'r']
  | c =>
      if c < ' ' then
        ['\\', 'u', '0', '0', Nat.digitChar (c.toNat / 16), Nat.digitChar (c.toNat % 16)]
      else [c]

def quoted (s : String) : String :=
  "\"" ++ String.ofList (s.toList.flatMap escapeChar) ++ "\""

def newline (depth : Nat) : String :=
  "\n" ++ String.ofList (List.replicate (2 * depth) ' ')

/-- Lines between brackets; brackets with nothing between them stay together. -/
def block (opening closing : String) (depth : Nat) (lines : List String) : String :=
  if lines.isEmpty then opening ++ closing
  else
    opening ++ ",".intercalate (lines.map (newline (depth + 1) ++ ·)) ++ newline depth ++ closing

mutual

def renderAt (depth : Nat) : PrettyJson → String
  | text s => quoted s
  | truth b => if b then "true" else "false"
  | list elements => block "[" "]" depth (renderList (depth + 1) elements)
  | object members => block "\x7b" "\x7d" depth (renderMembers (depth + 1) members)

def renderList (depth : Nat) : List PrettyJson → List String
  | [] => []
  | v :: rest => renderAt depth v :: renderList depth rest

def renderMembers (depth : Nat) : List (String × PrettyJson) → List String
  | [] => []
  | (k, v) :: rest => (quoted k ++ ": " ++ renderAt depth v) :: renderMembers depth rest

end

def render (v : PrettyJson) : String := renderAt 0 v

end PrettyJson

end RouteWrap
