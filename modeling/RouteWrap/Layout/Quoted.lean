import RouteWrap.Layout.Page
import RouteWrap.Syntax.Module
import RouteWrap.Text.Blank

/-!
String literals and comments as they are printed. A literal is quoted in one style, or in a
minified page with the quote that needs the fewest escapes; no text closes the script element
that may hold the page.
-/

namespace RouteWrap.Layout

namespace Quoted

/-- How many characters of a string each quote has to escape. A line end costs a character in
plain quotes and none in a template. -/
structure Costs where
  single : Int
  double : Int
  template : Int
deriving DecidableEq, Repr

def costs : Points → Costs
  | [] => ⟨0, 0, 0⟩
  | n :: ns =>
      let c := costs ns
      if n == 10 then { c with template := c.template - 1 }
      else if n == '\''.toNat then { c with single := c.single + 1 }
      else if n == '"'.toNat then { c with double := c.double + 1 }
      else if n == '\x60'.toNat || (n == '$'.toNat && ns.head? == some '\x7b'.toNat) then
        { c with template := c.template + 1 }
      else c

/-- The quote with the fewest escapes; a template is best, then the double quote. -/
def cheapest (ps : Points) (allowTemplate : Bool) : Char :=
  let c := costs ps
  if allowTemplate && c.template ≤ c.single && c.template ≤ c.double then '\x60'
  else if c.double ≤ c.single then '"'
  else '\''

def hex (n : Nat) : List Char := Nat.toDigits 16 n

/-- Characters that are printed by an escape in every quote. -/
def escaped (n : Nat) (next : Option Nat) : Option (List Char) :=
  match n with
  | 0x0 =>
      let beforeDigit := next.any fun m => '0'.toNat ≤ m && m ≤ '9'.toNat
      some (if beforeDigit then "\\x00".toList else "\\0".toList)
  | 0x7 => some "\\x07".toList
  | 0x8 => some "\\b".toList
  | 0xb => some "\\v".toList
  | 0xc => some "\\f".toList
  | 0xd => some "\\r".toList
  | 0x1b => some "\\x1B".toList
  | 0x5c => some "\\\\".toList
  | 0xa0 => some "\\xA0".toList
  | 0x2028 => some "\\u2028".toList
  | 0x2029 => some "\\u2029".toList
  | n => if 0xd800 ≤ n && n ≤ 0xdfff then some ('\\' :: 'u' :: hex n) else none

def isClosing : List Nat → Bool
  | slash :: rest =>
      slash == '/'.toNat && ((rest.take 6).map fun n => (Char.ofNat n).toLower) == "script".toList
  | [] => false

def inner (quote : Char) : Points → List Char
  | [] => []
  | n :: ns =>
      let rest := inner quote ns
      match escaped n ns.head? with
      | some cs => cs ++ rest
      | none =>
          let c := Char.ofNat n
          if c == '\n' && quote != '\x60' then '\\' :: 'n' :: rest
          else if c == quote then '\\' :: c :: rest
          else if quote == '\x60' && c == '$' && ns.head? == some '\x7b'.toNat then
            '\\' :: c :: rest
          else if c == '<' && isClosing ns then '<' :: '\\' :: rest
          else c :: rest

def literal (quote : Char) (ps : Points) : List Char :=
  quote :: inner quote ps ++ [quote]

/-- The text of a string without escapes. -/
def bare (ps : Points) : List Char := ps.unescaped.map Char.ofNat

end Quoted

/-- A text in which `</script` is broken up. -/
def unclosing : List Char → List Char
  | [] => []
  | c :: cs =>
      if c == '<' && Quoted.isClosing (cs.map Char.toNat) then c :: '\\' :: unclosing cs
      else c :: unclosing cs

namespace Print

/-- A string literal; `allowTemplate` tells whether a template may stand for it. -/
def literal (ps : Points) (allowTemplate : Bool) : Print Unit := do
  let format := (← get).format
  let quote := if format.minify then Quoted.cheapest ps allowTemplate else format.quote.char
  chars (Quoted.literal quote ps)

/-! Comments -/

/-- The lines of a text, without what ends them. -/
def linesOf : List Char → List (List Char)
  | [] => [[]]
  | '\r' :: '\n' :: cs => [] :: linesOf cs
  | c :: cs =>
      if Blank.isLineEnd c then [] :: linesOf cs
      else match linesOf cs with
        | l :: ls => (c :: l) :: ls
        | [] => [[c]]

def commentLine (l : List Char) : Print Unit := do
  if !"/*".toList.isPrefixOf l then lineIndent
  chars (unclosing (Blank.trimStart l))
  if !"*/".toList.isSuffixOf l then newline

def comment (c : Comment) : Print Unit := do
  let cs := c.text.toList
  if c.isLine || !cs.any Blank.isLineEnd then chars (unclosing cs)
  else (linesOf cs).forM commentLine

/-- The comments that lead the token at `start`, which are now printed. -/
def takeComments (start : Nat) : Print (List Comment) :=
  modifyGet fun p =>
    match p.comments.find? (·.1 == start) with
    | some (_, cs) => (cs, { p with comments := p.comments.filter (·.1 != start) })
    | none => ([], p)

def hasComments (start : Nat) : Print Bool := do
  return (← get).comments.any (·.1 == start)

/-- Go to a new line, unless the page is at the start of one. -/
def freshLine : Print Unit := do
  match (← get).reversed with
  | [] => lineIndent
  | '\n' :: _ => lineIndent
  | '\t' :: _ => return
  | _ =>
      newline
      lineIndent

def commentsFrom (isFirst : Bool) : List Comment → Print Unit
  | [] => pure ()
  | c :: cs => do
      if isFirst then
        if c.afterNewline then freshLine else lineIndent
      else if c.afterNewline then
        newline
        lineIndent
      else if c.content == .legal then newline
      comment c
      if cs.isEmpty then
        if c.isLine || c.beforeNewline then newline
        else modify fun p => { p with indentAsSpace := true }
      commentsFrom false cs

def comments (cs : List Comment) : Print Unit := commentsFrom true cs

def commentsAt (start : Nat) : Print Unit := do
  comments (← takeComments start)

/-- Comments in front of an argument, each on a line of its own; false if there are none. -/
def argumentComments (start : Nat) : Print Bool := do
  match ← takeComments start with
  | [] => return false
  | cs =>
      for c in cs do
        newline
        lineIndent
        comment c
      newline
      return true

end Print

end RouteWrap.Layout
