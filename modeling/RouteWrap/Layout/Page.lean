import RouteWrap.PrintFormat
import RouteWrap.Syntax.Comment
import RouteWrap.Text.Identifier

/-!
The page that a module is printed on: the text so far, the indentation, and what the next
character depends on. Blanks that only please the eye are left out of a minified page, and line
ends that separate statements become semicolons printed when a statement follows.
-/

namespace RouteWrap

namespace Layout

/-- Operators that may run together with the one after them. -/
inductive Sign
  | plus | minus | increment | decrement | not | greater
deriving DecidableEq, Repr, Inhabited

namespace Sign

def ofBinary : BinaryOperator → Option Sign
  | .plus => some plus
  | .minus => some minus
  | .greater => some greater
  | _ => none

def ofUnary : UnaryOperator → Option Sign
  | .plus => some plus
  | .minus => some minus
  | .not => some not
  | _ => none

def ofUpdate : UpdateOperator → Sign
  | .increment => increment
  | .decrement => decrement

/-- Whether `s` and `t` would read as another operator or open a comment. -/
def clashes (s t : Sign) (afterAngle : Bool) : Bool :=
  match s, t with
  | plus, plus | plus, increment => true
  | minus, minus | minus, decrement => true
  | decrement, greater => true
  | not, decrement => afterAngle
  | _, _ => false

end Sign

/-- Places on a page where a phrase has to start in parentheses. -/
structure Starts where
  statement : Option Nat
  arrowBody : Option Nat
  defaultExport : Option Nat
deriving Repr, Inhabited

structure Page where
  format : PrintFormat
  tags : Bool
  /-- What is printed, the last character first. -/
  reversed : List Char
  size : Nat
  indent : Nat
  /-- The next indentation is one space. -/
  indentAsSpace : Bool
  /-- A statement was printed whose end is not marked yet. -/
  owesSemicolon : Bool
  /-- The sign printed last and where it ended. -/
  sign : Option (Sign × Nat)
  /-- Where a regular expression ended. -/
  regexEnd : Option Nat
  /-- Where a number ended that a dot would continue. -/
  wholeEnd : Option Nat
  starts : Starts
  /-- Comments not yet printed, by the start of the token they lead. -/
  comments : List (Nat × List Comment)
deriving Repr, Inhabited

namespace Page

def push (p : Page) (c : Char) : Page :=
  { p with reversed := c :: p.reversed, size := p.size + 1 }

def append (p : Page) (cs : List Char) : Page :=
  cs.foldl push p

def text (p : Page) : String :=
  String.ofList p.reversed.reverse

theorem append_reversed (p : Page) (cs : List Char) :
    (p.append cs).reversed = cs.reverse ++ p.reversed := by
  induction cs generalizing p with
  | nil => rfl
  | cons c cs ih => simp [append, push] at ih ⊢; simp [ih]

/-- Comments grouped by the token they lead, in the order of the source. -/
def grouped (cs : List Comment) : List (Nat × List Comment) :=
  cs.foldr (fun c groups =>
    match c.leads with
    | none => groups
    | some start =>
        match groups.find? (·.1 == start) with
        | some (_, found) => (start, c :: found) :: groups.filter (·.1 != start)
        | none => (start, [c]) :: groups) []

/-- Marks of pure calls and functions are printed with what they mark. -/
def printed (c : Comment) : Bool :=
  c.content != .pureCall && c.content != .pureFunction

def empty (format : PrintFormat) (tags : Bool) (comments : List Comment) : Page :=
  { format, tags, reversed := [], size := 0, indent := 0, indentAsSpace := false
    owesSemicolon := false, sign := none, regexEnd := none, wholeEnd := none
    starts := ⟨none, none, none⟩, comments := grouped (comments.filter printed) }

end Page

abbrev Print := StateM Page

namespace Print

def minified : Print Bool := return (← get).format.minify

def char (c : Char) : Print Unit := modify (·.push c)

def chars (cs : List Char) : Print Unit := modify (·.append cs)

def text (s : String) : Print Unit := chars s.toList

def newline : Print Unit := char '\n'

def space : Print Unit := char ' '

def softNewline : Print Unit := do
  if !(← minified) then newline

def softSpace : Print Unit := do
  if !(← minified) then space

def lineIndent : Print Unit := do
  let p ← get
  if p.format.minify then return
  if p.indentAsSpace then
    space
    modify fun p => { p with indentAsSpace := false }
  else chars (List.replicate p.indent '\t')

def indented (m : Print Unit) : Print Unit := do
  modify fun p => { p with indent := p.indent + 1 }
  m
  modify fun p => { p with indent := p.indent - 1 }

def inParentheses (needed : Bool) (m : Print Unit) : Print Unit := do
  if needed then
    char '('
    m
    char ')'
  else m

def commaList : List (Print Unit) → Print Unit
  | [] => pure ()
  | [m] => m
  | m :: ms => do
      m
      char ','
      softSpace
      commaList ms

/-! Words and operators -/

/-- A word is set off from a word or regular expression before it. -/
def wordSpace : Print Unit := do
  let p ← get
  match p.reversed with
  | [] => return
  | c :: _ => if p.regexEnd == some p.size || Identifier.continuesName c then space

def word (s : String) : Print Unit := do
  wordSpace
  text s

/-- A sign is set off from a sign before it that it would run together with. -/
def signSpace (next : Option Sign) : Print Unit := do
  let p ← get
  match p.sign, next with
  | some (last, stop), some next =>
      let afterAngle := match p.reversed with
        | _ :: '<' :: _ => true
        | _ => false
      if stop == p.size && last.clashes next afterAngle then space
  | _, _ => return

def markSign (s : Option Sign) : Print Unit :=
  modify fun p => { p with sign := s.map fun s => (s, p.size) }

/-! Statements -/

def semicolonIfOwed : Print Unit := do
  if (← get).owesSemicolon then
    char ';'
    modify fun p => { p with owesSemicolon := false }

/-- The end of a statement, which a closing brace may stand for. -/
def statementEnd : Print Unit := do
  if ← minified then modify fun p => { p with owesSemicolon := true }
  else text ";\n"

def owesNothing : Print Unit := modify fun p => { p with owesSemicolon := false }

/-- `{`, what `m` prints, and `}`, on lines of their own unless `single`. -/
def braces (single : Bool) (m : Print Unit) : Print Unit := do
  char '\x7b'
  if single then m
  else
    softNewline
    indented m
    lineIndent
  char '\x7d'

def markStatement : Print Unit :=
  modify fun p => { p with starts := { p.starts with statement := some p.size } }

def markArrowBody : Print Unit :=
  modify fun p => { p with starts := { p.starts with arrowBody := some p.size } }

def markDefaultExport : Print Unit :=
  modify fun p => { p with starts := { p.starts with defaultExport := some p.size } }

def atStatement : Print Bool := do
  let p ← get
  return p.starts.statement == some p.size

def atArrowBody : Print Bool := do
  let p ← get
  return p.starts.arrowBody == some p.size

def atDefaultExport : Print Bool := do
  let p ← get
  return p.starts.defaultExport == some p.size

end Print

end Layout

end RouteWrap
