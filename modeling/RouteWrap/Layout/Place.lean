import RouteWrap.Layout.Quoted

/-!
Where on a page a phrase stands: how tightly what is around it binds, and whether `in` or a call
would be misread there. Every clause of the printer takes the printer of smaller phrases.
-/

namespace RouteWrap.Layout

structure Place where
  level : Precedence
  /-- In the head of a `for`, where `in` would end the first part. -/
  refuseIn : Bool
  /-- In the callee of `new`, which arguments would end. -/
  refuseCall : Bool
  /-- In a type, where numbers are printed as they were written. -/
  asWritten : Bool
deriving DecidableEq, Repr, Inhabited

namespace Place

/-- A place where any phrase stands for itself. -/
def free : Place := ⟨.lowest, false, false, false⟩

/-- A free place but for how tightly what is around it binds. -/
def bound (level : Precedence) : Place := ⟨level, false, false, false⟩

def at_ (c : Place) (level : Precedence) : Place := { c with level }

/-- The place inside a construct that arguments cannot end. -/
def allowCall (c : Place) : Place := { c with refuseCall := false }

/-- The place of an operand, of which only `in` can be misread. -/
def onlyIn (c : Place) (level : Precedence) : Place := { bound level with refuseIn := c.refuseIn }

/-- The place of an operand, of which only a call can be misread. -/
def onlyCall (c : Place) (level : Precedence) : Place :=
  { bound level with refuseCall := c.refuseCall }

/-- The first part of a loop's head, where `in` is misread. -/
def loopHead : Place := { free with refuseIn := true }

def inType (c : Place) : Place := { c with asWritten := true }

end Place

abbrev Printer := Place → Tree → Print Unit

namespace Printer

open Print

def argument (r : Printer) (t : Tree) : Print Unit := r (.bound .comma) t

def free (r : Printer) (t : Tree) : Print Unit := r .free t

def after (r : Printer) (before : Print Unit) (t : Tree) : Print Unit := do
  if !t.isAbsent then
    before
    r .free t

def list (r : Printer) (c : Place) (ts : List Tree) : Print Unit :=
  commaList (ts.map (r c))

def initial (r : Printer) (c : Place) (t : Tree) : Print Unit := do
  if !t.isAbsent then
    softSpace
    char '='
    softSpace
    r (c.at_ .comma) t

def ascription (r : Printer) (t : Tree) : Print Unit :=
  r.after (do char ':'; softSpace) t

end Printer

namespace Print

def modifier (holds : Bool) (s : String) : Print Unit := do
  if holds then
    word s
    softSpace

/-- A modifier that keeps its blank in minified pages. -/
def fixedModifier (holds : Bool) (s : String) : Print Unit := do
  if holds then text (s ++ " ")

def inBrackets (needed : Bool) (m : Print Unit) : Print Unit := do
  if needed then
    char '['
    m
    char ']'
  else m

/-- The name of a property or member; a string keeps plain quotes. -/
def key (r : Printer) (computed : Bool) (t : Tree) : Print Unit :=
  inBrackets computed (match t with
    | .expr _ (.string ps) _ => literal ps false
    | t => r (.bound .comma) t)

def lines : List (Print Unit) → Print Unit
  | [] => pure ()
  | [m] => ownLine m
  | m :: ms => do
      ownLine m
      char ','
      lines ms
where
  ownLine (m : Print Unit) : Print Unit := do
    softNewline
    lineIndent
    m

end Print

end RouteWrap.Layout
