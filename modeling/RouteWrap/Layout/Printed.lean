import RouteWrap.Layout.Element
import RouteWrap.Layout.Expression
import RouteWrap.Layout.Link
import RouteWrap.Layout.Type

/-!
Whole modules, printed.
-/

namespace RouteWrap.Layout

open Print

def writeNode (r : Printer) (c : Place) (s : Span) (f : Form) (ps : List Tree) :
    Print Unit :=
  match f with
  | .statement f => writeStatement r c s f ps
  | .link f => writeLink r c s f ps
  | .expression f => writeExpression r c s f ps
  | .pattern f => writePattern r c f ps
  | .classPart f => writeClassPart r c f ps
  | .type f => writeType r c f ps
  | .jsx f => writeElement r c s f ps

def writeTree (r : Printer) (c : Place) : Tree → Print Unit
  | .absent => pure ()
  | .ref _ _ n | .bind _ _ n | .label _ n => word n
  | .node s f ps => writeNode r c s f ps

def printer : Nat → Printer
  | 0 => fun _ _ => pure ()
  | n + 1 => writeTree (printer n)

def writeModule (m : Module) : Print Unit := do
  let trees := m.directives ++ m.trees
  let r := printer (Tree.depthList trees + 1)
  commentsAt 0
  match m.hashbang with
  | some line =>
      text ("#!" ++ line)
      newline
  | none => pure ()
  bodyStatements r .free trees
  semicolonIfOwed
  commentsAt m.length

end Layout

def Module.printed (m : Module) (format : PrintFormat) : String :=
  ((Layout.writeModule m).run (.empty format m.dialect.tags m.comments)).2.text

end RouteWrap
