import RouteWrap.Grammar.Statement
import RouteWrap.Syntax.Exports

/-!
Reading a whole module. `Grammar.ofDepth` ties the productions together down to a nesting that no
text of the given length exceeds. A text is read as a module with the faults that did not end the
reading, or not at all.
-/

namespace RouteWrap

/-- The grammar for phrases nested up to a depth; deeper ones are refused. -/
def Grammar.ofDepth : Nat → Grammar
  | 0 =>
      { item := fun _ => do P.unexpected; return .statement .absent
        expression := refuse
        assignment := fun _ => refuse
        binary := fun _ => refuse
        unary := refuse
        leftHand := refuse
        members := do P.unexpected; return (.absent, false)
        pattern := fun _ => refuse
        type := refuse
        operatorType := refuse
        element := fun _ _ => refuse
        moduleBlock := fun _ _ _ => refuse }
  | n + 1 =>
      { item := fun single c => Grammar.readItem (ofDepth n) single c
        expression := fun c => Grammar.readExpression (ofDepth n) c
        assignment := fun allow c => Grammar.readAssignment (ofDepth n) allow c
        binary := fun level c => Grammar.readBinary (ofDepth n) level c
        unary := fun c => Grammar.readUnary (ofDepth n) c
        leftHand := fun c => Grammar.readLeftHand (ofDepth n) c
        members := fun c => Grammar.readMembers (ofDepth n) c
        pattern := fun binder c => Grammar.bindingPattern (ofDepth n) binder c
        type := fun c => Grammar.readType (ofDepth n) c
        operatorType := fun c => Grammar.readOperatorType (ofDepth n) c
        element := fun s between c => Grammar.readElement (ofDepth n) s between c
        moduleBlock := fun s keyword declare c =>
          Grammar.readModuleBlock (ofDepth n) s keyword declare c }
where
  refuse : P Tree := do
    P.unexpected
    return .absent

/-- Each character opens at most a handful of nested productions. -/
def Grammar.depthFor (length : Nat) : Nat :=
  8 * (length + 16)

namespace Cursor

def initial (source : String) (dialect : Dialect) : Cursor :=
  { dialect
    scanner := Scanner.ofSource source dialect
    token := default
    stopped := 0
    faults := #[]
    fatal := none
    context :=
      { allowIn := true
        inGenerator := false
        inAsync := dialect.isModule
        inFunction := false
        ambient := dialect.declaresOnly
        inDecorator := false
        noConditionalType := false }
    covers := []
    trailingCommas := [] }

end Cursor

/-! Reading -/

/-- A module and the faults it was read with; no module where a fault ended the reading. -/
structure Reading where
  module? : Option Module
  faults : List Diagnostic
deriving Inhabited

def readModule : P (Option String × List Tree × List Item) := do
  P.move
  let c ← get
  let hashbang ← do
    if (← P.kind) == .hashbang then
      P.move
      pure (some c.token.text)
    else pure none
  let g := Grammar.ofDepth (Grammar.depthFor c.scanner.rest.length)
  let (ds, is) ← g.statements none
  return (hashbang, ds, is)

def contains (part : List Char) : List Char → Bool
  | [] => part.isEmpty
  | c :: cs => part.isPrefixOf (c :: cs) || contains part cs

/-- Where a module without types says, in its first comment, that its types are of another kind. -/
def Cursor.annotation? (c : Cursor) : Option Nat := do
  let first ← c.scanner.trivia.comments[0]?
  if !c.dialect.typed && contains "@flow".toList first.text.toList then some first.span.start
  else none

/-- The faults of a text that was read to the end; those met after the reading was ended by one do
not count. -/
def Cursor.allFaults (c : Cursor) (dialect : Dialect) (items : List Item) : List Diagnostic :=
  let scanned := c.scanner.faults.toList
  let own := match c.fatal with
    | some (d, count) =>
        (c.faults.toList.take count)
          ++ (if scanned.isEmpty || c.token.kind != .eof then [d] else [])
    | none => c.faults.toList
  let covered := c.covers.reverse.map fun offset => ⟨Fault.coverInitializer, offset⟩
  let exported := if dialect.typed || c.fatal.isSome then [] else exportFaults items
  let met := scanned ++ own ++ covered
  match met, c.annotation? with
  | _ :: _, some offset => [⟨.annotatedTypes, offset⟩]
  | _, _ => met ++ exported

def Reading.ofSource (source : String) (dialect : Dialect) : Reading :=
  let ((hashbang, directives, items), c) := readModule.run (Cursor.initial source dialect)
  let faults := c.allFaults dialect items
  if c.fatal.isSome then ⟨none, faults⟩
  else
    { module? := some {
        dialect, length := source.utf8ByteSize, hashbang, directives, items
        comments := c.scanner.trivia.comments.toList }
      faults }

end RouteWrap
