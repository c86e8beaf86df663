import RouteWrap.Grammar.Link

/-!
Statements.
-/

namespace RouteWrap.Grammar

open P

def block (g : Grammar) : P Tree := do
  let s ← start
  expectMark "\x7b"
  let ts ← many (.mark "\x7d") (g.statement false)
  expectMark "\x7d"
  return .stmt (← since s) .block ts

def condition (g : Grammar) : P Tree := do
  expectMark "("
  let e ← within allowIn g.expression
  expectMark ")"
  return e

/-! Loops -/

def forParts (g : Grammar) (s : Nat) (await : Bool) (initial : Tree) : P Tree := do
  expectMark ";"
  let test ← do
    if (← atMark ";") || (← atMark ")") then pure .absent else within allowIn g.expression
  expectMark ";"
  let update ← do
    if ← atMark ")" then pure .absent else within allowIn g.expression
  expectMark ")"
  if await then fault .forAwait s
  let body ← g.statement true
  return .stmt (← since s) .forLoop [initial, test, update, body]

def forInParts (g : Grammar) (s : Nat) (left : Tree) : P Tree := do
  move
  let right ← within allowIn g.expression
  expectMark ")"
  let body ← g.statement true
  return .stmt (← since s) .forIn [left, right, body]

def forOfParts (g : Grammar) (s : Nat) (await : Bool) (left : Tree) : P Tree := do
  move
  let right ← within allowIn (g.assignment true)
  expectMark ")"
  let body ← g.statement true
  return .stmt (← since s) (.forOf await) [left, right, body]

def forVariables (g : Grammar) (s : Nat) (await : Bool) (kind : VariableKind) (from_ : Nat) :
    P Tree := do
  let d ← within refuseIn (variableDecl g from_ kind false false)
  if ← atWord "in" then forInParts g s d.toTree
  else if ← atWord "of" then forOfParts g s await d.toTree
  else
    if ← atMark ";" then d.declarators.forM (checkInitial kind)
    forParts g s await d.toTree

def atForVariables : P Bool := do
  match ← kind with
  | .word "var" | .word "const" => return true
  | .word "let" => follows do
      let k ← kind
      return k.isName && k != .word "of" && k != .word "in" || k == .mark "\x7b"
        || k == .mark "[" || k == .word "of" && (← follows do
          let k ← kind
          return k == .mark "=" || k == .mark ";" || k == .word "of" || k == .word "in"
            || k == .mark ",")
  | .word "using" => isUsing
  | .word "await" => isAwaitUsing
  | _ => return false

def forStatement (g : Grammar) : P Tree := do
  let s ← start
  moveOver
  let await ← do
    if ← atWord "await" then
      if !(← context).inAsync then fault .awaitOutside (← start)
      move
      pure true
    else pure false
  expectMark "("
  if ← atMark ";" then return ← forParts g s await .absent
  if ← atForVariables then
    let from_ ← start
    match ← variableKeyword? with
    | some kind => return ← forVariables g s await kind from_
    | none => pure ()
  if ← atMark ")" then return ← forParts g s await .absent
  let e0 ← start
  let isAsyncOf ← do
    if (← atWord "async") && !(← token).escaped then follows (atWord "of") else pure false
  let isLetOf ← do
    if ← atWord "let" then follows (atWord "of") else pure false
  let e ← within refuseIn g.expression
  if ← atWord "in" then
    let left ← assignmentTarget true e
    forInParts g s left
  else if ← atWord "of" then
    if !await && isAsyncOf then fault .forOfAsync e0
    if isLetOf then fault .unexpected e0
    let left ← assignmentTarget true e
    forOfParts g s await left
  else forParts g s await e

/-! Jumps -/

def jump (form : StatementForm) : P Tree := do
  let s ← start
  moveOver
  let label ← do
    if ← statementEnds then pure Tree.absent
    else
      let n ← bindingName
      pure (.label n.span n.text)
  semicolon
  return .stmt (← since s) form [label]

def returnStatement (g : Grammar) : P Tree := do
  let s ← start
  moveOver
  let value ← do
    if (← eatMark ";") || (← statementEnds) then pure .absent
    else
      let e ← within allowIn g.expression
      semicolon
      pure e
  if !(← context).inFunction then fault .returnOutside s
  return .stmt (← since s) .returnValue [value]

def throwStatement (g : Grammar) : P Tree := do
  let s ← start
  moveOver
  if ← newline then fault (.newlineAfter "throw") s
  let e ← within allowIn g.expression
  semicolon
  return .stmt (← since s) .throwValue [e]

/-! Branches -/

def ifStatement (g : Grammar) : P Tree := do
  let s ← start
  moveOver
  let test ← condition g
  let yes ← g.statement true
  let no ← do
    if ← eatWord "else" then g.statement true else pure .absent
  return .stmt (← since s) .ifElse [test, yes, no]

def switchCase (g : Grammar) : P Tree := do
  let s ← start
  let test ← do
    if ← eatWord "default" then pure .absent
    else
      expectWord "case"
      within allowIn g.expression
  expectMark ":"
  let body ← iterate (fun (acc : Array Tree) => do
    if (← ended) || (← atWord "case") || (← atWord "default") || (← atMark "\x7d") then
      return (acc, false)
    else return (acc.push (← g.statement false), true)) #[]
  return .stmt (← since s) .switchCase (test :: body.toList)

def switchStatement (g : Grammar) : P Tree := do
  let s ← start
  moveOver
  let value ← condition g
  let b ← start
  expectMark "\x7b"
  let cases ← many (.mark "\x7d") (switchCase g)
  expectMark "\x7d"
  return .stmt (← since s) .switchOn [value, .stmt (← since b) .switchCases cases]

def tryStatement (g : Grammar) : P Tree := do
  let s ← start
  moveOver
  let body ← block g
  let handler ← do
    if ← atWord "catch" then
      let h ← start
      moveOver
      let parameter ← do
        if ← eatMark "(" then
          let p ← annotatedPattern g .caught
          expectMark ")"
          pure p
        else pure .absent
      let b ← block g
      pure (Tree.stmt (← since h) .handler [parameter, b])
    else pure .absent
  let finalizer ← do
    if ← eatWord "finally" then block g else pure .absent
  if handler.isAbsent && finalizer.isAbsent then fault .catchOrFinally body.span.stop
  return .stmt (← since s) .tryCatch [body, handler, finalizer]

/-! Other statements -/

def expressionStatement (g : Grammar) : P Tree := do
  let s ← start
  let e ← within allowIn g.expression
  match e with
  | .ref r _ n =>
      if ← eatMark ":" then
        let body ← g.statement true
        return .stmt (← since s) .labelled [.label r n, body]
  | _ => pure ()
  semicolon
  return .stmt (← since s) .evaluation [e]

def variableItem (g : Grammar) (s : Nat) (kind : VariableKind) (single : Bool) : P Item := do
  let d ← variableDecl g s kind false true
  semicolon
  let d := { d with span := ← since s }
  if single && kind != .var then fault .lexicalDeclaration s
  return .declaration (.variable d)

/-- `let` declares unless what follows makes it a name. -/
def letItem (g : Grammar) (single : Bool) : P Item := do
  let s ← start
  let next ← ahead do
    move
    kind
  let isName := (assignAt next).isSome || (binaryAt next).isSome || next == .mark "."
    || next == .mark "(" || (single && next != .mark "[") || next == .mark ";"
  if isName then return .statement (← expressionStatement g)
  moveOver
  variableItem g s .let single

def functionItem (g : Grammar) (single : Bool) : P Item := do
  let d ← function g .declaration false
  if single then
    if d.traits.async then fault .asyncDeclaration d.span.start
    if d.traits.generator then fault .generatorDeclaration d.span.start
  return .declaration (.function d)

def classItem (g : Grammar) (s : Nat) (single : Bool) : P Item := do
  let d ← classFrom g s .absent false false
  if single then fault .classDeclaration d.span.start
  return .declaration (.classes d)

def decoratedItem (g : Grammar) : P Item := do
  let s ← start
  let ds ← decorators g
  if ← atWord "export" then exportItem g s ds
  else
    match ← modifiedDeclaration g s ds with
    | .classes d => return .declaration (.classes d)
    | _ =>
        unexpected
        return .statement .absent

def typedItem (g : Grammar) : P Item := do
  let d ← modifiedDeclaration g (← start) .absent
  return .declaration d

def markItem : Item → Item
  | .declaration d => .declaration (markDeclaration d)
  | .exportDeclaration s d => .exportDeclaration s (markDeclaration d)
  | .exportDefault s (.declaration d) => .exportDefault s (.declaration (markDeclaration d))
  | .exportDefault s (.expression e) => .exportDefault s (.expression (markFunction e))
  | i => i
where
  markDeclaration : Declaration → Declaration
    | .function d => .function { d with traits := { d.traits with pure := true } }
    | .variable d =>
        match d.kind, d.declarators with
        | .const, first :: rest =>
            .variable { d with
              declarators := { first with initial := first.initial.map markFunction } :: rest }
        | _, _ => .variable d
    | d => d

def plainItem (g : Grammar) (single : Bool) : P Item := do
  let s ← start
  let statement (p : P Tree) : P Item := Item.statement <$> p
  match ← kind with
  | .mark "\x7b" => statement (block g)
  | .mark ";" =>
      move
      return .statement (.stmt (← since s) .empty [])
  | .mark "@" => decoratedItem g
  | .word w =>
      match w with
      | "if" => statement (ifStatement g)
      | "do" => statement do
          moveOver
          let body ← g.statement true
          expectWord "while"
          let test ← condition g
          let _ ← eatMark ";"
          return .stmt (← since s) .doLoop [body, test]
      | "while" => statement do
          moveOver
          let test ← condition g
          let body ← g.statement true
          return .stmt (← since s) .whileLoop [test, body]
      | "for" => statement (forStatement g)
      | "continue" => statement (jump .continueLoop)
      | "break" => statement (jump .breakOut)
      | "with" => statement do
          moveOver
          let object ← condition g
          let body ← g.statement true
          return .stmt (← since s) .withObject [object, body]
      | "switch" => statement (switchStatement g)
      | "throw" => statement (throwStatement g)
      | "try" => statement (tryStatement g)
      | "debugger" => statement do
          moveOver
          semicolon
          return .stmt (← since s) .debugger []
      | "class" => classItem g s single
      | "export" => exportItem g s .absent
      | "return" => statement (returnStatement g)
      | "var" =>
          moveOver
          variableItem g s .var single
      | "function" => functionItem g single
      | "let" =>
          if (← token).escaped then statement (expressionStatement g) else letItem g single
      | "const" =>
          if (← typed) && (← follows (atWord "enum")) then
            moveOver
            return .declaration (.other (← enumeration g s true false))
          moveOver
          variableItem g s .const single
      | "import" => importItem g
      | "async" =>
          if ← atAsyncFunction then functionItem g single
          else if (← typed) && (← startsTypedDeclaration) then typedItem g
          else statement (expressionStatement g)
      | "using" | "await" =>
          match ← variableKeyword? with
          | some kind => variableItem g s kind single
          | none => statement (expressionStatement g)
      | "interface" | "type" | "module" | "namespace" | "declare" | "enum" | "private"
      | "protected" | "public" | "abstract" | "accessor" | "static" | "readonly" | "global" =>
          if (← typed) && (← startsTypedDeclaration) then typedItem g
          else statement (expressionStatement g)
      | _ => statement (expressionStatement g)
  | _ => statement (expressionStatement g)

def readItem (g : Grammar) (single : Bool) : P Item := do
  let t ← token
  let item ← plainItem g single
  return if t.pureFunction then markItem item else item

end RouteWrap.Grammar
