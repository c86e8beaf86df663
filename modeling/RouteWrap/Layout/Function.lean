import RouteWrap.Layout.Pattern

/-!
Functions, arrows and classes. A function without a body ends in a semicolon.
-/

namespace RouteWrap.Layout

open Print

/-! Bodies -/

def isDirective : Tree → Bool
  | .stmt _ (.directive _) _ => true
  | _ => false

/-- A string that stands first as a statement would read as a directive. -/
def isStringStatement : Tree → Option Tree
  | .stmt _ .evaluation [e] =>
      match e.bare with
      | .expr s (.string ps) _ => some (.expr s (.string ps) [])
      | _ => none
  | _ => none

def statements (r : Printer) (c : Place) : List Tree → Print Unit
  | [] => pure ()
  | t :: ts => do
      semicolonIfOwed
      r c t
      statements r c ts

def bodyStatements (r : Printer) (c : Place) (ts : List Tree) : Print Unit := do
  let (ds, ss) := (ts.takeWhile isDirective, ts.dropWhile isDirective)
  for d in ds do
    r c d
  match ss with
  | [] => pure ()
  | s :: rest =>
      match ds, isStringStatement s, (← get).format.minify with
      | [], some e, false =>
          inParentheses true (r .free e)
          statementEnd
      | _, _, _ => r c s
      statements r c rest

def functionBody (r : Printer) (c : Place) (s : Span) (ts : List Tree) : Print Unit := do
  let trailing ← if 0 < s.stop then takeComments (s.stop - 1) else pure []
  let single := ts.isEmpty && trailing.all fun c => !c.afterNewline && !c.beforeNewline
  braces single do
    bodyStatements r c ts
    if !trailing.isEmpty then
      comments trailing
      modify fun p => { p with indentAsSpace := false }
  owesNothing

/-! Functions -/

def functionText (r : Printer) (c : Place) (traits : FunctionTraits) (name callable : Tree) :
    Print Unit := do
  let c := c.allowCall
  wordSpace
  fixedModifier traits.declare "declare"
  fixedModifier traits.async "async"
  text "function"
  if traits.generator then
    char '*'
    softSpace
  r c name
  match callable with
  | .expr _ .callable [tparams, params, result, body] =>
      r c tparams
      inParentheses true (r c params)
      r.after (text ": ") result
      if body.isAbsent then char ';'
      else
        softSpace
        r c body
  | _ => pure ()

def noSideEffects : String := "/* @__NO_SIDE_EFFECTS__ */"

/-- A function as an expression; `kept` tells whether the source has it in parentheses. -/
def functionExpression (r : Printer) (c : Place) (kept : Bool) (traits : FunctionTraits)
    (name callable : Tree) : Print Unit := do
  if traits.pure then text (noSideEffects ++ " ")
  let wrap := kept || (← atStatement) || (← atDefaultExport)
  inParentheses wrap (functionText r c traits name callable)

def methodText (r : Printer) (c : Place) (callable : Tree) : Print Unit := do
  match callable with
  | .expr _ .callable [tparams, params, result, body] =>
      r c tparams
      inParentheses true (methodParameters r c params)
      r.ascription result
      if body.isAbsent then char ';'
      else
        softSpace
        r c body
  | _ => pure ()

/-! Arrows -/

def isOneName : Tree → Bool
  | .pat _ .parameters [.pat _ (.parameter ms) [decorators, .bind ..]] =>
      ms == .none && (match decorators with
        | .absent => true
        | .cls _ .decorators [] => true
        | _ => false)
  | _ => false

def arrow (r : Printer) (c : Place) (kept async isExpression pure : Bool)
    (tparams params result body : Tree) : Print Unit := do
  if pure then text (noSideEffects ++ " ")
  inParentheses (kept || Precedence.assign ≤ c.level) do
    modifier async "async"
    r c tparams
    let bare := (← minified) && isOneName params && tparams.isAbsent && result.isAbsent
    inParentheses (!bare) (r c params)
    r.ascription result
    softSpace
    text "=>"
    softSpace
    if isExpression then
      markArrowBody
      r (c.at_ .comma) body
    else r c body

/-! Classes -/

def classText (r : Printer) (c : Place) (isAbstract declare : Bool)
    (decorators name tail : Tree) : Print Unit := do
  let c := c.allowCall
  r c decorators
  wordSpace
  fixedModifier declare "declare"
  fixedModifier isAbstract "abstract"
  text "class"
  if !name.isAbsent then
    space
    r c name
  match tail with
  | .cls _ .tail [tparams, base, baseTypes, interfaces, members] =>
      if !name.isAbsent then r c tparams
      if !base.isAbsent then
        text " extends "
        r (.bound .update) base
        r c baseTypes
      r c interfaces
      softSpace
      r c members
  | _ => pure ()
  owesNothing

def classExpression (r : Printer) (c : Place) (isAbstract : Bool)
    (decorators name tail : Tree) : Print Unit := do
  let wrap := (← atStatement) || (← atDefaultExport)
  inParentheses wrap (classText r c isAbstract false decorators name tail)

/-- A decorator that is not a name, a member or a call of these is in parentheses. -/
def isPlainDecorator : Tree → Bool
  | .ref .. => true
  | .expr _ (.member ..) _ | .expr _ (.privateMember ..) _ => true
  | .expr _ (.call ..) (callee :: _) => isPlainDecorator callee
  | _ => false

def accessibility (ms : Modifiers) : Print Unit :=
  match ms.accessibility with
  | some a => modifier true a.text
  | none => pure ()

/-- The modifiers of a method or field; that it overrides another one is not printed. -/
def memberModifiers (ms : Modifiers) : Print Unit := do
  modifier ms.declare "declare"
  accessibility ms
  modifier ms.isAbstract "abstract"
  modifier ms.isStatic "static"

def accessorModifiers (ms : Modifiers) : Print Unit := do
  modifier ms.isAbstract "abstract"
  accessibility ms
  modifier ms.isStatic "static"
  modifier ms.isOverride "override"

def writeClassPart (r : Printer) (c : Place) (f : ClassForm) (ps : List Tree) :
    Print Unit := do
  match f, ps with
  | .implements, ts =>
      text " implements "
      r.list c ts
  | .heritage, [name, arguments] =>
      r c name
      r c arguments
  | .members, ms =>
      braces ms.isEmpty do
        for m in ms do
          semicolonIfOwed
          commentsAt m.span.start
          lineIndent
          r c m
          match m with
          | .cls _ (.method ..) _ | .cls _ .staticBlock _ => softNewline
          | _ => statementEnd
  | .method kind ms computed isOptional traits, [decorators, key, callable] =>
      r c decorators
      memberModifiers ms
      match kind with
      | .getter => modifier true "get"
      | .setter => modifier true "set"
      | _ => pure ()
      modifier traits.async "async"
      if traits.generator then char '*'
      Print.key r computed key
      if isOptional then char '?'
      methodText r c callable
  | .field ms computed isOptional definite, [decorators, key, type, value] =>
      r c decorators
      if ms.isAccessor then
        accessorModifiers ms
        word "accessor"
        if computed then softSpace else space
      else
        memberModifiers ms
        modifier ms.isReadonly "readonly"
      Print.key r computed key
      if ms.isAccessor then
        if definite then char '!'
      else if isOptional then char '?'
      r.ascription type
      r.initial .free value
  | .staticBlock, ts =>
      text "static"
      softSpace
      braces ts.isEmpty (statements r c ts)
      owesNothing
  | .decorators, ds =>
      for d in ds do
        r c d
        space
  | .decorator, [e] =>
      char '@'
      inParentheses (!isPlainDecorator e) (r .free e)
  | _, _ => pure ()

end RouteWrap.Layout
