import RouteWrap.Grammar.Type

/-!
Functions: declarations, expressions, methods and arrows. A parenthesis may open an arrow's
parameters; what follows it decides, and where it does not, the arrow is tried first.
-/

namespace RouteWrap.Grammar

open P

/-! Bodies -/

/-- Statements up to `close`, the strings at their head as directives. -/
def statements (g : Grammar) (close : Option Kind) : P (List Tree × List Item) := do
  let (ds, is, _) ← iterate (fun ((ds, is, heading) : Array Tree × Array Item × Bool) => do
    if (← ended) || close.any (· == (← kind)) then return ((ds, is, heading), false)
    let t ← token
    let item ← g.item false
    if heading then
      match item with
      | .statement (.stmt s .evaluation [.expr e (.string _) _]) =>
          if e == t.span then
            return ((ds.push (.stmt s (.directive t.text) []), is, true), true)
          else return ((ds, is.push item, false), true)
      | _ => return ((ds, is.push item, false), true)
    else return ((ds, is.push item, false), true)) (#[], #[], true)
  return (ds.toList, is.toList)

def functionBody (g : Grammar) : P Tree := do
  let s ← start
  expectMark "\x7b"
  let (ds, is) ← within (fun c => { c with inFunction := true })
    (statements g (some (.mark "\x7d")))
  expectMark "\x7d"
  return .expr (← since s) .body (ds ++ is.map Item.toTree)

/-! Functions and methods -/

def inBody (async generator : Bool) (c : Context) : Context :=
  { c with allowIn := true, inAsync := async, inGenerator := generator }

def functionFrom (g : Grammar) (s : Nat) (name : Option Name) (traits : FunctionTraits) :
    P FunctionDecl := do
  let (tps, ps, result, body) ← within (inBody traits.async traits.generator) do
    let tps ← typeParameters g
    let ps ← parameters g
    let result ← result? g
    let body ← do
      if ← atMark "\x7b" then some <$> functionBody g else pure none
    return (tps, ps, result, body)
  if body.isNone then
    if ← typed then semicolon else fatal .functionBody s
  return {
    span := ← since s, traits, name
    typeParameters := tps, parameters := ps, result, body }

/-- The name of a function, which only an expression may lack. -/
def functionName (required isExpression async generator : Bool) : P (Option Name) := do
  let t ← token
  if t.kind.isName then
    let c ← context
    let c := if isExpression then { c with inAsync := async, inGenerator := generator } else c
    checkName t.kind t.start c
    return some (← takeName)
  if required then
    if t.kind == .mark "(" then fault .functionName t.start
    else if t.kind.isReserved then require .identifier
  return none

inductive FunctionPlace
  | declaration | defaultExport | expression
deriving DecidableEq, Repr

def function (g : Grammar) (place : FunctionPlace) (declare : Bool) : P FunctionDecl := do
  let s ← start
  let async ← eatWord "async"
  expectWord "function"
  let generator ← eatMark "*"
  let name ← functionName (place == .declaration) (place == .expression) async generator
  functionFrom g s name ⟨async, generator, declare, false⟩

def functionExpression (g : Grammar) : P Tree := do
  let d ← function g .expression false
  return d.toExpression

def method (g : Grammar) (async generator : Bool) : P Tree := do
  let d ← functionFrom g (← start) none ⟨async, generator, false, false⟩
  return d.callable

def atAsyncFunction : P Bool := do
  if (← atWord "async") && !(← token).escaped then
    follows do return (← atWord "function") && !(← newline)
  else return false

/-! Arrows -/

inductive Chance
  | no | perhaps | yes
deriving DecidableEq, Repr

/-- What follows a parenthesis tells whether it opens the parameters of an arrow. -/
def chanceAfterParenthesis : P Chance := do
  move
  match ← kind with
  | .mark ")" =>
      move
      match ← kind with
      | .mark "=>" | .mark ":" | .mark "\x7b" => return .yes
      | _ => return .no
  | .mark "[" | .mark "\x7b" => return .perhaps
  | .mark "..." =>
      move
      match ← kind with
      | .identifier => return .yes
      | .string | .word "null" | .word "true" | .word "false" | .regex => return .no
      | k => return if k.isNumeral then .no else .perhaps
  | k =>
      let isModifier := match k with
        | .word w => w != "async" && modifierWords.contains w
        | _ => false
      if isModifier && (← follows do return (← kind).isName) then
        if ← follows (atWord "as") then return .no else return .yes
      if !k.isName && k != .word "this" then return .no
      move
      match ← kind with
      | .mark ":" => return .yes
      | .mark "?" =>
          move
          match ← kind with
          | .mark ":" | .mark "," | .mark "=" | .mark ")" => return .yes
          | _ => return .no
      | .mark "," | .mark "=" | .mark ")" => return .perhaps
      | _ => return .no

/-- What follows an angle tells whether it opens the type parameters of an arrow. Where tags are
allowed, only a bound, a default or a comma makes it one. -/
def chanceAfterAngle : P Chance := do
  move
  let k ← kind
  if !k.isName && k != .word "const" then return .no
  if !(← tags) then return .perhaps
  let _ ← eatWord "const"
  move
  if ← atWord "extends" then
    move
    match ← kind with
    | .mark "=" | .mark ">" | .mark "/" => return .no
    | _ => return .yes
  else if (← atMark ",") || (← atMark "=") then return .yes
  else return .no

def arrowChance : P Chance := do
  match ← kind with
  | .mark "(" | .mark "<" | .word "async" => ahead do
      if ← atWord "async" then
        move
        if (← newline) || !((← atMark "(") || (← atMark "<")) then return .no
      if ← atMark "(" then chanceAfterParenthesis else chanceAfterAngle
  | _ => return .no

/-- The body of an arrow, and whether it is an expression. -/
def arrowBody (g : Grammar) (async allowResult : Bool) : P (Tree × Bool) := do
  within (fun c => { c with inAsync := async, inGenerator := false }) do
    if ← atMark "\x7b" then return (← functionBody g, false)
    else return (← g.assignment allowResult, true)

def arrowMark : P Unit := do
  if ← newline then fault .newlineBeforeArrow (← start)
  expectMark "=>"

structure ArrowHead where
  start : Nat
  async : Bool
  pure : Bool
  typeParameters : Tree
  parameters : Tree
  result : Tree

def arrowHead (g : Grammar) : P ArrowHead := do
  let t ← token
  let async ← eatWord "async"
  let before := (← context).inAsync
  let (tps, ps, result) ← within (fun c => { c with inAsync := before || async }) do
    let tps ← typeParameters g
    let ps ← parameters g
    let result ← result? g
    return (tps, ps, result)
  arrowMark
  return ⟨t.start, async, t.pureFunction, tps, ps, result⟩

def arrowFrom (g : Grammar) (h : ArrowHead) (allowResult : Bool) : P Tree := do
  let (body, isExpression) ← arrowBody g h.async allowResult
  return .expr (← since h.start) (.arrow h.async isExpression h.pure)
    [h.typeParameters, h.parameters, h.result, body]

def arrow? (g : Grammar) (allowResult : Bool) : P (Option Tree) := do
  match ← arrowChance with
  | .no => return none
  | .yes => return some (← arrowFrom g (← arrowHead g) true)
  | .perhaps => attempt do
      match ← tryRead (arrowHead g) with
      | none => return none
      | some h =>
          let e ← arrowFrom g h allowResult
          if !allowResult && !h.result.isAbsent && !(← atMark ":") then return none
          return some e

def simpleArrow (g : Grammar) (s : Nat) (async pure : Bool) (t : Tree) (allowResult : Bool) :
    P Tree := do
  let parameter := match t with
    | .ref r _ n => Tree.pat r (.parameter .none) [.absent, .bind r .parameter n]
    | t => t
  let ps := Tree.pat t.span .parameters [parameter]
  arrowMark
  let (body, isExpression) ← arrowBody g async allowResult
  return .expr (← since s) (.arrow async isExpression pure) [.absent, ps, .absent, body]

/-- `async x => …`, if there is one. -/
def asyncArrow? (g : Grammar) (allowResult : Bool) : P (Option Tree) := do
  let isArrow ← do
    if ← atWord "async" then follows do
      if (← newline) || !(← kind).isName then return false
      follows do return !(← newline) && (← atMark "=>")
    else pure false
  if !isArrow then return none
  let t ← token
  moveOver
  let n ← takeName
  return some (← simpleArrow g t.start true t.pureFunction (.ref n.span .value n.text) allowResult)

end RouteWrap.Grammar
