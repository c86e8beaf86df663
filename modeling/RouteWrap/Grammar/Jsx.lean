import RouteWrap.Grammar.Function

/-!
Elements: tags with attributes, and text, expressions and elements between them.
-/

namespace RouteWrap.Grammar

open P

def tagName : P Name := do
  let t ← token
  if !t.kind.isNameLike then
    unexpected
    return ⟨t.span, ""⟩
  rescan Scanner.jsxName
  takeName

/-- Tags that begin with a small letter name themselves; all others refer to bindings. -/
def tagRefers (name : String) : Bool :=
  match name.toList with
  | c :: _ => !('a' ≤ c && c ≤ 'z') && !name.toList.contains '-'
  | [] => false

def elementName : P Tree := do
  let n ← tagName
  if ← eatMark ":" then
    let m ← tagName
    return .jsx (← since n.span.start) (.namespaced n.text m.text) []
  let isThis := n.text == "this"
  if ← atMark "." then
    let first :=
      if isThis then Tree.expr n.span .thisValue [] else .ref n.span .value n.text
    iterate (fun t => do
      if (← atMark ".") && !(← hasFatal) then
        move
        let m ← tagName
        if m.text.toList.contains '-' then fault .jsxHyphen m.span.start
        return (.jsx (← since n.span.start) (.member m.text) [t], true)
      else return (t, false)) first
  else if isThis then return .expr n.span .thisValue []
  else if tagRefers n.text then return .ref n.span .value n.text
  else return .jsx n.span (.name n.text) []

def tagText : Tree → String
  | .jsx _ (.name n) _ => n
  | .jsx _ (.namespaced a b) _ => a ++ ":" ++ b
  | .jsx _ (.member m) [t] => tagText t ++ "." ++ m
  | .ref _ _ n => n
  | .expr _ .thisValue _ => "this"
  | _ => ""

/-- The mark that ends a tag or a substitution; between tags, text follows it. -/
def expectInside (between : Bool) (m : String) : P Unit := do
  require (.mark m)
  if between then moveWith Scanner.jsxChild else move

def container (g : Grammar) (s : Nat) (between : Bool) : P Tree := do
  if ← atMark "\x7d" then
    let inner ← stopped
    let close ← start
    expectInside between "\x7d"
    return .jsx ⟨s, close + 1⟩ .container [.jsx ⟨inner, close⟩ .empty []]
  let e ← within allowIn g.expression
  match e with
  | .expr q .sequence _ => fault .jsxSequence q.start
  | _ => pure ()
  let close := (← token).span.stop
  expectInside between "\x7d"
  return .jsx ⟨s, close⟩ .container [e]

def attributeValue (g : Grammar) : P Tree := do
  let t ← token
  match t.kind with
  | .string =>
      move
      return .jsx t.span (.string t.text) []
  | .mark "\x7b" =>
      move
      let c ← container g t.start false
      match c with
      | .jsx _ .container [.jsx _ .empty _] => fault .jsxEmptyAttribute t.start
      | _ => pure ()
      return c
  | .mark "<" =>
      move
      g.element t.start false
  | _ =>
      unexpected
      return .absent

def tagAttribute (g : Grammar) : P Tree := do
  let s ← start
  if ← eatMark "\x7b" then
    expectMark "..."
    let e ← within allowIn (g.assignment true)
    expectMark "\x7d"
    return .jsx (← since s) .spreadAttribute [e]
  let n ← tagName
  let name ← do
    if ← eatMark ":" then
      let m ← tagName
      pure (Tree.jsx (← since s) (.namespaced n.text m.text) [])
    else pure (.jsx n.span (.name n.text) [])
  if ← atMark "=" then
    moveWith Scanner.jsxValue
    let value ← attributeValue g
    return .jsx (← since s) .tagAttribute [name, value]
  else return .jsx (← since s) .tagAttribute [name, .absent]

def tagAttributes (g : Grammar) : P Tree := do
  let s ← start
  let found ← iterate (fun (acc : Array Tree) => do
    if (← ended) || (← atMark ">") || (← atMark "/") then return (acc, false)
    else return (acc.push (← tagAttribute g), true)) #[]
  return .jsx (← since s) .tagAttributes found.toList

def children (g : Grammar) : P (List Tree) := do
  let found ← iterate (fun (acc : Array Tree) => do
    if ← hasFatal then return (acc, false)
    let t ← token
    match t.kind with
    | .jsxText =>
        moveWith Scanner.jsxChild
        return (acc.push (.jsx t.span (.text t.text) []), true)
    | .mark "\x7b" =>
        move
        if ← eatMark "..." then
          let e ← within allowIn g.expression
          expectInside true "\x7d"
          return (acc.push (.jsx (← since t.start) .spreadChild [e]), true)
        else return (acc.push (← container g t.start true), true)
    | .mark "<" =>
        move
        if ← atMark "/" then return (acc, false)
        if (← atMark ">") || (← kind).isNameLike then
          return (acc.push (← g.element t.start true), true)
        else
          unexpected
          return (acc, false)
    | _ =>
        unexpected
        return (acc, false)) #[]
  return found.toList

def readElement (g : Grammar) (s : Nat) (between : Bool) : P Tree := do
  if ← atMark ">" then
    expectInside true ">"
    let cs ← children g
    expectMark "/"
    let close := (← token).span.stop
    expectInside between ">"
    return .jsx ⟨s, close⟩ .fragment cs
  let name ← elementName
  let arguments ← typeArguments? g
  let as ← tagAttributes g
  if ← eatMark "/" then
    let close := (← token).span.stop
    expectInside between ">"
    return .jsx ⟨s, close⟩ (.element true) [name, arguments, as]
  expectInside true ">"
  let cs ← children g
  expectMark "/"
  let closing ← elementName
  if tagText closing != tagText name && !(← hasFatal) then
    fault (.jsxClosing (tagText name)) closing.span.start
  let close := (← token).span.stop
  expectInside between ">"
  return .jsx ⟨s, close⟩ (.element false) (name :: arguments :: as :: closing :: cs)

end RouteWrap.Grammar
