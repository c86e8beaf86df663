import RouteWrap.Grammar.Basic

/-!
Patterns of bindings and the parameters of functions.
-/

namespace RouteWrap.Grammar

open P

def defaulted (g : Grammar) (s : Nat) (left : Tree) : P Tree := do
  if ← eatMark "=" then
    let value ← within allowIn (g.assignment true)
    return .pat (← since s) .defaulted [left, value]
  else return left

/-- A pattern with its type, and whether it is optional. -/
def annotatedPattern (g : Grammar) (binder : Binder) : P Tree := do
  let s ← start
  let p ← g.pattern binder
  let isOptional ← do
    if ← typed then eatMark "?" else pure false
  let type ← ascription g
  if isOptional || !type.isAbsent then
    return .pat (← since s) (.annotated isOptional) [p, type]
  else return p

def patternElement (g : Grammar) (binder : Binder) : P Tree := do
  let s ← start
  let p ← annotatedPattern g binder
  defaulted g s p

def patternRest (g : Grammar) (binder : Binder) : P (Tree × Nat) := do
  let s ← start
  expectMark "..."
  let p ← g.pattern binder
  return (.pat (← since s) .rest [p], s)

def shorthandBinding (binder : Binder) (key : Tree) : Option Tree :=
  match key with
  | .expr s (.keyName n) _ => some (.bind s binder n)
  | _ => none

def patternProperty (g : Grammar) (binder : Binder) : P Tree := do
  let s ← start
  let k ← kind
  let offset ← start
  let (key, computed) ← propertyName g
  if k.isName && !(← atMark ":") then
    match shorthandBinding binder key with
    | some binding =>
        checkName k offset (← context)
        let value ← defaulted g s binding
        return .pat (← since s) (.property true computed) [key, value]
    | none =>
        unexpected
        return .absent
  else
    expectMark ":"
    let value ← patternElement g binder
    return .pat (← since s) (.property false computed) [key, value]

def objectPattern (g : Grammar) (binder : Binder) : P Tree := do
  let s ← start
  expectMark "\x7b"
  let ps ← separatedWithRest (.mark "\x7d") (patternProperty g binder)
    (patternRest g binder) .lastRestOfPattern
  match ps.getLast? with
  | some (.pat r .rest [p]) =>
      match p with
      | .bind .. => pure ()
      | _ => fault .restElement r.start
  | _ => pure ()
  expectMark "\x7d"
  return .pat (← since s) .object ps

def arrayPattern (g : Grammar) (binder : Binder) : P Tree := do
  let s ← start
  expectMark "["
  let element := do
    if ← atMark "," then return Tree.absent else patternElement g binder
  let ps ← separatedWithRest (.mark "]") element (patternRest g binder)
    .lastRestOfPattern
  expectMark "]"
  return .pat (← since s) .array ps

def bindingPattern (g : Grammar) (binder : Binder) : P Tree := do
  match ← kind with
  | .mark "\x7b" => objectPattern g binder
  | .mark "[" => arrayPattern g binder
  | _ =>
      let n ← bindingName
      return .bind n.span binder n.text

/-! Parameters -/

def parameterModifiers : List String :=
  ["public", "private", "protected", "readonly", "override"]

def parameter (g : Grammar) : P Tree := do
  let s ← start
  let ds ← decorators g
  let ms ← do
    if ← typed then modifiers parameterModifiers else pure ⟨[]⟩
  let p ← patternElement g .parameter
  return .pat (← since s) (.parameter ms.toModifiers) [ds, p]

def restParameter (g : Grammar) : P (Tree × Nat) := do
  let s ← start
  let ds ← decorators g
  expectMark "..."
  let patternStart ← start
  let p ← g.pattern .parameter
  if (← typed) && (← atMark "?") then
    fault .optionalRest (← start)
    move
  let type ← ascription g
  let span ← since patternStart
  let p := if type.isAbsent then p else .pat span (.annotated false) [p, type]
  if ← atMark "=" then
    fault .initializedRest (← start)
    let _ ← defaulted g s p
  let rest := Tree.pat (← since s) .rest [p]
  return (.pat (← since s) (.parameter .none) [ds, rest], s)

def thisParameter (g : Grammar) : P Tree := do
  let s ← start
  move
  let type ← ascription g
  return .pat (← since s) .thisParameter [type]

/-- Parameters in parentheses, `this` among them in typed modules. -/
def parameters (g : Grammar) : P Tree := do
  let s ← start
  expectMark "("
  let this ← do
    if (← typed) && (← atWord "this") then
      let p ← thisParameter g
      if !(← atMark ")") then expectMark ","
      pure [p]
    else pure []
  let ps ← separatedWithRest (.mark ")") (parameter g) (restParameter g) .lastRest
  expectMark ")"
  return .pat (← since s) .parameters (this ++ ps)

end RouteWrap.Grammar
