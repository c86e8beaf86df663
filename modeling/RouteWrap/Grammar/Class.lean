import RouteWrap.Grammar.Function

/-!
Classes and their members.
-/

namespace RouteWrap.Grammar

open P

/-! What a class is built on -/

def extended (g : Grammar) : P (List (Tree × Tree)) := do
  move
  let one := do
    let e ← g.leftHand
    match e with
    | .expr _ .instantiation [callee, arguments] => return (callee, arguments)
    | e => return (e, ← typeArguments? g)
  let first ← one
  let found ← iterate (fun (acc : Array (Tree × Tree)) => do
    if (← atMark ",") && !(← hasFatal) then
      move
      return (acc.push (← one), true)
    else return (acc, false)) #[first]
  return found.toList

def heritageType (g : Grammar) : P Tree := do
  let s ← start
  let name ← entityName .type true
  let arguments ← typeArguments? g
  return .type (← since s) .heritage [name, arguments]

def implemented (g : Grammar) : P Tree := do
  let s ← start
  move
  let first ← heritageType g
  let found ← iterate (fun (acc : Array Tree) => do
    if (← atMark ",") && !(← hasFatal) then
      move
      return (acc.push (← heritageType g), true)
    else return (acc, false)) #[first]
  return .cls (← since s) .implements found.toList

structure Heritage where
  bases : List (Tree × Tree)
  interfaces : Tree
deriving Inhabited

def heritage (g : Grammar) : P Heritage :=
  iterate (fun h => do
    if ← hasFatal then return (h, false)
    if ← atWord "extends" then
      let s ← start
      if !h.bases.isEmpty then fault .extendsTwice s
      let bases ← extended g
      if 1 < bases.length then fault .extendsMany s
      return ({ h with bases := if h.bases.isEmpty then bases else h.bases }, true)
    else if ← atWord "implements" then
      let s ← start
      if !h.interfaces.isAbsent then fault .implementsTwice s
      if !(← typed) then fault (.typedOnly .implementsClause) s
      let is ← implemented g
      return ({ h with interfaces := is }, true)
    else return (h, false)) ⟨[], .absent⟩

/-! Members -/

def memberModifiers : List String :=
  ["declare", "public", "private", "protected", "static", "abstract", "override", "readonly",
   "accessor", "async"]

def staticBlock (g : Grammar) (s : Nat) : P Tree := do
  move
  expectMark "\x7b"
  let body ← within
    (fun c => { c with inAsync := true, inGenerator := false, inFunction := false })
    (many (.mark "\x7d") (g.statement false))
  expectMark "\x7d"
  return .cls (← since s) .staticBlock body

def parameterCount : Tree → Nat
  | .expr _ .callable (_ :: .pat _ .parameters ps :: _) =>
      (ps.filter fun p => match p with
        | .pat _ .thisParameter _ => false
        | _ => true).length
  | _ => 0

def parametersStart : Tree → Nat
  | .expr _ .callable (_ :: ps :: _) => ps.span.start
  | t => t.span.start

def checkAccessor (kind : MethodKind) (callable : Tree) : P Unit := do
  match kind with
  | .getter =>
      if parameterCount callable != 0 then fault .getterParameters (parametersStart callable)
  | .setter =>
      if parameterCount callable != 1 then fault .setterParameters (parametersStart callable)
  | _ => pure ()

/-- The name that a key that is not computed spells. -/
def spelledName : Tree → Option String
  | .expr _ (.keyName n) _ => some n
  | .expr _ (.string ps) _ => some ps.text
  | _ => none

def isConstructorName (key : Tree) : Bool :=
  spelledName key == some "constructor"

/-- A private member is accessible from its class alone, and none is named `constructor`. -/
def checkPrivate (ms : ModifierList) (key : Tree) : P Unit := do
  match key with
  | .expr s (.privateName n) _ =>
      if ← typed then
        ms.words.forM fun (w, offset) =>
          if accessibilityWords.contains w then fault .privateAccessibility offset else pure ()
      if n == "#constructor" || n == "constructor" then fault .privateConstructor s.start
  | _ => pure ()

/-- A class has its prototype without a member of that name. -/
def checkPrototype (ms : ModifierList) (key : Tree) (computed : Bool) : P Unit := do
  if ms.has "static" && !computed && spelledName key == some "prototype" then
    fault .staticPrototype key.span.start

def classMemberName (g : Grammar) (ms : ModifierList) : P (Tree × Bool) := do
  let (key, computed) ← memberName g
  checkPrivate ms key
  return (key, computed)

def accessorMember (g : Grammar) (s : Nat) (kind : MethodKind) (ds : Tree)
    (ms : ModifierList) : P Tree := do
  let (key, computed) ← classMemberName g ms
  let callable ← method g false false
  if !computed && !ms.has "static" && isConstructorName key then
    fault .accessorConstructor key.span.start
  checkPrototype ms key computed
  checkAccessor kind callable
  return .cls (← since s) (.method kind ms.toModifiers computed false
    ⟨false, false, false, false⟩) [ds, key, callable]

def methodMember (g : Grammar) (s : Nat) (ds : Tree) (ms : ModifierList) (generator : Bool)
    (key : Tree) (computed isOptional : Bool) : P Tree := do
  let async := ms.has "async"
  let isConstructor := !computed && !ms.has "static" && isConstructorName key
  if isConstructor then
    if generator then fault .generatorConstructor key.span.start
    if async then fault .asyncConstructor key.span.start
  checkPrototype ms key computed
  let callable ← method g async generator
  let kind : MethodKind := if isConstructor then .constructor else .method
  return .cls (← since s) (.method kind ms.toModifiers computed isOptional
    ⟨async, generator, false, false⟩) [ds, key, callable]

def fieldMember (g : Grammar) (s : Nat) (ds : Tree) (ms : ModifierList) (key : Tree)
    (computed isOptional : Bool) : P Tree := do
  let definite ← do
    if (← typed) && (← atMark "!") && !(← newline) then
      move
      pure true
    else pure false
  let type ← ascription g
  if !computed && isConstructorName key then fault .fieldConstructor key.span.start
  checkPrototype ms key computed
  let value ← do
    if ← eatMark "=" then
      within (fun c => { c with allowIn := true, inAsync := false, inGenerator := false })
        (g.assignment true)
    else pure .absent
  semicolon
  return .cls (← since s) (.field ms.toModifiers computed isOptional definite)
    [ds, key, type, value]

def classMember (g : Grammar) : P Tree := do
  let s ← start
  let ds ← decorators g
  if (← atWord "static") && (← follows (atMark "\x7b")) then return ← staticBlock g s
  let ms ← modifiers memberModifiers
  if (← atWord "static") && (← follows (atMark "\x7b")) then return ← staticBlock g s
  if ← eatBeforeName "get" then return ← accessorMember g s .getter ds ms
  if ← eatBeforeName "set" then return ← accessorMember g s .setter ds ms
  if (← typed) && (← atIndexSignature) then
    return ← indexSignature g s (ms.has "readonly") (ms.has "static")
  let generator ← eatMark "*"
  let k ← kind
  if !(k.isNameLike || k == .string || k.isNumeral || k == .mark "[" || k == .privateName) then
    unexpected
    return .absent
  let (key, computed) ← classMemberName g ms
  let isOptional ← do
    if ← typed then eatMark "?" else pure false
  if generator || (← atMark "(") || (← atMark "<") then
    methodMember g s ds ms generator key computed isOptional
  else fieldMember g s ds ms key computed isOptional

def classMembers (g : Grammar) : P Tree := do
  let s ← start
  expectMark "\x7b"
  let ms ← iterate (fun (acc : Array Tree) => do
    if (← ended) || (← atMark "\x7d") then return (acc, false)
    else if ← eatMark ";" then return (acc, true)
    else return (acc.push (← classMember g), true)) #[]
  expectMark "\x7d"
  return .cls (← since s) .members ms.toList

/-- A class from its keyword on. The span starts at the decorators or modifiers before it. -/
def classFrom (g : Grammar) (s : Nat) (ds : Tree) (isAbstract declare : Bool) :
    P ClassDecl := do
  moveOver
  let name ← do
    if (← kind).isName && !(← atWord "implements") then some <$> bindingName else pure none
  let tailStart ← start
  let tps ← typeParameters g
  let h ← heritage g
  let members ← classMembers g
  let (base, arguments) := h.bases.head?.getD (.absent, .absent)
  let tail := Tree.cls (← since tailStart) .tail [tps, base, arguments, h.interfaces, members]
  return {
    span := ← since s, isAbstract, declare, decorators := ds, name, tail }

def classExpression (g : Grammar) : P Tree := do
  let s ← start
  let ds ← decorators g
  if ← atWord "class" then
    let d ← classFrom g s ds false false
    return d.toExpression
  else
    unexpected
    return .absent

end RouteWrap.Grammar
