import RouteWrap.Syntax.Cursor
import RouteWrap.Syntax.Numeral

/-!
The grammar as a record of its mutually dependent readers. Every production is a function of the
record, so that each can be read alone; `Grammar.ofDepth` ties the knot. Here are the productions
that need no others: literals, property names and modifiers.
-/

namespace RouteWrap

structure Grammar where
  /-- A statement or declaration; the flag tells a place for a single statement. -/
  item : Bool → P Item
  expression : P Tree
  /-- An expression above commas; the flag tells whether an arrow may have a result type. -/
  assignment : Bool → P Tree
  binary : Precedence → P Tree
  unary : P Tree
  leftHand : P Tree
  /-- A member expression, and whether it holds an optional link. -/
  members : P (Tree × Bool)
  /-- A pattern whose names are bound in the given way. -/
  pattern : Binder → P Tree
  type : P Tree
  operatorType : P Tree
  /-- An element after its opening angle, which starts at the offset; the flag tells whether it
  stands between tags. -/
  element : Nat → Bool → P Tree
  moduleBlock : Nat → NamespaceKeyword → Bool → P Tree

namespace Grammar

open P

def statement (g : Grammar) (single : Bool) : P Tree := Item.toTree <$> g.item single

/-! Literals -/

def stringLiteral : P Tree := do
  let t ← token
  if t.kind == .string then
    move
    return .expr t.span (.string t.value) []
  else
    unexpected
    return .absent

def numeral (k : NumeralKind) : P Tree := do
  let t ← token
  move
  match k with
  | .bigint => return .expr t.span (.bigint (Numeral.bigint t.text)) []
  | k => return .expr t.span (.number (Numeral.value k t.text) t.text) []

def regexLiteral : P Tree := do
  rescan Scanner.regex
  let t ← token
  if !(← get).scanner.faults.isEmpty then
    unexpected
    return .absent
  move
  return .expr t.span (.regex t.text t.value.text) []

def chunk (tagged : Bool) : P Tree := do
  let t ← token
  if !tagged && t.points.isNone then fault .templateEscape t.start
  move
  return .expr t.span (.chunk t.text) []

def reenterTemplate : P Unit := do
  if ← atMark "\x7d" then rescan Scanner.templateRest

def templateParts (tagged : Bool) (part : P Tree) : P (List Tree) := do
  if ← at? .templateWhole then return [← chunk tagged]
  let head ← chunk tagged
  let first ← part
  reenterTemplate
  let parts ← iterate (fun (acc : Array Tree) => do
    if ← hasFatal then return (acc, false)
    match ← kind with
    | .templateTail => return (acc.push (← chunk tagged), false)
    | .templateMiddle =>
        let text ← chunk tagged
        let e ← part
        reenterTemplate
        return ((acc.push text).push e, true)
    | _ =>
        expect .templateTail
        return (acc, false)) #[head, first]
  return parts.toList

def template (g : Grammar) (tagged : Bool) : P Tree := do
  let s ← start
  let parts ← templateParts tagged (within allowIn g.expression)
  return .expr (← since s) .template parts

def keywordLiteral (form : ExpressionForm) : P Tree := do
  let t ← token
  moveOver
  return .expr t.span form []

/-! Names of properties -/

def keyName : P Tree := do
  let n ← anyName
  return .expr n.span (.keyName n.text) []

def privateName : P Tree := do
  let t ← token
  move
  return .expr t.span (.privateName t.text) []

/-- A property name, and whether it is computed. -/
def propertyName (g : Grammar) : P (Tree × Bool) := do
  match ← kind with
  | .string => return (← stringLiteral, false)
  | .numeral k => return (← numeral k, false)
  | .mark "[" =>
      move
      let e ← within allowIn (g.assignment true)
      expectMark "]"
      return (e, true)
  | _ => return (← keyName, false)

def memberName (g : Grammar) : P (Tree × Bool) := do
  if ← at? .privateName then return (← privateName, false)
  propertyName g

/-! Modifiers -/

def modifierWords : List String :=
  ["abstract", "accessor", "async", "const", "declare", "export", "in", "override", "out",
   "private", "protected", "public", "readonly", "static"]

def followsModifier : P Bool := do
  match ← kind with
  | .privateName | .string | .numeral _ => return true
  | .mark "[" | .mark "\x7b" | .mark "*" | .mark "..." => return true
  | k => return k.isNameLike

def atModifier : P Bool := do
  match ← kind with
  | .word "static" => follows followsModifier
  | .word "const" => follows do
      return !(← newline) && !(← atWord "enum") && (← followsModifier)
  | .word w =>
      if modifierWords.contains w then follows do return !(← newline) && (← followsModifier)
      else return false
  | _ => return false

/-- Modifiers with the offsets they stand at, `async` among them. -/
structure ModifierList where
  words : List (String × Nat)
deriving Inhabited

namespace ModifierList

def has (m : ModifierList) (w : String) : Bool := m.words.any (·.1 == w)

def accessibility (m : ModifierList) : Option Accessibility :=
  if m.has "public" then some .isPublic
  else if m.has "private" then some .isPrivate
  else if m.has "protected" then some .isProtected
  else none

def toModifiers (m : ModifierList) : Modifiers :=
  { declare := m.has "declare"
    accessibility := m.accessibility
    isStatic := m.has "static"
    isAbstract := m.has "abstract"
    isOverride := m.has "override"
    isReadonly := m.has "readonly"
    isAccessor := m.has "accessor" }

end ModifierList

def accessibilityWords : List String :=
  ["public", "private", "protected"]

/-- The modifiers that `w` has to stand in front of. -/
def modifiersAfter (w : String) : List String :=
  if accessibilityWords.contains w then ["override", "static", "accessor", "readonly", "async"]
  else if w == "static" then ["readonly", "async", "override", "accessor"]
  else if w == "override" then ["readonly", "accessor", "async"]
  else if w == "abstract" then ["override", "accessor"]
  else []

/-- Modifiers come once and in order. -/
def checkModifier (seen : List String) (t : Token) : P Unit := do
  if seen.contains t.text then fault (.modifierSeen t.text) t.start
  if accessibilityWords.contains t.text && seen.any accessibilityWords.contains then
    fault .accessibilitySeen t.start
  else
    match (modifiersAfter t.text).find? seen.contains with
    | some later => fault (.modifierOrder t.text later) t.start
    | none => pure ()

/-- Modifiers up to the first word that is none; a block after `static` is left alone. -/
def modifiers (allowed : List String) : P ModifierList := do
  let words ← iterate (fun (acc : Array (String × Nat)) => do
    let t ← token
    let isBlock ← do
      if t.kind == .word "static" then follows (atMark "\x7b") else pure false
    if !isBlock && (← atModifier) then
      checkModifier (acc.toList.map (·.1)) t
      if !allowed.contains t.text then fault (.modifierHere t.text) t.start
      moveOver
      return (acc.push (t.text, t.start), true)
    else return (acc, false)) #[]
  return ⟨words.toList⟩

/-- The contextual word `w` in front of a property name. -/
def eatBeforeName (w : String) : P Bool := do
  if (← atWord w) && (← follows do
      match ← kind with
      | .mark "\x7b" | .mark "*" | .mark "..." => return false
      | _ => followsModifier) then
    moveOver
    return true
  else return false

/-! Types inside other phrases -/

def ascription (g : Grammar) : P Tree := do
  if (← typed) && (← atMark ":") then
    let s ← start
    move
    let t ← g.type
    return .type (← since s) .ascription [t]
  else return .absent

def typeList (g : Grammar) : P Tree := do
  let s ← start
  expectMark "<"
  let (types, _) ← separated (.mark ">") g.type
  if types.isEmpty then fault .emptyTypeArguments s
  expectMark ">"
  return .type (← since s) .arguments types

/-- Split `<<` so that its first angle stands alone. -/
def splitLeftAngle : P Unit := do
  if (← atMark "<<") || (← atMark "<<=") || (← atMark "<=") then rescan Scanner.leftAngle

def typeArguments? (g : Grammar) : P Tree := do
  if ← atMark "<<" then splitLeftAngle
  if (← typed) && (← atMark "<") then typeList g else return .absent

def typeParameter (g : Grammar) : P Tree := do
  let s ← start
  let ms ← modifiers ["const", "in", "out"]
  let n ← bindingName
  let bound ← do
    if ← eatWord "extends" then g.type else pure .absent
  let default ← do
    if ← eatMark "=" then g.type else pure .absent
  return .type (← since s) (.parameter (ms.has "const") (ms.has "in") (ms.has "out"))
    [.bind n.span .typeParameter n.text, bound, default]

def typeParameters (g : Grammar) : P Tree := do
  if !(← typed) || !(← atMark "<") then return .absent
  let s ← start
  move
  let (ps, _) ← separated (.mark ">") (typeParameter g)
  if ps.isEmpty then fault .emptyTypeParameters s
  expectMark ">"
  return .type (← since s) .parameters ps

/-! Decorators -/

def decorator (g : Grammar) : P Tree := do
  let s ← start
  expectMark "@"
  let e ← within (fun c => { c with inDecorator := true }) g.leftHand
  return .cls (← since s) .decorator [e]

def decorators (g : Grammar) : P Tree := do
  if !(← atMark "@") then return .absent
  let s ← start
  let ds ← iterate (fun (acc : Array Tree) => do
    if (← atMark "@") && !(← hasFatal) then return (acc.push (← decorator g), true)
    else return (acc, false)) #[]
  return .cls (← since s) .decorators ds.toList

end Grammar

end RouteWrap
