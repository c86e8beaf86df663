import RouteWrap.Grammar.Class
import RouteWrap.Grammar.Jsx
import RouteWrap.Grammar.Target

/-!
Expressions, from the tightest to the loosest: primary expressions, members and calls, unary and
binary operators, conditions, assignments and sequences.
-/

namespace RouteWrap.Grammar

open P

/-! Calls without side effects -/

/-- Mark the call that is evaluated first in `t`. -/
def markPure : Tree → Tree
  | .expr s (.call o _) ps => .expr s (.call o true) ps
  | .expr s (.construct _) ps => .expr s (.construct true) ps
  | .expr s (.binary op) (l :: ps) => .expr s (.binary op) (markPure l :: ps)
  | .expr s .conditional (l :: ps) => .expr s .conditional (markPure l :: ps)
  | .expr s .parenthesized [t] => .expr s .parenthesized [markPure t]
  | .expr s .chain [.expr r (.call o _) ps] => .expr s .chain [.expr r (.call o true) ps]
  | t => t

def markFunction : Tree → Tree
  | .expr s (.arrow a e _) ps => .expr s (.arrow a e true) ps
  | .expr s (.functionExpression t) ps =>
      .expr s (.functionExpression { t with pure := true }) ps
  | t => t

/-! Arrays and objects -/

def spread (g : Grammar) : P Tree := do
  let s ← start
  expectMark "..."
  let e ← g.assignment true
  return .expr (← since s) .spread [e]

def arrayElement (g : Grammar) : P Tree := do
  match ← kind with
  | .mark "," => return .absent
  | .mark "..." => spread g
  | _ => g.assignment true

def array (g : Grammar) : P Tree := do
  let s ← start
  move
  let (es, comma) ← within allowIn (separated (.mark "]") (arrayElement g))
  match comma with
  | some offset => modify fun c => { c with trailingCommas := (s, offset) :: c.trailingCommas }
  | none => pure ()
  expectMark "]"
  return .expr (← since s) .array es

def objectMethod (g : Grammar) (s : Nat) (kind : MethodKind) (async generator : Bool)
    (key : Tree) (computed : Bool) : P Tree := do
  let callable ← method g async generator
  checkAccessor kind callable
  return .expr (← since s) (.objectMethod kind computed ⟨async, generator, false, false⟩)
    [key, callable]

def objectProperty (g : Grammar) : P Tree := do
  if ← atMark "..." then return ← spread g
  let s ← start
  let ms ← modifiers ["async"]
  if ← eatBeforeName "get" then
    let (key, computed) ← propertyName g
    return ← objectMethod g s .getter false false key computed
  if ← eatBeforeName "set" then
    let (key, computed) ← propertyName g
    return ← objectMethod g s .setter false false key computed
  let generator ← eatMark "*"
  let t ← token
  let (key, computed) ← propertyName g
  if generator || (← atMark "(") || (← atMark "<") then
    return ← objectMethod g s .method (ms.has "async") generator key computed
  if t.kind.isName && !(← atMark ":") then
    checkName t.kind t.start (← context)
    let value := Tree.ref t.span .value t.text
    if ← atMark "=" then
      move
      let initial ← within allowIn (g.assignment true)
      modify fun c => { c with covers := s :: c.covers }
      return .expr (← since s) (.property true computed) [key, value, initial]
    return .expr (← since s) (.property true computed) [key, value]
  expectMark ":"
  let value ← g.assignment true
  return .expr (← since s) (.property false computed) [key, value]

def object (g : Grammar) : P Tree := do
  let s ← start
  move
  let (ps, _) ← within allowIn (separated (.mark "\x7d") (objectProperty g))
  expectMark "\x7d"
  return .expr (← since s) .object ps

/-! Primary expressions -/

def parenthesized (g : Grammar) : P Tree := do
  let s ← start
  move
  let inner ← start
  let (es, comma) ← within (fun c => { c with allowIn := true, inDecorator := false })
    (separated (.mark ")") (g.assignment true))
  match comma with
  | some offset => fault (.trailingComma "Parenthesized expressions") offset
  | none => pure ()
  match es with
  | [] =>
      expectMark ")"
      fatal .emptyParentheses s
      return .absent
  | es =>
      let span ← since inner
      expectMark ")"
      let e := match es with
        | [e] => e
        | es => .expr span .sequence es
      return .expr (← since s) .parenthesized [e]

def argument (g : Grammar) : P Tree := do
  if ← atMark "..." then spread g else g.assignment true

def arguments (g : Grammar) : P (List Tree) := do
  move
  let (as, _) ← within (fun c => { c with allowIn := true, inDecorator := false })
    (separated (.mark ")") (argument g))
  expectMark ")"
  return as

def construction (g : Grammar) : P Tree := do
  let s ← start
  moveOver
  if ← eatMark "." then
    if ← atWord "target" then
      move
      return .expr (← since s) (.metaProperty "new" "target") []
    move
    fatal .newTarget s
    return .absent
  let (callee, isOptional) ← g.members
  let (callee, types) := match callee with
    | .expr _ .instantiation [c, ts] => (c, ts)
    | c => (c, .absent)
  let as ← if ← atMark "(" then arguments g else pure []
  match callee with
  | .expr _ (.importCall _) _ => fault .constructImport s
  | _ => pure ()
  if isOptional then fault .optionalConstruct s
  return .expr (← since s) (.construct false) (callee :: types :: as)

def importCall (g : Grammar) (s : Nat) (phase : ImportPhase) : P Tree := do
  expectMark "("
  if ← eatMark ")" then
    fatal .importArguments s
    return .absent
  let source ← within allowIn (g.assignment true)
  let options ← do
    if (← eatMark ",") && !(← atMark ")") then within allowIn (g.assignment true)
    else pure .absent
  let _ ← eatMark ","
  expectMark ")"
  return .expr (← since s) (.importCall phase) [source, options]

def importExpression (g : Grammar) : P Tree := do
  let s ← start
  moveOver
  if ← eatMark "." then
    if ← atWord "meta" then
      move
      return .expr (← since s) (.metaProperty "import" "meta") []
    if ← atWord "source" then
      move
      return ← importCall g s .source
    if ← atWord "defer" then
      move
      return ← importCall g s .defer
    move
    fatal .importMeta s
    return .absent
  if ← atMark "(" then importCall g s .none
  else
    unexpected
    return .absent

def superExpression : P Tree := do
  let t ← token
  moveOver
  if !((← atMark ".") || (← atMark "(") || (← atMark "[")) then fault .superValue t.start
  return .expr t.span .superValue []

def primary (g : Grammar) : P Tree := do
  match ← kind with
  | .identifier => reference
  | .string => stringLiteral
  | .numeral k => numeral k
  | .templateWhole | .templateHead => template g false
  | .mark "(" => parenthesized g
  | .mark "[" => array g
  | .mark "\x7b" => object g
  | .mark "/" | .mark "/=" => regexLiteral
  | .mark "@" => classExpression g
  | .word "this" => keywordLiteral .thisValue
  | .word "null" => keywordLiteral .null
  | .word "true" => keywordLiteral (.boolean true)
  | .word "false" => keywordLiteral (.boolean false)
  | .word "function" => functionExpression g
  | .word "class" => classExpression g
  | .word "new" => construction g
  | .word "import" => importExpression g
  | .word "super" => superExpression
  | .word "async" => if ← atAsyncFunction then functionExpression g else reference
  | _ => reference

/-! Members and calls -/

def startsExpression : P Bool := do
  match ← kind with
  | .identifier | .string | .numeral _ | .templateWhole | .templateHead | .privateName
  | .regex => return true
  | .mark m =>
      return ["(", "[", "\x7b", "+", "-", "~", "!", "++", "--", "<", "<<", "@", "/", "/=", "..."]
        |>.contains m
  | .word w =>
      return !Kind.reserved.contains w
        || ["this", "super", "null", "true", "false", "function", "class", "new", "delete",
            "typeof", "void", "import"].contains w
  | _ => return false

def binaryAt (k : Kind) : Option BinaryOperator :=
  match k with
  | .mark m => BinaryOperator.ofText? m
  | .word w => if w == "in" || w == "instanceof" then BinaryOperator.ofText? w else none
  | _ => none

def followsTypeArguments : P Bool := do
  match ← kind with
  | .mark "(" | .templateWhole | .templateHead => return true
  | .mark "<" | .mark ">" | .mark "+" | .mark "-" => return false
  | k =>
      let isOperator := (binaryAt k).isSome || k == .word "as" || k == .word "satisfies"
      return (← newline) || isOperator || !(← startsExpression)

def typeArgumentsInExpression (g : Grammar) : P (Option Tree) := do
  if !(← typed) then return none
  if !((← atMark "<") || (← atMark "<<")) then return none
  tryRead do
    if ← atMark "<<" then splitLeftAngle
    let s ← start
    expectMark "<"
    let (types, _) ← separated (.mark ">") g.type
    rescan Scanner.rightAngle
    if ← atMark ">=" then unexpected
    expectMark ">"
    if !(← followsTypeArguments) then unexpected
    return .type (← since s) .arguments types

def isTemplate (k : Kind) : Bool := k == .templateWhole || k == .templateHead

def taggedTemplate (g : Grammar) (s : Nat) (inChain : Bool) (tag types : Tree) : P Tree := do
  let at_ ← start
  let t ← template g true
  if inChain then fault .optionalTemplate at_
  return .expr (← since s) .taggedTemplate [tag, types, t]

def memberAfter (g : Grammar) (s : Nat) (isOptional : Bool) (object : Tree) : P Tree := do
  if ← at? .privateName then
    let n ← takeName
    return .expr (← since s) (.privateMember isOptional n.text) [object]
  let _ := g
  let n ← anyName
  return .expr (← since s) (.member isOptional n.text) [object]

def computedAfter (g : Grammar) (s : Nat) (isOptional : Bool) (object : Tree) : P Tree := do
  move
  let e ← within allowIn g.expression
  expectMark "]"
  return .expr (← since s) (.computedMember isOptional) [object, e]

/-- Members, non-null marks, templates and type arguments after `first`; the flag tells whether
an optional link was passed. -/
def memberTail (g : Grammar) (s : Nat) (first : Tree) (inChain : Bool) : P (Tree × Bool) :=
  iterate (fun ((t, inChain) : Tree × Bool) => do
    if ← hasFatal then return ((t, inChain), false)
    match ← kind with
    | .mark "." =>
        move
        return ((← memberAfter g s false t, inChain), true)
    | .mark "[" =>
        if (← context).inDecorator then return ((t, inChain), false)
        else return ((← computedAfter g s false t, inChain), true)
    | .mark "?." =>
        let next ← ahead do
          move
          kind
        if next == .mark "[" then
          move
          return ((← computedAfter g s true t, true), true)
        else if next == .privateName || next.isNameLike then
          move
          return ((← memberAfter g s true t, true), true)
        else return ((t, inChain), false)
    | .mark "!" =>
        if (← typed) && !(← newline) then
          move
          return ((.expr (← since s) .nonNull [t], inChain), true)
        else return ((t, inChain), false)
    | .templateWhole | .templateHead =>
        match t with
        | .expr _ .instantiation [callee, types] =>
            return ((← taggedTemplate g s inChain callee types, inChain), true)
        | t => return ((← taggedTemplate g s inChain t .absent, inChain), true)
    | .mark "<" | .mark "<<" =>
        match ← typeArgumentsInExpression g with
        | some types => return ((.expr (← since s) .instantiation [t, types], inChain), true)
        | none => return ((t, inChain), false)
    | _ => return ((t, inChain), false)) (first, inChain)

def readMembers (g : Grammar) : P (Tree × Bool) := do
  let s ← start
  let first ← primary g
  memberTail g s first false

def callTail (g : Grammar) (s : Nat) (first : Tree) (inChain : Bool) : P (Tree × Bool) :=
  iterate (fun ((t, inChain) : Tree × Bool) => do
    if ← hasFatal then return ((t, inChain), false)
    let (t, inChain) ← memberTail g s t inChain
    let link ← start
    let isOptional ← eatMark "?."
    let inChain := inChain || isOptional
    let types ← do
      if isOptional then pure ((← typeArgumentsInExpression g).getD .absent) else pure .absent
    if isOptional && isTemplate (← kind) then
      return ((← taggedTemplate g s true t types, inChain), true)
    let (t, types) := match isOptional, t with
      | false, .expr _ .instantiation [callee, ts] => (callee, ts)
      | _, t => (t, types)
    if ← atMark "(" then
      let as ← arguments g
      return ((.expr (← since s) (.call isOptional false) (t :: types :: as), inChain), true)
    else
      if isOptional then fatal .nameAfterOptional link
      if types.isAbsent then return ((t, inChain), false)
      else return ((.expr (← since s) .instantiation [t, types], inChain), false)) (first, inChain)

/-- A chain of optional links is one expression. -/
def chained (s : Span) (inChain : Bool) (t : Tree) : Tree :=
  if !inChain then t
  else match t with
    | .expr r .instantiation [callee, types] =>
        .expr r .instantiation [.expr s .chain [callee], types]
    | t@(.expr _ (.call ..) _) | t@(.expr _ (.member ..) _) | t@(.expr _ (.computedMember _) _)
    | t@(.expr _ (.privateMember ..) _) | t@(.expr _ .nonNull _) => .expr s .chain [t]
    | t => t

def readLeftHand (g : Grammar) : P Tree := do
  let s ← start
  let (t, inChain) ← readMembers g
  let (t, inChain) ← callTail g s t inChain
  return chained (← since s) inChain t

/-! Unary operators -/

def updateAt (k : Kind) : Option UpdateOperator :=
  match k with
  | .mark "++" => some .increment
  | .mark "--" => some .decrement
  | _ => none

def unaryAt (k : Kind) : Option UnaryOperator :=
  match k with
  | .mark m => UnaryOperator.ofText? m
  | .word w => UnaryOperator.ofText? w
  | _ => none

def opensElement : P Bool := do
  if (← tags) && (← atMark "<") then
    follows do return (← kind).isNameLike || (← atMark ">")
  else return false

def elementExpression (g : Grammar) : P Tree := do
  let s ← start
  move
  g.element s false

def updateExpression (g : Grammar) : P Tree := do
  let s ← start
  match updateAt (← kind) with
  | some op =>
      move
      let t ← g.unary
      let t ← simpleTarget t
      return .expr (← since s) (.update op true) [t]
  | none =>
      if ← opensElement then return ← elementExpression g
      let t ← g.leftHand
      match updateAt (← kind) with
      | some op =>
          if ← newline then return t
          let t ← do
            if ← hasFatal then pure t else simpleTarget t
          move
          return .expr (← since s) (.update op false) [t]
      | none => return t

/-- Whether a word that is an operator in some contexts has an operand here. -/
def hasOperand : P Bool := follows do
  if ← newline then return false
  match ← kind with
  | .string | .templateWhole | .templateHead | .privateName => return true
  | k => return k.isNameLike || k.isNumeral

def atAwait : P Bool := do
  if ← atWord "await" then
    if (← context).inAsync then return true else hasOperand
  else return false

def awaitExpression (g : Grammar) : P Tree := do
  let s ← start
  if !(← context).inAsync then fault .awaitOutside s
  moveOver
  let t ← within (fun c => { c with inAsync := true }) g.unary
  return .expr (← since s) .await [t]

def typeAssertion (g : Grammar) : P Tree := do
  let s ← start
  move
  let type ← g.type
  expectMark ">"
  let e ← g.unary
  return .expr (← since s) .assertion [type, e]

def readUnary (g : Grammar) : P Tree := do
  match unaryAt (← kind) with
  | some op =>
      let s ← start
      moveOver
      let t ← g.unary
      return .expr (← since s) (.unary op) [t]
  | none =>
      if ← atMark "<" then
        if ← tags then elementExpression g
        else if ← typed then typeAssertion g
        else
          match ← tryRead (elementExpression g) with
          | some e =>
              fault .jsxHere e.span.start
              return e
          | none =>
              unexpected
              return .absent
      else if ← atAwait then awaitExpression g
      else updateExpression g

/-! Binary operators -/

def isUnaryForm : Tree → Bool
  | .expr _ (.unary _) _ | .expr _ .await _ => true
  | _ => false

def mixesCoalesce (op : BinaryOperator) (t : Tree) : Bool :=
  match t with
  | .expr _ (.binary o) _ =>
      o.isLogical && ((op == .coalesce) != (o == .coalesce))
  | _ => false

/-- Operators that bind tighter than `level`, after their left operand. -/
def binaryTail (g : Grammar) (s : Nat) (left : Tree) (level : Precedence) : P Tree := do
  let first := left
  iterate (fun left => do
    if ← hasFatal then return (left, false)
    rescan fun t => if t.kind == .mark ">" then Scanner.rightAngle t else pure t
    let k ← kind
    if k == .word "as" || k == .word "satisfies" then
      if !(level < Precedence.compare) || (← newline) then return (left, false)
      move
      let type ← g.type
      let span ← since s
      if k == .word "as" then
        if !(← typed) then fault (.typedOnly .assertion) s
        return (.expr span .asType [left, type], true)
      else
        if !(← typed) then fault (.typedOnly .satisfaction) s
        return (.expr span .satisfies [left, type], true)
    match binaryAt k with
    | none => return (left, false)
    | some op =>
        let p := op.precedence
        let stops := if op == .power then decide (p < level) else decide (p ≤ level)
        if stops || (op == .isIn && !(← context).allowIn) then return (left, false)
        moveOver
        let right ← g.binary p
        if op == .power && isUnaryForm left then fault .exponentiation left.span.start
        if op.isLogical && (mixesCoalesce op left || mixesCoalesce op right) then
          fault .mixedCoalesce s
        return (.expr (← since s) (.binary op) [left, right], true)) first

def readBinary (g : Grammar) (level : Precedence) : P Tree := do
  let t ← token
  let left ← do
    if t.kind == .privateName && (← context).allowIn then
      let name ← privateName
      require (.word "in")
      pure name
    else
      let e ← g.unary
      pure (if t.pureCall then markPure e else e)
  binaryTail g t.start left level

/-! Assignments -/

def assignAt (k : Kind) : Option AssignOperator :=
  match k with
  | .mark m => AssignOperator.ofText? m
  | _ => none

def atYield : P Bool := do
  if ← atWord "yield" then
    if (← context).inGenerator then return true else hasOperand
  else return false

def yieldExpression (g : Grammar) : P Tree := do
  let s ← start
  let inGenerator := (← context).inGenerator
  moveOver
  let (delegate, operand) ← do
    if ← newline then pure (false, Tree.absent)
    else
      let delegate ← eatMark "*"
      let isEmpty := match ← kind with
        | .eof | .mark ";" | .mark "\x7d" | .mark ")" | .mark "]" | .mark ":" | .mark ","
        | .word "in" => true
        | _ => false
      if isEmpty && !delegate then pure (delegate, .absent)
      else
        let e ← within (fun c => { c with inGenerator := true }) (g.assignment true)
        pure (delegate, e)
  if !inGenerator then fault .yieldOutside s
  return .expr (← since s) (.yield delegate) [operand]

def conditionTail (g : Grammar) (s : Nat) (test : Tree) (allowResult : Bool) : P Tree := do
  if !(← eatMark "?") then return test
  let yes ← within allowIn (g.assignment false)
  expectMark ":"
  let no ← g.assignment allowResult
  return .expr (← since s) .conditional [test, yes, no]

def readAssignment (g : Grammar) (allowResult : Bool) : P Tree := do
  if ← atYield then return ← yieldExpression g
  let t ← token
  match ← arrow? g allowResult with
  | some e => return e
  | none => pure ()
  match ← asyncArrow? g allowResult with
  | some e => return e
  | none => pure ()
  let left ← g.binary .comma
  match left with
  | .ref .. =>
      if ← atMark "=>" then
        return ← simpleArrow g t.start false t.pureFunction left allowResult
  | _ => pure ()
  match assignAt (← kind) with
  | some op =>
      if ← hasFatal then return left
      let target ← assignmentTarget (op == .plain) left
      move
      let value ← g.assignment allowResult
      return .expr (← since t.start) (.assignment op) [target, value]
  | none =>
      let e ← conditionTail g t.start left allowResult
      return if t.pureFunction then markFunction e else e

def readExpression (g : Grammar) : P Tree :=
  within (fun c => { c with inDecorator := false }) do
    let s ← start
    let first ← g.assignment true
    if !(← atMark ",") then return first
    let found ← iterate (fun (acc : Array Tree) => do
      if (← atMark ",") && !(← hasFatal) then
        move
        return (acc.push (← g.assignment true), true)
      else return (acc, false)) #[first]
    return .expr (← since s) .sequence found.toList

end RouteWrap.Grammar
