import RouteWrap.Grammar.Pattern

/-!
Types. A name after `:` may be a predicate on a parameter where a result type stands; a
parenthesis may open a function type, which is made out by looking at what follows it.
-/

namespace RouteWrap.Grammar

open P

/-! Names of types -/

/-- A name with qualifiers, whose first part refers to a binding with the given use. -/
def entityName (use : Use) (allowReserved : Bool) : P Tree := do
  let s ← start
  let first ← do
    let t ← token
    if t.kind == .word "this" then
      move
      pure (Tree.type t.span (.keyword "this") [])
    else
      let n ← if allowReserved then anyName else do
        if !t.kind.isName then unexpected
        takeName
      pure (Tree.ref n.span use n.text)
  iterate (fun t => do
    if (← atMark ".") && !(← hasFatal) then
      move
      let n ← anyName
      return (.type (← since s) (.qualified n.text) [t], true)
    else return (t, false)) first

def typeReference (g : Grammar) : P Tree := do
  let s ← start
  let name ← entityName .type true
  let arguments ← do
    if ← newline then pure .absent else typeArguments? g
  return .type (← since s) .reference [name, arguments]

/-! Literal and keyword types -/

def typeWords : List String :=
  ["any", "unknown", "string", "number", "bigint", "symbol", "boolean", "undefined", "never",
   "object", "intrinsic"]

def keywordType : P Tree := do
  let t ← token
  moveOver
  return .type t.span (.keyword t.text) []

def literalType (p : P Tree) : P Tree := do
  let s ← start
  let e ← p
  return .type (← since s) .literal [e]

def negativeLiteral : P Tree := do
  let s ← start
  move
  match ← kind with
  | .numeral k =>
      let n ← numeral k
      return .expr (← since s) (.unary .minus) [n]
  | _ =>
      unexpected
      return .absent

def templateType (g : Grammar) : P Tree := do
  let s ← start
  let parts ← templateParts false g.type
  return .type (← since s) .template parts

/-! Function types -/

def skipParameter (g : Grammar) : P Bool := do
  let _ ← modifiers parameterModifiers
  let k ← kind
  if k.isName || k == .word "this" then
    move
    return true
  if k == .mark "[" || k == .mark "\x7b" then
    let before := (← get).faults.size
    let _ ← g.pattern .parameter
    return !(← hasFatal) && (← get).faults.size == before
  return false

def opensFunctionType (g : Grammar) : P Bool := ahead do
  move
  if (← atMark ")") || (← atMark "...") then return true
  if ← skipParameter g then
    match ← kind with
    | .mark ":" | .mark "," | .mark "?" | .mark "=" => return true
    | .mark ")" =>
        move
        atMark "=>"
    | _ => return false
  else return false

/-- The result type after `separator`, which may be a predicate on a parameter. -/
def resultType (g : Grammar) (separator : String) : P Tree := do
  let s ← start
  moveOver
  let inner ← start
  let asserts ← do
    if ← atWord "asserts" then follows do
      return !(← newline) && ((← kind).isName || (← atWord "this"))
    else pure false
  let type ← do
    if asserts then
      move
      let subject ← takeName
      let type ← do
        if ← eatWord "is" then
          let t ← start
          let type ← g.type
          pure (Tree.type (← since t) .ascription [type])
        else pure .absent
      pure (Tree.type (← since inner) (.predicate true subject.text) [type])
    else
      let isPredicate ← do
        if (← kind).isName || (← atWord "this") then follows do
          return (← atWord "is") && !(← newline)
        else pure false
      if isPredicate then
        let subject ← takeName
        move
        let t ← start
        let type ← g.type
        let type := Tree.type (← since t) .ascription [type]
        pure (Tree.type (← since inner) (.predicate false subject.text) [type])
      else g.type
  if separator == ":" then return .type (← since s) .ascription [type]
  else return .type (← since inner) .ascription [type]

def result? (g : Grammar) : P Tree := do
  if (← typed) && (← atMark ":") then resultType g ":" else return .absent

def functionType (g : Grammar) : P Tree := do
  let s ← start
  let isAbstract ← eatWord "abstract"
  let constructs ← eatWord "new"
  let tps ← typeParameters g
  let ps ← parameters g
  require (.mark "=>")
  let result ← resultType g "=>"
  let form : TypeForm := if constructs then .construct isAbstract else .function
  return .type (← since s) form [tps, ps, result]

def atFunctionType (g : Grammar) : P Bool := do
  match ← kind with
  | .mark "<" | .word "new" => return true
  | .mark "(" => opensFunctionType g
  | .word "abstract" => follows (atWord "new")
  | _ => return false

/-! Tuples -/

def tupleElement (g : Grammar) : P Tree := do
  let s ← start
  let isLabelled ← ahead do
    let _ ← eatMark "..."
    if (← kind).isNameLike then
      move
      if ← atMark ":" then return true
      if ← eatMark "?" then atMark ":" else return false
    else return false
  if isLabelled then
    let spread ← eatMark "..."
    let inner ← start
    let n ← anyName
    let isOptional ← eatMark "?"
    expectMark ":"
    let type ← g.type
    let member := Tree.type (← since inner) (.tupleMember n.text isOptional) [type]
    if spread then return .type (← since s) .rest [member] else return member
  else if ← eatMark "..." then
    let type ← g.type
    return .type (← since s) .rest [type]
  else
    let type ← g.type
    if ← eatMark "?" then return .type (← since s) .optional [type] else return type

def tupleType (g : Grammar) : P Tree := do
  let s ← start
  expectMark "["
  let (es, _) ← separated (.mark "]") (tupleElement g)
  expectMark "]"
  return .type (← since s) .tuple es

/-! Object types -/

def memberEnd : P Unit := do
  unless ← eatMark "," do
    unless (← eatMark ";") || (← statementEnds) do
      fatal .semicolon (← stopped)

def atIndexSignature : P Bool := do
  if ← atMark "[" then follows do
    if (← kind).isNameLike then
      move
      return (← atMark ":") || (← atMark ",")
    else return false
  else return false

def indexSignature (g : Grammar) (s : Nat) (isReadonly isStatic : Bool) : P Tree := do
  expectMark "["
  let n ← takeName
  let key ← ascription g
  expectMark "]"
  let type ← do
    if ← atMark ":" then ascription g
    else
      unexpected
      pure .absent
  memberEnd
  return .type (← since s) (.indexSignature n.text isReadonly isStatic) [key, type]

def signatureOf (g : Grammar) (form : TypeForm) (key : List Tree) (s : Nat) : P Tree := do
  let tps ← typeParameters g
  let ps ← parameters g
  let result ← result? g
  memberEnd
  return .type (← since s) form (key ++ [tps, ps, result])

def typeMember (g : Grammar) : P Tree := do
  let s ← start
  if (← atMark "(") || (← atMark "<") then
    return ← signatureOf g .callSignature [] s
  if (← atWord "new") && (← follows do return (← atMark "(") || (← atMark "<")) then
    move
    return ← signatureOf g .constructSignature [] s
  let ms ← modifiers ["readonly"]
  if ← eatBeforeName "get" then
    let (key, computed) ← propertyName g
    return ← signatureOf g (.methodSignature .getter computed false) [key] s
  if ← eatBeforeName "set" then
    let (key, computed) ← propertyName g
    return ← signatureOf g (.methodSignature .setter computed false) [key] s
  if ← atIndexSignature then
    return ← indexSignature g s (ms.has "readonly") false
  let (key, computed) ← propertyName g
  let isOptional ← eatMark "?"
  if (← atMark "(") || (← atMark "<") then
    signatureOf g (.methodSignature .method computed isOptional) [key] s
  else
    let type ← ascription g
    memberEnd
    return .type (← since s) (.propertySignature computed isOptional (ms.has "readonly"))
      [key, type]

def objectType (g : Grammar) : P Tree := do
  let s ← start
  expectMark "\x7b"
  let ms ← many (.mark "\x7d") (typeMember g)
  expectMark "\x7d"
  return .type (← since s) .object ms

/-! Mapped types -/

def opensMappedType : P Bool := do
  if !(← atMark "\x7b") then return false
  follows do
    if (← atMark "+") || (← atMark "-") then
      move
      return ← atWord "readonly"
    let _ ← eatWord "readonly"
    if !(← eatMark "[") then return false
    if !(← kind).isNameLike then return false
    move
    atWord "in"

/-- A modifier that may be added or removed, whose own token is `k`. -/
def mappedModifier (k : Kind) : P MappedModifier := do
  if ← eat k then return .plain
  if ← atMark "+" then
    move
    expect k
    return .plus
  if ← atMark "-" then
    move
    expect k
    return .minus
  return .absent

def mappedType (g : Grammar) : P Tree := do
  let s ← start
  expectMark "\x7b"
  let isReadonly ← mappedModifier (.word "readonly")
  expectMark "["
  let n ← anyName
  expectWord "in"
  let keys ← g.type
  let renamed ← do
    if ← eatWord "as" then g.type else pure .absent
  expectMark "]"
  let isOptional ← mappedModifier (.mark "?")
  let type ← do
    if ← eatMark ":" then g.type else pure .absent
  let _ ← eatMark ";"
  expectMark "\x7d"
  return .type (← since s) (.mapped isReadonly isOptional)
    [.bind n.span .typeParameter n.text, keys, renamed, type]

/-! Imports and queries -/

def importType (g : Grammar) : P Tree := do
  let s ← start
  move
  expectMark "("
  let argument ← g.type
  let options ← do
    if (← eatMark ",") && !(← atMark ")") then
      let e ← g.assignment true
      let _ ← eatMark ","
      pure e
    else pure .absent
  expectMark ")"
  let qualifier ← do
    if ← eatMark "." then
      let n ← anyName
      let first := Tree.expr n.span (.keyName n.text) []
      iterate (fun t => do
        if (← atMark ".") && !(← hasFatal) then
          move
          let n ← anyName
          return (.type (← since s) (.qualified n.text) [t], true)
        else return (t, false)) first
    else pure .absent
  let arguments ← do
    if ← newline then pure .absent else typeArguments? g
  return .type (← since s) .importType [argument, options, qualifier, arguments]

def typeQuery (g : Grammar) : P Tree := do
  let s ← start
  move
  let name ← if ← atWord "import" then importType g else entityName .valueAsType true
  let arguments ← do
    if ← newline then pure .absent else typeArguments? g
  return .type (← since s) .query [name, arguments]

/-! Operators -/

def parenthesizedType (g : Grammar) : P Tree := do
  let s ← start
  move
  let t ← within (fun c => { c with noConditionalType := false }) g.type
  expectMark ")"
  return .type (← since s) .parenthesized [t]

def primaryType (g : Grammar) : P Tree := do
  match ← kind with
  | .string => literalType stringLiteral
  | .numeral k => literalType (numeral k)
  | .templateWhole => literalType (template g false)
  | .templateHead => templateType g
  | .mark "-" => literalType negativeLiteral
  | .mark "\x7b" => if ← opensMappedType then mappedType g else objectType g
  | .mark "[" => tupleType g
  | .mark "(" => parenthesizedType g
  | .word "true" => literalType (keywordLiteral (.boolean true))
  | .word "false" => literalType (keywordLiteral (.boolean false))
  | .word "null" => keywordType
  | .word "void" => keywordType
  | .word "this" => keywordType
  | .word "typeof" => typeQuery g
  | .word "import" => importType g
  | .word w =>
      if typeWords.contains w && !(← follows (atMark ".")) then keywordType else typeReference g
  | _ => typeReference g

def startsType (g : Grammar) : P Bool := do
  match ← kind with
  | .identifier | .string | .numeral _ | .templateWhole | .templateHead => return true
  | .mark m =>
      if m == "(" then
        follows do
          if ← atMark ")" then return true
          let k ← kind
          return k.isNameLike || k == .mark "\x7b" || k == .mark "[" || k == .mark "("
            || k == .string || k.isNumeral || (← opensFunctionType g)
      else return ["\x7b", "[", "<", "|", "&", "*", "?", "!", "...", "-"].contains m
  | .word w =>
      return !Kind.reserved.contains w
        || ["void", "null", "this", "typeof", "new", "true", "false", "function",
            "import"].contains w
  | _ => return false

def postfixType (g : Grammar) : P Tree := do
  let s ← start
  let first ← primaryType g
  iterate (fun t => do
    if !(← newline) && (← atMark "[") && !(← hasFatal) then
      move
      if ← startsType g then
        let index ← g.type
        expectMark "]"
        return (.type (← since s) .indexed [t, index], true)
      else
        expectMark "]"
        return (.type (← since s) .array [t], true)
    else return (t, false)) first

/-- A type parameter after `infer`, whose bound is left out where it would read as a condition. -/
def inferredType (g : Grammar) : P Tree := do
  let s ← start
  move
  let n ← anyName
  let bound ← do
    if ← atWord "extends" then
      let found ← attempt do
        let b ← tryRead do
          move
          within (fun c => { c with noConditionalType := true }) g.type
        match b with
        | some b =>
            if (← context).noConditionalType || !(← atMark "?") then return some b
            else return none
        | none => return none
      pure (found.getD .absent)
    else pure .absent
  let parameter := Tree.type (← since n.span.start) (.parameter false false false)
    [.bind n.span .inferred n.text, bound, .absent]
  return .type (← since s) .infer [parameter]

def readOperatorType (g : Grammar) : P Tree := do
  let s ← start
  match ← kind with
  | .word "infer" => inferredType g
  | .word w =>
      if w == "keyof" || w == "unique" || w == "readonly" then
        move
        let t ← g.operatorType
        return .type (← since s) (.operator w) [t]
      else within (fun c => { c with noConditionalType := false }) (postfixType g)
  | _ => within (fun c => { c with noConditionalType := false }) (postfixType g)

/-- `|` and `&` may come first; one member alone is itself unless the mark does. -/
def joinedTypes (g : Grammar) (m : String) (form : TypeForm) (part : P Tree) : P Tree := do
  let s ← start
  let member := do
    if ← atFunctionType g then functionType g else part
  let leads ← eatMark m
  let first ← if leads then member else part
  if leads || (← atMark m) then
    let found ← iterate (fun (acc : Array Tree) => do
      if (← atMark m) && !(← hasFatal) then
        move
        return (acc.push (← member), true)
      else return (acc, false)) #[first]
    return .type (← since s) form found.toList
  else return first

def unionType (g : Grammar) : P Tree :=
  joinedTypes g "|" .union (joinedTypes g "&" .intersection g.operatorType)

def readType (g : Grammar) : P Tree := do
  if ← atFunctionType g then return ← functionType g
  let s ← start
  let check ← unionType g
  if (← context).noConditionalType || (← newline) || !(← atWord "extends") then return check
  move
  let h ← start
  let bound ← within (fun c => { c with noConditionalType := true }) g.type
  expectMark "?"
  let both := within (fun c => { c with noConditionalType := false }) g.type
  let yes ← both
  let head := Tree.type (← since h) .conditionalHead [bound, yes]
  expectMark ":"
  let no ← both
  return .type (← since s) .conditional [check, head, no]

end RouteWrap.Grammar
