import RouteWrap.Grammar.Declaration

/-!
Imports and exports.
-/

namespace RouteWrap.Grammar

open P

/-! Requests -/

def requestAttribute : P Tree := do
  let s ← start
  let key ← if ← at? .string then stringLiteral else keyName
  expectMark ":"
  let value ← stringLiteral
  return .link (← since s) .attributePair [key, value]

def requestAttributes : P Tree := do
  let s ← start
  let t ← token
  let isClause := t.kind == .word "with" || (t.kind == .word "assert" && !t.newlineBefore)
  if !isClause then return .absent
  move
  expectMark "\x7b"
  let (as, _) ← separated (.mark "\x7d") requestAttribute
  expectMark "\x7d"
  return .link (← since s) (.attributes t.text) as

def request : P Request := do
  let t ← token
  if t.kind == .string then move else unexpected
  let attributes ← requestAttributes
  return ⟨t.span, t.value, attributes⟩

def hasLoneSurrogate (ps : Points) : Bool := ps.any isSurrogate

def linkName : P LinkName := do
  let t ← token
  if t.kind == .string then
    if hasLoneSurrogate t.value then fault .loneSurrogateExport t.start
    move
    return .string t.span t.value
  else
    let n ← anyName
    return .name n.span n.text

def atLinkName : P Bool := do
  let k ← kind
  return k.isNameLike || k == .string

/-! Specifiers -/

/-- A specifier: what stands before `as`, what stands after it, and whether `type` modifies it.
`type` and `as` may themselves be names. -/
structure RawSpecifier where
  span : Span
  typeOnly : Option Nat
  first : LinkName
  second : Option LinkName

def rawSpecifier : P RawSpecifier := do
  let t ← token
  let s := t.start
  let name ← linkName
  let mut first := name
  let mut second : Option LinkName := none
  let mut typeOnly : Option Nat := none
  let mut mayRename := true
  if t.kind == .word "type" then
    if ← atWord "as" then
      let firstAs ← linkName
      if ← atWord "as" then
        let secondAs ← linkName
        mayRename := false
        if ← atLinkName then
          typeOnly := some s
          first := firstAs
          second := some (← linkName)
        else second := some secondAs
      else if ← atLinkName then
        mayRename := false
        second := some (← linkName)
      else
        typeOnly := some s
        first := firstAs
        mayRename := false
    else if ← atLinkName then
      typeOnly := some s
      first ← linkName
  if mayRename && (← atWord "as") then
    move
    second := some (← linkName)
  return ⟨← since s, typeOnly, first, second⟩

def checkLocal (n : LinkName) : P Name := do
  match n with
  | .name s text =>
      if Kind.reserved.contains text then fatal (.reservedName text) s.start
      else checkName (Kind.ofName text) s.start (← context)
      return ⟨s, text⟩
  | .string s _ =>
      unexpected
      return ⟨s, ""⟩

def importSpecifier (typeOnly : Bool) : P ImportSpecifier := do
  let r ← rawSpecifier
  match typeOnly, r.typeOnly with
  | true, some offset => fault .typeTwiceImport offset
  | _, _ => pure ()
  let n ← checkLocal (r.second.getD r.first)
  return ⟨r.span, r.typeOnly.isSome, .name r.first, n⟩

def importClause (default : Option Name) (typeOnly : Bool) : P (List ImportSpecifier) := do
  let first := (default.map fun n => ⟨n.span, false, Imported.default, n⟩).toList
  if default.isSome && !(← eatMark ",") then return first
  if ← atMark "*" then
    let s ← start
    move
    expectWord "as"
    let n ← bindingName
    return first ++ [⟨← since s, false, .namespace, n⟩]
  if ← atMark "\x7b" then
    move
    let (ss, _) ← separated (.mark "\x7d") (importSpecifier typeOnly)
    expectMark "\x7d"
    return first ++ ss
  if default.isSome then unexpected
  return first

/-! Imports -/

/-- What stands between `import` and its clause. -/
structure ImportHead where
  typeOnly : Bool
  phase : ImportPhase
  default : Option Name

/-- A name after `import` is bound, unless it is a word that qualifies the import. -/
def importHead : P ImportHead := do
  if !(← kind).isName then return ⟨false, .none, none⟩
  let t ← token
  let n ← bindingName
  let plain : ImportHead := ⟨false, .none, some n⟩
  match t.kind with
  | .word "type" =>
      if !(← typed) then return plain
      let k ← kind
      let isModifier ← do
        if k == .word "from" then follows do return !(← at? .string)
        else pure (k.isName || k == .mark "\x7b" || k == .mark "*")
      if !isModifier then return plain
      if k.isName then return ⟨true, .none, some (← bindingName)⟩
      return ⟨true, .none, none⟩
  | .word "source" =>
      let k ← kind
      let isModifier ← do
        if k == .word "from" then follows (atWord "from") else pure k.isName
      if isModifier then return ⟨false, .source, some (← bindingName)⟩
      return plain
  | .word "defer" =>
      if ← atMark "*" then return ⟨false, .defer, none⟩
      return plain
  | _ => return plain

def importItem (g : Grammar) : P Item := do
  let s ← start
  let isExpression ← follows do return (← atMark ".") || (← atMark "(")
  if isExpression then
    let e ← g.expression
    semicolon
    return .statement (.stmt (← since s) .evaluation [e])
  moveOver
  let h ← importHead
  match h.default with
  | some n =>
      if ← atMark "=" then
        return .declaration (.other (← importEquals g s n h.typeOnly))
  | none => pure ()
  let hasClause := h.default.isSome || !(← at? .string)
  let specifiers ← do
    if hasClause then
      let ss ← importClause h.default h.typeOnly
      expectWord "from"
      pure (some ss)
    else pure none
  let r ← request
  semicolon
  return .imports ⟨← since s, h.typeOnly, h.phase, specifiers, r⟩

/-! Exports -/

def exportSpecifier (typeOnly : Bool) : P ExportSpecifier := do
  let r ← rawSpecifier
  match typeOnly, r.typeOnly with
  | true, some offset => fault .typeTwiceExport offset
  | _, _ => pure ()
  return ⟨r.span, r.typeOnly.isSome, r.first, r.second.getD r.first⟩

/-- Words that may be exported but not bound in a module. -/
def futureWords : List String :=
  ["implements", "interface", "let", "package", "private", "protected", "public", "static"]

/-- Without another module, what is exported has to name a binding. -/
def checkExported (e : ExportSpecifier) : P Unit := do
  match e.localName with
  | .string s _ => fault .stringExport s.start
  | .name s text =>
      if Kind.reserved.contains text || futureWords.contains text then
        fault .reservedExport s.start

def exportListItem (s : Nat) : P Item := do
  let typeOnly ← eatWord "type"
  expectMark "\x7b"
  let (es, _) ← separated (.mark "\x7d") (exportSpecifier typeOnly)
  expectMark "\x7d"
  let r ← do
    if ← eatWord "from" then
      if ← at? .string then some <$> request else pure none
    else pure none
  if r.isNone then es.forM checkExported
  semicolon
  return .exportList ⟨← since s, typeOnly, es, r⟩

def exportAllItem (s : Nat) : P Item := do
  let typeOnly ← eatWord "type"
  expectMark "*"
  let exported ← do
    if ← eatWord "as" then some <$> linkName else pure none
  expectWord "from"
  let r ← request
  semicolon
  return .exportAll ⟨← since s, typeOnly, exported, r⟩

def defaultValue (g : Grammar) (ds : Tree) : P DefaultValue := do
  let s ← start
  if ← atWord "class" then return .declaration (.classes (← classFrom g s ds false false))
  if ← atMark "@" then
    let ds ← decorators g
    if (← typed) && (← atWord "abstract") then
      moveOver
      return .declaration (.classes (← classFrom g s ds true false))
    return .declaration (.classes (← classFrom g s ds false false))
  if (← typed) && (← atWord "abstract")
      && (← follows do return (← atWord "class") && !(← newline)) then
    moveOver
    return .declaration (.classes (← classFrom g s ds true false))
  if (← typed) && (← atWord "interface")
      && (← follows do return (← kind).isName && !(← newline)) then
    return .declaration (.other (← interface g s false))
  if (← atWord "function") || (← atAsyncFunction) then
    let isPure := (← token).pureFunction
    let d ← function g .defaultExport false
    return .declaration (.function { d with traits := { d.traits with pure := isPure } })
  let e ← g.assignment true
  semicolon
  return .expression e

/-- An export from its keyword on. Its declaration ends the module's own top level. -/
def exportItem (g : Grammar) (s : Nat) (ds : Tree) : P Item := do
  let t ← token
  moveOver
  match ← kind with
  | .mark "*" => exportAllItem s
  | .mark "\x7b" => exportListItem s
  | .word "default" =>
      moveOver
      let v ← defaultValue g ds
      return .exportDefault (← since s) v
  | .mark "=" =>
      move
      let e ← g.expression
      semicolon
      if !(← typed) then fault (.typedOnly .exportAssignment) t.start
      return .statement (.stmt (← since s) .exportAssignment [e])
  | .word "as" =>
      if (← typed) && (← follows (atWord "namespace")) then
        move
        move
        let n ← anyName
        semicolon
        return .statement (.stmt (← since s) (.exportAsNamespace n.text) [])
      else declared g s ds
  | .word "type" =>
      let next ← ahead do
        move
        kind
      if (← typed) && next == .mark "\x7b" then exportListItem s
      else if (← typed) && next == .mark "*" then exportAllItem s
      else declared g s ds
  | .word "import" =>
      if ← typed then
        let inner ← start
        move
        let typeOnly ← do
          if ← atWord "type" then
            if ← follows do return (← kind).isName then eatWord "type" else pure false
          else pure false
        let n ← bindingName
        let d ← importEquals g inner n typeOnly
        return .exportDeclaration (← since s) (.other d)
      else declared g s ds
  | .mark "@" =>
      let ds ← decorators g
      declared g s ds
  | _ => declared g s ds
where
  declared (g : Grammar) (s : Nat) (ds : Tree) : P Item := do
    let d ← modifiedDeclaration g (← start) ds
    return .exportDeclaration (← since s) d

end RouteWrap.Grammar
