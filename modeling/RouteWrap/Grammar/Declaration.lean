import RouteWrap.Grammar.Expression

/-!
Declarations: variables, and the enumerations, namespaces, interfaces and aliases of typed
modules.
-/

namespace RouteWrap.Grammar

open P

/-! Variables -/

/-- Patterns, constants and resources need a value unless the module only declares them. -/
def checkInitial (kind : VariableKind) (d : Declarator) : P Unit := do
  if d.initial.isNone && !(← context).ambient then
    match d.target with
    | .bind .. =>
        match kind with
        | .const => fault .uninitializedConst d.span.start
        | .using | .awaitUsing => fault .uninitializedUsing d.span.start
        | .var | .let => pure ()
    | t => fault .uninitializedPattern t.span.start

def declarator (g : Grammar) (kind : VariableKind) (checked : Bool) : P Declarator := do
  let s ← start
  let target ← g.pattern kind.binder
  let definite ← do
    match target with
    | .bind .. =>
        if (← typed) && (← atMark "!") && !(← newline) then
          move
          pure true
        else pure false
    | _ => pure false
  let type ← ascription g
  let initial ← do
    if ← eatMark "=" then some <$> g.assignment true else pure none
  let d : Declarator := { span := ← since s, definite, target, ascription := type, initial }
  if checked then checkInitial kind d
  return d

def variableDecl (g : Grammar) (s : Nat) (kind : VariableKind) (declare checked : Bool) :
    P VariableDecl := do
  let first ← declarator g kind checked
  let found ← iterate (fun (acc : Array Declarator) => do
    if (← atMark ",") && !(← hasFatal) then
      move
      return (acc.push (← declarator g kind checked), true)
    else return (acc, false)) #[first]
  return { span := ← since s, kind, declare, declarators := found.toList }

/-! Enumerations -/

def enumMember (g : Grammar) : P Tree := do
  let s ← start
  let t ← token
  let (spelling, name) : MemberSpelling × String ← do
    match t.kind with
    | .string =>
        move
        pure (MemberSpelling.quoted t.value, t.value.text)
    | .numeral _ =>
        fatal .enumNumeric t.start
        pure (.plain, t.text)
    | .templateWhole | .templateHead =>
        fatal .enumComputed t.start
        pure (.plain, t.text)
    | .mark "[" =>
        move
        let e ← g.assignment true
        expectMark "]"
        match e with
        | .expr r (.number ..) _ =>
            fatal .enumNumeric r.start
            pure (.plain, "")
        | .expr _ (.string ps) _ => pure (.computedQuoted ps, ps.text)
        | .expr _ .template [.expr _ (.chunk raw) _] => pure (.computedTemplate raw, raw)
        | e =>
            fatal .enumComputed e.span.start
            pure (.plain, "")
    | _ =>
        let n ← anyName
        pure (.plain, n.text)
  let binding := Tree.bind t.span .enumMember name
  let value ← do
    if ← eatMark "=" then within allowIn (g.assignment true) else pure .absent
  return .stmt (← since s) (.enumMember spelling) [binding, value]

def enumeration (g : Grammar) (s : Nat) (const declare : Bool) : P Tree := do
  move
  let n ← bindingName
  let b ← start
  expectMark "\x7b"
  let (ms, _) ← separated (.mark "\x7d") (enumMember g)
  expectMark "\x7d"
  let body := Tree.stmt (← since b) .enumBody ms
  return .stmt (← since s) (.enumeration const declare)
    [.bind n.span .enumeration n.text, body]

/-! Namespaces -/

def blockOfItems (g : Grammar) : P Tree := do
  let b ← start
  expectMark "\x7b"
  let (ds, is) ← statements g (some (.mark "\x7d"))
  expectMark "\x7d"
  return .stmt (← since b) .moduleBlockBody (ds ++ is.map Item.toTree)

/-- A namespace from its name on; `a.b` nests `b` in `a`. -/
def readModuleBlock (g : Grammar) (s : Nat) (keyword : NamespaceKeyword) (declare : Bool) :
    P Tree := do
  let name ← do
    let t ← token
    if t.kind == .string then stringLiteral
    else
      let n ← bindingName
      pure (Tree.bind n.span .moduleBlock n.text)
  if ← eatMark "." then
    let inner ← g.moduleBlock (← start) keyword false
    return .stmt (← since s) (.moduleBlock keyword declare) [name, inner]
  if ← atMark "\x7b" then
    let body ← blockOfItems g
    return .stmt (← since s) (.moduleBlock keyword declare) [name, body]
  semicolon
  return .stmt (← since s) (.moduleBlock keyword declare) [name, .absent]

def globalBlock (g : Grammar) (s : Nat) (declare : Bool) : P Tree := do
  let t ← token
  move
  let body ← blockOfItems g
  return .stmt (← since s) (.moduleBlock .isGlobal declare)
    [.expr t.span (.keyName "global") [], body]

/-! Interfaces and aliases -/

def interface (g : Grammar) (s : Nat) (declare : Bool) : P Tree := do
  move
  let n ← bindingName
  let tailStart ← start
  let tps ← typeParameters g
  let bases ← do
    if ← atWord "extends" then
      move
      let first ← heritageType g
      let found ← iterate (fun (acc : Array Tree) => do
        if (← atMark ",") && !(← hasFatal) then
          move
          return (acc.push (← heritageType g), true)
        else return (acc, false)) #[first]
      pure found.toList
    else pure []
  let b ← start
  expectMark "\x7b"
  let ms ← many (.mark "\x7d") (typeMember g)
  expectMark "\x7d"
  let body := Tree.stmt (← since b) .interfaceBody ms
  let tail := Tree.stmt (← since tailStart) .interfaceTail (tps :: body :: bases)
  return .stmt (← since s) (.interface declare) [.bind n.span .interface n.text, tail]

def typeAlias (g : Grammar) (s : Nat) (declare : Bool) : P Tree := do
  move
  let n ← bindingName
  let tailStart ← start
  let tps ← typeParameters g
  expectMark "="
  let type ← do
    if (← atWord "intrinsic") && !(← follows (atMark ".")) then keywordType else g.type
  let body := Tree.stmt (← since tailStart) .typeAliasBody [tps, type]
  semicolon
  return .stmt (← since s) (.typeAlias declare) [.bind n.span .typeAlias n.text, body]

/-! Imports by assignment -/

/-- `name = require("…")` or `name = other.name`, after `import`. -/
def importEquals (g : Grammar) (s : Nat) (n : Name) (typeOnly : Bool) : P Tree := do
  let _ := g
  expectMark "="
  let r ← start
  let target ← do
    if (← atWord "require") && (← follows (atMark "(")) then
      move
      move
      let e ← stringLiteral
      expectMark ")"
      pure (Tree.stmt (← since r) .externalModule [e])
    else entityName .valueOrType false
  semicolon
  if !(← typed) then fault (.typedOnly .importEquals) s
  let binder : Binder := if typeOnly then .importType else .importValue
  return .stmt (← since s) (.importEquals typeOnly) [.bind n.span binder n.text, target]

/-! Declarations with their modifiers -/

/-- Whether what follows declares something only typed modules can. -/
def startsTypedDeclaration : P Bool := ahead do
  iterate (fun (_ : Bool) => do
    match ← P.kind with
    | .word w =>
        match w with
        | "var" | "let" | "const" | "function" | "class" | "enum" => return (true, false)
        | "interface" | "type" =>
            move
            return ((← kind).isName && !(← newline), false)
        | "module" | "namespace" =>
            move
            let k ← kind
            return (!(← newline) && (k.isName || k == .string), false)
        | "global" =>
            move
            let k ← kind
            return (k == .identifier || k == .mark "\x7b" || k == .word "export", false)
        | "import" =>
            move
            let k ← kind
            return (k == .string || k == .mark "*" || k == .mark "\x7b" || k.isName, false)
        | "export" =>
            move
            match ← kind with
            | .mark "=" | .mark "*" | .mark "\x7b" | .mark "@" | .word "default"
            | .word "as" => return (true, false)
            | _ => return (false, true)
        | "static" =>
            move
            return (false, true)
        | "abstract" | "accessor" | "async" | "declare" | "private" | "protected" | "public"
        | "readonly" =>
            move
            return (false, !(← newline))
        | _ => return (false, false)
    | _ => return (false, false)) false

def declarationModifiers : P ModifierList := do
  let words ← iterate (fun (acc : Array (String × Nat)) => do
    let t ← token
    let isModifier ← do
      match t.kind with
      | .word w =>
          if ["declare", "abstract", "public", "private", "protected", "readonly", "accessor",
              "static"].contains w then
            follows do return !(← newline) && (← kind).isNameLike
          else pure false
      | _ => pure false
    if isModifier then
      checkModifier (acc.toList.map (·.1)) t
      if t.text != "declare" && t.text != "abstract" then
        fault (.modifierHere t.text) t.start
      moveOver
      return (acc.push (t.text, t.start), true)
    else return (acc, false)) #[]
  return ⟨words.toList⟩

def isUsing : P Bool := do
  if ← atWord "using" then follows do
    return !(← newline) && (← kind).isName && !(← atWord "of")
  else return false

def isAwaitUsing : P Bool := do
  if (← atWord "await") && (← context).inAsync then follows do
    return !(← newline) && (← isUsing)
  else return false

/-- The kind of the variables that the current word declares; moves over the keyword. -/
def variableKeyword? : P (Option VariableKind) := do
  match ← kind with
  | .word "var" => moveOver; return some .var
  | .word "let" => moveOver; return some .let
  | .word "const" => moveOver; return some .const
  | .word "using" => if ← isUsing then move; return some .using else return none
  | .word "await" =>
      if ← isAwaitUsing then
        move
        move
        return some .awaitUsing
      else return none
  | _ => return none

/-- A declaration after its modifiers; it starts at `s`. -/
def declarationFrom (g : Grammar) (s : Nat) (ms : ModifierList) (ds : Tree) :
    P Declaration := do
  let declare := ms.has "declare"
  match ← kind with
  | .word "const" =>
      if (← typed) && (← follows (atWord "enum")) then
        move
        return .other (← enumeration g s true declare)
      moveOver
      let d ← variableDecl g s .const declare true
      semicolon
      return .variable { d with span := ← since s }
  | .word "class" => return .classes (← classFrom g s ds (ms.has "abstract") declare)
  | .word "function" =>
      let d ← function g .declaration declare
      return .function { d with span := ⟨s, d.span.stop⟩ }
  | .word "async" =>
      if ← atAsyncFunction then
        let d ← function g .declaration declare
        return .function { d with span := ⟨s, d.span.stop⟩ }
      unexpected
      return .other .absent
  | .word "enum" => if ← typed then return .other (← enumeration g s false declare) else none?
  | .word "interface" => if ← typed then return .other (← interface g s declare) else none?
  | .word "type" => if ← typed then return .other (← typeAlias g s declare) else none?
  | .word "namespace" =>
      if ← typed then
        move
        return .other (← readModuleBlock g s .isNamespace declare)
      else none?
  | .word "module" =>
      if ← typed then
        move
        return .other (← readModuleBlock g s .isModule declare)
      else none?
  | .word "global" => if ← typed then return .other (← globalBlock g s declare) else none?
  | .word "import" =>
      if ← typed then
        move
        let n ← bindingName
        return .other (← importEquals g s n false)
      else none?
  | _ =>
      match ← variableKeyword? with
      | some kind =>
          let d ← variableDecl g s kind declare true
          semicolon
          return .variable { d with span := ← since s }
      | none => none?
where
  none? : P Declaration := do
    unexpected
    return .other .absent

def modifiedDeclaration (g : Grammar) (s : Nat) (ds : Tree) : P Declaration := do
  let ms ← do
    if ← typed then declarationModifiers else pure ⟨[]⟩
  within (fun c => { c with ambient := c.ambient || ms.has "declare", inAsync := true })
    (declarationFrom g s ms ds)

end RouteWrap.Grammar
