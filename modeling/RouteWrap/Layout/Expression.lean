import RouteWrap.Layout.Function
import RouteWrap.Number.Shortest

/-!
Expressions. Parentheses of the source are dropped, and printed again where how tightly operators
bind asks for them or where a phrase would read as another one.
-/

namespace RouteWrap.Layout

open Print

/-! Literals -/

/-- A number; one of digits alone needs a blank in front of a dot. -/
def numberText (c : Place) : Binary64 → Print Unit
  | .infinite => do
      let minify ← minified
      inParentheses (minify && Precedence.multiply ≤ c.level)
        (word (if minify then "1/0" else "Infinity"))
  | n => do
      let s := Shortest.compact n
      word s
      if !s.toList.any (fun c => c == '.' || c == 'e' || c == 'x') then
        modify fun p => { p with wholeEnd := some p.size }

/-- A blank keeps a regular expression from opening a comment or closing a script. -/
def regexText (pattern flags : String) : Print Unit := do
  let p ← get
  let opensScript :=
    ((pattern.toList.take 6).map Char.toLower) == "script".toList
  match p.reversed with
  | '/' :: _ => space
  | '<' :: _ => if opensScript then space
  | _ => pure ()
  text ("/" ++ pattern ++ "/" ++ flags)
  modify fun p => { p with regexEnd := some p.size }

def chunks (r : Printer) : List Tree → Print Unit
  | [] => pure ()
  | .expr _ (.chunk raw) _ :: ts => do
      chars (unclosing raw.toList)
      chunks r ts
  | t :: ts => do
      text "$\x7b"
      r .free t
      char '\x7d'
      chunks r ts

/-! Arrays and objects -/

/-- Elements of an array, which stand on lines of their own when there are more than two. A hole
at the end keeps its comma. -/
def arrayText (r : Printer) (ts : List Tree) : Print Unit := do
  let several := 2 < ts.length
  let items := ts.map fun t => if t.isAbsent then pure () else r.argument t
  char '['
  if several then indented (lines items) else commaList items
  match ts.getLast? with
  | some .absent => char ','
  | _ => pure ()
  if several then
    softNewline
    lineIndent
  char ']'

def property (r : Printer) (shorthand computed : Bool) (key value : Tree) : Print Unit := do
  let isShort := match plainKey key, value.bare with
    | some k, .ref _ _ n => if k == "__proto__" then shorthand else k == n
    | some k, _ => k == "__proto__" && shorthand
    | _, _ => false
  let computed := computed || (match key with
    | .expr _ (.number .infinite _) _ => true
    | _ => false)
  if !isShort then
    Print.key r computed key
    char ':'
    softSpace
  r.argument value

/-- A method of an object, which does not show the type of `this`. -/
def methodProperty (r : Printer) (c : Place) (kind : MethodKind) (computed : Bool)
    (traits : FunctionTraits) (key callable : Tree) : Print Unit := do
  match kind with
  | .getter => do
      text "get"
      softSpace
  | .setter => do
      text "set"
      softSpace
  | _ => pure ()
  modifier traits.async "async"
  if traits.generator then char '*'
  Print.key r computed key
  match callable with
  | .expr s .callable (tparams :: params :: rest) =>
      methodText r c (.expr s .callable (tparams :: withoutThis params :: rest))
  | _ => pure ()

/-- An object; the comments in front of it keep it in parentheses. -/
def objectText (r : Printer) (c : Place) (s : Span) (ts : List Tree) : Print Unit := do
  let commented ← hasComments s.start
  let wrap := commented || (← atStatement) || (← atArrowBody)
  inParentheses wrap do
    if commented then
      commentsAt s.start
      lineIndent
    char '\x7b'
    match ts with
    | [] => pure ()
    | [t] =>
        softSpace
        r c t
        softSpace
    | ts =>
        indented (lines (ts.map (r c)))
        softNewline
        lineIndent
    char '\x7d'

/-! Calls -/

def commentedArguments (r : Printer) : List Tree → Print Unit
  | [] => pure ()
  | [t] => one t
  | t :: ts => do
      one t
      char ','
      commentedArguments r ts
where
  one (t : Tree) : Print Unit := do
    if !(← argumentComments t.span.start) then softNewline
    lineIndent
    r.argument t

def arguments (r : Printer) (s : Span) (ts : List Tree) : Print Unit := do
  char '('
  let atEnd ← if 0 < s.stop then hasComments (s.stop - 1) else pure false
  let commented ← ts.anyM fun t => hasComments t.span.start
  if atEnd || commented then
    indented do
      commentedArguments r ts
      let closed ← if atEnd then argumentComments (s.stop - 1) else pure false
      if !closed then softNewline
    lineIndent
  else commaList (ts.map r.argument)
  char ')'

def pureMark : String := "/* @__PURE__ */ "

def call (r : Printer) (c : Place) (s : Span) (isOptional pure : Bool) (callee types : Tree)
    (args : List Tree) : Print Unit := do
  let isStatement ← atStatement
  let isExport ← atDefaultExport
  let wrap := Precedence.construct ≤ c.level || c.refuseCall
    || pure && Precedence.update ≤ c.level
  inParentheses wrap do
    if pure then text pureMark
    if isExport then markDefaultExport
    else if isStatement then markStatement
    r (.bound .update) callee
    if isOptional then text "?."
    r c types
    arguments r s args

def construct (r : Printer) (c : Place) (s : Span) (pure : Bool) (callee types : Tree)
    (args : List Tree) : Print Unit := do
  let wrap := Precedence.call ≤ c.level || pure && Precedence.update ≤ c.level
  inParentheses wrap do
    if pure then text pureMark
    word "new"
    softSpace
    r { Place.bound .construct with refuseCall := true } callee
    r c types
    if !(← minified) || !args.isEmpty || Precedence.update ≤ c.level then
      arguments r s args

/-- The arguments of an import, on lines of their own where comments go with them. -/
def importArguments (r : Printer) (commented : Bool) (source options : Tree) : Print Unit := do
  if commented then modify fun p => { p with indent := p.indent + 1 }
  if ← argumentComments source.span.start then lineIndent
  else if commented then
    softNewline
    lineIndent
  r.argument source
  if !options.isAbsent then
    char ','
    if commented then
      if !(← argumentComments options.span.start) then softNewline
      lineIndent
    else softSpace
    r.argument options

def importCall (r : Printer) (c : Place) (s : Span) (phase : ImportPhase)
    (source options : Tree) : Print Unit := do
  let atEnd ← if 0 < s.stop then hasComments (s.stop - 1) else pure false
  let atSource ← hasComments source.span.start
  let atOptions ← if options.isAbsent then pure false else hasComments options.span.start
  let commented := atEnd || atSource || atOptions
  inParentheses (Precedence.construct ≤ c.level || c.refuseCall) do
    word "import"
    match phase with
    | .none => pure ()
    | .source => text ".source"
    | .defer => text ".defer"
    char '('
    importArguments r commented source options
    if commented then
      let closed ← if atEnd then argumentComments (s.stop - 1) else pure false
      if !closed then softNewline
      modify fun p => { p with indent := p.indent - 1 }
      lineIndent
    char ')'

/-! Members -/

/-- A member's object is set off from the dot if it is a whole number. -/
def member (r : Printer) (c : Place) (isOptional : Bool) (object : Tree) (name : String) :
    Print Unit := do
  r (c.onlyCall .update) object
  let p ← get
  if isOptional then char '?'
  else if p.wholeEnd == some p.size then space
  char '.'
  text name

def privateMember (r : Printer) (c : Place) (isOptional : Bool) (object : Tree) (name : String) :
    Print Unit := do
  r (c.onlyCall .update) object
  text (if isOptional then "?.#" else ".#")
  text name

def computedMember (r : Printer) (c : Place) (isOptional : Bool) (object index : Tree) :
    Print Unit := do
  let isLet := match object.bare with
    | .ref _ _ n => n == "let"
    | _ => false
  inParentheses isLet (r (c.onlyCall .update) object)
  if isOptional then text "?."
  inBrackets true (r .free index)

/-! Operators -/

/-- How tightly the operands of a binary operator bind. A sign cannot stand on the left of a
power, and `??` does not mix with the other logical operators. -/
def operandLevels (op : BinaryOperator) (left right : Tree) : Precedence × Precedence :=
  let level := op.precedence
  match op with
  | .power =>
      let isUnary := match left.bare with
        | .expr _ (.unary _) _ => true
        | _ => false
      (if isUnary then .call else level, level.below)
  | .coalesce => (mixed left, mixed right)
  | op => (level.below, if op.isLogical then level.below else level)
where
  mixed (t : Tree) : Precedence :=
    match t.bare with
    | .expr _ (.binary .or) _ | .expr _ (.binary .and) _ => .unary
    | _ => Precedence.coalesce.below

def binary (r : Printer) (c : Place) (op : BinaryOperator) (left right : Tree) :
    Print Unit := do
  let wrap := op.precedence ≤ c.level || op == .isIn && c.refuseIn
  let c := if wrap then { c with refuseIn := false } else c
  let levels := operandLevels op left right
  inParentheses wrap do
    r (c.at_ levels.1) left
    softSpace
    if op.isWord then word op.text
    else
      signSpace (Sign.ofBinary op)
      text op.text
      markSign (Sign.ofBinary op)
    softSpace
    r (c.at_ levels.2) right

/-- Whether an object has a private name. -/
def privateIn (r : Printer) (c : Place) (name object : Tree) : Print Unit :=
  inParentheses (Precedence.compare ≤ c.level) do
    r c name
    text " in "
    r (Place.loopHead.at_ .equals) object

def unary (r : Printer) (c : Place) (op : UnaryOperator) (t : Tree) : Print Unit := do
  inParentheses (Precedence.unary ≤ c.level) do
    if op.isWord then
      word op.text
      softSpace
    else
      signSpace (Sign.ofUnary op)
      text op.text
      markSign (Sign.ofUnary op)
    match op, t, (← get).format.minify with
    | .delete, .expr _ (.number .infinite _) _, false =>
        inParentheses true do
          text "0, "
          r (c.at_ .power) t
    | _, _, _ => r (c.at_ .power) t

def update (r : Printer) (c : Place) (op : UpdateOperator) (before : Bool) (t : Tree) :
    Print Unit := do
  let sign := some (Sign.ofUpdate op)
  if before then
    inParentheses (Precedence.unary ≤ c.level) do
      signSpace sign
      text op.text
      markSign sign
      r (c.at_ .unary) t
  else
    inParentheses (Precedence.update ≤ c.level) do
      signSpace sign
      r (c.at_ .update) t
      text op.text
      markSign sign

def assignment (r : Printer) (c : Place) (op : AssignOperator) (target value : Tree) :
    Print Unit := do
  let opensBlock := match target with
    | .expr _ .objectTarget _ => true
    | _ => false
  let wrap := opensBlock && ((← atStatement) || (← atArrowBody))
  inParentheses (wrap || Precedence.assign ≤ c.level) do
    r (c.at_ .comma) target
    softSpace
    text op.text
    softSpace
    r (c.at_ .comma) value

def conditional (r : Printer) (c : Place) (test yes no : Tree) : Print Unit := do
  let wrap := Precedence.conditional ≤ c.level
  let c := if wrap then { c with refuseIn := false } else c
  inParentheses wrap do
    r (c.onlyIn .conditional) test
    softSpace
    char '?'
    softSpace
    r (.bound .yield) yes
    softSpace
    char ':'
    softSpace
    r (c.onlyIn .yield) no

/-! Typed expressions -/

def satisfaction (r : Printer) (c : Place) (e type : Tree) : Print Unit := do
  let isKept := match e with
    | .expr _ .parenthesized [t] => match t.bare with
      | .expr _ (.functionExpression _) _ => true
      | _ => false
    | _ => false
  char '('
  inParentheses (!isKept) (r (.bound c.level) e)
  text " satisfies "
  r .free type
  char ')'

/-! Expressions -/

def writeExpression (r : Printer) (c : Place) (s : Span) (f : ExpressionForm)
    (ps : List Tree) : Print Unit := do
  match f, ps with
  | .null, _ => word "null"
  | .boolean value, _ => word (if value then "true" else "false")
  | .number n written, _ => if c.asWritten then text written else numberText c n
  | .bigint digits, _ => word (digits ++ "n")
  | .regex pattern flags, _ => regexText pattern flags
  | .string points, _ => literal points true
  | .template, ts =>
      char '\x60'
      chunks r ts
      char '\x60'
  | .chunk raw, _ => chars (unclosing raw.toList)
  | .metaProperty subject name, _ => word (subject ++ "." ++ name)
  | .superValue, _ => word "super"
  | .thisValue, _ => word "this"
  | .array, ts => arrayText r ts
  | .spread, [e] =>
      text "..."
      r.argument e
  | .object, ts => objectText r c s ts
  | .property shorthand computed, key :: value :: _ => property r shorthand computed key value
  | .objectMethod kind computed traits, [key, callable] =>
      methodProperty r c kind computed traits key callable
  | .functionExpression traits, [name, callable] =>
      functionExpression r c false traits name callable
  | .callable, _ => pure ()
  | .body, ts => functionBody r c s ts
  | .arrow async isExpression pure, [tparams, params, result, body] =>
      arrow r c false async isExpression pure tparams params result body
  | .classExpression isAbstract, [decorators, name, tail] =>
      classExpression r c isAbstract decorators name tail
  | .unary op, [t] => unary r c op t
  | .update op before, [t] => update r c op before t
  | .binary .isIn, [.expr n (.privateName name) ps, object] =>
      privateIn r c (.expr n (.privateName name) ps) object
  | .binary op, [left, right] => binary r c op left right
  | .assignment op, [target, value] => assignment r c op target value
  | .conditional, [test, yes, no] => conditional r c test yes no
  | .call isOptional pure, callee :: types :: args =>
      call r c s isOptional pure callee types args
  | .construct pure, callee :: types :: args => construct r c s pure callee types args
  | .member isOptional name, [object] => member r c isOptional object name
  | .privateMember isOptional name, [object] => privateMember r c isOptional object name
  | .computedMember isOptional, [object, index] => computedMember r c isOptional object index
  | .chain, [e] => inParentheses (Precedence.update ≤ c.level) (r c e)
  | .sequence, ts =>
      inParentheses (Precedence.comma ≤ c.level)
        (r.list (c.allowCall.at_ .lowest) ts)
  | .parenthesized, [.expr _ (.functionExpression traits) [name, callable]] =>
      functionExpression r c true traits name callable
  | .parenthesized, [.expr _ (.arrow async isExpression pure) [tparams, params, result, body]] =>
      arrow r c true async isExpression pure tparams params result body
  | .parenthesized, [e] => r c e
  | .taggedTemplate, [tag, types, t] =>
      r (.bound .update) tag
      r c types
      r c t
  | .importCall phase, [source, options] => importCall r c s phase source options
  | .await, [t] =>
      inParentheses (Precedence.unary ≤ c.level) do
        word "await"
        softSpace
        r (c.at_ .power) t
  | .yield delegate, [t] =>
      inParentheses (Precedence.assign ≤ c.level) do
        word "yield"
        if delegate then char '*'
        if !t.isAbsent then
          softSpace
          r (.bound .yield) t
  | .asType, [e, type] =>
      inParentheses (Precedence.shift ≤ c.level) do
        r (c.at_ .power) e
        text " as "
        r c type
  | .satisfies, [e, type] => satisfaction r c e type
  | .nonNull, [e] =>
      let inner := match e with
        | .expr _ .parenthesized _ => true
        | _ => false
      inParentheses inner (r c e)
      char '!'
      if ← minified then space
  | .assertion, [type, e] =>
      inParentheses true do
        char '<'
        match type with
        | .type _ .function _ => space
        | _ => pure ()
        r .free type
        char '>'
        r (.bound .member) e
  | .instantiation, [e, types] =>
      r c e
      r c types
      if ← minified then space
  | .keyName name, _ => word name
  | .privateName name, _ => text ("#" ++ name)
  | f, ts => writeTarget r c f ts

end RouteWrap.Layout
