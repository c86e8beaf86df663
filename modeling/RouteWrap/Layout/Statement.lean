import RouteWrap.Layout.Function

/-!
Statements and declarations. Each prints the comments in front of it, its indentation, and the
end of its line.
-/

namespace RouteWrap.Layout

open Print

/-- The start of a statement: the comments that lead it, and its indentation. -/
def opening (s : Span) : Print Unit := do
  commentsAt s.start
  lineIndent

/-- The start of a declaration that plain modules do not have, whose comments take its
indentation. -/
def declarationOpening (s : Span) : Print Unit := do
  lineIndent
  commentsAt s.start

def isTypedDeclaration : StatementForm → Bool
  | .typeAlias _ | .interface _ | .enumeration .. | .importEquals _ => true
  | _ => false

/-! Blocks and bodies -/

def block (r : Printer) (c : Place) (ts : List Tree) : Print Unit := do
  braces ts.isEmpty (statements r c ts)
  owesNothing

/-- The statement under a head; a keyword in front of it needs a blank. -/
def body (r : Printer) (c : Place) (afterWord : Bool) (t : Tree) : Print Unit := do
  match t with
  | .stmt _ .block ts =>
      softSpace
      block r c ts
      softNewline
  | .stmt _ .empty _ =>
      char ';'
      softNewline
  | t =>
      if afterWord && (← minified) then space
      modify fun p => { p with indentAsSpace := true }
      r c t

def head (keyword : String) (m : Print Unit) : Print Unit := do
  word keyword
  softSpace
  inParentheses true m

/-! Conditions -/

/-- Whether an `else` after `t` would be read as part of it. -/
def takesElse : Tree → Bool
  | .stmt _ .ifElse [_, _, no] => no.isAbsent || takesElse no
  | .stmt _ .forLoop [_, _, _, t] => takesElse t
  | .stmt _ .forIn [_, _, t] => takesElse t
  | .stmt _ (.forOf _) [_, _, t] => takesElse t
  | .stmt _ .whileLoop [_, t] => takesElse t
  | .stmt _ .withObject [_, t] => takesElse t
  | .stmt _ .labelled [_, t] => takesElse t
  | _ => false

def ifElse (r : Printer) (c : Place) (test yes no : Tree) (elseIf : Tree → Print Unit) :
    Print Unit := do
  head "if" (r .free test)
  let closed : Print Unit := if no.isAbsent then softNewline else softSpace
  match yes with
  | .stmt _ .block ts =>
      softSpace
      block r c ts
      closed
  | yes =>
      if takesElse yes then
        softSpace
        braces false (r c yes)
        owesNothing
        closed
      else
        body r c false yes
        if !no.isAbsent then lineIndent
  if !no.isAbsent then
    semicolonIfOwed
    word "else"
    match no with
    | .stmt _ .block ts =>
        softSpace
        block r c ts
        softNewline
    | .stmt _ .ifElse _ =>
        space
        elseIf no
    | no => body r c true no

/-- An `if` and the conditions after its `else`, on one line. -/
def conditions (r : Printer) (c : Place) : Tree → Print Unit
  | .stmt _ .ifElse [test, yes, .stmt s .ifElse ps] =>
      ifElse r c test yes (.stmt s .ifElse ps) fun _ => conditions r c (.stmt s .ifElse ps)
  | .stmt _ .ifElse [test, yes, no] => ifElse r c test yes no fun _ => pure ()
  | _ => pure ()

/-! Declarations -/

def variableList (r : Printer) (c : Place) (kind : VariableKind) (declare : Bool)
    (ds : List Tree) : Print Unit := do
  wordSpace
  fixedModifier declare "declare"
  text kind.text
  softSpace
  r.list c ds

def enumeration (r : Printer) (c : Place) (const declare : Bool) (name : Tree)
    (members : List Tree) : Print Unit := do
  lineIndent
  fixedModifier declare "declare"
  fixedModifier const "const"
  word "enum "
  r c name
  space
  braces members.isEmpty (memberLines members)
where
  memberLines : List Tree → Print Unit
    | [] => pure ()
    | t :: ts => do
        opening t.span
        r c t
        if !ts.isEmpty then char ','
        softNewline
        memberLines ts

def enumMember (r : Printer) (c : Place) (spelling : MemberSpelling) (name value : Tree) :
    Print Unit := do
  match spelling with
  | .plain => r c name
  | .quoted ps => literal ps false
  | .computedQuoted ps => inBrackets true (literal ps false)
  | .computedTemplate raw => inBrackets true do
      char '\x60'
      chars (unclosing raw.toList)
      char '\x60'
  if !value.isAbsent then
    softSpace
    char '='
    softSpace
    r .free value

def keywordText : NamespaceKeyword → String
  | .isModule => "module"
  | .isNamespace => "namespace"
  | .isGlobal => "global"

def nested (r : Printer) (c : Place) : Tree → Print Unit
  | .stmt _ (.moduleBlock ..) [name, inner] => do
      char '.'
      r c name
      nested r c inner
  | .absent => char ';'
  | .stmt _ .moduleBlockBody ts => do
      softSpace
      braces ts.isEmpty (bodyStatements r c ts)
      owesNothing
  | _ => pure ()

def namespaceText (r : Printer) (c : Place) (keyword : NamespaceKeyword) (declare : Bool)
    (name inner : Tree) : Print Unit := do
  fixedModifier declare "declare"
  text (keywordText keyword)
  match keyword with
  | .isGlobal => pure ()
  | _ =>
      space
      match name with
      | .expr _ (.string ps) _ => literal ps false
      | name => r c name
  nested r c inner
  owesNothing

def interfaceText (r : Printer) (c : Place) (declare : Bool) (name tail : Tree) :
    Print Unit := do
  fixedModifier declare "declare"
  text "interface "
  r c name
  match tail with
  | .stmt _ .interfaceTail (tparams :: .stmt _ .interfaceBody members :: bases) =>
      r c tparams
      if !bases.isEmpty then
        text " extends "
        r.list c bases
      softSpace
      braces members.isEmpty do
        for m in members do
          opening m.span
          r c m
          char ';'
          softNewline
  | _ => pure ()

def typeAliasText (r : Printer) (c : Place) (declare : Bool) (name body : Tree) :
    Print Unit := do
  fixedModifier declare "declare"
  text "type "
  r c name
  match body with
  | .stmt _ .typeAliasBody [tparams, type] =>
      r c tparams
      softSpace
      char '='
      softSpace
      r c type
  | _ => pure ()

def importEqualsText (r : Printer) (c : Place) (name target : Tree) : Print Unit := do
  text "import "
  r c name
  text " = "
  match target with
  | .stmt _ .externalModule [.expr _ (.string ps) _] =>
      text "require("
      literal ps false
      char ')'
  | target => r c target

def declarationText (r : Printer) (c : Place) : Tree → Print Unit
  | .stmt _ (.variable kind declare) ds => variableList r c kind declare ds
  | .stmt _ (.functionDeclaration traits) [name, callable] =>
      functionText r c traits name callable
  | .stmt _ (.classDeclaration isAbstract declare) [decorators, name, tail] =>
      classText r c isAbstract declare decorators name tail
  | .stmt _ (.enumeration const declare) [name, .stmt _ .enumBody members] =>
      enumeration r c const declare name members
  | .stmt _ (.moduleBlock keyword declare) [name, inner] =>
      namespaceText r c keyword declare name inner
  | .stmt _ (.interface declare) [name, tail] => interfaceText r c declare name tail
  | .stmt _ (.typeAlias declare) [name, body] => typeAliasText r c declare name body
  | .stmt _ (.importEquals _) [name, target] => importEqualsText r c name target
  | _ => pure ()

/-- Whether a declaration ends in a semicolon and not in a brace. -/
def endsInSemicolon : Tree → Bool
  | .stmt _ (.variable ..) _ | .stmt _ (.typeAlias _) _ | .stmt _ (.importEquals _) _ => true
  | _ => false

def declarationEnd (t : Tree) : Print Unit :=
  if endsInSemicolon t then statementEnd else softNewline

def isPureFunction : Tree → Bool
  | .stmt _ (.functionDeclaration traits) _ => traits.pure
  | _ => false

/-! Loops -/

/-- The first part of a loop's head: variables, or a target that does not read as `async`. -/
def loopLeft (r : Printer) (c : Place) : Tree → Print Unit
  | .stmt _ (.variable kind declare) ds => variableList r c kind declare ds
  | .ref s u "async" => inParentheses true (r c (.ref s u "async"))
  | t => r c t

def loopInitial (r : Printer) : Tree → Print Unit
  | .stmt _ (.variable kind declare) ds => variableList r .loopHead kind declare ds
  | t => r .loopHead t

def loop (r : Printer) (c : Place) (initial test update t : Tree) : Print Unit := do
  head "for" do
    loopInitial r initial
    char ';'
    r.after softSpace test
    char ';'
    r.after softSpace update
  body r c false t

def loopIn (r : Printer) (c : Place) (left right t : Tree) : Print Unit := do
  head "for" do
    loopLeft r .loopHead left
    softSpace
    word "in"
    softSpace
    r .free right
  body r c false t

def loopOf (r : Printer) (c : Place) (await : Bool) (left right t : Tree) : Print Unit := do
  head (if await then "for await" else "for") do
    loopLeft r c left
    softSpace
    word "of "
    r (.bound .comma) right
  body r c false t

def loopDo (r : Printer) (c : Place) (t test : Tree) : Print Unit := do
  word "do"
  match t with
  | .stmt _ .block ts =>
      softSpace
      block r c ts
      softSpace
  | .stmt s .empty _ => r c (.stmt s .empty [])
  | t =>
      softNewline
      indented do
        r c t
        semicolonIfOwed
      lineIndent
  head "while" (r .free test)
  statementEnd

/-! Other statements -/

def switchOn (r : Printer) (c : Place) (value : Tree) (cases : List Tree) : Print Unit := do
  head "switch" (r .free value)
  softSpace
  braces cases.isEmpty do
    for t in cases do
      r c t
  softNewline
  owesNothing

def switchCase (r : Printer) (c : Place) (test : Tree) (ts : List Tree) : Print Unit := do
  semicolonIfOwed
  lineIndent
  if test.isAbsent then text "default"
  else
    text "case "
    r .free test
  char ':'
  match ts with
  | [t] => body r c false t
  | ts =>
      softNewline
      indented (statements r c ts)

def blockOf (r : Printer) (c : Place) : Tree → Print Unit
  | .stmt _ .block ts => block r c ts
  | _ => pure ()

def tryCatch (r : Printer) (c : Place) (guarded handler finalizer : Tree) : Print Unit := do
  word "try"
  softSpace
  blockOf r c guarded
  match handler with
  | .stmt s .handler [param, t] =>
      softSpace
      commentsAt s.start
      text "catch"
      if !param.isAbsent then
        softSpace
        inParentheses true (r c param)
      softSpace
      blockOf r c t
  | _ => pure ()
  if !finalizer.isAbsent then
    softSpace
    text "finally"
    softSpace
    blockOf r c finalizer
  softNewline

/-! Directives -/

/-- The quote of a directive, whose text is printed as it was written. -/
def directiveQuote (fallback : Char) : List Char → Char
  | '"' :: _ => '\''
  | '\'' :: _ => '"'
  | '\\' :: _ :: cs => directiveQuote fallback cs
  | _ :: cs => directiveQuote fallback cs
  | [] => fallback

def directive (s : Span) (raw : String) : Print Unit := do
  opening s
  let quote := directiveQuote (← get).format.quote.char raw.toList
  chars (quote :: raw.toList ++ [quote, ';'])
  softNewline

/-! Statements -/

def jump (keyword : String) (r : Printer) (t : Tree) : Print Unit := do
  word keyword
  r.after softSpace t
  statementEnd

/-- An expression at the left margin needs no indentation. -/
def marginIndent : Print Unit := do
  let p ← get
  if !p.format.minify && (0 < p.indent || p.indentAsSpace) then lineIndent

def writeStatement (r : Printer) (c : Place) (s : Span) (f : StatementForm) (ps : List Tree) :
    Print Unit := do
  match f, ps with
  | .empty, _ =>
      opening s
      char ';'
      softNewline
  | .block, ts =>
      opening s
      block r c ts
      softNewline
  | .declarator definite, [target, type, value] =>
      r c target
      if definite then char '!'
      r.ascription type
      r.initial c value
  | .evaluation, [e] =>
      commentsAt s.start
      marginIndent
      markStatement
      r .free e
      statementEnd
  | .directive raw, _ => directive s raw
  | .ifElse, ps =>
      opening s
      conditions r c (.stmt s .ifElse ps)
  | .forLoop, [initial, test, update, t] =>
      opening s
      loop r c initial test update t
  | .forIn, [left, right, t] =>
      opening s
      loopIn r c left right t
  | .forOf await, [left, right, t] =>
      opening s
      loopOf r c await left right t
  | .whileLoop, [test, t] =>
      opening s
      head "while" (r .free test)
      body r c false t
  | .doLoop, [t, test] =>
      opening s
      loopDo r c t test
  | .continueLoop, [t] =>
      opening s
      jump "continue" r t
  | .breakOut, [t] =>
      opening s
      jump "break" r t
  | .returnValue, [t] =>
      opening s
      jump "return" r t
  | .throwValue, [t] =>
      opening s
      jump "throw" r t
  | .withObject, [object, t] =>
      opening s
      word "with"
      inParentheses true (r .free object)
      body r c false t
  | .switchOn, [value, .stmt _ .switchCases cases] =>
      opening s
      switchOn r c value cases
  | .switchCase, test :: ts => switchCase r c test ts
  | .labelled, [label, t] =>
      commentsAt s.start
      marginIndent
      r c label
      char ':'
      body r c false t
  | .tryCatch, [guarded, handler, finalizer] =>
      opening s
      tryCatch r c guarded handler finalizer
  | .debugger, _ =>
      opening s
      word "debugger"
      statementEnd
  | .enumMember spelling, [name, value] => enumMember r c spelling name value
  | .exportAssignment, [e] =>
      declarationOpening s
      text "export = "
      r .free e
      statementEnd
  | .exportAsNamespace name, _ =>
      declarationOpening s
      text ("export as namespace " ++ name)
      statementEnd
  | .functionDeclaration traits, ps =>
      commentsAt s.start
      if traits.pure then
        lineIndent
        text noSideEffects
        newline
      lineIndent
      declarationText r c (.stmt s (.functionDeclaration traits) ps)
      softNewline
  | f, ps =>
      if isTypedDeclaration f then declarationOpening s else opening s
      declarationText r c (.stmt s f ps)
      declarationEnd (.stmt s f ps)

end RouteWrap.Layout
