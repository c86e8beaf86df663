import RouteWrap.Layout.Statement

/-!
Imports and exports.
-/

namespace RouteWrap.Layout

open Print

/-! Names and requests -/

def linkText : Tree → String
  | .link _ (.moduleName n) _ => n
  | .link _ (.moduleString ps) _ => ps.text
  | .ref _ _ n | .bind _ _ n => n
  | _ => ""

/-- `first as second`, or one name where they agree. -/
def renamed (r : Printer) (c : Place) (first second : Tree) : Print Unit := do
  r c first
  if linkText first != linkText second then
    text " as "
    r c second

def named (r : Printer) (c : Place) (ts : List Tree) : Print Unit := do
  char '\x7b'
  if !ts.isEmpty then
    softSpace
    r.list c ts
    softSpace
  char '\x7d'

def attributesOf (gap : Print Unit) (r : Printer) (c : Place) (t : Tree) : Print Unit := do
  if !t.isAbsent then
    gap
    r c t

/-- The key or the value of an attribute: a name or a plain string, since no template can stand
for either. -/
def attributePart : Tree → Print Unit
  | .expr _ (.string ps) _ => literal ps false
  | .link _ (.moduleString ps) _ => literal ps false
  | .expr _ (.keyName n) _ => text n
  | .link _ (.moduleName n) _ => text n
  | _ => pure ()

/-! Imports -/

/-- The parts of an import clause before `from`: the name of the default, the namespace, and
the names between braces, which come last. -/
def importClause (r : Printer) (c : Place) (isFirst : Bool) : List Tree → Print Unit
  | [] => pure ()
  | .link _ .importDefault [name] :: ts => do
      if isFirst then space
      r c name
      if ts.isEmpty then space
      importClause r c false ts
  | .link _ .importNamespace [name] :: ts => do
      if isFirst then softSpace
      else
        char ','
        softSpace
      char '*'
      softSpace
      text "as "
      r c name
      space
      importClause r c false ts
  | ts => do
      if !isFirst then char ','
      softSpace
      named r c ts
      softSpace

/-- An import; one with empty braces shows its request as it is, in double quotes. -/
def importDeclaration (r : Printer) (c : Place) (typeOnly : Bool) (phase : ImportPhase)
    (hasClause : Bool) (request attrs : Tree) (specifiers : List Tree) : Print Unit := do
  word "import"
  if typeOnly then text " type"
  match phase with
  | .none => pure ()
  | .source => text " source"
  | .defer => text " defer"
  match hasClause, specifiers, request with
  | true, [], .link _ (.moduleString ps) _ =>
      softSpace
      text "\x7b\x7d"
      softSpace
      text "from"
      softSpace
      chars ('"' :: Quoted.bare ps ++ ['"'])
      attributesOf space r c attrs
  | _, _, _ =>
      if hasClause then
        importClause r c true specifiers
        text "from"
      softSpace
      r c request
      attributesOf softSpace r c attrs
  statementEnd

/-! Exports -/

def exportNamed (r : Printer) (c : Place) (typeOnly : Bool) (request : Tree)
    (specifiers : List Tree) : Print Unit := do
  word "export"
  if typeOnly then text " type"
  softSpace
  named r c specifiers
  if !request.isAbsent then
    softSpace
    text "from"
    softSpace
    r c request
  statementEnd

def exportAll (r : Printer) (c : Place) (typeOnly : Bool) (exported request attrs : Tree) :
    Print Unit := do
  word "export"
  if typeOnly then text " type " else softSpace
  char '*'
  softSpace
  if !exported.isAbsent then
    text "as "
    r c exported
    space
  text "from"
  softSpace
  r c request
  attributesOf space r c attrs
  statementEnd

def exportDefault (r : Printer) (c : Place) (t : Tree) : Print Unit := do
  word "export default "
  match t with
  | .stmt _ (.functionDeclaration _) _ | .stmt _ (.classDeclaration ..) _ =>
      declarationText r c t
      softNewline
  | .stmt _ (.interface _) _ => declarationText r c t
  | e =>
      markDefaultExport
      r (.bound .comma) e
      statementEnd

/-- The start of an export, with the mark of a function without side effects. -/
def exportOpening (s : Span) (t : Tree) : Print Unit := do
  commentsAt s.start
  if isPureFunction t then
    text noSideEffects
    newline
  lineIndent

def writeLink (r : Printer) (c : Place) (s : Span) (f : LinkForm) (ps : List Tree) :
    Print Unit := do
  match f, ps with
  | .importDeclaration typeOnly phase hasClause, request :: attrs :: specifiers =>
      opening s
      importDeclaration r c typeOnly phase hasClause request attrs specifiers
  | .importSpecifier typeOnly, [name, binding] =>
      fixedModifier typeOnly "type"
      renamed r c name binding
  | .moduleName n, _ => text n
  | .moduleString points, _ => literal points false
  | .exportNamed typeOnly, request :: _ :: specifiers =>
      opening s
      exportNamed r c typeOnly request specifiers
  | .exportSpecifier typeOnly, [name, exported] =>
      fixedModifier typeOnly "type"
      renamed r c name exported
  | .exportDeclared, [d] =>
      exportOpening s d
      word "export "
      declarationText r c d
      declarationEnd d
      if !endsInSemicolon d then owesNothing
  | .exportDefault, [t] =>
      exportOpening s t
      exportDefault r c t
  | .exportAll typeOnly, [exported, request, attrs] =>
      opening s
      exportAll r c typeOnly exported request attrs
  | .attributes keyword, ts =>
      text keyword
      softSpace
      named r c ts
  | .attributePair, [key, value] =>
      attributePart key
      char ':'
      softSpace
      attributePart value
  | _, _ => pure ()

end RouteWrap.Layout
