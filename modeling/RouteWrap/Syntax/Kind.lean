/-!
Kinds of tokens. Words of the language and punctuation are kinds of their own, told apart by
their spelling; `Kind.shown` is how a kind is called in a message.
-/

namespace RouteWrap

inductive NumeralKind
  | decimal | float | binary | octal | hex | exponential | bigint
deriving DecidableEq, Repr, Inhabited

def NumeralKind.text : NumeralKind → String
  | decimal => "decimal" | float => "float" | binary => "binary" | octal => "octal"
  | hex => "hex" | exponential => "exponential" | bigint => "bigint"

inductive Kind
  | eof
  | unknown
  | hashbang
  | identifier
  | privateName
  | word (text : String)
  | mark (text : String)
  | numeral (k : NumeralKind)
  | string
  | regex
  | templateWhole
  | templateHead
  | templateMiddle
  | templateTail
  | jsxText
deriving DecidableEq, Repr, Inhabited

namespace Kind

/-- Words that can never name anything. -/
def reserved : List String :=
  ["break", "case", "catch", "class", "const", "continue", "debugger", "default", "delete", "do",
   "else", "enum", "export", "extends", "false", "finally", "for", "function", "if", "import",
   "in", "instanceof", "new", "null", "return", "super", "switch", "this", "throw", "true", "try",
   "typeof", "var", "void", "while", "with"]

/-- Words that are names except where they mean something. -/
def contextual : List String :=
  ["abstract", "accessor", "any", "as", "assert", "asserts", "async", "await", "bigint", "boolean",
   "constructor", "declare", "defer", "from", "get", "global", "implements", "infer", "interface",
   "intrinsic", "is", "keyof", "let", "meta", "module", "namespace", "never", "number", "object",
   "of", "out", "override", "package", "private", "protected", "public", "readonly", "require",
   "satisfies", "set", "source", "static", "string", "symbol", "target", "type", "undefined",
   "unique", "unknown", "using", "yield"]

def ofName (name : String) : Kind :=
  if reserved.contains name || contextual.contains name then word name else identifier

def shown : Kind → String
  | eof => "EOF"
  | unknown => "Unknown"
  | hashbang => "#!"
  | identifier => "Identifier"
  | privateName => "#identifier"
  | word text => text
  | mark text => text
  | numeral k => k.text
  | string => "string"
  | regex => "/regexp/"
  | templateWhole => "NoSubstitutionTemplate"
  | templateHead => "$\x7b"
  | templateMiddle => "TemplateMiddle"
  | templateTail => "\x7d"
  | jsxText => "jsx"

def isReserved : Kind → Bool
  | word w => reserved.contains w
  | _ => false

/-- A name or any word. -/
def isNameLike : Kind → Bool
  | identifier | word _ => true
  | _ => false

/-- A name, or a word that is a name outside its own contexts. -/
def isName : Kind → Bool
  | identifier => true
  | word w => !reserved.contains w
  | _ => false

def isNumeral : Kind → Bool
  | numeral _ => true
  | _ => false

end Kind

end RouteWrap
