import RouteWrap.Syntax.Comment
import RouteWrap.Syntax.Fault
import RouteWrap.Syntax.Token
import RouteWrap.Text.Blank
import RouteWrap.Text.Identifier

/-!
Reading tokens from text. A scanner holds the characters that are left, their byte offset, the
faults met on the way and the comments seen. `Scanner.next` reads one token in the ordinary way;
where the grammar decides what the characters mean (a regular expression, the rest of a template,
text between tags) the parser calls the reader for that place.
-/

namespace RouteWrap

structure Scanner where
  rest : List Char
  offset : Nat
  faults : Array Diagnostic
  trivia : Trivia
  /-- Comments of old scripts are read, too. -/
  script : Bool
deriving Repr, Inhabited

abbrev Scan := StateM Scanner

namespace Scanner

def ofSource (source : String) (dialect : Dialect) : Scanner :=
  ⟨source.toList, 0, #[], Trivia.empty, !dialect.isModule⟩

def bytes (cs : List Char) : Nat :=
  cs.foldl (fun n c => n + c.utf8Size) 0

def peek : Scan (Option Char) := return (← get).rest.head?

def position : Scan Nat := return (← get).offset

def fault (f : Fault) (offset : Nat) : Scan Unit :=
  modify fun s => { s with faults := s.faults.push ⟨f, offset⟩ }

def skip : Scan Unit :=
  modify fun s => match s.rest with
    | c :: cs => { s with rest := cs, offset := s.offset + c.utf8Size }
    | [] => s

def skipMany (n : Nat) : Scan Unit :=
  modify fun s =>
    { s with rest := s.rest.drop n, offset := s.offset + bytes (s.rest.take n) }

def takeWhile (p : Char → Bool) : Scan (List Char) :=
  modifyGet fun s =>
    let (taken, rest) := s.rest.span p
    (taken, { s with rest, offset := s.offset + bytes taken })

def startsWith (text : String) : Scan Bool := return text.toList.isPrefixOf (← get).rest

/-- A bound for loops that pass over at least one character a round. -/
def remaining : Scan Nat := return (← get).rest.length + 1

def isDigit (c : Option Char) : Bool := c.any Char.isDigit

def hexValue? (c : Char) : Option Nat :=
  if c.isDigit then some (c.toNat - 48)
  else if 'a' ≤ c && c ≤ 'f' then some (c.toNat - 87)
  else if 'A' ≤ c && c ≤ 'F' then some (c.toNat - 55)
  else none

def isHighSurrogate (n : Nat) : Bool := 0xd800 ≤ n && n ≤ 0xdbff
def isLowSurrogate (n : Nat) : Bool := 0xdc00 ≤ n && n ≤ 0xdfff

def joinSurrogates (high low : Nat) : Nat :=
  (high - 0xd800) * 0x400 + (low - 0xdc00) + 0x10000

/-! Escape sequences -/

def hexDigits : Nat → Nat → Scan (Option Nat)
  | 0, value => return some value
  | n + 1, value => do
      match (← peek).bind hexValue? with
      | some d => skip; hexDigits n (value * 16 + d)
      | none => return none

/-- The digits between braces, as far as they stay a code point. -/
def bracedDigits : Nat → Nat → Scan (Option Nat)
  | 0, _ => return none
  | fuel + 1, value => do
      match (← peek).bind hexValue? with
      | some d =>
          skip
          if value * 16 + d ≤ 0x10ffff then bracedDigits fuel (value * 16 + d) else return none
      | none => return some value

/-- A code point after the letter of a unicode escape; the flag tells a joined pair. -/
def unicodeEscape : Scan (Option (Nat × Bool)) := do
  if (← peek) == some '\x7b' then
    skip
    match (← peek).bind hexValue? with
    | none => return none
    | some _ =>
        match ← bracedDigits (← remaining) 0 with
        | none => return none
        | some value =>
            if (← peek) == some '\x7d' then skip; return some (value, false) else return none
  else
    match ← hexDigits 4 0 with
    | none => return none
    | some high =>
        if isHighSurrogate high && (← startsWith "\\u") then
          let before ← get
          skipMany 2
          match ← hexDigits 4 0 with
          | none => return none
          | some low =>
              if isLowSurrogate low then return some (joinSurrogates high low, true)
              else
                set before
                return some (high, false)
        else return some (high, false)

def octalDigits : Nat → Nat → Scan Nat
  | 0, value => return value
  | n + 1, value => do
      match ← peek with
      | some c =>
          if '0' ≤ c && c ≤ '7' then
            skip; octalDigits n (value * 8 + (c.toNat - 48))
          else return value
      | none => return value

/-- The value of an escape after its backslash, none if it has no meaning. -/
def escapeSequence (inTemplate : Bool) : Scan (Option Points) := do
  match ← peek with
  | none => return some []
  | some c =>
      skip
      if c == '\r' then
        if (← peek) == some '\n' then skip
        return some []
      else if Blank.isLineEnd c then return some []
      else match c with
        | 'b' => return some [8]
        | 'f' => return some [12]
        | 'n' => return some [10]
        | 'r' => return some [13]
        | 't' => return some [9]
        | 'v' => return some [11]
        | 'x' => return (← hexDigits 2 0).map ([·])
        | 'u' => return (← unicodeEscape).map fun r => [r.1]
        | _ =>
            if c == '0' && !isDigit (← peek) then return some [0]
            else if inTemplate && c.isDigit then return none
            else if '0' ≤ c && c ≤ '3' then return some [← octalDigits 2 (c.toNat - 48)]
            else if '4' ≤ c && c ≤ '7' then return some [← octalDigits 1 (c.toNat - 48)]
            else return some [c.toNat]

/-! Names -/

def nameEscape (first : Bool) : Scan (List Char) := do
  skip
  let start ← position
  let failed : Scan (List Char) := do
    fault .unicodeEscape start
    return []
  if (← peek) != some 'u' then
    skip
    failed
  else
    skip
    match ← unicodeEscape with
    | some (n, false) =>
        let c := Char.ofNat n
        if isSurrogate n then failed
        else if (if first then Identifier.startsName c else Identifier.continuesName c) then
          return [c]
        else failed
    | _ => failed

def nameTail : Nat → List Char → Bool → Scan (List Char × Bool)
  | 0, acc, escaped => return (acc, escaped)
  | fuel + 1, acc, escaped => do
      let more ← takeWhile Identifier.continuesName
      let acc := acc ++ more
      if (← peek) == some '\\' then
        let cs ← nameEscape false
        nameTail fuel (acc ++ cs) true
      else return (acc, escaped)

def name : Scan (String × Bool) := do
  let fuel ← remaining
  let (cs, escaped) ← do
    if (← peek) == some '\\' then
      let cs ← nameEscape true
      nameTail fuel cs true
    else nameTail fuel [] false
  return (String.ofList cs, escaped)

/-! Numerals -/

def unexpectedHere : Scan Unit := do
  match ← peek with
  | some c => fault (.invalidCharacter c) (← position)
  | none => fault .endOfFile (← position)

/-- Digits and separators after the first digit; false if a separator ends them. -/
def digitsTail (isDigit : Char → Bool) : Nat → Scan Bool
  | 0 => return true
  | fuel + 1 => do
      let _ ← takeWhile isDigit
      if (← peek) == some '_' then
        skip
        if (← peek).any isDigit then digitsTail isDigit fuel
        else
          unexpectedHere
          return false
      else return true

def decimalTail : Scan Unit := do
  let _ ← digitsTail Char.isDigit (← remaining)

def decimalDigits : Scan Unit := do
  if isDigit (← peek) then decimalTail else unexpectedHere

def exponentTail : Scan Unit := do
  if (← peek) == some '+' || (← peek) == some '-' then skip
  decimalDigits

def exponent : Scan Bool := do
  if (← peek) == some 'e' || (← peek) == some 'E' then
    skip
    exponentTail
    return true
  else return false

/-- A numeral may not touch a name or another digit. -/
def numeralEnd (kind : NumeralKind) : Scan Kind := do
  let start ← position
  if (← peek).any fun c => c.isDigit || Identifier.startsName c then
    skip
    let _ ← takeWhile Identifier.startsName
    fault .numberEnd start
    return .unknown
  else return .numeral kind

def fraction : Scan Kind := do
  if isDigit (← peek) then decimalTail
  let _ ← exponent
  numeralEnd .float

def decimal : Scan Kind := do
  decimalTail
  match ← peek with
  | some '.' => skip; fraction
  | some 'n' => skip; numeralEnd .bigint
  | _ =>
      let scientific ← exponent
      numeralEnd (if scientific then .exponential else .decimal)

def isBinaryDigit (c : Char) : Bool := c == '0' || c == '1'
def isOctalDigit (c : Char) : Bool := '0' ≤ c && c ≤ '7'
def isHexDigit (c : Char) : Bool := (hexValue? c).isSome

def radix (kind : NumeralKind) (isDigit : Char → Bool) : Scan Kind := do
  skip
  if (← peek).any isDigit then
    if ← digitsTail isDigit (← remaining) then
      if (← peek) == some 'n' then
        skip
        numeralEnd .bigint
      else numeralEnd kind
    else return .unknown
  else
    unexpectedHere
    return .unknown

/-- Digits after a leading zero: octal unless one of them is eight or nine. -/
def legacyOctal : Scan Kind := do
  let digits ← takeWhile Char.isDigit
  let kind : NumeralKind := if digits.all isOctalDigit then .octal else .decimal
  match kind, ← peek with
  | .decimal, some '.' => skip; fraction
  | .decimal, some 'e' => skip; exponentTail; return .numeral .exponential
  | kind, _ => numeralEnd kind

def zero : Scan Kind := do
  skip
  match ← peek with
  | some 'b' | some 'B' => radix .binary isBinaryDigit
  | some 'o' | some 'O' => radix .octal isOctalDigit
  | some 'x' | some 'X' => radix .hex isHexDigit
  | some 'e' | some 'E' => skip; exponentTail; return .numeral .exponential
  | some '.' => skip; fraction
  | some 'n' => skip; numeralEnd .bigint
  | c => if isDigit c then legacyOctal else numeralEnd .decimal

/-! Strings and templates -/

def stringTail (quote : Char) (start : Nat) :
    Nat → Points → Bool → Scan (Kind × Points × Bool)
  | 0, acc, escaped => return (.unknown, acc, escaped)
  | fuel + 1, acc, escaped => do
      let more ← takeWhile fun c => c != quote && c != '\\' && c != '\n' && c != '\r'
      let acc := acc ++ more.map Char.toNat
      match ← peek with
      | some '\\' =>
          let escape ← position
          skip
          match ← escapeSequence false with
          | some ps => stringTail quote start fuel (acc ++ ps) true
          | none =>
              fault .invalidEscape escape
              stringTail quote start fuel acc true
      | some c =>
          if c == quote then
            skip
            return (.string, acc, escaped)
          else
            fault .unterminatedString start
            return (.unknown, acc, escaped)
      | none =>
          fault .unterminatedString start
          return (.unknown, acc, escaped)

structure TemplateText where
  kind : Kind
  raw : List Char
  points : Option Points

/-- Template text up to its closing mark (`whole`) or the next substitution (`head`). -/
def templateTail (whole head : Kind) (start : Nat) :
    Nat → List Char → Option Points → Scan TemplateText
  | 0, raw, points => return ⟨.unknown, raw, points⟩
  | fuel + 1, raw, points => do
      let more ← takeWhile fun c => c != '\x60' && c != '\\' && c != '$' && c != '\r'
      let raw := raw ++ more
      let points := points.map (· ++ more.map Char.toNat)
      match ← peek with
      | none =>
          fault .unterminatedString start
          return ⟨.unknown, raw, points⟩
      | some '\x60' => skip; return ⟨whole, raw, points⟩
      | some '$' =>
          skip
          if (← peek) == some '\x7b' then
            skip
            return ⟨head, raw, points⟩
          else templateTail whole head start fuel (raw ++ ['$']) (points.map (· ++ [36]))
      | some '\r' =>
          skip
          if (← peek) == some '\n' then skip
          templateTail whole head start fuel (raw ++ ['\n']) (points.map (· ++ [10]))
      | some _ =>
          skip
          let before := (← get).rest
          let value ← escapeSequence true
          let used := before.take (before.length - (← get).rest.length)
          let points := match points, value with
            | some ps, some more => some (ps ++ more)
            | _, _ => none
          templateTail whole head start fuel (raw ++ '\\' :: used) points

/-- `\r\n` and `\r` as `\n`. -/
def unifyLines : List Char → List Char
  | '\r' :: '\n' :: cs => '\n' :: unifyLines cs
  | '\r' :: cs => '\n' :: unifyLines cs
  | c :: cs => c :: unifyLines cs
  | [] => []

/-! Comments -/

/-- Blanks that may stand in front of an annotation. -/
def isBlankAscii (c : Char) : Bool :=
  [' ', '\t', '\n', '\x0c', '\r'].contains c

/-- What the text of a comment, without its marks, asks of the printer. -/
def commentContent (isLine : Bool) (text : List Char) : CommentContent :=
  let holds := fun (word : String) => (String.ofList text).contains word
  let legal := holds "@license" || holds "@preserve"
  match text with
  | '!' :: _ => .legal
  | '*' :: _ => if !isLine && legal then .legal else if isLine && legal then .legal else .plain
  | _ =>
      match text.dropWhile isBlankAscii with
      | '@' :: word | '#' :: word =>
          if "__PURE__".toList.isPrefixOf word then .pureCall
          else if "__NO_SIDE_EFFECTS__".toList.isPrefixOf word then .pureFunction
          else if legal then .legal
          else .plain
      | _ => if legal then .legal else .plain

def comment (start stop : Nat) (isLine : Bool) (opening body closing : List Char) : Comment :=
  { span := ⟨start, stop⟩
    isLine
    text := String.ofList (opening ++ body ++ closing)
    content := commentContent isLine body
    afterNewline := false
    beforeNewline := isLine
    leads := none }

/-- What was met between two tokens. -/
structure Gap where
  newline : Bool
  pureCall : Bool
  pureFunction : Bool
deriving Inhabited

def Gap.withComment (g : Gap) (c : Comment) : Gap :=
  { g with
    pureCall := g.pureCall || c.content == .pureCall
    pureFunction := g.pureFunction || c.content == .pureFunction }

def lineComment (opening : String) : Scan Comment := do
  let start ← position
  skipMany opening.length
  let body ← takeWhile fun c => !Blank.isLineEnd c
  let c := comment start (← position) true opening.toList body []
  modify fun s => { s with trivia := s.trivia.addLine c }
  if (← peek).isSome then skip
  return c

/-- The characters up to the end of a block comment, none if it has no end. -/
def blockBody : List Char → Option (List Char)
  | '*' :: '/' :: _ => some []
  | c :: cs => (blockBody cs).map (c :: ·)
  | [] => none

def blockComment : Scan (Option Comment) := do
  let start ← position
  skipMany 2
  match blockBody (← get).rest with
  | none =>
      let _ ← takeWhile fun _ => true
      fault .unterminatedComment start
      return none
  | some body =>
      skipMany (body.length + 2)
      let c := comment start (← position) false "/*".toList body "*/".toList
      modify fun s => { s with trivia := s.trivia.addBlock c }
      return some c

def gap : Nat → Gap → Scan Gap
  | 0, g => return g
  | fuel + 1, g => do
      match (← get).rest with
      | c :: _ =>
          if Blank.isSpace c then
            skip
            gap fuel g
          else if c == '\n' || c == '\r' then
            skip
            modify fun s => { s with trivia := s.trivia.afterLineEnd }
            gap fuel { g with newline := true }
          else if Blank.isLineEnd c then
            skip
            gap fuel { g with newline := true }
          else if ← startsWith "//" then
            let c ← lineComment "//"
            gap fuel { g.withComment c with newline := true }
          else if ← startsWith "/*" then
            match ← blockComment with
            | some c =>
                let newline := g.newline || c.text.any Blank.isLineEnd
                gap fuel { g.withComment c with newline }
            | none => return g
          else if (← get).script && (← startsWith "<!--") then
            let c ← lineComment "<!--"
            gap fuel { g.withComment c with newline := true }
          else if (← get).script && (g.newline || (← position) == 0) && (← startsWith "-->") then
            let c ← lineComment "-->"
            gap fuel { g.withComment c with newline := true }
          else return g
      | [] => return g

/-! Tokens -/

/-- Marks, longer ones before their beginnings. -/
def marks : List String :=
  ["...", ".", "(", ")", "[", "]", "\x7b", "\x7d", ";", ",", "~", ":", "@",
   "<<=", "<<", "<=", "<", ">",
   "===", "==", "=>", "=", "!==", "!=", "!",
   "++", "+=", "+", "--", "-=", "-", "**=", "**", "*=", "*", "/=", "/", "%=", "%",
   "&&=", "&&", "&=", "&", "||=", "||", "|=", "|", "^=", "^", "??=", "??", "?.", "?"]

/-- The longest mark at the start of the text. `?.` before a digit is a question mark. -/
def markAt (rest : List Char) : Option String :=
  marks.find? fun m =>
    m.toList.isPrefixOf rest && !(m == "?." && isDigit (rest.drop 2).head?)

structure Lexeme where
  kind : Kind
  text : String
  points : Option Points
  escaped : Bool
deriving Inhabited

def Lexeme.ofKind (kind : Kind) : Lexeme := ⟨kind, "", none, false⟩

def privateName : Scan Lexeme := do
  skip
  match ← peek with
  | none =>
      fault .endOfFile (← position)
      return .ofKind .unknown
  | some c =>
      if Identifier.startsName c || c == '\\' then
        let (text, escaped) ← name
        return ⟨.privateName, text, none, escaped⟩
      else
        fault (.invalidCharacter c) (← position)
        skip
        return .ofKind .unknown

def templateLexeme (whole head : Kind) (start : Nat) : Scan Lexeme := do
  let t ← templateTail whole head start (← remaining) [] (some [])
  return ⟨t.kind, String.ofList t.raw, t.points, false⟩

def spelling (before : List Char) : Scan String := do
  return String.ofList (before.take (before.length - (← get).rest.length))

def lexeme (start : Nat) : Scan Lexeme := do
  let before := (← get).rest
  match before with
  | [] => return .ofKind .eof
  | c :: more =>
      if Identifier.startsName c || c == '\\' then
        let (text, escaped) ← name
        return ⟨Kind.ofName text, text, none, escaped⟩
      else if c == '0' then
        let kind ← zero
        return ⟨kind, ← spelling before, none, false⟩
      else if c.isDigit then
        let kind ← decimal
        return ⟨kind, ← spelling before, none, false⟩
      else if c == '.' && isDigit more.head? then
        skip
        let kind ← fraction
        return ⟨kind, ← spelling before, none, false⟩
      else if c == '"' || c == '\'' then
        skip
        let (kind, points, escaped) ← stringTail c start (← remaining) [] false
        let raw ← spelling more
        return ⟨kind, String.ofList (raw.toList.dropLast), some points, escaped⟩
      else if c == '\x60' then
        skip
        templateLexeme .templateWhole .templateHead start
      else if c == '#' then
        if start == 0 && more.head? == some '!' then
          let text ← takeWhile fun c => !Blank.isLineEnd c
          return ⟨.hashbang, String.ofList (text.drop 2), none, false⟩
        else privateName
      else
        match markAt before with
        | some m =>
            skipMany m.length
            return ⟨.mark m, m, none, false⟩
        | none =>
            skip
            fault (.invalidCharacter c) start
            return .ofKind .unknown

/-- The token that `lex` reads from here, with its place and the space before it. -/
def finish (start : Nat) (g : Gap) (l : Lexeme) : Scan Token := do
  modify fun s => { s with trivia := s.trivia.afterToken l.kind start }
  return {
    kind := l.kind, span := ⟨start, ← position⟩, newlineBefore := g.newline, escaped := l.escaped
    text := l.text, points := l.points, pureCall := g.pureCall, pureFunction := g.pureFunction }

def noGap : Gap := ⟨false, false, false⟩

def next : Scan Token := do
  let g ← gap (← remaining) noGap
  let start ← position
  finish start g (← lexeme start)

/-! Readers that the grammar calls for -/

def templateRest (brace : Token) : Scan Token := do
  let l ← templateLexeme .templateTail .templateMiddle brace.start
  finish brace.start ⟨brace.newlineBefore, false, false⟩ l

def regexFlags : List Char := "dgimsuvy".toList

/-- The body of a regular expression up to its closing mark, none if the line ends first. -/
def regexBody : Bool → List Char → Option (List Char)
  | _, [] => none
  | inClass, '\\' :: c :: cs =>
      if Blank.isLineEnd c then none else (regexBody inClass cs).map ('\\' :: c :: ·)
  | inClass, c :: cs =>
      if Blank.isLineEnd c then none
      else if c == '/' && !inClass then some []
      else if c == '[' then (regexBody true cs).map (c :: ·)
      else if c == ']' then (regexBody false cs).map (c :: ·)
      else (regexBody inClass cs).map (c :: ·)

def isFlagLike (c : Char) : Bool :=
  Identifier.isAsciiStart c || c.isDigit

/-- A regular expression whose opening mark is `slash`; the flags stand in the token's value. -/
def regex (slash : Token) : Scan Token := do
  let opened := if slash.text == "/=" then ['='] else []
  match regexBody false (← get).rest with
  | none =>
      fault .unterminatedRegex slash.start
      let _ ← takeWhile fun c => !Blank.isLineEnd c
      finish slash.start noGap ⟨.regex, "", some [], false⟩
  | some body =>
      skipMany (body.length + 1)
      let start ← position
      let flags ← takeWhile isFlagLike
      let mut seen : List Char := []
      for (c, i) in flags.zipIdx do
        if !regexFlags.contains c then fault (.regexFlag c) (start + i)
        else if seen.contains c then fault (.regexFlagTwice c) (start + i)
        else seen := seen ++ [c]
      let flags := regexFlags.filter seen.contains
      finish slash.start noGap
        ⟨.regex, String.ofList (opened ++ body), some (flags.map Char.toNat), false⟩

def jsxChild : Scan Token := do
  let start ← position
  let l ← do
    match ← peek with
    | none => pure (Lexeme.ofKind .eof)
    | some '<' => skip; pure ⟨.mark "<", "<", none, false⟩
    | some '\x7b' => skip; pure ⟨.mark "\x7b", "\x7b", none, false⟩
    | some _ =>
        let text ← takeWhile fun c => c != '<' && c != '\x7b' && c != '>' && c != '\x7d'
        match ← peek with
        | some c =>
            if c == '>' || c == '\x7d' then
              fault (.jsxText c) (← position)
              pure (Lexeme.ofKind .unknown)
            else pure ⟨.jsxText, String.ofList text, none, false⟩
        | none => pure (Lexeme.ofKind .eof)
  finish start noGap l

/-- The value of a tag's attribute: a string without escapes, or any token. -/
def jsxValue : Scan Token := do
  let g ← gap (← remaining) noGap
  let start ← position
  match ← peek with
  | some quote =>
      if quote == '"' || quote == '\'' then
        skip
        let text ← takeWhile (· != quote)
        if (← peek).isSome then
          skip
          finish start g ⟨.string, String.ofList text, some (text.map Char.toNat), false⟩
        else
          fault .unterminatedString start
          finish start g (.ofKind .unknown)
      else finish start g (← lexeme start)
  | none => finish start g (← lexeme start)

/-- A name inside a tag goes on over hyphens. -/
def jsxName (t : Token) : Scan Token := do
  if (← peek) == some '-' then
    let more ← takeWhile fun c => c == '-' || Identifier.continuesName c
    return { t with
      kind := .identifier, text := t.text ++ String.ofList more
      span := ⟨t.span.start, ← position⟩ }
  else return t

/-- Operators that begin with `>`. -/
def angleMarks : List String := [">>>=", ">>>", ">>=", ">>", ">="]

def rightAngle (t : Token) : Scan Token := do
  let rest := '>' :: (← get).rest
  match angleMarks.find? fun m => m.toList.isPrefixOf rest with
  | some m =>
      skipMany (m.length - 1)
      return { t with kind := .mark m, text := m, span := ⟨t.span.start, t.span.start + m.length⟩ }
  | none => return t

/-- Leave only the first character of a token that starts with an opening angle. -/
def leftAngle (t : Token) : Scan Token := do
  modify fun s =>
    { s with
      rest := t.text.toList.drop 1 ++ s.rest
      offset := t.span.start + 1 }
  return { t with kind := .mark "<", text := "<", span := ⟨t.span.start, t.span.start + 1⟩ }

end Scanner

end RouteWrap
