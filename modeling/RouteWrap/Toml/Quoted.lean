import RouteWrap.Toml.Reader

/-!
Strings of TOML text: between double quotes with escapes, or between apostrophes without, each on
one line or between three quotes on several.
-/

namespace RouteWrap.Toml.Reader

def hexValue (ds : List Char) : Nat :=
  ds.foldl (fun n d =>
    let v := d.toNat
    16 * n + (if isDigit d then v - 48 else if 'a' ≤ d then v - 87 else v - 55)) 0

/-- The character with a given number, if there is one. -/
def charOf? (n : Nat) : Option Char :=
  if n.isValidChar then some (Char.ofNat n) else none

def hexEscape (n : Nat) : Reader Char :=
  sure (demand do return charOf? (hexValue (← takeExactly n isHexDigit)))

def escaped : Reader Char := do
  char '\\'
  let s ← rest
  match ← satisfying fun _ => true with
  | 'b' => return '\x08'
  | 'f' => return '\x0c'
  | 'n' => return '\n'
  | 'r' => return '\r'
  | 't' => return '\t'
  | '"' => return '"'
  | '\\' => return '\\'
  | 'u' => hexEscape 4
  | 'U' => hexEscape 8
  | _ => sure (refuseAt (s.offset + 1))

/-- Characters that stand for themselves between double quotes. -/
def isPlain (c : Char) : Bool :=
  c == '\t' || (' ' ≤ c && c ≤ '~' && c != '"' && c != '\\') || isNonAscii c

def basicString : Reader (List Char) := do
  char '"'
  let cs ← many (orElse (satisfying isPlain) escaped)
  sure (char '"')
  return cs

/-- A backslash at the end of a line, the line end, and what is blank after it. -/
def joinedLines : Reader Unit :=
  discard (many1 do
    char '\\'
    blanks
    newline
    blankLines)

def blockContent : Reader (List Char) :=
  firstOf [takeSome isPlain, do joinedLines; return [], do return [← escaped],
    do newline; return ['\n']]

/-- One or two quotes that `after` follows. -/
def fewQuotes (quote : Char) (after : Reader Unit) : Reader (List Char) :=
  orElse (do word [quote, quote]; ahead after; return [quote, quote])
    (do char quote; ahead after; return [quote])

def blockQuote (quote : Char) : Reader Unit := word [quote, quote, quote]

def otherThan (quote : Char) : Reader Unit := discard (satisfying (· != quote))

/-- Quotes that do not end the block, and what follows them; the quotes are lost if nothing
does. -/
def quotedContent : Reader (List Char) := do
  let qs ← fewQuotes '"' (otherThan '"')
  let content ← many blockContent
  return if content.isEmpty then [] else qs ++ content.flatten

def basicBlock : Reader (List Char) := do
  blockQuote '"'
  discard (optional newline)
  sure do
    let first := (← many blockContent).flatten
    let more := (← many quotedContent).flatten
    let last := (← optional (fewQuotes '"' (blockQuote '"'))).getD []
    blockQuote '"'
    return first ++ more ++ last

def isLiteral (c : Char) : Bool := inComment c && c != '\''

def literalString : Reader (List Char) := do
  char '\''
  let cs ← takeWhile isLiteral
  sure (char '\'')
  return cs

def literalContent : Reader Char :=
  orElse (satisfying isLiteral) (do newline; return '\n')

def literalBlock : Reader (List Char) := do
  blockQuote '\''
  discard (optional newline)
  sure do
    let first ← many literalContent
    let more ← many do
      let qs ← fewQuotes '\'' (otherThan '\'')
      return qs ++ (← many1 literalContent)
    let last := (← optional (fewQuotes '\'' (blockQuote '\''))).getD []
    blockQuote '\''
    return first ++ more.flatten ++ last

def quoted : Reader (List Char) :=
  firstOf [basicBlock, basicString, literalBlock, literalString]

end RouteWrap.Toml.Reader
