/-!
Readers of TOML text. A reader that refuses says where it stood, in bytes; a final refusal ends
the reading of the whole text, any other lets a second reader try from the same place.
-/

namespace RouteWrap.Toml

/-- What is left of a text, and how many bytes came before it. -/
structure Rest where
  chars : List Char
  offset : Nat
deriving Repr, Inhabited

structure Refusal where
  offset : Nat
  final : Bool
deriving DecidableEq, Repr, Inhabited

abbrev Reader := StateT Rest (Except Refusal)

namespace Reader

variable {α β : Type}

def rest : Reader Rest := get

def refuseAt (offset : Nat) : Reader α :=
  throw ⟨offset, false⟩

def refuse : Reader α := do
  refuseAt (← rest).offset

/-- Make every refusal of a reader final. -/
def sure (r : Reader α) : Reader α := fun s =>
  match r s with
  | .error e => .error { e with final := true }
  | .ok out => .ok out

/-- Try the second reader where the first refuses, unless that was final. -/
def orElse (first second : Reader α) : Reader α := fun s =>
  match first s with
  | .error e => if e.final then .error e else second s
  | .ok out => .ok out

def optional (r : Reader α) : Reader (Option α) :=
  orElse (some <$> r) (pure none)

/-- What a reader finds, without moving. -/
def ahead (r : Reader α) : Reader α := fun s =>
  match r s with
  | .error e => .error e
  | .ok (a, _) => .ok (a, s)

def firstOf : List (Reader α) → Reader α
  | [] => refuse
  | [r] => r
  | r :: rs => orElse r (firstOf rs)

/-- A result that must exist; without one the reader refuses where it began. -/
def demand (r : Reader (Option α)) : Reader α := do
  let s ← rest
  match ← r with
  | some a => return a
  | none => refuseAt s.offset

def next? : Reader (Option Char) := return (← rest).chars.head?

def satisfying (p : Char → Bool) : Reader Char := fun s =>
  match s.chars with
  | c :: cs => if p c then .ok (c, ⟨cs, s.offset + c.utf8Size⟩) else .error ⟨s.offset, false⟩
  | [] => .error ⟨s.offset, false⟩

def char (c : Char) : Reader Unit := discard (satisfying (· == c))

def bytes : List Char → Nat
  | [] => 0
  | c :: cs => c.utf8Size + bytes cs

def word (w : List Char) : Reader Unit := fun s =>
  if w.isPrefixOf s.chars then .ok ((), ⟨s.chars.drop w.length, s.offset + bytes w⟩)
  else .error ⟨s.offset, false⟩

def takeWhile (p : Char → Bool) : Reader (List Char) := fun s =>
  let taken := s.chars.takeWhile p
  .ok (taken, ⟨s.chars.dropWhile p, s.offset + bytes taken⟩)

def takeSome (p : Char → Bool) : Reader (List Char) := do
  let taken ← takeWhile p
  if taken.isEmpty then refuse else return taken

/-- Exactly `n` characters of a kind; more of them may follow. -/
def takeExactly (n : Nat) (p : Char → Bool) : Reader (List Char) := fun s =>
  let taken := (s.chars.take n).takeWhile p
  if taken.length == n then .ok (taken, ⟨s.chars.drop n, s.offset + bytes taken⟩)
  else .error ⟨s.offset, false⟩

def repeatUpTo (r : Reader α) : Nat → Reader (List α)
  | 0 => return []
  | n + 1 => do
      match ← optional r with
      | some a => return a :: (← repeatUpTo r n)
      | none => return []

/-- As often as the reader succeeds; it takes at least one character each time. -/
def many (r : Reader α) : Reader (List α) := do
  repeatUpTo r ((← rest).chars.length + 1)

def many1 (r : Reader α) : Reader (List α) := do
  return (← r) :: (← many r)

def separated (item : Reader α) (separator : Reader Unit) : Reader (List α) := do
  return (← item) :: (← many (do separator; item))

def atEnd : Reader Unit := do
  match ← next? with
  | none => return ()
  | some _ => refuse

def isBlank (c : Char) : Bool := c == ' ' || c == '\t'

def isDigit (c : Char) : Bool := '0' ≤ c && c ≤ '9'

def isHexDigit (c : Char) : Bool :=
  isDigit c || ('a' ≤ c && c ≤ 'f') || ('A' ≤ c && c ≤ 'F')

def isNonAscii (c : Char) : Bool := 0x80 ≤ c.toNat

def inComment (c : Char) : Bool :=
  c == '\t' || (' ' ≤ c && c ≤ '~') || isNonAscii c

def blanks : Reader Unit := discard (takeWhile isBlank)

def newline : Reader Unit := orElse (char '\n') (do char '\r'; char '\n')

def comment : Reader Unit := do
  char '#'
  discard (takeWhile inComment)

def lineEnd : Reader Unit := orElse newline atEnd

/-- Blanks and a comment up to the end of the line. -/
def trailing : Reader Unit := do
  blanks
  discard (optional comment)
  lineEnd

def blankLines : Reader Unit :=
  discard (many (orElse (discard (takeSome isBlank)) newline))

def gap : Reader Unit :=
  discard (many (firstOf [discard (takeSome isBlank), newline, comment]))

end Reader

end RouteWrap.Toml
