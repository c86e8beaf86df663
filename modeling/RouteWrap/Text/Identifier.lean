import RouteWrap.Text.IdentifierTable
import RouteWrap.Text.AlphabetTable

/-!
Two classes of names. `startsName` and `continuesName` are the characters that the grammar of a
module admits in an identifier; `isPlainName` is a simpler test by letters and numbers, which
presets are held to.
-/

namespace RouteWrap.Identifier

def inRanges (ranges : List (Nat × Nat)) (n : Nat) : Bool :=
  ranges.any fun r => r.1 ≤ n && n ≤ r.2

def isAsciiStart (c : Char) : Bool :=
  c.isAlpha || c == '$' || c == '_'

def startsName (c : Char) : Bool :=
  if c.toNat < 128 then isAsciiStart c else inRanges IdentifierTable.starts c.toNat

/-- The zero-width joiners continue a name, too. -/
def continuesName (c : Char) : Bool :=
  if c.toNat < 128 then isAsciiStart c || c.isDigit
  else inRanges IdentifierTable.continues c.toNat || c.toNat == 0x200c || c.toNat == 0x200d

def isLetter (c : Char) : Bool :=
  if c.toNat < 128 then c.isAlpha else inRanges AlphabetTable.letters c.toNat

def isLetterOrNumber (c : Char) : Bool :=
  if c.toNat < 128 then c.isAlphanum
  else inRanges AlphabetTable.letters c.toNat || inRanges AlphabetTable.numbers c.toNat

/-- A name of letters, numbers, `$` and `_` that starts with none of the numbers. -/
def isPlainName (name : String) : Bool :=
  match name.toList with
  | [] => false
  | c :: rest =>
      (c == '$' || c == '_' || isLetter c)
        && rest.all fun d => d == '$' || d == '_' || isLetterOrNumber d

end RouteWrap.Identifier
