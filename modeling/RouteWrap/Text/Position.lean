/-!
Positions in a text. A byte offset is shown as a line counted from one and a column counted in
characters from zero; an offset past the end, or inside a character, stands for the nearest
character boundary before it. Lines and columns are numbers of 32 bits, and go round behind the
last of them.
-/

namespace RouteWrap

structure Position where
  offset : Nat
  line : UInt32
  column : UInt32
deriving DecidableEq, Repr, Inhabited

instance coeNumber : Coe UInt32 Nat := ⟨UInt32.toNat⟩

namespace Position

/-- The characters that end at or before byte `limit`. -/
def upTo : Nat → List Char → List Char
  | _, [] => []
  | limit, c :: rest =>
      if c.utf8Size ≤ limit then c :: upTo (limit - c.utf8Size) rest else []

def lastLine (cs : List Char) : List Char :=
  (cs.reverse.takeWhile (· != '\n')).reverse

def ofOffset (source : String) (offset : Nat) : Position :=
  let before := upTo offset source.toList
  { offset
    line := .ofNat (before.count '\n') + 1
    column := .ofNat (lastLine before).length }

def text (p : Position) : String :=
  toString p.line ++ ":" ++ toString p.column

end Position

end RouteWrap
