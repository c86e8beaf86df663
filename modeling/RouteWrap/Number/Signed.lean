import RouteWrap.Number.Shortest

/-!
Floating-point numbers with a sign. `Signed64.ofText?` reads decimal notation, and `Signed64.text`
writes the shortest decimal that reads back, always positionally.
-/

namespace RouteWrap

/-- A number with its sign, which zero has too, or no number. -/
inductive Signed64
  | number (negative : Bool) (size : Binary64)
  | notNumber
deriving DecidableEq, Repr, Inhabited

namespace Signed64

def isDigit (c : Char) : Bool := '0' ≤ c && c ≤ '9'

def ofDigits (ds : List Char) : Nat :=
  ds.foldl (fun n d => 10 * n + (d.toNat - '0'.toNat)) 0

/-- A sign in front, or none. -/
def splitSign : List Char → Bool × List Char
  | '-' :: rest => (true, rest)
  | '+' :: rest => (false, rest)
  | rest => (false, rest)

/-- The exponent that `cs` is; no text is the exponent zero. -/
def exponent? : List Char → Option Int
  | [] => some 0
  | e :: rest =>
      let (negative, ds) := splitSign rest
      if (e == 'e' || e == 'E') && !ds.isEmpty && ds.all isDigit then
        some (if negative then -(ofDigits ds : Int) else ofDigits ds)
      else none

/-- Digits with at most one point among them, and an exponent or none; the value is the nearest
one. -/
def ofText? (cs : List Char) : Option Signed64 :=
  let (negative, cs) := splitSign cs
  let whole := cs.takeWhile isDigit
  let (fraction, rest) := match cs.dropWhile isDigit with
    | '.' :: rest => (rest.takeWhile isDigit, rest.dropWhile isDigit)
    | rest => ([], rest)
  if whole.isEmpty && fraction.isEmpty then none
  else
    (exponent? rest).map fun e =>
      .number negative (Binary64.ofDecimal (ofDigits (whole ++ fraction)) (e - fraction.length))

/-- All digits of a number, with a point only before a fraction. -/
def positional : Binary64 → String
  | .infinite => "inf"
  | .finite 0 _ => "0"
  | .finite m q =>
      let (digits, scale) := Shortest.decimal m q
      let ds := toString digits
      let point : Int := ds.length + scale
      if 0 ≤ scale then ds ++ Shortest.zeros scale.toNat
      else if 0 < point then
        String.ofList (ds.toList.take point.toNat) ++ "."
          ++ String.ofList (ds.toList.drop point.toNat)
      else "0." ++ Shortest.zeros (-point).toNat ++ ds

def text : Signed64 → String
  | number negative size => (if negative then "-" else "") ++ positional size
  | notNumber => "NaN"

end Signed64

end RouteWrap
