import RouteWrap.Number.Binary64
import RouteWrap.Syntax.Scanner

/-!
What numerals denote. Decimal numbers, and those in other bases that fit a machine word, are
rounded once; longer ones in other bases are rounded after every digit.
-/

namespace RouteWrap.Numeral

def digitValue (c : Char) : Nat :=
  (Scanner.hexValue? c).getD 0

def digitsValue (base : Nat) (cs : List Char) : Nat :=
  cs.foldl (fun n c => n * base + digitValue c) 0

/-- The most digits of a base other than ten that are read as one whole number. -/
def wordDigits : Nat → Nat
  | 2 => 64
  | 8 => 21
  | _ => 16

def whole (base : Nat) (cs : List Char) : Binary64 :=
  if base == 10 || cs.length ≤ wordDigits base then Binary64.ofNat (digitsValue base cs)
  else Binary64.ofDigits base (cs.map digitValue)

/-- Base and digits of a numeral without separators. -/
def radix : List Char → Nat × List Char
  | '0' :: 'x' :: cs | '0' :: 'X' :: cs => (16, cs)
  | '0' :: 'o' :: cs | '0' :: 'O' :: cs => (8, cs)
  | '0' :: 'b' :: cs | '0' :: 'B' :: cs => (2, cs)
  | cs => (10, cs)

def scientific (cs : List Char) : Binary64 :=
  let isMark := fun c => c == 'e' || c == 'E'
  let mantissa := cs.takeWhile fun c => !isMark c
  let exponent : Int := match (cs.dropWhile fun c => !isMark c).drop 1 with
    | '-' :: ds => -(digitsValue 10 ds : Int)
    | '+' :: ds => digitsValue 10 ds
    | ds => digitsValue 10 ds
  let whole := mantissa.takeWhile (· != '.')
  let fraction := (mantissa.dropWhile (· != '.')).drop 1
  Binary64.ofDecimal (digitsValue 10 (whole ++ fraction)) (exponent - fraction.length)

def value (kind : NumeralKind) (text : String) : Binary64 :=
  let cs := text.toList.filter (· != '_')
  match kind with
  | .float | .exponential => scientific cs
  | .octal =>
      match radix cs with
      | (8, ds) => whole 8 ds
      | (_, ds) => whole 8 (ds.drop 1)
  | _ =>
      let (base, ds) := radix cs
      whole base ds

/-- The decimal digits of a numeral of any length that ends in `n`. -/
def bigint (text : String) : String :=
  let (base, ds) := radix (text.toList.filter fun c => c != '_' && c != 'n')
  toString (digitsValue base ds)

end RouteWrap.Numeral
