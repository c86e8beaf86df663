/-!
The value of a numeric literal: a non-negative binary floating-point number of 53 significant
bits, held as a mantissa and a power of two. All arithmetic is on natural numbers, and every
result is the nearest value, with a tie going to the even mantissa.
-/

namespace RouteWrap

/-- Zero, a positive number `mantissa * 2 ^ exponent`, or infinity. -/
inductive Binary64
  | finite (mantissa : Nat) (exponent : Int)
  | infinite
deriving DecidableEq, Repr, Inhabited

namespace Binary64

def twoTo (n : Nat) : Nat := Nat.pow 2 n
def tenTo (n : Nat) : Nat := Nat.pow 10 n

def leastExponent : Int := -1074
def greatestExponent : Int := 971

/-- `num / den` to the nearest natural number, a half to the even neighbour. -/
def roundHalfEven (num den : Nat) : Nat :=
  let q := num / den
  let twice := 2 * (num % den)
  if twice < den then q
  else if den < twice then q + 1
  else if q % 2 == 0 then q else q + 1

/-- The exponent of the greatest power of two that is at most `num / den`. -/
def floorLog2 (num den : Nat) : Int :=
  let k : Int := (num.log2 : Int) - den.log2
  if num * twoTo (-k).toNat < den * twoTo k.toNat then k - 1 else k

/-- The value nearest to `num / den`. -/
def ofRatio (num den : Nat) : Binary64 :=
  if num == 0 then finite 0 leastExponent
  else
    let q := max (floorLog2 num den - 52) leastExponent
    let m := roundHalfEven (num * twoTo (-q).toNat) (den * twoTo q.toNat)
    let (m, q) := if m == twoTo 53 then (twoTo 52, q + 1) else (m, q)
    if greatestExponent < q then infinite else finite m q

def ofNat (n : Nat) : Binary64 :=
  ofRatio n 1

/-- The value nearest to `digits * 10 ^ exponent`; far exponents are cut off where the result no
longer depends on them. -/
def ofDecimal (digits : Nat) (exponent : Int) : Binary64 :=
  if digits == 0 then finite 0 leastExponent
  else if 400 < exponent then infinite
  else if exponent + digits.log2 < -1200 then finite 0 leastExponent
  else ofRatio (digits * tenTo exponent.toNat) (tenTo (-exponent).toNat)

/-- `x * base + digit`, rounded once. -/
def shiftIn (base : Nat) (x : Binary64) (digit : Nat) : Binary64 :=
  match x with
  | infinite => infinite
  | finite m q =>
      ofRatio (m * twoTo q.toNat * base + digit * twoTo (-q).toNat) (twoTo (-q).toNat)

/-- The value of a digit string read from the left, rounded after every digit. -/
def ofDigits (base : Nat) (digits : List Nat) : Binary64 :=
  digits.foldl (shiftIn base) (ofNat 0)

def toNat? : Binary64 → Option Nat
  | infinite => none
  | finite m q =>
      if 0 ≤ q then some (m * twoTo q.toNat)
      else
        let d := twoTo (-q).toNat
        if m % d == 0 then some (m / d) else none

end Binary64

end RouteWrap
