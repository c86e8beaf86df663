import RouteWrap.Number.Binary64

/-!
The shortest decimal text of a number. Of all decimals that read back as the number the one with
fewest digits is taken, and of those the nearest; `plain` writes it positionally up to 21 digits,
and `compact` looks for the least number of characters among the positional, the scientific and
the hexadecimal form.
-/

namespace RouteWrap.Shortest

open Binary64 (twoTo tenTo)

/-- The interval of numbers that round to `mantissa * 2 ^ exponent`, over one denominator. -/
structure Interval where
  low : Nat
  value : Nat
  high : Nat
  denominator : Nat
  closed : Bool

def interval (mantissa : Nat) (exponent : Int) : Interval :=
  let unit := twoTo exponent.toNat
  let value := 4 * mantissa * unit
  let narrow := mantissa == twoTo 52 && Binary64.leastExponent < exponent
  { low := value - (if narrow then 1 else 2) * unit
    value
    high := value + 2 * unit
    denominator := 4 * twoTo (-exponent).toNat
    closed := mantissa % 2 == 0 }

def Interval.holds (i : Interval) (digits : Nat) (scale : Int) : Bool :=
  let x := digits * tenTo scale.toNat * i.denominator
  let f := tenTo (-scale).toNat
  if i.closed then i.low * f ≤ x && x ≤ i.high * f else i.low * f < x && x < i.high * f

/-- The grid point nearest to the value, if one of its two neighbours lies in the interval. -/
def Interval.onGrid (i : Interval) (scale : Int) : Option Nat :=
  let num := i.value * tenTo (-scale).toNat
  let den := i.denominator * tenTo scale.toNat
  let below := num / den
  let near := Binary64.roundHalfEven num den
  let far := if near == below then below + 1 else below
  if i.holds near scale then some near
  else if i.holds far scale then some far
  else none

/-- The number of digits before the point: the least `k` with `value < 10 ^ k`. -/
def Interval.places (i : Interval) : Int :=
  let bits : Int := (i.value.log2 : Int) - i.denominator.log2
  let start : Int := bits * 30103 / 100000 - 1
  let exceeds := fun (k : Int) =>
    i.value * tenTo (-k).toNat < i.denominator * tenTo k.toNat
  ((List.range 5).map fun (j : Nat) => start + j).find? exceeds |>.getD (start + 5)

/-- `digits` without its trailing zeros, and how many there were. -/
def stripZeros : Nat → Nat → Nat × Nat
  | 0, n => (n, 0)
  | fuel + 1, n =>
      if n != 0 && n % 10 == 0 then
        let (m, k) := stripZeros fuel (n / 10)
        (m, k + 1)
      else (n, 0)

/-- Digits and scale of the shortest decimal that reads back. -/
def decimal (mantissa : Nat) (exponent : Int) : Nat × Int :=
  let i := interval mantissa exponent
  let places := i.places
  let hit := (List.range 17).findSome? fun (n : Nat) =>
    let scale := places - (n + 1)
    (i.onGrid scale).map fun digits => (digits, scale)
  let (digits, scale) := hit.getD (i.value / i.denominator, 0)
  let (digits, zeros) := stripZeros 20 digits
  (digits, scale + zeros)

def zeros (n : Nat) : String :=
  String.ofList (List.replicate n '0')

/-- Positional between `1e-7` and `1e21`, scientific beyond. -/
def plain : Binary64 → String
  | .infinite => "Infinity"
  | .finite 0 _ => "0"
  | .finite m q =>
      let (digits, scale) := decimal m q
      let ds := toString digits
      let count : Int := ds.length
      let point := count + scale
      if 0 ≤ scale && point ≤ 21 then ds ++ zeros scale.toNat
      else if 0 < point && point ≤ 21 then
        String.ofList (ds.toList.take point.toNat) ++ "."
          ++ String.ofList (ds.toList.drop point.toNat)
      else if -6 < point && point ≤ 0 then "0." ++ zeros (-point).toNat ++ ds
      else
        let e := point - 1
        let tail := if ds.length == 1 then "" else "." ++ String.ofList (ds.toList.drop 1)
        String.ofList (ds.toList.take 1) ++ tail ++ "e" ++ (if e < 0 then "-" else "+")
          ++ toString e.natAbs

def hexDigits (n : Nat) : String :=
  String.ofList (Nat.toDigits 16 n)

/-- Of two texts the first unless the second has fewer characters. -/
def shorter (a b : String) : String :=
  if b.length < a.length then b else a

/-- `.000123` as `123e-6`. -/
def negativeExponent (s : List Char) : Option String :=
  match s with
  | '.' :: '0' :: _ =>
      let places := s.length - 1
      let digits := s.drop 1 |>.dropWhile (· == '0')
      if digits.isEmpty then none
      else some (String.ofList digits ++ "e-" ++ toString places)
  | _ => none

/-- `12000` as `12e3`. -/
def positiveExponent (s : List Char) : Option String :=
  let count := (s.reverse.takeWhile (· == '0')).length
  if count == 0 then none
  else some (String.ofList (s.take (s.length - count)) ++ "e" ++ toString count)

/-- `1.25e10` as `125e8`. -/
def integerMantissa (s : List Char) : Option String :=
  let whole := s.takeWhile (· != '.')
  match s.dropWhile (· != '.') with
  | '.' :: rest =>
      let fraction := rest.takeWhile (· != 'e')
      match rest.dropWhile (· != 'e') with
      | 'e' :: e =>
          let exponent : Int := match e with
            | '-' :: ds => -((String.ofList ds).toNat?.getD 0 : Int)
            | ds => ((String.ofList ds).toNat?.getD 0 : Int)
          some (String.ofList (whole ++ fraction) ++ "e"
            ++ toString (exponent - fraction.length))
      | _ => none
  | _ => none

def better (candidate : List Char → Option String) (s : String) : String :=
  match candidate s.toList with
  | some t => shorter s t
  | none => s

/-- The text of least length. Whole numbers below a thousand stay positional. -/
def compact (x : Binary64) : String :=
  let s := plain x
  let whole := x.toNat?
  if whole.any (· < 1000) then s
  else
    let s := match s.toList with
      | '0' :: '.' :: rest => String.ofList ('.' :: rest)
      | cs => String.ofList (cs.filter (· != '+'))
    match whole with
    | some n =>
        let hex := "0x" ++ hexDigits (min n (twoTo 128 - 1))
        if hex.length < s.length then hex
        else better integerMantissa (better positiveExponent s)
    | none => better integerMantissa (better positiveExponent (better negativeExponent s))

end RouteWrap.Shortest
