import RouteWrap.Config.Data
import RouteWrap.Toml.Reader

/-!
Numbers and moments of TOML text. A moment in time is read as a table of one entry, which holds
the moment as it is written.
-/

namespace RouteWrap.Toml.Reader

def textOf (r : Reader Unit) : Reader (List Char) := do
  let before ← rest
  r
  return before.chars.take (before.chars.length - (← rest).chars.length)

def isBinaryDigit (c : Char) : Bool := c == '0' || c == '1'
def isOctalDigit (c : Char) : Bool := '0' ≤ c && c ≤ '7'

/-- More digits, each perhaps behind an underscore. -/
def moreDigits (p : Char → Bool) : Reader Unit :=
  discard (many (orElse (satisfying p) (do char '_'; sure (satisfying p))))

def digitsWith (p : Char → Bool) : Reader Unit := do
  discard (satisfying p)
  moreDigits p

def sign : Reader Unit := discard (optional (satisfying fun c => c == '+' || c == '-'))

/-- A whole number without zeros in front. -/
def wholeNumber : Reader Unit := do
  sign
  orElse (do discard (satisfying fun c => isDigit c && c != '0'); moreDigits isDigit)
    (discard (satisfying isDigit))

def exponent : Reader Unit := do
  discard (satisfying fun c => c == 'e' || c == 'E')
  sign
  sure (digitsWith isDigit)

def fraction : Reader Unit := do
  char '.'
  sure (digitsWith isDigit)
  discard (optional exponent)

def withoutUnderscores (cs : List Char) : List Char := cs.filter (· != '_')

/-- A float that is no greater than the greatest one. -/
def boundedFloat? (cs : List Char) : Option Signed64 :=
  match Signed64.ofText? (withoutUnderscores cs) with
  | some (.number false .infinite) => none
  | x => x

def infinity : Reader Binary64 := do
  word ['i', 'n', 'f']
  return .infinite

def notNumber : Reader Unit := word ['n', 'a', 'n']

def float : Reader Data :=
  orElse
    (do
      let s ← rest
      let cs ← textOf (do wholeNumber; orElse exponent fraction)
      match boundedFloat? cs with
      | some x => return .float x
      | none => sure (refuseAt s.offset))
    (do
      let negative := (← optional (satisfying fun c => c == '+' || c == '-')) == some '-'
      orElse (do return .float (.number negative (← infinity)))
        (do notNumber; return .float .notNumber))

def valueIn (base : Nat) (cs : List Char) : Nat :=
  (withoutUnderscores cs).foldl (fun n d => base * n + hexDigit d) 0
where
  hexDigit (d : Char) : Nat :=
    let v := d.toNat
    if isDigit d then v - 48 else if 'a' ≤ d then v - 87 else v - 55

/-- Whole numbers of 64 bits with a sign. -/
def word64? (n : Int) : Option Data :=
  let bound : Int := Binary64.twoTo 63
  if -bound ≤ n && n < bound then some (.integer n true) else none

/-- A number in another base, after `0` and the letter of the base. -/
def inBase (letter : Char) (base : Nat) (p : Char → Bool) : Reader Data :=
  sure (demand do
    word ['0', letter]
    return word64? (valueIn base (← textOf (digitsWith p))))

def decimal : Reader Data := do
  let s ← rest
  let cs ← textOf wholeNumber
  let (negative, ds) := Signed64.splitSign cs
  let n : Int := valueIn 10 ds
  match word64? (if negative then -n else n) with
  | some d => return d
  | none => sure (refuseAt s.offset)

def integer : Reader Data := do
  match (← rest).chars with
  | '0' :: 'x' :: _ => inBase 'x' 16 isHexDigit
  | '0' :: 'o' :: _ => inBase 'o' 8 isOctalDigit
  | '0' :: 'b' :: _ => inBase 'b' 2 isBinaryDigit
  | _ => decimal

/-- Two digits with a value between bounds. -/
def twoDigits (low high : Nat) : Reader Nat :=
  demand do
    let n := valueIn 10 (← takeExactly 2 isDigit)
    return if low ≤ n && n ≤ high then some n else none

def isLeapYear (year : Nat) : Bool :=
  year % 4 == 0 && (year % 100 != 0 || year % 400 == 0)

def daysIn (year month : Nat) : Nat :=
  if month == 2 then (if isLeapYear year then 29 else 28)
  else if month == 4 || month == 6 || month == 9 || month == 11 then 30
  else 31

def date : Reader Unit := do
  let year := valueIn 10 (← takeExactly 4 isDigit)
  char '-'
  sure do
    let month ← twoDigits 1 12
    char '-'
    let s ← rest
    let day ← twoDigits 1 31
    if daysIn year month < day then refuseAt s.offset

def time : Reader Unit := do
  discard (twoDigits 0 23)
  char ':'
  sure do
    discard (twoDigits 0 59)
    char ':'
    discard (twoDigits 0 60)
    discard (optional do
      char '.'
      takeSome isDigit)

def zone : Reader Unit :=
  orElse (discard (satisfying fun c => c == 'Z' || c == 'z'))
    (do
      discard (satisfying fun c => c == '+' || c == '-')
      sure do
        discard (twoDigits 0 23)
        char ':'
        discard (twoDigits 0 59))

def moment : Reader Unit :=
  orElse
    (do
      date
      discard (optional do
        discard (satisfying fun c => c == 'T' || c == 't' || c == ' ')
        time
        discard (optional zone)))
    time

/-- The name under which a table holds a moment. -/
def momentName : String := "$__toml_private_datetime"

def momentTable : Reader Data := do
  return .table [(momentName, .text (String.ofList (← textOf moment)))]

end RouteWrap.Toml.Reader
