import RouteWrap.Text.UppercaseTable

/-!
Capital letters: the full upper-case form of a character, which may be several characters.
-/

namespace RouteWrap.Uppercase

/-- The capital of `n` under `r`, if the run holds `n`. -/
def ofRun (r : UppercaseTable.Run) (n : Nat) : Option Nat :=
  if r.first ≤ n && n ≤ r.last && (n - r.first) % r.step == 0 then
    some ((n : Int) + r.distance).toNat
  else
    none

def ofChar (c : Char) : List Char :=
  if c.toNat < 128 then [c.toUpper]
  else
    match UppercaseTable.expansions.lookup c.toNat with
    | some ns => ns.map Char.ofNat
    | none =>
        match UppercaseTable.runs.findSome? (ofRun · c.toNat) with
        | some n => [Char.ofNat n]
        | none => [c]

/-- `word` with its first character in upper case. -/
def capitalize (word : String) : String :=
  match word.toList with
  | [] => ""
  | c :: rest => String.ofList (ofChar c ++ rest)

end RouteWrap.Uppercase
