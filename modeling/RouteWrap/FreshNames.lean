/-!
Fresh names. A supply holds the names that are taken; a name asked for is stripped to its stem,
and the first of `_stem`, `_stem2`, `_stem3`, … that is free is handed out and taken.
-/

namespace RouteWrap

structure FreshNames where
  taken : List String
deriving DecidableEq, Repr, Inhabited

namespace FreshNames

def isTaken (f : FreshNames) (n : String) : Bool := f.taken.contains n

def reserve (f : FreshNames) (n : String) : FreshNames := ⟨n :: f.taken⟩

/-- `base` without leading underscores and trailing digits. -/
def strip (base : String) : String :=
  let tail := base.toList.dropWhile (· == '_')
  String.ofList (tail.reverse.dropWhile Char.isDigit).reverse

def stem (base : String) : String :=
  if (strip base).isEmpty then "temp" else strip base

/-- `_stem` for zero, then `_stem2`, `_stem3`, … -/
def candidate (stem : String) : Nat → String
  | 0 => "_" ++ stem
  | n + 1 => "_" ++ stem ++ toString (n + 2)

/-- The number of the first free candidate; one more candidate than names taken is enough. -/
def firstFree (f : FreshNames) (stem : String) : Nat :=
  ((List.range (f.taken.length + 1)).find? fun n => !f.isTaken (candidate stem n)).getD 0

def generate (f : FreshNames) (base : String) : String × FreshNames :=
  let name := candidate (stem base) (f.firstFree (stem base))
  (name, f.reserve name)

/-- `preferred` itself if it is free. -/
def claim (f : FreshNames) (preferred : String) : String × FreshNames :=
  if f.isTaken preferred then f.generate preferred else (preferred, f.reserve preferred)

theorem isTaken_reserve (f : FreshNames) (n m : String) :
    (f.reserve n).isTaken m = (m == n || f.isTaken m) :=
  List.contains_cons

end FreshNames

end RouteWrap
