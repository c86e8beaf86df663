/-!
How modules are printed.
-/

namespace RouteWrap

inductive QuoteStyle
  | double | single
deriving DecidableEq, Repr, Inhabited

namespace QuoteStyle

def char : QuoteStyle → Char
  | double => '"'
  | single => '\''

def name : QuoteStyle → String
  | double => "double"
  | single => "single"

end QuoteStyle

/-- The quote of strings, and whether blanks that only please the eye are left out. -/
structure PrintFormat where
  quote : QuoteStyle
  minify : Bool
deriving DecidableEq, Repr, Inhabited

def PrintFormat.standard : PrintFormat := ⟨.double, false⟩

end RouteWrap
