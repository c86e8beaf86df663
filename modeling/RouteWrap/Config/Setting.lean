import RouteWrap.Config.Data

/-!
Configuration in layers. A setting is a value that remembers where it was set; `Setting.onto` puts
one layer on another, and what both set as tables is merged entry by entry.
-/

namespace RouteWrap

inductive Source
  /-- A file, under the name it is shown by. -/
  | file (name : String)
  | environment
deriving DecidableEq, Repr, Inhabited

inductive Setting
  | plain (source : Source) (value : Data)
  | table (source : Source) (entries : List (String × Setting))
deriving Repr, Inhabited

abbrev Settings := Entries Setting

namespace Setting

def source : Setting → Source
  | plain s _ => s
  | table s _ => s

mutual

def ofData (source : Source) : Data → Setting
  | .table entries => .table source (ofEntries source entries)
  | d => .plain source d

def ofEntries (source : Source) : List (String × Data) → List (String × Setting)
  | [] => []
  | (k, d) :: rest => (k, ofData source d) :: ofEntries source rest

end

mutual

/-- The first setting where both set a value, and the entries of both where both are tables. -/
def onto : Setting → Setting → Setting
  | .table s upper, .table _ lower => .table s (ontoEntries upper lower)
  | upper, _ => upper

def ontoEntries : List (String × Setting) → List (String × Setting) → List (String × Setting)
  | [], lower => lower
  | (k, upper) :: rest, lower =>
      ontoEntries rest <| match Entries.get? lower k with
        | some s => Entries.put k (onto upper s) lower
        | none => Entries.put k upper lower

end

end Setting

end RouteWrap
