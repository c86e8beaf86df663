/-!
Paths as they are written. A path that does not begin at the root begins at the working directory.
-/

namespace RouteWrap.Path

def isAbsolute (p : String) : Bool := p.toList.head? == some '/'

/-- A path inside a directory; an absolute one stands alone. -/
def join (directory p : String) : String :=
  if isAbsolute p || directory.isEmpty then p
  else if directory.toList.getLast? == some '/' then directory ++ p
  else directory ++ "/" ++ p

/-- The names of a path that are not empty. -/
def names (p : String) : List String :=
  ((p.toList.splitOn '/').map String.ofList).filter fun n => !n.isEmpty

/-- The names of a path that lead somewhere else. -/
def steps (p : String) : List String :=
  (names p).filter (· != ".")

def ofSteps (steps : List String) : String := "/" ++ "/".intercalate steps

/-- What is left of two lists after what they begin with in common. -/
def apart : List String → List String → List String × List String
  | a :: as, b :: bs => if a == b then apart as bs else (a :: as, b :: bs)
  | as, bs => (as, bs)

/-- An absolute path as seen from an absolute directory. -/
def relative (p directory : String) : String :=
  let (there, here) := apart (steps p) (steps directory)
  "/".intercalate (List.replicate here.length ".." ++ there)

/-- A directory and those above it, the nearest first. -/
def ancestors (directory : String) : List String :=
  let ns := steps directory
  (List.range (ns.length + 1)).map fun i => ofSteps (ns.take (ns.length - i))

end RouteWrap.Path
