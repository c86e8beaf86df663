import RouteWrap.Config.Variable

/-!
Text in colour, for terminals that understand escape sequences.
-/

namespace RouteWrap.Console

inductive Style
  | bold
  | dim
  | green
  | yellow
  | blue
deriving DecidableEq, Repr, Inhabited

def Style.code : Style → Nat
  | bold => 1
  | dim => 2
  | green => 32
  | yellow => 33
  | blue => 34

def escape (n : Nat) : String := "\x1b[" ++ toString n ++ "m"

def paint (color : Bool) (styles : List Style) (text : String) : String :=
  if color then String.join (styles.map fun s => escape s.code) ++ text ++ escape 0 else text

/-- Whether the environment wants colour on something that is a terminal or not. -/
def wantsColor (env : Environment) (terminal : Bool) : Bool :=
  if (env.get? "NO_COLOR").isSome then false
  else if (env.get? "FORCE_COLOR").isSome then true
  else terminal

end RouteWrap.Console
