import RouteWrap.Syntax.Kind
import RouteWrap.Syntax.Tree
import RouteWrap.Syntax.Dialect

/-!
Tokens of a module: a kind, a place, and what the text between the marks says.
-/

namespace RouteWrap

structure Token where
  kind : Kind
  span : Span
  newlineBefore : Bool
  escaped : Bool
  /-- The name of a word, the text between the marks of a template or string, else the spelling. -/
  text : String
  /-- The value of a string or template; none if an escape in it means nothing. -/
  points : Option Points
  /-- A comment before the token marks a call without side effects. -/
  pureCall : Bool
  /-- A comment before the token marks a function without side effects. -/
  pureFunction : Bool
deriving Repr, Inhabited

namespace Token

def start (t : Token) : Nat := t.span.start

def value (t : Token) : Points := t.points.getD []

end Token

end RouteWrap
