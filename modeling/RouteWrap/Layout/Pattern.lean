import RouteWrap.Layout.Place

/-!
Patterns of bindings, parameters, and targets of assignments.
-/

namespace RouteWrap.Layout

open Print

/-! Bindings -/

/-- The name that a binding pattern binds, if it binds one, whatever its default. -/
def boundName : Tree → Option String
  | .bind _ _ n => some n
  | .pat _ .defaulted [.bind _ _ n, _] => some n
  | _ => none

def plainKey : Tree → Option String
  | .expr _ (.keyName n) _ => some n
  | _ => none

/-- Elements of an array, where a hole at the end keeps its comma. -/
def elements (r : Printer) (c : Place) : List Tree → Print Unit
  | [] => pure ()
  | [t] => do
      r c t
      if t.isAbsent then char ','
  | t :: ts => do
      r c t
      char ','
      softSpace
      elements r c ts

def writePattern (r : Printer) (c : Place) (f : PatternForm) (ps : List Tree) : Print Unit := do
  match f, ps with
  | .object, [] => text "\x7b\x7d"
  | .object, ps =>
      char '\x7b'
      softSpace
      r.list c ps
      softSpace
      char '\x7d'
  | .array, ps =>
      char '['
      match ps with
      | .pat _ .rest _ :: _ => softSpace
      | _ => pure ()
      elements r c ps
      char ']'
  | .property _ computed, [key, value] =>
      let isShort := match plainKey key, boundName value with
        | some k, some n => k == n
        | _, _ => false
      if !isShort then
        Print.key r computed key
        char ':'
        softSpace
      r c value
  | .rest, [p] =>
      text "..."
      r c p
  | .defaulted, [p, value] =>
      r c p
      r.initial .free value
  | .annotated isOptional, [p, type] =>
      r c p
      if isOptional then char '?'
      r.ascription type
  | .parameters, .pat s .thisParameter type :: ps =>
      r c (.pat s .thisParameter type)
      if !ps.isEmpty then char ','
      softSpace
      r.list c ps
  | .parameters, ps => r.list c ps
  | .parameter ms, [decorators, p] =>
      r c decorators
      match ms.accessibility with
      | some a => modifier true a.text
      | none => pure ()
      modifier ms.isOverride "override"
      modifier ms.isReadonly "readonly"
      r c p
  | .thisParameter, [type] =>
      text "this"
      r.after (text ": ") type
  | _, _ => pure ()

/-! Parameters of methods -/

/-- Parameters of a method or signature, where nothing but a parameter follows `this`. -/
def methodParameters (r : Printer) (c : Place) : Tree → Print Unit
  | .pat _ .parameters (.pat s .thisParameter type :: ps) =>
      r.list c (.pat s .thisParameter type :: ps)
  | t => r c t

def withoutThis : Tree → Tree
  | .pat s .parameters (.pat _ .thisParameter _ :: ps) => .pat s .parameters ps
  | t => t

/-! Targets of assignments -/

/-- The name that a target assigns to, if it is a name, whatever its default. -/
def targetName : Tree → Option String
  | .ref _ _ n | .expr _ .targetDefault [.ref _ _ n, _] => some n
  | _ => none

def writeTarget (r : Printer) (c : Place) (f : ExpressionForm) (ps : List Tree) :
    Print Unit := do
  match f, ps with
  | .objectTarget, ps =>
      char '\x7b'
      r.list c ps
      char '\x7d'
  | .arrayTarget, ps =>
      char '['
      elements r c ps
      char ']'
  | .targetProperty computed, [key, value] =>
      let agree := match plainKey key, targetName value with
        | some k, some n => k == n
        | _, _ => false
      if !agree || !(← minified) then
        Print.key r computed key
        char ':'
        softSpace
      r (.bound .comma) value
  | .targetShorthand, [name, value] =>
      r c name
      r.initial .free value
  | .targetDefault, [t, value] =>
      r (.bound .comma) t
      r.initial .free value
  | .targetRest, [t] =>
      text "..."
      r (.bound .comma) t
  | _, _ => pure ()

end RouteWrap.Layout
