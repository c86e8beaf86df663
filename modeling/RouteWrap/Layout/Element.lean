import RouteWrap.Layout.Place

/-!
Elements: tags, their attributes and what stands between them, printed as it was read.
-/

namespace RouteWrap.Layout

open Print

/-- The value of an attribute in the quote it does not hold. -/
def attributeText (raw : String) : List Char :=
  let quote := if raw.toList.contains '"' then '\'' else '"'
  quote :: raw.toList ++ [quote]

def tagAttributes (r : Printer) (c : Place) (ts : List Tree) : Print Unit := do
  for t in ts do
    match t with
    | .jsx _ .spreadAttribute _ => softSpace
    | _ => space
    r c t

def writeElement (r : Printer) (c : Place) (s : Span) (f : JsxForm) (ps : List Tree) :
    Print Unit := do
  match f, ps with
  | .element true, [name, _, as] =>
      char '<'
      r c name
      r c as
      softSpace
      text "/>"
  | .element false, name :: _ :: as :: closing :: children =>
      char '<'
      r c name
      r c as
      char '>'
      for t in children do
        r c t
      text "</"
      r c closing
      char '>'
  | .fragment, children =>
      text "<>"
      for t in children do
        r c t
      text "</>"
  | .tagAttributes, ts => tagAttributes r c ts
  | .tagAttribute, [name, value] =>
      r c name
      r.after (char '=') value
  | .spreadAttribute, [e] =>
      text "\x7b..."
      r.argument e
      char '\x7d'
  | .name n, _ => text n
  | .namespaced a b, _ => text (a ++ ":" ++ b)
  | .member m, [object] =>
      r c object
      text ("." ++ m)
  | .container, [e] =>
      char '\x7b'
      r .free e
      char '\x7d'
  | .empty, _ => commentsAt s.stop
  | .text raw, _ => text raw
  | .string raw, _ => chars (attributeText raw)
  | .spreadChild, [e] =>
      text "\x7b..."
      r .free e
      char '\x7d'
  | _, _ => pure ()

end RouteWrap.Layout
