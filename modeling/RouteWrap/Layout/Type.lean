import RouteWrap.Layout.Pattern

/-!
Types. Object types with more than one member stand on lines of their own.
-/

namespace RouteWrap.Layout

open Print

def mappedModifier : MappedModifier → String → String
  | .absent, _ => ""
  | .plain, s => s
  | .plus, s => "+" ++ s
  | .minus, s => "-" ++ s

/-- Type parameters; where tags are allowed, a comma tells a single one from a tag. -/
def typeParameters (r : Printer) (c : Place) (ps : List Tree) : Print Unit := do
  let several := 2 ≤ ps.length
  char '<'
  if several then
    indented (lines (ps.map (r c)))
    softNewline
    lineIndent
  else
    r.list c ps
    if (← get).tags then char ','
  char '>'

def joined (r : Printer) (c : Place) (mark : Char) : List Tree → Print Unit
  | [] => pure ()
  | [t] => r c t
  | t :: ts => do
      r c t
      softSpace
      char mark
      softSpace
      joined r c mark ts

def typeChunks (r : Printer) : List Tree → Print Unit
  | [] => pure ()
  | .expr _ (.chunk raw) _ :: ts => do
      text raw
      typeChunks r ts
  | t :: ts => do
      text "$\x7b"
      r .free t
      char '\x7d'
      typeChunks r ts

def functionType (r : Printer) (c : Place) (tparams params result : Tree) : Print Unit := do
  r c tparams
  inParentheses true (r c params)
  softSpace
  text "=>"
  softSpace
  r c result

def signature (r : Printer) (c : Place) (tparams params result : Tree) : Print Unit := do
  r c tparams
  inParentheses true (methodParameters r c params)
  r.ascription result

/-- The name of a member, whose numbers are printed as the place asks. -/
def memberKey (r : Printer) (c : Place) (computed : Bool) (t : Tree) : Print Unit :=
  match computed, t with
  | false, .expr s (.number n written) ps => r (c.at_ .comma) (.expr s (.number n written) ps)
  | computed, t => Print.key r computed t

def typeMembers (r : Printer) (c : Place) (ms : List Tree) : Print Unit := do
  match ms with
  | [] => text "\x7b\x7d"
  | [m] =>
      char '\x7b'
      commentsAt m.span.start
      softSpace
      r c m
      if ← minified then char ';' else space
      char '\x7d'
  | ms =>
      braces false do
        for m in ms do
          commentsAt m.span.start
          lineIndent
          r c m
          char ';'
          softNewline

/-- Whether a form stands for a type and not for a part of one. -/
def isWholeType : TypeForm → Bool
  | .ascription | .heritage | .parameters | .parameter .. | .arguments | .propertySignature ..
  | .methodSignature .. | .callSignature | .constructSignature | .indexSignature .. => false
  | _ => true

def writeType (r : Printer) (c : Place) (f : TypeForm) (ps : List Tree) : Print Unit := do
  let c := if isWholeType f then c.inType else c
  match f, ps with
  | .ascription, [t] => r .free t
  | .literal, [t] => r Place.free.inType t
  | .keyword name, _ => text name
  | .reference, [name, arguments] | .heritage, [name, arguments] =>
      r c name
      r c arguments
  | .qualified name, [left] =>
      r c left
      char '.'
      text name
  | .union, ts => joined r c '|' ts
  | .intersection, ts => joined r c '&' ts
  | .array, [t] =>
      r c t
      text "[]"
  | .tuple, ts =>
      char '['
      r.list c ts
      char ']'
  | .tupleMember label isOptional, [t] =>
      text label
      if isOptional then char '?'
      r.ascription t
  | .optional, [t] =>
      r c t
      char '?'
  | .rest, [t] =>
      text "..."
      r c t
  | .indexed, [object, index] =>
      r c object
      inBrackets true (r c index)
  | .operator name, [t] =>
      text (name ++ " ")
      r c t
  | .query, [name, arguments] =>
      text "typeof "
      r c name
      r c arguments
  | .importType, [argument, options, qualifier, arguments] =>
      text "import("
      match argument with
      | .type _ .literal [.expr _ (.string ps) _] => literal ps false
      | t => r c t
      r.after (text ", ") options
      char ')'
      r.after (char '.') qualifier
      r c arguments
  | .function, [tparams, params, result] => functionType r c tparams params result
  | .construct isAbstract, [tparams, params, result] =>
      fixedModifier isAbstract "abstract"
      text "new "
      functionType r c tparams params result
  | .conditional, [check, .type _ .conditionalHead [extended, yes], no] =>
      r c check
      text " extends "
      r c extended
      text " ? "
      r c yes
      text " : "
      r c no
  | .infer, [t] =>
      text "infer "
      r c t
  | .mapped isReadonly isOptional, [name, keys, renamed, t] =>
      char '\x7b'
      softSpace
      match isReadonly with
      | .absent => pure ()
      | m =>
          text (mappedModifier m "readonly")
          space
      char '['
      r c name
      text " in "
      r c keys
      r.after (text " as ") renamed
      char ']'
      text (mappedModifier isOptional "?")
      softSpace
      r.ascription t
      softSpace
      char '\x7d'
  | .template, ts =>
      char '\x60'
      typeChunks r ts
      char '\x60'
  | .predicate asserts subject, [t] =>
      fixedModifier asserts "asserts"
      text subject
      r.after (text " is ") t
  | .object, ms => typeMembers r c ms
  | .propertySignature computed isOptional isReadonly, [key, t] =>
      fixedModifier isReadonly "readonly"
      memberKey r c computed key
      if isOptional then char '?'
      r.ascription t
  | .methodSignature kind computed isOptional, [key, tparams, params, result] =>
      match kind with
      | .getter => text "get "
      | .setter => text "set "
      | _ => pure ()
      memberKey r c computed key
      if isOptional then char '?'
      signature r c tparams params result
  | .callSignature, [tparams, params, result] => signature r c tparams params result
  | .constructSignature, [tparams, params, result] =>
      text "new "
      signature r c tparams params result
  | .indexSignature name isReadonly _, [key, t] =>
      fixedModifier isReadonly "readonly"
      char '['
      text name
      r.ascription key
      char ']'
      r.ascription t
  | .parenthesized, [t] => inParentheses true (r c t)
  | .parameters, ps => typeParameters r c ps
  | .parameter const isIn isOut, [name, extended, default] =>
      fixedModifier const "const"
      fixedModifier isIn "in"
      fixedModifier isOut "out"
      r c name
      r.after (text " extends ") extended
      r.after (text " = ") default
  | .arguments, ts =>
      char '<'
      r.list c ts
      char '>'
  | _, _ => pure ()

end RouteWrap.Layout
