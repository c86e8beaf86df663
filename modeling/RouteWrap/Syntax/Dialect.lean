/-!
Dialects. Whether a module may hold types and tags, and whether it is a module at all, is told by
the extension of its file; a file of any other kind is read with both.
-/

namespace RouteWrap

/-- What a module may hold: types, tags, and whether it is a module, a script or only declares. -/
structure Dialect where
  typed : Bool
  tags : Bool
  isModule : Bool
  declaresOnly : Bool
deriving DecidableEq, Repr, Inhabited

namespace Dialect

def plain : Dialect := ⟨false, false, true, false⟩
def tagged : Dialect := ⟨false, true, true, false⟩
def typescript : Dialect := ⟨true, false, true, false⟩
def typedTagged : Dialect := ⟨true, true, true, false⟩

/-- The last component of a path that is not empty; none if that steps up or there is none. -/
def fileName (path : List Char) : Option (List Char) :=
  let parts := (path.splitOn '/').filter fun p => !p.isEmpty && p != ['.']
  match parts.getLast? with
  | some ['.', '.'] => none
  | other => other

/-- A file name before and after its last dot, unless the dot comes first. -/
def splitExtension (name : List Char) : List Char × List Char :=
  let extension := (name.reverse.takeWhile (· != '.')).reverse
  let stem := name.take (name.length - extension.length - 1)
  if stem.isEmpty || extension.length == name.length then (name, []) else (stem, extension)

/-- Whether a typed file with this stem only declares. -/
def declares (stem : List Char) (anyInfix : Bool) : Bool :=
  let parts := stem.splitOn '.'
  parts.length != 1 && (parts.getLast? == some ['d'] || (anyInfix && (parts.drop 1).contains ['d']))

def ofPath? (path : String) : Option Dialect :=
  match fileName path.toList with
  | none => none
  | some name =>
      let (stem, extension) := splitExtension name
      match String.ofList extension with
      | "js" | "mjs" => some plain
      | "cjs" => some { plain with isModule := false }
      | "jsx" => some tagged
      | "ts" => some { typescript with declaresOnly := declares stem true }
      | "mts" => some { typescript with declaresOnly := declares stem false }
      | "cts" =>
          some { typescript with isModule := false, declaresOnly := declares stem false }
      | "tsx" => some typedTagged
      | _ => none

def ofPath (path : String) : Dialect :=
  (ofPath? path).getD typedTagged

end Dialect

end RouteWrap
