import RouteWrap.Toml.Value

/-!
TOML documents. `Toml.parse` gives the entries of a document, or the place where it cannot be read
on.
-/

namespace RouteWrap.Toml

/-- The tables read so far, and the header that what follows belongs to. -/
structure Draft where
  tables : Tables
  header : List String
deriving Repr, Inhabited

/-- Where a document is malformed; lines and columns count from one. -/
structure Malformed where
  line : Nat
  column : Nat
deriving DecidableEq, Repr, Inhabited

namespace Reader

def assignment : Reader (DottedKey × Data) := do
  let k ← key
  sure do
    char '='
    blanks
    let d ← value (depthLimit - 1)
    trailing
    return (k, d)

/-- The key between the brackets of a header. -/
def headerKey (opening closing : List Char) : Reader DottedKey := do
  word opening
  let k ← sure key
  sure (word closing)
  sure trailing
  return k

/-- A header; a bracket at the very end is none. -/
def header (draft : Draft) : Reader Draft := do
  match (← rest).chars with
  | [] | [_] => refuse
  | _ :: '[' :: _ =>
      demand do
        let k ← headerKey ['[', '['] [']', ']']
        return (draft.tables.openElement? k).map fun tables => ⟨tables, k.names⟩
  | _ =>
      demand do
        let k ← headerKey ['['] [']']
        return (draft.tables.openTable? k).map fun tables => ⟨tables, k.names⟩

def entry (draft : Draft) : Reader Draft :=
  demand do
    let (k, d) ← assignment
    return (draft.tables.insertUnder? draft.header k d).map fun tables =>
      { draft with tables }

def expression (draft : Draft) : Reader Draft := do
  match ← next? with
  | none => refuse
  | some '#' => sure (do comment; lineEnd; return draft)
  | some '[' => sure (header draft)
  | some '\n' | some '\r' => newline; return draft
  | some _ => sure (entry draft)

def expressions : Nat → Draft → Reader Draft
  | 0, draft => return draft
  | n + 1, draft => do
      match ← optional (do let d ← expression draft; blanks; return d) with
      | some draft => expressions n draft
      | none => return draft

def document : Reader Draft := do
  discard (optional (char '\uFEFF'))
  blanks
  let draft ← expressions ((← rest).chars.length + 1) default
  atEnd
  return draft

end Reader

namespace Malformed

/-- Characters with the number of bytes before each. -/
def withOffsets : Nat → List Char → List (Nat × Char)
  | _, [] => []
  | n, c :: rest => (n, c) :: withOffsets (n + c.utf8Size) rest

/-- The place of an offset. The end of a document is one column after its last byte, also where
that byte ends a line; and a place at which a longer character begins counts the bytes of its line,
not the characters. -/
def ofOffset (cs : List Char) (offset : Nat) : Malformed :=
  let total := Reader.bytes cs
  if total == 0 then ⟨1, offset + 1⟩
  else
    let index := min offset (total - 1)
    let before := (withOffsets 0 cs).filter fun p => p.1 < index
    let breaks := before.filter fun p => p.2 == '\n'
    let lineStart := match breaks.getLast? with
      | some p => p.1 + 1
      | none => 0
    let through := (withOffsets 0 cs).filter fun p => lineStart ≤ p.1 && p.1 ≤ index
    let whole := through.getLast?.all fun p => p.1 + p.2.utf8Size == index + 1
    let column := if whole then through.length - 1 else index - lineStart
    ⟨breaks.length + 1, column + (offset - index) + 1⟩

end Malformed

def parse (text : String) : Except Malformed (Entries Data) :=
  match Reader.document ⟨text.toList, 0⟩ with
  | .ok (draft, _) => .ok (Node.entries draft.tables)
  | .error e => .error (Malformed.ofOffset text.toList e.offset)

end RouteWrap.Toml
