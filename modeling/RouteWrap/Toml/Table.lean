import RouteWrap.Config.Data

/-!
The tables of TOML text while it is read. A table remembers what brought it about, for a table may
be extended in some ways and not in others; `Tables.insert?` sets a value under a dotted key, and
`openTable?` and `openElement?` carry out the two kinds of header.
-/

namespace RouteWrap.Toml

inductive Standing
  | opened
  /-- The header of a table inside it. -/
  | implied
  | dotted
deriving DecidableEq, Repr, Inhabited

inductive Node
  | value (d : Data)
  | table (standing : Standing) (entries : List (String × Node))
  /-- A list of tables, each opened by a header, the newest first. -/
  | tables (newest : List (String × Node)) (older : List (List (String × Node)))
deriving Repr, Inhabited

/-- One or more names, the last apart. -/
structure DottedKey where
  path : List String
  name : String
deriving DecidableEq, Repr, Inhabited

namespace DottedKey

def ofNames (first : String) : List String → DottedKey
  | [] => ⟨[], first⟩
  | second :: rest =>
      let k := ofNames second rest
      ⟨first :: k.path, k.name⟩

def names (k : DottedKey) : List String := k.path ++ [k.name]

end DottedKey

abbrev Tables := Entries Node

namespace Tables

/-- Change the table at a path, which a header or a dotted key leads to. Tables that are not there
are made on the way; a dotted key does not lead into a table that has a header. -/
def within? (byKey : Bool) (change : Standing → Tables → Option Tables) :
    List String → Standing → Tables → Option Tables
  | [], standing, es => change standing es
  | k :: path, _, es =>
      match es.get? k with
      | none =>
          let standing := if byKey then Standing.dotted else .implied
          (within? byKey change path standing []).map fun inner =>
            es.put k (.table standing inner)
      | some (.value _) => none
      | some (.tables newest older) =>
          (within? byKey change path .opened newest).map fun inner =>
            es.put k (.tables inner older)
      | some (.table standing inner) =>
          if byKey && standing == .opened then none
          else
            (within? byKey change path standing inner).map fun inner =>
              es.put k (.table standing inner)

/-- Set a value under a dotted key. Only a dotted key may extend what dotted keys made, and it may
extend nothing else. -/
def insert? (k : DottedKey) (d : Data) : Tables → Option Tables :=
  within? true (fun standing es =>
    if (standing == .dotted) == k.path.isEmpty then none
    else if (es.get? k.name).isSome then none
    else some (es.put k.name (.value d))) k.path .opened

/-- The same in the table that the last header opened. -/
def insertUnder? (header : List String) (k : DottedKey) (d : Data) : Tables → Option Tables :=
  within? false (fun _ es => insert? k d es) header .opened

def openTable? (k : DottedKey) : Tables → Option Tables :=
  within? false (fun _ es =>
    match es.get? k.name with
    | none => some (es.put k.name (.table .opened []))
    | some (.table .implied inner) => some (es.put k.name (.table .opened inner))
    | some _ => none) k.path .opened

def openElement? (k : DottedKey) : Tables → Option Tables :=
  within? false (fun _ es =>
    match es.get? k.name with
    | none => some (es.put k.name (.tables [] []))
    | some (.tables newest older) => some (es.put k.name (.tables [] (newest :: older)))
    | some _ => none) k.path .opened

end Tables

mutual

def Node.data : Node → Data
  | .value d => d
  | .table _ entries => .table (Node.entries entries)
  | .tables newest older =>
      .list (Node.elements older |>.reverse |>.append [.table (Node.entries newest)])

def Node.entries : List (String × Node) → List (String × Data)
  | [] => []
  | (k, n) :: rest => (k, n.data) :: Node.entries rest

def Node.elements : List (List (String × Node)) → List Data
  | [] => []
  | es :: rest => .table (Node.entries es) :: Node.elements rest

end

end RouteWrap.Toml
