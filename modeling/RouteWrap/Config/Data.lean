import RouteWrap.Number.Signed

/-!
What a configuration source can say: plain values, lists, and tables of named values.
-/

namespace RouteWrap

inductive Data
  | text (s : String)
  | character (c : Char)
  | boolean (b : Bool)
  /-- A whole number, and whether its source knows negative ones. -/
  | integer (n : Int) (signed : Bool)
  | float (x : Signed64)
  | list (elements : List Data)
  | table (entries : List (String × Data))
deriving Repr, Inhabited

/-- Values by name, each name once; the order of names carries no meaning. -/
abbrev Entries (α : Type) := List (String × α)

namespace Entries

variable {α : Type}

def get? (es : Entries α) (name : String) : Option α :=
  (es.find? fun e => e.1 == name).map Prod.snd

/-- Set the value of a name: in place of the one it has, else at the end. -/
def put (name : String) (a : α) : Entries α → Entries α
  | [] => [(name, a)]
  | (k, b) :: rest => if k == name then (k, a) :: rest else (k, b) :: put name a rest

/-- The entry whose name comes first in the order of characters. -/
def least? (es : Entries α) : Option (String × α) :=
  es.foldl (fun best e =>
    match best with
    | none => some e
    | some b => if e.1 < b.1 then some e else some b) none

theorem get?_put_self (name : String) (a : α) (es : Entries α) :
    get? (put name a es) name = some a := by
  induction es with
  | nil => simp [put, get?]
  | cons e rest ih =>
      by_cases h : e.1 = name
      · simp [put, get?, h]
      · simpa [put, get?, h] using ih

theorem get?_put_of_ne {name other : String} (h : other ≠ name) (a : α) (es : Entries α) :
    get? (put name a es) other = get? es other := by
  induction es with
  | nil => simp [put, get?, Ne.symm h]
  | cons e rest ih =>
      by_cases he : e.1 = name
      · simp [put, get?, he, Ne.symm h]
      · by_cases ho : e.1 = other
        · simp [put, get?, ho, h]
        · simpa [put, get?, he, ho] using ih

end Entries

end RouteWrap
