import RouteWrap.Syntax.Module

/-!
Names in a tree. `Tree.names` lists every name that occurs as a binding, a reference or a label;
`Tree.escaping` lists the bindings below a tree that are visible outside it.
-/

namespace RouteWrap

abbrev Binding := Binder × String

mutual

/-- Names bound, referred to or used as labels. -/
def Tree.names : Tree → List String
  | .absent => []
  | .ref _ _ n => [n]
  | .bind _ _ n => [n]
  | .label _ n => [n]
  | .node _ _ ps => Tree.namesList ps

def Tree.namesList : List Tree → List String
  | [] => []
  | t :: ts => t.names ++ Tree.namesList ts

end

mutual

/-- Bindings that no scope inside the tree keeps. -/
def Tree.escaping : Tree → List Binding
  | .bind _ b n => [(b, n)]
  | .node _ f ps => (Tree.escapingList ps).filter fun b => !f.keeps b.1
  | _ => []

def Tree.escapingList : List Tree → List Binding
  | [] => []
  | t :: ts => t.escaping ++ Tree.escapingList ts

end

/-- Bindings that a form with these parts keeps to itself. -/
def Form.kept (f : Form) (ps : List Tree) : List Binding :=
  (Tree.escapingList ps).filter fun b => f.keeps b.1

def Module.names (m : Module) : List String :=
  Tree.namesList m.trees

/-- Bindings of the module's own scope. -/
def Module.bindings (m : Module) : List Binding :=
  Tree.escapingList m.trees

@[simp] theorem Tree.namesList_append (ts us : List Tree) :
    Tree.namesList (ts ++ us) = Tree.namesList ts ++ Tree.namesList us := by
  induction ts with
  | nil => simp [Tree.namesList]
  | cons t ts ih => simp [Tree.namesList, ih]

@[simp] theorem Tree.escapingList_append (ts us : List Tree) :
    Tree.escapingList (ts ++ us) = Tree.escapingList ts ++ Tree.escapingList us := by
  induction ts with
  | nil => simp [Tree.escapingList]
  | cons t ts ih => simp [Tree.escapingList, ih]

end RouteWrap
