import RouteWrap.Scope.Names

/-!
Renaming what a module's own bindings are referred to by. A reference follows the renaming unless
a binding in a scope around it, below the top of the module, answers it first; bindings, labels
and property names keep their spelling, so a shorthand property whose reference moves is written
out. Renaming with no new names changes nothing.
-/

namespace RouteWrap

/-- New names for some of the names bound at the top of a module. -/
abbrev Renaming := List (String × String)

namespace Renaming

def apply (σ : Renaming) (n : String) : String :=
  (σ.lookup n).getD n

@[simp] theorem apply_nil (n : String) : apply [] n = n := rfl

end Renaming

/-- Whether one of the bindings answers a reference. -/
def answers (hidden : List Binding) (use : Use) (n : String) : Bool :=
  hidden.any fun b => b.2 == n && b.1.answers use

/-- The form around renamed parts: a property stays shorthand while its reference stays. -/
def Form.reformed (f : Form) (before after : List Tree) : Form :=
  match f, before, after with
  | .expression (.property true computed), [_, .ref _ _ n], [_, .ref _ _ n'] =>
      .expression (.property (n == n') computed)
  | f, _, _ => f

mutual

/-- `t` renamed below scopes that keep the bindings `hidden`. -/
def Tree.renameUnder (σ : Renaming) (hidden : List Binding) : Tree → Tree
  | .absent => .absent
  | .ref s u n => .ref s u (if answers hidden u n then n else σ.apply n)
  | .bind s b n => .bind s b n
  | .label s n => .label s n
  | .node s f ps =>
      let qs := Tree.renameListUnder σ (f.kept ps ++ hidden) ps
      .node s (f.reformed ps qs) qs

def Tree.renameListUnder (σ : Renaming) (hidden : List Binding) : List Tree → List Tree
  | [] => []
  | t :: ts => t.renameUnder σ hidden :: Tree.renameListUnder σ hidden ts

end

def Tree.rename (σ : Renaming) (t : Tree) : Tree :=
  t.renameUnder σ []

theorem Form.reformed_self (f : Form) (ps : List Tree) : f.reformed ps ps = f := by
  unfold Form.reformed
  split
  · simp
  · rfl

mutual

theorem Tree.renameUnder_nil (hidden : List Binding) (t : Tree) :
    t.renameUnder [] hidden = t := by
  cases t with
  | absent | bind | label => rfl
  | ref s u n => simp [Tree.renameUnder]
  | node s f ps => simp [Tree.renameUnder, Tree.renameListUnder_nil, Form.reformed_self]

theorem Tree.renameListUnder_nil (hidden : List Binding) (ts : List Tree) :
    Tree.renameListUnder [] hidden ts = ts := by
  cases ts with
  | nil => rfl
  | cons t ts =>
      simp [Tree.renameListUnder, Tree.renameUnder_nil, Tree.renameListUnder_nil]

end

@[simp] theorem Tree.rename_nil (t : Tree) : t.rename [] = t :=
  Tree.renameUnder_nil [] t

/-! Items -/

def LinkName.rename (σ : Renaming) : LinkName → LinkName
  | .name s t => .name s (σ.apply t)
  | n => n

def Declarator.rename (σ : Renaming) (d : Declarator) : Declarator :=
  { d with
    target := d.target.rename σ
    ascription := d.ascription.rename σ
    initial := d.initial.map (·.rename σ) }

def VariableDecl.rename (σ : Renaming) (d : VariableDecl) : VariableDecl :=
  { d with declarators := d.declarators.map (·.rename σ) }

/-- Bindings that all parts of a function see, its type parameters and parameters. What its body
declares is kept in the body. -/
def FunctionDecl.inner (d : FunctionDecl) : List Binding :=
  Form.kept (.expression .callable)
    [d.typeParameters, d.parameters, d.result, d.body.getD .absent]

def FunctionDecl.rename (σ : Renaming) (d : FunctionDecl) : FunctionDecl :=
  let part (t : Tree) : Tree := t.renameUnder σ d.inner
  { d with
    typeParameters := part d.typeParameters
    parameters := part d.parameters
    result := part d.result
    body := d.body.map part }

def ClassDecl.rename (σ : Renaming) (d : ClassDecl) : ClassDecl :=
  { d with decorators := d.decorators.rename σ, tail := d.tail.rename σ }

def Declaration.rename (σ : Renaming) : Declaration → Declaration
  | .variable d => .variable (d.rename σ)
  | .function d => .function (d.rename σ)
  | .classes d => .classes (d.rename σ)
  | .other t => .other (t.rename σ)

def DefaultValue.rename (σ : Renaming) : DefaultValue → DefaultValue
  | .declaration d => .declaration (d.rename σ)
  | .expression t => .expression (t.rename σ)

/-- What a list exports of the module itself is referred to; what it takes from another is not. -/
def ExportList.rename (σ : Renaming) (l : ExportList) : ExportList :=
  match l.request with
  | some _ => l
  | none =>
      { l with
        specifiers := l.specifiers.map fun e => { e with localName := e.localName.rename σ } }

def Item.rename (σ : Renaming) : Item → Item
  | .declaration d => .declaration (d.rename σ)
  | .exportDeclaration s d => .exportDeclaration s (d.rename σ)
  | .exportList l => .exportList (l.rename σ)
  | .exportDefault s v => .exportDefault s (v.rename σ)
  | .statement t => .statement (t.rename σ)
  | i => i

/-- The bindings of import declarations under new names. -/
def Item.renameImports (σ : Renaming) : Item → Item
  | .imports d =>
      .imports { d with
        specifiers := d.specifiers.map fun ss => ss.map fun s =>
          { s with localName := { s.localName with text := σ.apply s.localName.text } } }
  | i => i

theorem LinkName.rename_nil (n : LinkName) : n.rename [] = n := by
  cases n <;> rfl

theorem Declarator.rename_nil (d : Declarator) : d.rename [] = d := by
  cases d with
  | mk s d t a i => cases i <;> simp [Declarator.rename]

theorem VariableDecl.rename_nil (d : VariableDecl) : d.rename [] = d := by
  cases d
  simp [VariableDecl.rename, Declarator.rename_nil]

theorem FunctionDecl.rename_nil (d : FunctionDecl) : d.rename [] = d := by
  cases d with
  | mk s t n tp p r b => cases b <;> simp [FunctionDecl.rename, Tree.renameUnder_nil]

theorem ClassDecl.rename_nil (d : ClassDecl) : d.rename [] = d := by
  cases d
  simp [ClassDecl.rename]

theorem Declaration.rename_nil (d : Declaration) : d.rename [] = d := by
  cases d <;> simp [Declaration.rename, VariableDecl.rename_nil, FunctionDecl.rename_nil,
    ClassDecl.rename_nil]

theorem ExportList.rename_nil (l : ExportList) : l.rename [] = l := by
  cases l with
  | mk s t ss r => cases r <;> simp [ExportList.rename, LinkName.rename_nil]

theorem Item.rename_nil (i : Item) : i.rename [] = i := by
  cases i with
  | exportDefault s v =>
      cases v <;> simp [Item.rename, DefaultValue.rename, Declaration.rename_nil]
  | _ => simp [Item.rename, Declaration.rename_nil, ExportList.rename_nil]

theorem Item.renameImports_nil (i : Item) : i.renameImports [] = i := by
  cases i with
  | imports d =>
      cases d with
      | mk s t p ss r => cases ss <;> simp [Item.renameImports]
  | _ => rfl

end RouteWrap
