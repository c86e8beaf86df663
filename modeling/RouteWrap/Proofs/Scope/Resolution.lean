import RouteWrap.Proofs.Scope.Renaming

/-!
Lexical scoping, and what it asks of a module whose imports move. The scopes around a phrase are
listed from the innermost outwards, down to but without the module's own; a reference belongs to
the first of them that answers it. A phrase is respelled when the references that belong to the
module and name an import that moves are spelled as the alias, and nothing else changes but that a
property whose value moved is written out.
-/

namespace RouteWrap

abbrev Scopes := List (List Binding)

namespace Scopes

def resolve (scopes : Scopes) (use : Use) (n : String) : Option Nat :=
  scopes.findIdx? fun bindings => answers bindings use n

/-- The reference is to a binding of the module itself. -/
def ResolvesToTop (scopes : Scopes) (top : List Binding) (use : Use) (n : String) : Prop :=
  resolve (scopes ++ [top]) use n = some scopes.length

theorem answers_flatten (scopes : Scopes) (use : Use) (n : String) :
    answers scopes.flatten use n = scopes.any fun bindings => answers bindings use n := by
  simp only [answers, List.any_flatten]

theorem resolvesToTop_iff {scopes : Scopes} {top : List Binding} {use : Use} {n : String} :
    scopes.ResolvesToTop top use n ↔
      answers scopes.flatten use n = false ∧ answers top use n = true := by
  rw [answers_flatten, List.any_eq_false]
  induction scopes with
  | nil => simp [ResolvesToTop, resolve, List.findIdx?_cons]
  | cons bindings scopes ih =>
      cases answered : answers bindings use n with
      | true => simp [ResolvesToTop, resolve, List.findIdx?_cons, answered]
      | false => simpa [ResolvesToTop, resolve, List.findIdx?_cons, answered] using ih

end Scopes

/-- A property is written out where its value is spelled otherwise. -/
inductive Form.Respelled : Form → List Tree → List Tree → Form → Prop
  | writtenOut {computed : Bool} {key key' : Tree} {s s' : Span} {use use' : Use} {n n' : String}
      (moved : n ≠ n') :
      Form.Respelled (.expression (.property true computed)) [key, .ref s use n]
        [key', .ref s' use' n'] (.expression (.property false computed))
  | same {f : Form} {ps qs : List Tree}
      (unmoved : ∀ computed key key' s s' use use' n n',
        f = .expression (.property true computed) → ps = [key, .ref s use n] →
          qs = [key', .ref s' use' n'] → n = n') :
      Form.Respelled f ps qs f

section

variable (top : List Binding) (moves : Renaming)

inductive Respells (scopes : Scopes) (use : Use) (n : String) : String → Prop
  | moved {a : String} (resolves : scopes.ResolvesToTop top use n) (moves : (n, a) ∈ moves) :
      Respells scopes use n a
  | kept (unmoved : scopes.ResolvesToTop top use n → n ∉ moves.map Prod.fst) :
      Respells scopes use n n

mutual

inductive Tree.Respelled : Scopes → Tree → Tree → Prop
  | absent {scopes : Scopes} : Tree.Respelled scopes .absent .absent
  | ref {scopes : Scopes} {s : Span} {use : Use} {n n' : String}
      (spelled : Respells top moves scopes use n n') :
      Tree.Respelled scopes (.ref s use n) (.ref s use n')
  | bind {scopes : Scopes} {s : Span} {b : Binder} {n : String} :
      Tree.Respelled scopes (.bind s b n) (.bind s b n)
  | label {scopes : Scopes} {s : Span} {n : String} :
      Tree.Respelled scopes (.label s n) (.label s n)
  | node {scopes : Scopes} {s : Span} {f f' : Form} {ps qs : List Tree}
      (parts : Tree.ListRespelled (f.kept ps :: scopes) ps qs) (form : f.Respelled ps qs f') :
      Tree.Respelled scopes (.node s f ps) (.node s f' qs)

inductive Tree.ListRespelled : Scopes → List Tree → List Tree → Prop
  | nil {scopes : Scopes} : Tree.ListRespelled scopes [] []
  | cons {scopes : Scopes} {t t' : Tree} {ts ts' : List Tree}
      (head : Tree.Respelled scopes t t') (tail : Tree.ListRespelled scopes ts ts') :
      Tree.ListRespelled scopes (t :: ts) (t' :: ts')

end

/-- A renaming that spells what moves as one of its aliases, where the module answers for it. -/
structure Follows (σ : Renaming) : Prop where
  moved : ∀ n ∈ moves.map Prod.fst, (n, σ.apply n) ∈ moves
  kept : ∀ n ∉ moves.map Prod.fst, σ.apply n = n
  answered : ∀ n ∈ moves.map Prod.fst, ∀ use, answers top use n = true

end

theorem Form.respelled_reformed (f : Form) (ps qs : List Tree) :
    f.Respelled ps qs (f.reformed ps qs) := by
  unfold Form.reformed
  split
  · next computed key s use n key' s' use' n' =>
    cases spelled : n == n' with
    | true =>
        refine .same ?_
        rintro _ _ _ _ _ _ _ _ _ - ⟨⟩ ⟨⟩
        exact beq_iff_eq.mp spelled
    | false => exact .writtenOut (beq_eq_false_iff_ne.mp spelled)
  · next other =>
    refine .same ?_
    rintro computed key key' s s' use use' n n' rfl rfl rfl
    exact absurd rfl (other computed key s use n key' s' use' n' rfl rfl)

variable {top : List Binding} {moves σ : Renaming}

theorem Follows.respells (follows : Follows top moves σ) (scopes : Scopes) (use : Use)
    (n : String) :
    Respells top moves scopes use n
      (if answers scopes.flatten use n then n else σ.apply n) := by
  by_cases hidden : answers scopes.flatten use n
  · rw [if_pos hidden]
    refine .kept fun resolves => ?_
    rw [(Scopes.resolvesToTop_iff.mp resolves).1] at hidden
    cases hidden
  · rw [if_neg hidden]
    by_cases moved : n ∈ moves.map Prod.fst
    · refine .moved (Scopes.resolvesToTop_iff.mpr ⟨?_, ?_⟩) (follows.moved n moved)
      · exact Bool.eq_false_iff.mpr hidden
      · exact follows.answered n moved use
    · rw [follows.kept n moved]
      exact .kept fun _ => moved

mutual

theorem Tree.respelled_renameUnder (follows : Follows top moves σ) (scopes : Scopes) (t : Tree) :
    t.Respelled top moves scopes (t.renameUnder σ scopes.flatten) := by
  cases t with
  | absent => exact .absent
  | ref s use n => exact .ref (follows.respells scopes use n)
  | bind s b n => exact .bind
  | label s n => exact .label
  | node s f ps =>
      exact .node (Tree.listRespelled_renameListUnder follows (f.kept ps :: scopes) ps)
        (f.respelled_reformed ps _)

theorem Tree.listRespelled_renameListUnder (follows : Follows top moves σ) (scopes : Scopes)
    (ts : List Tree) :
    Tree.ListRespelled top moves scopes ts (Tree.renameListUnder σ scopes.flatten ts) := by
  cases ts with
  | nil => exact .nil
  | cons t ts =>
      exact .cons (Tree.respelled_renameUnder follows scopes t)
        (Tree.listRespelled_renameListUnder follows scopes ts)

end

end RouteWrap
