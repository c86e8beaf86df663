import RouteWrap.Proofs.ForwardGrammar
import RouteWrap.Proofs.NamePlaces

/-!
An expression that is a name is read where the name stands. Most readers of expressions give a node
of their own; those that may hand on what they read hand on the place with it.
-/

namespace RouteWrap

open P

/-- The name that an expression is, type arguments after it left aside. -/
def Tree.reference? : Tree → Option Name
  | .ref s _ n => some ⟨s, n⟩
  | .expr _ .instantiation (callee :: _) => callee.reference?
  | _ => none

namespace Grammar

/-- What is read is no name. -/
def Unnamed (m : P Tree) : Prop := ∀ c, (m.run c).1.reference? = none

namespace Unnamed

theorem after {α : Type} {m : P α} {f : α → P Tree} (rest : ∀ a, Unnamed (f a)) :
    Unnamed (m >>= f) := fun _ => rest _ _

theorem pure {t : Tree} (other : t.reference? = none) : Unnamed (pure t) := fun _ => other

end Unnamed

/-- If an expression is read, it is no name. -/
def UnnamedIfAny (m : P (Option Tree)) : Prop := ∀ c, ∀ e ∈ (m.run c).1, e.reference? = none

namespace UnnamedIfAny

theorem none : UnnamedIfAny (pure none) := fun _ => nofun

theorem some {e : Tree} (other : e.reference? = .none) : UnnamedIfAny (pure (some e)) :=
  fun _ _ same => Option.some.inj same ▸ other

theorem after {α : Type} {m : P α} {f : α → P (Option Tree)} (rest : ∀ a, UnnamedIfAny (f a)) :
    UnnamedIfAny (m >>= f) := fun _ => rest _ _

theorem following {m : P Tree} {f : Tree → P (Option Tree)} (first : Unnamed m)
    (rest : ∀ e, e.reference? = .none → UnnamedIfAny (f e)) : UnnamedIfAny (m >>= f) :=
  fun c => rest _ (first c) _

theorem tryRead {m : P Tree} (unnamed : Unnamed m) : UnnamedIfAny (tryRead m) := by
  refine .after fun c => .following unnamed fun e other => .after fun fatal => ?_
  split
  · exact .after fun _ => none
  · exact some other

theorem given {m : P (Option Tree)} {f : Option Tree → P (Option Tree)} (first : UnnamedIfAny m)
    (rest : ∀ e?, (∀ e ∈ e?, e.reference? = .none) → UnnamedIfAny (f e?)) :
    UnnamedIfAny (m >>= f) :=
  fun c => rest _ (first c) _

theorem attempt {m : P (Option Tree)} (each : UnnamedIfAny m) : UnnamedIfAny (attempt m) := by
  refine .after fun c => .given each fun e? others => ?_
  cases e? with
  | none => exact .after fun _ => none
  | some e => exact some (others e rfl)

end UnnamedIfAny

theorem Unnamed.given {m : P (Option Tree)} {f : Option Tree → P Tree} (first : UnnamedIfAny m)
    (rest : ∀ e?, (∀ e ∈ e?, e.reference? = none) → Unnamed (f e?)) : Unnamed (m >>= f) :=
  fun c => rest _ (first c) _

/-- If what is read is a name, it is read where it stands. -/
abbrev Refers (m : P Tree) : Prop := Adds m fun t => t.reference?.toList

/-- The expressions of a grammar that may be names are read where these stand. -/
class Referring (g : Grammar) : Prop where
  assignment : ∀ allow, Refers (g.assignment allow)
  binary : ∀ level, Refers (g.binary level)
  unary : Refers g.unary
  leftHand : Refers g.leftHand
  element : ∀ s between, Unnamed (g.element s between)

variable {g : Grammar} {before ns : List Name}

/-- An expression that is no name leaves aside what was a name before. -/
theorem sublist_of_unnamed {t : Tree} (other : t.reference? = none) :
    (before ++ t.reference?.toList).Sublist (before ++ ns) := by
  rw [other]
  exact (List.Sublist.refl _).append (List.nil_sublist _)

theorem places_unnamed {m : P Tree} [Forward m] (unnamed : Unnamed m) :
    Places (before ++ ns) m fun t => before ++ t.reference?.toList :=
  .of_gives fun c => sublist_of_unnamed (unnamed c)

theorem refers_of_unnamed {m : P Tree} [Forward m] (unnamed : Unnamed m) : Refers m :=
  fun before => .of_gives fun c => by simp [unnamed c]

/-! Literals -/

theorem unnamed_stringLiteral : Unnamed stringLiteral := by
  unfold stringLiteral
  refine .after fun t => ?_
  split
  · exact .after fun _ => .pure rfl
  · exact .after fun _ => .pure rfl

theorem unnamed_numeral {k : NumeralKind} : Unnamed (numeral k) := by
  unfold numeral
  refine .after fun t => .after fun _ => ?_
  split <;> exact .pure rfl

theorem unnamed_regexLiteral : Unnamed regexLiteral := by
  unfold regexLiteral
  refine .after fun _ => .after fun t => .after fun c => ?_
  split
  · exact .after fun _ => .pure rfl
  · exact .after fun _ => .pure rfl

/-! Primary expressions -/

theorem unnamed_array : Unnamed (array g) := by
  unfold array
  refine .after fun s => .after fun _ => .after fun found => ?_
  dsimp only
  split
  · exact .after fun _ => .after fun _ => .after fun span => .pure rfl
  · exact .after fun _ => .after fun span => .pure rfl

theorem unnamed_parenthesized : Unnamed (parenthesized g) := by
  unfold parenthesized
  refine .after fun s => .after fun _ => .after fun inner => .after fun found => ?_
  dsimp -zeta only
  extract_lets rest
  have unnamed (u : Unit) : Unnamed (rest u) := by
    dsimp only [rest]
    split
    · exact .after fun _ => .after fun _ => .pure rfl
    · exact .after fun span => .after fun _ => .after fun span => .pure rfl
  clear_value rest
  split
  · exact .after fun _ => unnamed ()
  · exact unnamed ()

theorem unnamed_construction : Unnamed (construction g) := by
  unfold construction
  refine .after fun s => .after fun _ => .after fun dot => ?_
  split
  · refine .after fun isTarget => ?_
    split
    · exact .after fun _ => .after fun span => .pure rfl
    · exact .after fun _ => .after fun _ => .pure rfl
  refine .after fun found => ?_
  split
  split
  refine .after fun opens => ?_
  extract_lets constructed
  have unnamed (as : List Tree) : Unnamed (constructed as) := by
    dsimp only [constructed]
    split
    · refine .after fun _ => ?_
      split
      · exact .after fun _ => .after fun span => .pure rfl
      · exact .after fun span => .pure rfl
    split
    · exact .after fun _ => .after fun span => .pure rfl
    · exact .after fun span => .pure rfl
  clear_value constructed
  split
  · exact .after fun as => unnamed as
  · exact unnamed []

theorem unnamed_importCall {s : Nat} {phase : ImportPhase} : Unnamed (importCall g s phase) := by
  unfold importCall
  refine .after fun _ => .after fun isEmpty => ?_
  split
  · exact .after fun _ => .pure rfl
  refine .after fun source => .after fun comma => .after fun isEnd => ?_
  extract_lets called
  have unnamed (options : Tree) : Unnamed (called options) := fun _ => rfl
  clear_value called
  split
  · exact .after fun options => unnamed options
  · exact unnamed .absent

theorem unnamed_importExpression : Unnamed (importExpression g) := by
  unfold importExpression
  refine .after fun s => .after fun _ => .after fun dot => ?_
  split
  · refine .after fun isMeta => ?_
    split
    · exact .after fun _ => .after fun span => .pure rfl
    refine .after fun isSource => ?_
    split
    · exact .after fun _ => unnamed_importCall
    refine .after fun isDefer => ?_
    split
    · exact .after fun _ => unnamed_importCall
    · exact .after fun _ => .after fun _ => .pure rfl
  · refine .after fun opens => ?_
    split
    · exact unnamed_importCall
    · exact .after fun _ => .pure rfl

theorem unnamed_superExpression : Unnamed superExpression := by
  unfold superExpression
  refine .after fun t => .after fun _ => .after fun dot => .after fun call => .after fun index => ?_
  dsimp only
  split
  · exact .after fun _ => .pure rfl
  · exact .pure rfl

theorem unnamed_classExpression : Unnamed (classExpression g) := by
  unfold classExpression
  refine .after fun s => .after fun ds => .after fun isClass => ?_
  split
  · exact .after fun d => .pure rfl
  · exact .after fun _ => .pure rfl

theorem refers_reference : Refers reference := by
  refine fun before => ⟨inferInstance, fun c => .token ?_⟩
  split
  · next named =>
    refine .keeping rfl fun x c₁ same₁ => ?_
    refine .keeping (token_checkName _ _ _ _) fun _ c₂ same₂ => ?_
    have same : c₂.token = c.token := same₂.trans same₁
    refine .bind (places_move (n := ⟨c.token.span, c.token.text⟩) ?_ ?_) fun _ => .pure (.refl _)
    · rw [same]
      exact Kind.isText_of_isName named
    · rw [same]
  · exact (Places.refused isSome_fatal_unexpected).places c

theorem refers_primary [g.Onward] : Refers (primary g) := by
  have other {m : P Tree} (forward : Forward m) (unnamed : Unnamed m) : Refers m :=
    refers_of_unnamed unnamed
  intro before
  unfold primary
  refine .on fun k => ?_
  split
  · exact refers_reference before
  · exact other inferInstance unnamed_stringLiteral before
  · exact other inferInstance unnamed_numeral before
  · exact other inferInstance (fun _ => rfl) before
  · exact other inferInstance (fun _ => rfl) before
  · exact other inferInstance unnamed_parenthesized before
  · exact other inferInstance unnamed_array before
  · exact other inferInstance (fun _ => rfl) before
  · exact other inferInstance unnamed_regexLiteral before
  · exact other inferInstance unnamed_regexLiteral before
  · exact other inferInstance unnamed_classExpression before
  · exact other inferInstance (fun _ => rfl) before
  · exact other inferInstance (fun _ => rfl) before
  · exact other inferInstance (fun _ => rfl) before
  · exact other inferInstance (fun _ => rfl) before
  · exact other inferInstance (fun _ => rfl) before
  · exact other inferInstance unnamed_classExpression before
  · exact other inferInstance unnamed_construction before
  · exact other inferInstance unnamed_importExpression before
  · exact other inferInstance unnamed_superExpression before
  · refine .on fun isFunction => ?_
    split
    · exact other inferInstance (fun _ => rfl) before
    · exact refers_reference before
  · exact refers_reference before

/-! Members and calls -/

theorem unnamed_memberAfter {s : Nat} {isOptional : Bool} {object : Tree} :
    Unnamed (memberAfter g s isOptional object) := by
  unfold memberAfter
  refine .after fun isPrivate => ?_
  split
  · exact .after fun n => .after fun span => .pure rfl
  · exact .after fun n => .after fun span => .pure rfl

theorem unnamed_taggedTemplate {s : Nat} {inChain : Bool} {tag types : Tree} :
    Unnamed (taggedTemplate g s inChain tag types) := by
  unfold taggedTemplate
  refine .after fun offset => .after fun t => ?_
  dsimp only
  split
  · exact .after fun _ => .after fun span => .pure rfl
  · exact .after fun span => .pure rfl

section

variable {s : Nat} {first : Tree} {inChain : Bool}

/-- An expression that is no name takes the place of the one before. -/
theorem places_instead {m : P Tree} (forward : Forward m) (unnamed : Unnamed m)
    (inChain more : Bool) :
    Places (before ++ ns) (do return ((← m, inChain), more))
      fun r => before ++ r.1.1.reference?.toList :=
  .of_gives fun c => sublist_of_unnamed (unnamed c)

theorem places_memberTail [g.Onward] :
    Places (before ++ first.reference?.toList) (memberTail g s first inChain)
      fun r => before ++ r.1.reference?.toList := by
  unfold memberTail
  refine places_iterate (fun (r : Tree × Bool) => before ++ r.1.reference?.toList) (.refl _)
    ?_
  rintro ⟨t, inChain⟩
  refine .on fun fatal => ?_
  have kept (inChain more : Bool) : Places (before ++ t.reference?.toList)
      (pure ((t, inChain), more)) fun r => before ++ r.1.1.reference?.toList := .pure (.refl _)
  have instantiated (types : Tree) : Places (before ++ t.reference?.toList) (do
      return ((Tree.expr (← since s) .instantiation [t, types], inChain), true))
        fun r => before ++ r.1.1.reference?.toList :=
    .on fun span => .pure (.refl _)
  split
  · exact kept _ _
  refine .on fun k => ?_
  split
  · exact .on fun _ => places_instead inferInstance unnamed_memberAfter _ _
  · refine .on fun c => ?_
    split
    · exact kept _ _
    · exact places_instead inferInstance (fun _ => rfl) _ _
  · refine .on fun next => ?_
    split
    · exact .on fun _ => places_instead inferInstance (fun _ => rfl) _ _
    split
    · exact .on fun _ => places_instead inferInstance unnamed_memberAfter _ _
    · exact kept _ _
  · refine .on fun types => .on fun newline => ?_
    split
    · exact .on fun _ => .on fun span => .pure (sublist_of_unnamed rfl)
    · exact kept _ _
  · split <;> exact places_instead inferInstance unnamed_taggedTemplate _ _
  · split <;> exact places_instead inferInstance unnamed_taggedTemplate _ _
  · refine .on fun types? => ?_
    split
    · exact instantiated _
    · exact kept _ _
  · refine .on fun types? => ?_
    split
    · exact instantiated _
    · exact kept _ _
  · exact kept _ _

theorem places_callTail [g.Onward] :
    Places (before ++ first.reference?.toList) (callTail g s first inChain)
      fun r => before ++ r.1.reference?.toList := by
  unfold callTail
  refine places_iterate (fun (r : Tree × Bool) => before ++ r.1.reference?.toList) (.refl _)
    ?_
  rintro ⟨t, inChain⟩
  refine .on fun fatal => ?_
  split
  · exact .pure (.refl _)
  refine .bindPair places_memberTail fun t inChain => .on fun link => .on fun isOptional => ?_
  extract_lets inChain' called
  have called (types : Tree) : Places (before ++ t.reference?.toList) (called types)
      fun r => before ++ r.1.1.reference?.toList := by
    refine .on fun k => ?_
    split
    · exact places_instead inferInstance unnamed_taggedTemplate _ _
    split
    next callee types' apart =>
    have same : callee.reference? = t.reference? := by
      split at apart <;> cases apart <;> rfl
    rw [← same]
    refine .on fun opens => ?_
    split
    · exact .on fun as => .on fun span => .pure (sublist_of_unnamed rfl)
    extract_lets given
    have given (u : Unit) : Places (before ++ callee.reference?.toList) (given u)
        fun r => before ++ r.1.1.reference?.toList := by
      dsimp only [given]
      split
      · exact .pure (.refl _)
      · exact .on fun span => .pure (.refl _)
    split
    · exact .on fun _ => given ()
    · exact given ()
  split
  · exact .on fun types => called _
  · exact called .absent

end

theorem reference?_chained (s : Span) (inChain : Bool) (t : Tree) :
    (chained s inChain t).reference?.toList.Sublist t.reference?.toList := by
  unfold chained
  split
  · exact .refl _
  split
  · exact List.nil_sublist _
  all_goals exact .refl _

theorem adds_readMembers [g.Onward] : Adds (readMembers g) fun r => r.1.reference?.toList := by
  intro before
  unfold readMembers
  exact .on fun s => .bind (refers_primary before) fun first => places_memberTail

theorem refers_readLeftHand [g.Onward] : Refers (readLeftHand g) := by
  intro before
  unfold readLeftHand
  refine .on fun s => .bindPair (adds_readMembers before) fun t inChain => ?_
  refine .bindPair places_callTail fun t inChain => .on fun span => .pure ?_
  exact (List.Sublist.refl _).append (reference?_chained _ _ _)

/-! Operators -/

theorem unnamed_awaitExpression : Unnamed (awaitExpression g) := by
  unfold awaitExpression
  refine .after fun s => .after fun c => ?_
  dsimp only
  split
  · exact .after fun _ => fun _ => rfl
  · exact fun _ => rfl

theorem unnamed_yieldExpression : Unnamed (yieldExpression g) := by
  unfold yieldExpression
  refine .after fun s => .after fun c => ?_
  extract_lets inGenerator yielded
  have yielded (given : Bool × Tree) : Unnamed (yielded given) := by
    dsimp only [yielded]
    split
    · exact .after fun _ => .after fun span => .pure rfl
    · exact .after fun span => .pure rfl
  refine .after fun _ => .after fun newline => ?_
  split
  · exact yielded (false, .absent)
  refine .after fun delegate => .after fun k => ?_
  extract_lets isEmpty
  split
  · exact yielded (delegate, .absent)
  · exact .after fun e => yielded (delegate, e)

theorem unnamed_elementExpression [referring : g.Referring] :
    Unnamed (elementExpression g) :=
  .after fun s => .after fun _ => referring.element s false

/-! Arrows -/

theorem unnamedIfAny_arrow? {allow : Bool} : UnnamedIfAny (arrow? g allow) := by
  have given {h : ArrowHead} {allow : Bool} : Unnamed (arrowFrom g h allow) := fun _ => rfl
  unfold arrow?
  refine .after fun chance => ?_
  split
  · exact .none
  · exact .after fun h => .following given fun e => .some
  · refine .attempt (.after fun h? => ?_)
    split
    · exact .none
    · refine .following given fun e other => .after fun colon => ?_
      split
      · exact .none
      · exact .some other

theorem unnamedIfAny_asyncArrow? {allow : Bool} : UnnamedIfAny (asyncArrow? g allow) := by
  unfold asyncArrow?
  refine .after fun isAsync => ?_
  extract_lets arrow
  have arrow (isArrow : Bool) : UnnamedIfAny (arrow isArrow) := by
    dsimp only [arrow]
    split
    · exact .none
    · exact .after fun t => .after fun _ => .after fun n => .following (fun _ => rfl) fun e => .some
  split
  · exact .after fun isArrow => arrow isArrow
  · exact arrow false

variable [g.Onward]

theorem places_binaryTail {s : Nat} {left : Tree} {level : Precedence} :
    Places (before ++ left.reference?.toList) (binaryTail g s left level)
      fun t => before ++ t.reference?.toList := by
  unfold binaryTail
  refine places_iterate (fun (t : Tree) => before ++ t.reference?.toList) (.refl _)
    fun left => .on fun fatal => ?_
  split
  · exact .pure (.refl _)
  refine .on fun _ => .on fun k => ?_
  split
  · refine .on fun newline => ?_
    split
    · exact .pure (.refl _)
    refine .on fun _ => .on fun type => .on fun span => ?_
    split
    · refine .on fun types => ?_
      dsimp only
      split
      · exact .on fun _ => .pure (sublist_of_unnamed rfl)
      · exact .pure (sublist_of_unnamed rfl)
    · refine .on fun types => ?_
      dsimp only
      split
      · exact .on fun _ => .pure (sublist_of_unnamed rfl)
      · exact .pure (sublist_of_unnamed rfl)
  split
  · exact .pure (.refl _)
  extract_lets p stops
  refine .on fun c => ?_
  split
  · exact .pure (.refl _)
  refine .on fun _ => .on fun right => ?_
  extract_lets made joined
  have made (u : Unit) : Places (before ++ left.reference?.toList) (made u)
      fun r => before ++ r.1.reference?.toList :=
    .on fun span => .pure (sublist_of_unnamed rfl)
  have joined (u : Unit) : Places (before ++ left.reference?.toList) (joined u)
      fun r => before ++ r.1.reference?.toList := by
    dsimp only [joined]
    split
    · exact .on fun _ => made ()
    · exact made ()
  split
  · exact .on fun _ => joined ()
  · exact joined ()

theorem places_conditionTail {s : Nat} {test : Tree} {allow : Bool} :
    Places (before ++ test.reference?.toList) (conditionTail g s test allow)
      fun t => before ++ t.reference?.toList := by
  unfold conditionTail
  refine .on fun opens => ?_
  split
  · exact .pure (.refl _)
  · exact places_unnamed fun _ => rfl

theorem reference?_markPure (t : Tree) : (markPure t).reference? = t.reference? := by
  fun_induction markPure t <;> rfl

theorem reference?_markFunction (t : Tree) : (markFunction t).reference? = t.reference? := by
  unfold markFunction
  split <;> rfl

section

variable [referring : g.Referring]

theorem refers_updateExpression : Refers (updateExpression g) := by
  intro before
  unfold updateExpression
  refine .on fun s => .on fun k => ?_
  split
  · exact .on fun _ => .on fun t => .on fun t => refers_of_unnamed (fun _ => rfl) before
  refine .on fun opens => ?_
  split
  · exact refers_of_unnamed unnamed_elementExpression before
  refine .bind (referring.leftHand before) fun t => .on fun k => ?_
  split
  · refine .on fun newline => ?_
    split
    · exact .pure (.refl _)
    · exact .on fun fatal => places_unnamed (by
        dsimp only
        split
        · exact fun _ => rfl
        · exact .after fun _ => .after fun _ => .after fun span => .pure rfl)
  · exact .pure (.refl _)

theorem refers_readUnary : Refers (readUnary g) := by
  intro before
  unfold readUnary
  refine .on fun k => ?_
  split
  · exact .on fun s => .on fun _ => .on fun t => refers_of_unnamed (fun _ => rfl) before
  refine .on fun opens => ?_
  split
  · refine .on fun tags => ?_
    split
    · exact refers_of_unnamed unnamed_elementExpression before
    refine .on fun types => ?_
    split
    · exact refers_of_unnamed (fun _ => rfl) before
    refine refers_of_unnamed (.given (.tryRead unnamed_elementExpression) fun e? others => ?_)
      before
    cases e? with
    | none => exact .after fun _ => .pure rfl
    | some e => exact .after fun _ => .pure (others e rfl)
  refine .on fun awaits => ?_
  split
  · exact refers_of_unnamed unnamed_awaitExpression before
  · exact refers_updateExpression before

theorem refers_readBinary {level : Precedence} : Refers (readBinary g level) := by
  intro before
  unfold readBinary
  refine .on fun t => .on fun c => ?_
  extract_lets operated
  have operated (left : Tree) : Places (before ++ left.reference?.toList) (operated left)
      fun t => before ++ t.reference?.toList := places_binaryTail
  split
  · refine .bind (refers_of_unnamed (m := privateName) (fun _ => rfl) before) fun name => ?_
    exact .on fun _ => operated name
  · refine .bind (referring.unary before) fun e => ?_
    refine (operated _).aside ?_
    split
    · rw [reference?_markPure]
    · exact .refl _

/-! Assignments -/

/-- An expression that is read before the others is no name, and these are read where it is not. -/
theorem refers_or {m : P (Option Tree)} [forward : Forward m] {f : Option Tree → P Tree}
    (first : UnnamedIfAny m) (found : ∀ e, f (some e) = pure e) (rest : Refers (f none)) :
    Refers (m >>= f) := by
  intro before
  refine ⟨.followed forward fun e? => ?_, fun c => ?_⟩
  · cases e? with
    | none => exact (rest []).forward
    | some e => rw [found]; infer_instance
  · refine .on ?_
    cases read : (m.run c).1 with
    | none => exact (rest before).places _
    | some e =>
        rw [found]
        exact (refers_of_unnamed (.pure (first c e read)) before).places _

theorem refers_readAssignment {allow : Bool} : Refers (readAssignment g allow) := by
  intro before
  unfold readAssignment
  refine .on fun isYield => ?_
  split
  · exact refers_of_unnamed unnamed_yieldExpression before
  refine .on fun t => ?_
  refine refers_or unnamedIfAny_arrow? (fun _ => rfl) ?_ before
  refine refers_or unnamedIfAny_asyncArrow? (fun _ => rfl) ?_
  intro before
  refine .bind (referring.binary .comma before) fun left => ?_
  extract_lets assigned
  have assigned (u : Unit) : Places (before ++ left.reference?.toList) (assigned u)
      fun t => before ++ t.reference?.toList := by
    refine .on fun k => ?_
    split
    · refine .on fun fatal => ?_
      split
      · exact .pure (.refl _)
      · exact places_unnamed (.after fun _ => .after fun _ => .after fun _ => fun _ => rfl)
    · refine .bind places_conditionTail fun e => .pure ?_
      split
      · rw [reference?_markFunction]
      · exact .refl _
  split
  · refine .on fun arrow => ?_
    split
    · exact places_unnamed fun _ => rfl
    · exact assigned ()
  · exact assigned ()

end

/-! Elements -/

omit [g.Onward] in
theorem unnamed_readElement {s : Nat} {between : Bool} : Unnamed (readElement g s between) := by
  unfold readElement
  refine .after fun isFragment => ?_
  split
  · exact .after fun _ => .after fun cs => .after fun _ => .after fun close => .after fun _ =>
      .pure rfl
  refine .after fun name => .after fun types => .after fun as => .after fun isClosed => ?_
  split
  · exact .after fun close => .after fun _ => .pure rfl
  refine .after fun _ => .after fun cs => .after fun _ => .after fun closing => ?_
  exact .after fun fatal => fun _ => by dsimp only; split <;> rfl

end Grammar

end RouteWrap
