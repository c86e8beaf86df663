import RouteWrap.Grammar.Expression
import RouteWrap.Proofs.Images
import RouteWrap.Proofs.QuietPhrases

/-!
Functions, classes, elements and expressions declare nothing outside themselves. A function
encloses what the statements in it declare, so that nothing has to be said of these, and an
expression of a function or class keeps its own name.
-/

namespace RouteWrap

open P

namespace Grammar

variable {g : Grammar} [g.Quiet]

/-! Functions -/

instance {d : FunctionDecl} : Meets d.callable := .enclosed rfl

instance {d : FunctionDecl} : Meets d.toExpression :=
  Meets.tree_iff.mpr fun b out => by rw [d.escaping_toExpression b out]; rfl

instance : Reads (functionExpression g) := by unfold functionExpression; infer_instance
instance {async generator : Bool} : Reads (method g async generator) := by
  unfold method; infer_instance
instance {h : ArrowHead} {allow : Bool} : Reads (arrowFrom g h allow) := by
  unfold arrowFrom
  exact .after fun body => .after fun span => Reads.of_meets (.enclosed rfl)
instance {allow : Bool} : Reads (arrow? g allow) := by
  unfold arrow?
  refine .after fun chance => ?_
  split
  · infer_instance
  · infer_instance
  · infer_instance
instance {s : Nat} {async pure allow : Bool} {t : Tree} :
    Reads (simpleArrow g s async pure t allow) := by
  unfold simpleArrow
  exact .after fun _ => .after fun body => .after fun span => Reads.of_meets (.enclosed rfl)
instance {allow : Bool} : Reads (asyncArrow? g allow) := by unfold asyncArrow?; infer_instance

/-! Classes -/

/-- What is expected of a class, whose name is declared, is said of its other parts. -/
instance : Expected ClassDecl := ⟨fun d => Meets d.decorators ∧ Meets d.tail⟩

instance {d : ClassDecl} [met : Meets d] : Meets d.toExpression := by
  refine .block rfl fun t listed b out declared hoisted => ?_
  have quiet (met : Meets t) : False := by
    rw [Meets.tree_iff.mp met b out] at declared
    cases declared
  simp only [List.mem_cons, List.not_mem_nil, or_false] at listed
  rcases listed with rfl | rfl | rfl
  · exact quiet met.meets.1
  · cases named : d.name with
    | none => simp [ClassDecl.binding, named, Tree.escaping] at out
    | some n =>
        simp only [ClassDecl.binding, named, Tree.escaping, List.mem_singleton] at out
        rw [out] at hoisted
        cases hoisted
  · exact quiet met.meets.2

instance {s : Span} {isAbstract declare : Bool} {decorators : Tree} [parts : Meets decorators]
    {name : Option Name} {tail : Tree} [body : Meets tail] :
    Meets (ClassDecl.mk s isAbstract declare decorators name tail) := ⟨parts, body⟩

instance : Expected Heritage := ⟨fun h => Meets h.bases ∧ Meets h.interfaces⟩

instance {bases : List (Tree × Tree)} [extended : Meets bases] {interfaces : Tree}
    [implemented : Meets interfaces] : Meets (Heritage.mk bases interfaces) :=
  ⟨extended, implemented⟩

instance {h : Heritage} [met : Meets h] : Meets h.bases := met.meets.1
instance {h : Heritage} [met : Meets h] : Meets h.interfaces := met.meets.2

instance : Reads (extended g) := by
  unfold extended
  refine .after fun _ => ?_
  extract_lets one
  have each : Reads one := by
    refine .followed inferInstance fun e => ?_
    obtain ⟨e, met⟩ := e
    dsimp only
    split
    · obtain ⟨_, _⟩ := met.both rfl
      infer_instance
    · infer_instance
  infer_instance
instance : Reads (heritageType g) := by unfold heritageType; infer_instance
-- Each condition in a chain counts what follows it twice.
set_option synthInstance.maxSize 500 in
instance : Reads (implemented g) := by unfold implemented; infer_instance
set_option synthInstance.maxSize 500 in
instance : Reads (heritage g) := by unfold heritage; infer_instance
instance {s : Nat} : Reads (staticBlock g s) := by
  unfold staticBlock
  exact .after fun _ => .after fun _ => .after fun body => .after fun _ => .after fun span =>
    Reads.of_meets (.enclosed rfl)
instance {ms : ModifierList} : Reads (classMemberName g ms) := by
  unfold classMemberName; infer_instance
instance {s : Nat} {k : MethodKind} {ds : Tree} [Meets ds] {ms : ModifierList} :
    Reads (accessorMember g s k ds ms) := by
  unfold accessorMember; infer_instance
set_option synthInstance.maxSize 500 in
instance {s : Nat} {ds : Tree} [Meets ds] {ms : ModifierList} {generator : Bool} {key : Tree}
    [Meets key] {computed isOptional : Bool} :
    Reads (methodMember g s ds ms generator key computed isOptional) := by
  unfold methodMember; infer_instance
set_option synthInstance.maxSize 500 in
instance {s : Nat} {ds : Tree} [Meets ds] {ms : ModifierList} {key : Tree} [Meets key]
    {computed isOptional : Bool} : Reads (fieldMember g s ds ms key computed isOptional) := by
  unfold fieldMember; infer_instance
instance : Reads (classMember g) := by unfold classMember; infer_instance
instance : Reads (classMembers g) := by unfold classMembers; infer_instance
instance {s : Nat} {ds : Tree} [Meets ds] {isAbstract declare : Bool} :
    Reads (classFrom g s ds isAbstract declare) := by
  unfold classFrom
  refine .after fun _ => .after fun k => .after fun isHeritage => ?_
  split <;>
  · refine .after fun name => .after fun tailStart => .followed inferInstance fun tps =>
      .followed inferInstance fun h => .followed inferInstance fun members => ?_
    have base : Meets (h.value.bases.head?.getD (.absent, .absent)) := inferInstance
    generalize h.value.bases.head?.getD (.absent, .absent) = found at base
    obtain ⟨callee, arguments⟩ := found
    obtain ⟨_, _⟩ := base.of_pair
    infer_instance
instance : Reads (classExpression g) := by unfold classExpression; infer_instance

/-! Elements -/

instance : Reads elementName := by unfold elementName; infer_instance
instance {s : Nat} {between : Bool} : Reads (container g s between) := by
  unfold container
  refine .after fun isEmpty => ?_
  split
  · infer_instance
  · refine .followed inferInstance fun e => ?_
    dsimp only
    split <;> infer_instance
instance : Reads (attributeValue g) := by
  unfold attributeValue
  refine .after fun t => ?_
  split
  · infer_instance
  · refine .after fun _ => .followed inferInstance fun c => ?_
    dsimp only
    split <;> infer_instance
  · infer_instance
  · infer_instance
set_option synthInstance.maxSize 500 in
instance : Reads (tagAttribute g) := by unfold tagAttribute; infer_instance
instance : Reads (tagAttributes g) := by unfold tagAttributes; infer_instance
instance : Reads (children g) := by
  unfold children
  refine .followed (reads_iterate inferInstance fun found => .after fun fatal => ?_)
    fun found => inferInstance
  split
  · infer_instance
  refine .after fun t => ?_
  split <;> infer_instance
set_option synthInstance.maxSize 500 in
instance {s : Nat} {between : Bool} : Reads (readElement g s between) := by
  unfold readElement; infer_instance

/-! Targets -/

instance {t : Tree} [Meets t] : Reads (invalidTarget t) := by unfold invalidTarget; infer_instance

theorem reads_simpleTarget {t : Tree} : Meets t → Reads (simpleTarget t) := by
  fun_induction simpleTarget t with
  | case11 s inner whole _ _ ih =>
      intro met
      split
      · infer_instance
      · infer_instance
      · exact ih (met.parts rfl).head
  | _ =>
      intro met
      infer_instance

instance {t : Tree} [met : Meets t] : Reads (simpleTarget t) := reads_simpleTarget met

theorem reads_targetElements {element : Tree → P Tree} (each : ∀ t, Meets t → Reads (element t))
    (comma : Option Nat) {ts : List Tree} : Meets ts → Reads (targetElements element comma ts) := by
  fun_induction targetElements element comma ts with
  | case2 s t last offset =>
      intro met
      have := each t (met.head.parts rfl).head
      exact .after fun _ => Reads.bind (m := element t)
  | case3 s t last =>
      intro met
      have := each t (met.head.parts rfl).head
      exact Reads.bind (m := element t)
  | case4 s ps ts =>
      intro met
      have := met.head
      infer_instance
  | case5 ts ih =>
      intro met
      have := ih met.tail
      infer_instance
  | case6 t ts _ _ _ ih =>
      intro met
      have := each t met.head
      have := ih met.tail
      infer_instance
  | _ =>
      intro met
      infer_instance

/-- At each depth, the three readers of targets read one another's parts at the depth below. -/
theorem reads_targets (depth : Nat) :
    (∀ t, Meets t → Reads (target depth t)) ∧ (∀ t, Meets t → Reads (targetMaybeDefault depth t)) ∧
      ∀ t, Meets t → Reads (targetProperty depth t) := by
  induction depth with
  | zero =>
      refine ⟨fun t met => ?_, fun t met => ?_, fun t met => ?_⟩
      · unfold target; infer_instance
      · unfold targetMaybeDefault; infer_instance
      · unfold targetProperty; infer_instance
  | succ depth ih =>
      obtain ⟨ofTarget, ofDefault, ofProperty⟩ := ih
      refine ⟨fun t met => ?_, fun t met => ?_, fun t met => ?_⟩
      · unfold target
        split
        · next below s es same =>
          cases same
          have (comma : Option Nat) := reads_targetElements ofDefault comma (met.parts rfl)
          infer_instance
        · next below s ps same =>
          cases same
          have := reads_targetElements ofProperty none (met.parts rfl)
          infer_instance
        · infer_instance
      · unfold targetMaybeDefault
        split
        · next below s left value same =>
          have := met.parts rfl
          infer_instance
        · next below same _ =>
          cases same
          exact ofTarget _ met
        · infer_instance
      · unfold targetProperty
        split
        · infer_instance
        · next value same =>
          have := (met.parts rfl).tail.tail.head
          infer_instance
        · next below s isShorthand computed key value _ same =>
          cases same
          obtain ⟨_, read⟩ := met.both rfl
          have := ofDefault value read
          infer_instance
        · next below same _ _ _ =>
          cases same
          exact ofTarget _ met
        · infer_instance

instance {patterns : Bool} {t : Tree} [met : Meets t] : Reads (assignmentTarget patterns t) := by
  have := fun depth => (reads_targets depth).1 t met
  unfold assignmentTarget
  split <;> infer_instance

/-! Expressions -/

theorem escaping_markPure (t : Tree) : (markPure t).escaping = t.escaping := by
  fun_induction markPure t <;> simp_all [Tree.escaping, Tree.escapingList, Form.keeps, Form.scope]

theorem escaping_markFunction (t : Tree) : (markFunction t).escaping = t.escaping := by
  unfold markFunction
  split <;> rfl

instance {t : Tree} [met : Meets t] : Meets (markPure t) := met.of_escaping (escaping_markPure t)

instance {t : Tree} [met : Meets t] : Meets (markFunction t) :=
  met.of_escaping (escaping_markFunction t)

instance : Reads (spread g) := by unfold spread; infer_instance
instance : Reads (arrayElement g) := by
  unfold arrayElement
  refine .after fun k => ?_
  split <;> infer_instance
instance : Reads (array g) := by
  unfold array
  refine .after fun s => .after fun _ => .followed inferInstance fun found => ?_
  obtain ⟨⟨es, comma⟩, met⟩ := found
  have := met.of_pair.1
  dsimp only
  split <;> infer_instance
instance {s : Nat} {k : MethodKind} {async generator : Bool} {key : Tree} [Meets key]
    {computed : Bool} : Reads (objectMethod g s k async generator key computed) := by
  unfold objectMethod; infer_instance
set_option synthInstance.maxSize 500 in
instance : Reads (objectProperty g) := by unfold objectProperty; infer_instance
instance : Reads (object g) := by unfold object; infer_instance
instance : Reads (parenthesized g) := by
  unfold parenthesized
  refine .after fun s => .after fun _ => .after fun inner => .followed inferInstance fun found => ?_
  obtain ⟨⟨es, comma⟩, met⟩ := found
  have := met.of_pair.1
  split
  next es comma same =>
  cases same
  extract_lets rest
  have (u : Unit) : Reads (rest u) := by
    dsimp only [rest]
    split
    · infer_instance
    · refine .after fun span => .after fun _ => .after fun whole => ?_
      split
      · have := this.head
        infer_instance
      · infer_instance
  clear_value rest
  split <;> infer_instance
instance : Reads (argument g) := by unfold argument; infer_instance
instance : Reads (arguments g) := by unfold arguments; infer_instance
instance : Reads (construction g) := by
  unfold construction
  refine .after fun s => .after fun _ => .after fun dot => ?_
  split
  · infer_instance
  · refine .followed inferInstance fun found => ?_
    obtain ⟨⟨callee, isOptional⟩, met⟩ := found
    have := met.of_pair.1
    split
    next callee isOptional same =>
    cases same
    split
    next callee types same =>
    have apart : Meets callee ∧ Meets types := by
      split at same
      · cases same
        exact this.both rfl
      · cases same
        exact ⟨this, inferInstance⟩
    obtain ⟨_, _⟩ := apart
    refine .after fun opens => ?_
    extract_lets constructed
    have (as : Met (List Tree)) : Reads (constructed as.value) := by
      dsimp only [constructed]
      split <;> infer_instance
    clear_value constructed
    infer_instance
instance {s : Nat} {phase : ImportPhase} : Reads (importCall g s phase) := by
  unfold importCall; infer_instance
instance : Reads (importExpression g) := by unfold importExpression; infer_instance
instance : Reads superExpression := by unfold superExpression; infer_instance
instance : Reads (primary g) := by
  unfold primary
  refine .after fun k => ?_
  split <;> infer_instance
set_option synthInstance.maxSize 500 in
instance : Reads (typeArgumentsInExpression g) := by
  unfold typeArgumentsInExpression; infer_instance
instance {s : Nat} {inChain : Bool} {tag types : Tree} [Meets tag] [Meets types] :
    Reads (taggedTemplate g s inChain tag types) := by
  unfold taggedTemplate; infer_instance
instance {s : Nat} {isOptional : Bool} {object : Tree} [Meets object] :
    Reads (memberAfter g s isOptional object) := by
  unfold memberAfter; infer_instance
instance {s : Nat} {isOptional : Bool} {object : Tree} [Meets object] :
    Reads (computedAfter g s isOptional object) := by
  unfold computedAfter; infer_instance
instance {s : Nat} {first : Tree} [Meets first] {inChain : Bool} :
    Reads (memberTail g s first inChain) := by
  unfold memberTail
  refine reads_iterate inferInstance fun state => ?_
  obtain ⟨⟨t, inChain⟩, met⟩ := state
  have := met.of_pair.1
  have tagged : Reads do
      match t with
      | .expr _ .instantiation [callee, types] =>
          return ((← taggedTemplate g s inChain callee types, inChain), true)
      | t => return ((← taggedTemplate g s inChain t .absent, inChain), true) := by
    split
    · obtain ⟨_, _⟩ := this.both rfl
      infer_instance
    · infer_instance
  refine .after fun fatal => ?_
  split
  · infer_instance
  refine .after fun k => ?_
  split <;> infer_instance
instance : Reads (readMembers g) := by unfold readMembers; infer_instance
instance {s : Nat} {first : Tree} [Meets first] {inChain : Bool} :
    Reads (callTail g s first inChain) := by
  unfold callTail
  refine reads_iterate inferInstance fun state => ?_
  obtain ⟨⟨t, inChain⟩, met⟩ := state
  have := met.of_pair.1
  refine .after fun fatal => ?_
  split
  · infer_instance
  refine .followed inferInstance fun members => ?_
  obtain ⟨⟨t, inChain⟩, met⟩ := members
  have := met.of_pair.1
  refine .after fun link => .after fun isOptional => ?_
  extract_lets inChain' called
  have (types : Met Tree) : Reads (called types.value) := by
    dsimp only [called]
    refine .after fun k => ?_
    split
    · infer_instance
    split
    · obtain ⟨_, _⟩ := this.both rfl
      infer_instance
    · infer_instance
  clear_value called
  infer_instance
instance {s : Span} {inChain : Bool} {t : Tree} [met : Meets t] : Meets (chained s inChain t) := by
  unfold chained
  split
  · exact met
  split
  · obtain ⟨_, _⟩ := met.both rfl
    infer_instance
  all_goals infer_instance
instance : Reads (readLeftHand g) := by unfold readLeftHand; infer_instance
instance : Reads (elementExpression g) := by unfold elementExpression; infer_instance
instance : Reads (updateExpression g) := by
  unfold updateExpression
  refine .after fun s => .after fun k => ?_
  split
  · infer_instance
  · refine .after fun opens => ?_
    split
    · infer_instance
    · refine .followed inferInstance fun t => .after fun k => ?_
      split <;> infer_instance
instance : Reads (awaitExpression g) := by unfold awaitExpression; infer_instance
instance : Reads (typeAssertion g) := by unfold typeAssertion; infer_instance
instance : Reads (readUnary g) := by
  unfold readUnary
  refine .after fun k => ?_
  split
  · infer_instance
  · infer_instance
instance {s : Nat} {left : Tree} [Meets left] {level : Precedence} :
    Reads (binaryTail g s left level) := by
  unfold binaryTail
  refine reads_iterate inferInstance fun left => .after fun fatal => ?_
  split
  · infer_instance
  refine .after fun _ => .after fun k => ?_
  split
  · infer_instance
  split <;> infer_instance
instance {level : Precedence} : Reads (readBinary g level) := by unfold readBinary; infer_instance
set_option synthInstance.maxSize 500 in
instance : Reads (yieldExpression g) := by
  unfold yieldExpression; infer_instance
instance {s : Nat} {test : Tree} [Meets test] {allow : Bool} :
    Reads (conditionTail g s test allow) := by
  unfold conditionTail; infer_instance
instance {allow : Bool} : Reads (readAssignment g allow) := by
  unfold readAssignment
  refine .after fun isYield => ?_
  split
  · infer_instance
  refine .after fun t => @Reads.bindOption _ _ _ _ _ _ inferInstance ?_ fun _ => inferInstance
  refine @Reads.bindOption _ _ _ _ _ _ inferInstance ?_ fun _ => inferInstance
  refine .followed inferInstance fun left => ?_
  extract_lets assigned
  have (u : Unit) : Reads (assigned u) := by
    refine .after fun k => ?_
    split <;> infer_instance
  clear_value assigned
  split <;> infer_instance
set_option synthInstance.maxSize 500 in
instance : Reads (readExpression g) := by unfold readExpression; infer_instance

end Grammar

end RouteWrap
