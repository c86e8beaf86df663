import RouteWrap.Layout.Printed

/-!
Printing only adds to a page. Whatever a printer does, what was on the page stays in front of what
it prints, the format stays the same, and comments are only taken from those that are left.
-/

namespace RouteWrap.Layout

/-- `text` was added to the page `p`. -/
structure Page.Adds (p q : Page) (text : List Char) : Prop where
  reversed : q.reversed = text.reverse ++ p.reversed
  format : q.format = p.format
  comments : q.comments ⊆ p.comments

namespace Page.Adds

theorem refl (p : Page) : p.Adds p [] := ⟨rfl, rfl, List.Subset.refl _⟩

theorem trans {p q r : Page} {a b : List Char} (first : p.Adds q a) (second : q.Adds r b) :
    p.Adds r (a ++ b) where
  reversed := by rw [second.reversed, first.reversed, List.reverse_append, List.append_assoc]
  format := second.format.trans first.format
  comments := List.Subset.trans second.comments first.comments

theorem append (p : Page) (cs : List Char) : p.Adds (p.append cs) cs where
  reversed := p.append_reversed cs
  format := by
    induction cs generalizing p with
    | nil => rfl
    | cons c cs ih => exact ih (p.push c)
  comments := by
    suffices same : (p.append cs).comments = p.comments by rw [same]; exact List.Subset.refl _
    induction cs generalizing p with
    | nil => rfl
    | cons c cs ih => exact ih (p.push c)

end Page.Adds

/-- What only adds to a page. -/
class Grows (m : Print α) : Prop where
  adds : ∀ p : Page, ∃ text, p.Adds (m.run p).2 text

namespace Grows

variable {m : Print α} {f : α → Print β}

instance pure (a : α) : Grows (pure a : Print α) := ⟨fun p => ⟨[], .refl p⟩⟩

instance bind [first : Grows m] [rest : ∀ a, Grows (f a)] : Grows (m >>= f) where
  adds p := by
    obtain ⟨a, first⟩ := first.adds p
    obtain ⟨b, rest⟩ := (rest (m.run p).1).adds (m.run p).2
    exact ⟨a ++ b, first.trans rest⟩

/-- Steps that follow whatever the first one gives. -/
instance next {n : Print β} [first : Grows m] [rest : Grows n] : Grows (m >>= fun _ => n) := bind

instance get : Grows (get : Print Page) := ⟨fun p => ⟨[], .refl p⟩⟩

instance map {g : α → β} [grows : Grows m] : Grows (g <$> m) := ⟨grows.adds⟩

theorem of_modify {f : Page → Page}
    (kept : ∀ p, (f p).reversed = p.reversed ∧ (f p).format = p.format ∧
      (f p).comments ⊆ p.comments) : Grows (modify f) :=
  ⟨fun p => ⟨[], (kept p).1, (kept p).2.1, (kept p).2.2⟩⟩

theorem followed (first : Grows m) (rest : ∀ a, Grows (f a)) : Grows (m >>= f) := bind

instance ite {c : Prop} [Decidable c] {yes no : Print α} [Grows yes] [Grows no] :
    Grows (if c then yes else no) := by
  split <;> infer_instance

instance chars (cs : List Char) : Grows (Print.chars cs) := ⟨fun p => ⟨cs, .append p cs⟩⟩

instance char (c : Char) : Grows (Print.char c) := ⟨fun p => ⟨[c], .append p [c]⟩⟩

/-! Marks on a page leave its text as it is -/

instance indent (f : Page → Nat) : Grows (modify fun p => { p with indent := f p }) :=
  of_modify fun _ => ⟨rfl, rfl, List.Subset.refl _⟩

instance indentAsSpace (f : Page → Bool) :
    Grows (modify fun p => { p with indentAsSpace := f p }) :=
  of_modify fun _ => ⟨rfl, rfl, List.Subset.refl _⟩

instance owesSemicolon (f : Page → Bool) :
    Grows (modify fun p => { p with owesSemicolon := f p }) :=
  of_modify fun _ => ⟨rfl, rfl, List.Subset.refl _⟩

instance sign (f : Page → Option (Sign × Nat)) : Grows (modify fun p => { p with sign := f p }) :=
  of_modify fun _ => ⟨rfl, rfl, List.Subset.refl _⟩

instance regexEnd (f : Page → Option Nat) : Grows (modify fun p => { p with regexEnd := f p }) :=
  of_modify fun _ => ⟨rfl, rfl, List.Subset.refl _⟩

instance wholeEnd (f : Page → Option Nat) : Grows (modify fun p => { p with wholeEnd := f p }) :=
  of_modify fun _ => ⟨rfl, rfl, List.Subset.refl _⟩

instance starts (f : Page → Starts) : Grows (modify fun p => { p with starts := f p }) :=
  of_modify fun _ => ⟨rfl, rfl, List.Subset.refl _⟩

instance forIn {f : α → PUnit → Print (ForInStep PUnit)} [each : ∀ a u, Grows (f a u)] :
    ∀ l : List α, Grows (forIn l PUnit.unit f)
  | [] => by rw [List.forIn_nil]; infer_instance
  | a :: l => by
      rw [List.forIn_cons]
      refine .followed inferInstance fun step => ?_
      cases step with
      | done => infer_instance
      | yield => exact forIn l

instance forM {f : α → Print PUnit} [each : ∀ a, Grows (f a)] (l : List α) : Grows (l.forM f) := by
  induction l with
  | nil => unfold List.forM; infer_instance
  | cons a l ih => unfold List.forM; infer_instance

instance anyM {f : α → Print Bool} [each : ∀ a, Grows (f a)] (l : List α) : Grows (l.anyM f) := by
  induction l with
  | nil => unfold List.anyM; infer_instance
  | cons a l ih =>
      unfold List.anyM
      refine .followed inferInstance fun found => ?_
      split <;> infer_instance

end Grows

/-! Pages -/

namespace Print

variable {m : Print Unit}

instance : Grows minified := by unfold minified; infer_instance
instance (s : String) : Grows (text s) := by unfold text; infer_instance
instance : Grows newline := by unfold newline; infer_instance
instance : Grows space := by unfold space; infer_instance
instance : Grows softNewline := by unfold softNewline; infer_instance
instance : Grows softSpace := by unfold softSpace; infer_instance
instance : Grows lineIndent := by unfold lineIndent; infer_instance
instance [Grows m] : Grows (indented m) := by unfold indented; infer_instance
instance growsInParentheses {b : Bool} [Grows m] : Grows (inParentheses b m) := by
  unfold inParentheses; infer_instance
instance : Grows wordSpace := by
  unfold wordSpace
  refine .followed inferInstance fun p => ?_
  split <;> infer_instance
instance (s : String) : Grows (word s) := by unfold word; infer_instance
instance (s : Option Sign) : Grows (signSpace s) := by
  unfold signSpace
  refine .followed inferInstance fun p => ?_
  split <;> infer_instance
instance (s : Option Sign) : Grows (markSign s) := by unfold markSign; infer_instance
instance : Grows semicolonIfOwed := by unfold semicolonIfOwed; infer_instance
instance : Grows statementEnd := by unfold statementEnd; infer_instance
instance : Grows owesNothing := by unfold owesNothing; infer_instance
instance growsBraces {b : Bool} [Grows m] : Grows (braces b m) := by unfold braces; infer_instance
instance : Grows markStatement := by unfold markStatement; infer_instance
instance : Grows markArrowBody := by unfold markArrowBody; infer_instance
instance : Grows markDefaultExport := by unfold markDefaultExport; infer_instance
instance : Grows atStatement := by unfold atStatement; infer_instance
instance : Grows atArrowBody := by unfold atArrowBody; infer_instance
instance : Grows atDefaultExport := by unfold atDefaultExport; infer_instance

theorem grows_commaList : ∀ ms : List (Print Unit), (∀ m ∈ ms, Grows m) → Grows (commaList ms)
  | [], _ => by unfold commaList; infer_instance
  | [m], grows => by unfold commaList; exact grows m (List.mem_singleton_self m)
  | m :: n :: ms, grows => by
      have := grows m (List.mem_cons_self ..)
      have := grows_commaList (n :: ms) fun k listed => grows k (List.mem_cons_of_mem m listed)
      unfold commaList
      infer_instance

/-! Comments -/

instance (ps : Points) (allowTemplate : Bool) : Grows (literal ps allowTemplate) := by
  unfold literal; infer_instance
instance (l : List Char) : Grows (commentLine l) := by unfold commentLine; infer_instance
instance (c : Comment) : Grows (comment c) := by
  unfold comment
  infer_instance
theorem run_takeComments (start : Nat) (p : Page) :
    ∃ left, ((takeComments start).run p).2 = { p with comments := left } ∧
      left ⊆ p.comments ∧ ∀ g ∈ left, g.1 ≠ start := by
  simp only [takeComments, StateT.run, modifyGet, MonadStateOf.modifyGet, StateT.modifyGet]
  split
  · refine ⟨p.comments.filter (·.1 != start), rfl, List.filter_sublist.subset, fun g listed => ?_⟩
    simpa using (List.mem_filter.mp listed).2
  · next unfound =>
    refine ⟨p.comments, rfl, List.Subset.refl _, fun g listed => ?_⟩
    simpa using List.find?_eq_none.mp unfound g listed

instance (start : Nat) : Grows (takeComments start) where
  adds p := by
    obtain ⟨left, taken, subset, -⟩ := run_takeComments start p
    rw [taken]
    exact ⟨[], rfl, rfl, subset⟩

instance (start : Nat) : Grows (hasComments start) := by unfold hasComments; infer_instance
instance : Grows freshLine := by
  unfold freshLine
  refine .followed inferInstance fun p => ?_
  split <;> infer_instance
instance (isFirst : Bool) (cs : List Comment) : Grows (commentsFrom isFirst cs) := by
  induction cs generalizing isFirst with
  | nil => unfold commentsFrom; infer_instance
  | cons c cs ih =>
      unfold commentsFrom
      dsimp only
      infer_instance
instance (cs : List Comment) : Grows (comments cs) := by unfold comments; infer_instance
instance (start : Nat) : Grows (commentsAt start) := by unfold commentsAt; infer_instance
instance (start : Nat) : Grows (argumentComments start) := by
  unfold argumentComments
  refine .followed inferInstance fun p => ?_
  split <;> infer_instance

instance (holds : Bool) (s : String) : Grows (modifier holds s) := by unfold modifier; infer_instance
instance (holds : Bool) (s : String) : Grows (fixedModifier holds s) := by
  unfold fixedModifier; infer_instance
instance {b : Bool} [Grows m] : Grows (inBrackets b m) := by unfold inBrackets; infer_instance
instance [Grows m] : Grows (lines.ownLine m) := by unfold lines.ownLine; infer_instance

theorem grows_lines : ∀ ms : List (Print Unit), (∀ m ∈ ms, Grows m) → Grows (lines ms)
  | [], _ => by unfold lines; infer_instance
  | [m], grows => by
      have := grows m (List.mem_singleton_self m)
      unfold lines
      infer_instance
  | m :: n :: ms, grows => by
      have := grows m (List.mem_cons_self ..)
      have := grows_lines (n :: ms) fun k listed => grows k (List.mem_cons_of_mem m listed)
      unfold lines
      infer_instance

end Print

/-! Phrases -/

section

variable {r : Printer} [∀ c t, Grows (r c t)]

namespace Printer

instance (t : Tree) : Grows (r.argument t) := by unfold argument; infer_instance
instance (t : Tree) : Grows (r.free t) := by unfold free; infer_instance
instance {before : Print Unit} [Grows before] (t : Tree) : Grows (r.after before t) := by
  unfold after; infer_instance
instance (c : Place) (ts : List Tree) : Grows (r.list c ts) := by
  unfold list
  refine Print.grows_commaList _ fun m listed => ?_
  obtain ⟨t, -, rfl⟩ := List.mem_map.mp listed
  infer_instance
instance (c : Place) (t : Tree) : Grows (r.initial c t) := by unfold initial; infer_instance
instance (t : Tree) : Grows (r.ascription t) := by unfold ascription; infer_instance

end Printer

theorem grows_lines_map (c : Place) (ts : List Tree) : Grows (Print.lines (ts.map (r c))) := by
  refine Print.grows_lines _ fun m listed => ?_
  obtain ⟨t, -, rfl⟩ := List.mem_map.mp listed
  infer_instance

instance (computed : Bool) (t : Tree) : Grows (Print.key r computed t) := by
  unfold Print.key
  split <;> infer_instance

/-! Patterns -/

instance elements.grows (c : Place) : ∀ ts : List Tree, Grows (elements r c ts)
  | [] | [_] => by unfold elements; infer_instance
  | t :: u :: ts => by
      have := elements.grows c (u :: ts)
      unfold elements
      infer_instance

instance (c : Place) (f : PatternForm) (ps : List Tree) : Grows (writePattern r c f ps) := by
  unfold writePattern
  split <;> try infer_instance
  · refine .followed inferInstance fun _ => ?_
    dsimp only
    split <;> infer_instance
  · refine .followed inferInstance fun _ => ?_
    dsimp only
    split <;> infer_instance

instance (c : Place) (t : Tree) : Grows (methodParameters r c t) := by
  unfold methodParameters
  split <;> infer_instance

instance (c : Place) (f : ExpressionForm) (ps : List Tree) : Grows (writeTarget r c f ps) := by
  unfold writeTarget
  split <;> infer_instance

/-! Elements -/

instance (c : Place) (ts : List Tree) : Grows (tagAttributes r c ts) := by
  unfold tagAttributes
  refine @Grows.forIn _ _ (fun t _ => ?_) ts
  dsimp only
  split <;> infer_instance

instance (c : Place) (s : Span) (f : JsxForm) (ps : List Tree) :
    Grows (writeElement r c s f ps) := by
  unfold writeElement
  split <;> infer_instance

/-! Types -/

instance (c : Place) (ps : List Tree) : Grows (typeParameters r c ps) := by
  have several := grows_lines_map (r := r) c ps
  unfold typeParameters
  dsimp only
  infer_instance

instance joined.grows (c : Place) (mark : Char) : ∀ ts : List Tree, Grows (joined r c mark ts)
  | [] | [_] => by unfold joined; infer_instance
  | t :: u :: ts => by
      have := joined.grows c mark (u :: ts)
      unfold joined
      infer_instance

instance typeChunks.grows (ts : List Tree) : Grows (typeChunks r ts) := by
  induction ts using typeChunks.induct with
  | case1 | case2 => unfold typeChunks; infer_instance
  | case3 t ts isType ih =>
      rw [typeChunks]
      · infer_instance
      · exact isType

instance (c : Place) (tparams params result : Tree) :
    Grows (functionType r c tparams params result) := by
  unfold functionType; infer_instance

instance (c : Place) (tparams params result : Tree) :
    Grows (signature r c tparams params result) := by
  unfold signature; infer_instance

instance (c : Place) (computed : Bool) (t : Tree) : Grows (memberKey r c computed t) := by
  unfold memberKey
  split <;> infer_instance

instance (c : Place) (ms : List Tree) : Grows (typeMembers r c ms) := by
  unfold typeMembers
  split <;> infer_instance

instance (c : Place) (f : TypeForm) (ps : List Tree) : Grows (writeType r c f ps) := by
  unfold writeType
  dsimp only
  split <;> try infer_instance
  all_goals split <;> infer_instance

/-! Functions and classes -/

instance statements.grows (c : Place) (ts : List Tree) : Grows (statements r c ts) := by
  induction ts <;> unfold statements <;> infer_instance

instance (c : Place) (ts : List Tree) : Grows (bodyStatements r c ts) := by
  unfold bodyStatements
  refine .followed inferInstance fun _ => ?_
  split
  · infer_instance
  · refine .followed inferInstance fun p => ?_
    dsimp only
    split <;> infer_instance

instance (c : Place) (s : Span) (ts : List Tree) : Grows (functionBody r c s ts) := by
  unfold functionBody
  dsimp only
  infer_instance

instance (c : Place) (traits : FunctionTraits) (name callable : Tree) :
    Grows (functionText r c traits name callable) := by
  unfold functionText
  dsimp only
  split <;> split <;> infer_instance

instance (c : Place) (kept : Bool) (traits : FunctionTraits) (name callable : Tree) :
    Grows (functionExpression r c kept traits name callable) := by
  unfold functionExpression
  infer_instance

instance (c : Place) (callable : Tree) : Grows (methodText r c callable) := by
  unfold methodText
  split <;> infer_instance

instance (c : Place) (kept async isExpression pure : Bool) (tparams params result body : Tree) :
    Grows (arrow r c kept async isExpression pure tparams params result body) := by
  unfold arrow
  dsimp only
  infer_instance

instance (c : Place) (isAbstract declare : Bool) (decorators name tail : Tree) :
    Grows (classText r c isAbstract declare decorators name tail) := by
  unfold classText
  dsimp only
  split <;> split <;> infer_instance

instance (c : Place) (isAbstract : Bool) (decorators name tail : Tree) :
    Grows (classExpression r c isAbstract decorators name tail) := by
  unfold classExpression
  infer_instance

instance (ms : Modifiers) : Grows (accessibility ms) := by
  unfold accessibility
  split <;> infer_instance
instance (ms : Modifiers) : Grows (memberModifiers ms) := by unfold memberModifiers; infer_instance
instance (ms : Modifiers) : Grows (accessorModifiers ms) := by
  unfold accessorModifiers; infer_instance

instance (c : Place) (f : ClassForm) (ps : List Tree) : Grows (writeClassPart r c f ps) := by
  unfold writeClassPart
  split <;> try infer_instance
  · refine @Print.growsBraces _ _ (.followed (@Grows.forIn _ _ (fun m _ => ?_) ps) inferInstance)
    split <;> infer_instance
  · dsimp only
    split <;> split <;> split <;> infer_instance

/-! Expressions -/

instance (c : Place) (n : Binary64) : Grows (numberText c n) := by
  unfold numberText
  split <;> infer_instance

instance (pattern flags : String) : Grows (regexText pattern flags) := by
  unfold regexText
  refine .followed inferInstance fun p => ?_
  dsimp only
  split <;> infer_instance

instance chunks.grows (ts : List Tree) : Grows (chunks r ts) := by
  induction ts using chunks.induct with
  | case1 | case2 => unfold chunks; infer_instance
  | case3 t ts isExpression ih =>
      rw [chunks]
      · infer_instance
      · exact isExpression

instance (ts : List Tree) : Grows (arrayText r ts) := by
  have each : ∀ m ∈ ts.map fun t => if t.isAbsent then pure () else r.argument t, Grows m := by
    intro m listed
    obtain ⟨t, -, rfl⟩ := List.mem_map.mp listed
    infer_instance
  have := Print.grows_lines _ each
  have := Print.grows_commaList _ each
  unfold arrayText
  dsimp only
  split <;> split <;> infer_instance

instance (shorthand computed : Bool) (key value : Tree) :
    Grows (property r shorthand computed key value) := by
  unfold property
  dsimp only
  infer_instance

instance (c : Place) (kind : MethodKind) (computed : Bool) (traits : FunctionTraits)
    (key callable : Tree) : Grows (methodProperty r c kind computed traits key callable) := by
  unfold methodProperty
  dsimp only
  split <;> split <;> split <;> infer_instance

instance (c : Place) (s : Span) (ts : List Tree) : Grows (objectText r c s ts) := by
  have several := grows_lines_map (r := r) c ts
  unfold objectText
  dsimp only
  split <;> infer_instance

instance (t : Tree) : Grows (commentedArguments.one r t) := by
  unfold commentedArguments.one
  dsimp only
  infer_instance

instance commentedArguments.grows : ∀ ts : List Tree, Grows (commentedArguments r ts)
  | [] | [_] => by unfold commentedArguments; infer_instance
  | t :: u :: ts => by
      have := commentedArguments.grows (u :: ts)
      unfold commentedArguments
      infer_instance

-- Each condition in a chain counts what follows it twice.
set_option synthInstance.maxSize 500 in
instance (s : Span) (ts : List Tree) : Grows (arguments r s ts) := by
  have alone : Grows (Print.commaList (ts.map r.argument)) :=
    inferInstanceAs (Grows (r.list (.bound .comma) ts))
  unfold arguments
  dsimp only
  infer_instance

set_option synthInstance.maxSize 500 in
instance (c : Place) (s : Span) (isOptional pure : Bool) (callee types : Tree)
    (args : List Tree) : Grows (call r c s isOptional pure callee types args) := by
  unfold call
  dsimp only
  infer_instance

instance (c : Place) (s : Span) (pure : Bool) (callee types : Tree) (args : List Tree) :
    Grows (construct r c s pure callee types args) := by
  unfold construct
  dsimp only
  infer_instance

set_option synthInstance.maxSize 500 in
instance (commented : Bool) (source options : Tree) :
    Grows (importArguments r commented source options) := by
  unfold importArguments
  dsimp only
  infer_instance

set_option synthInstance.maxSize 1000 in
instance (c : Place) (s : Span) (phase : ImportPhase) (source options : Tree) :
    Grows (importCall r c s phase source options) := by
  unfold importCall
  dsimp only
  cases phase <;> dsimp only <;> infer_instance

instance (c : Place) (isOptional : Bool) (object : Tree) (name : String) :
    Grows (member r c isOptional object name) := by
  unfold member
  dsimp only
  infer_instance

instance (c : Place) (isOptional : Bool) (object : Tree) (name : String) :
    Grows (privateMember r c isOptional object name) := by
  unfold privateMember
  infer_instance

instance (c : Place) (isOptional : Bool) (object index : Tree) :
    Grows (computedMember r c isOptional object index) := by
  unfold computedMember
  dsimp only
  infer_instance

instance (c : Place) (op : BinaryOperator) (left right : Tree) :
    Grows (binary r c op left right) := by
  unfold binary
  dsimp only
  infer_instance

instance (c : Place) (name object : Tree) : Grows (privateIn r c name object) := by
  unfold privateIn
  infer_instance

instance (c : Place) (op : UnaryOperator) (t : Tree) : Grows (unary r c op t) := by
  have operand (p : Page) : Grows (match op, t, p.format.minify with
      | .delete, .expr _ (.number .infinite _) _, false =>
          Print.inParentheses true do
            Print.text "0, "
            r (c.at_ .power) t
      | _, _, _ => r (c.at_ .power) t) := by
    split <;> infer_instance
  unfold unary
  dsimp only
  infer_instance

instance (c : Place) (op : UpdateOperator) (before : Bool) (t : Tree) :
    Grows (update r c op before t) := by
  unfold update
  dsimp only
  infer_instance

instance (c : Place) (op : AssignOperator) (target value : Tree) :
    Grows (assignment r c op target value) := by
  unfold assignment
  dsimp only
  infer_instance

instance (c : Place) (test yes no : Tree) : Grows (conditional r c test yes no) := by
  unfold conditional
  dsimp only
  infer_instance

instance (c : Place) (e type : Tree) : Grows (satisfaction r c e type) := by
  unfold satisfaction
  dsimp only
  infer_instance

instance (c : Place) (s : Span) (f : ExpressionForm) (ps : List Tree) :
    Grows (writeExpression r c s f ps) := by
  unfold writeExpression
  split <;> try infer_instance
  dsimp only
  split <;> infer_instance

/-! Statements -/

instance (s : Span) : Grows (opening s) := by unfold opening; infer_instance
instance (s : Span) : Grows (declarationOpening s) := by unfold declarationOpening; infer_instance
instance (c : Place) (ts : List Tree) : Grows (block r c ts) := by unfold block; infer_instance

instance (c : Place) (afterWord : Bool) (t : Tree) : Grows (body r c afterWord t) := by
  unfold body
  dsimp only
  split <;> infer_instance

instance {m : Print Unit} [Grows m] (keyword : String) : Grows (head keyword m) := by
  unfold head; infer_instance

instance (c : Place) (test yes no : Tree) (elseIf : Tree → Print Unit) [∀ t, Grows (elseIf t)] :
    Grows (ifElse r c test yes no elseIf) := by
  have otherwise : Grows (match no with
      | .stmt _ .block ts => do
          Print.softSpace
          block r c ts
          Print.softNewline
      | .stmt _ .ifElse _ => do
          Print.space
          elseIf no
      | no => body r c true no) := by
    split <;> infer_instance
  unfold ifElse
  dsimp only
  split <;> infer_instance

instance conditions.grows (c : Place) (t : Tree) : Grows (conditions r c t) := by
  induction t using conditions.induct with
  | case1 _ _ _ _ _ ih => unfold conditions; infer_instance
  | case2 _ _ _ _ isLast =>
      rw [conditions]
      · infer_instance
      · exact isLast
  | case3 =>
      rw [conditions]
      · infer_instance
      all_goals assumption

instance (c : Place) (kind : VariableKind) (declare : Bool) (ds : List Tree) :
    Grows (variableList r c kind declare ds) := by
  unfold variableList; infer_instance

instance (c : Place) (ts : List Tree) : Grows (enumeration.memberLines r c ts) := by
  induction ts with
  | nil => unfold enumeration.memberLines; infer_instance
  | cons t ts ih =>
      unfold enumeration.memberLines
      dsimp only
      infer_instance

instance (c : Place) (const declare : Bool) (name : Tree) (members : List Tree) :
    Grows (enumeration r c const declare name members) := by
  unfold enumeration; infer_instance

instance (c : Place) (spelling : MemberSpelling) (name value : Tree) :
    Grows (enumMember r c spelling name value) := by
  unfold enumMember
  dsimp only
  split <;> infer_instance

instance nested.grows (c : Place) (t : Tree) : Grows (nested r c t) := by
  induction t using nested.induct with
  | case1 _ _ _ _ _ ih => unfold nested; infer_instance
  | case2 | case3 => unfold nested; infer_instance
  | case4 =>
      rw [nested]
      · infer_instance
      all_goals assumption

instance (c : Place) (keyword : NamespaceKeyword) (declare : Bool) (name inner : Tree) :
    Grows (namespaceText r c keyword declare name inner) := by
  unfold namespaceText
  dsimp only
  split
  · infer_instance
  · split <;> infer_instance

instance (c : Place) (declare : Bool) (name tail : Tree) :
    Grows (interfaceText r c declare name tail) := by
  unfold interfaceText
  dsimp only
  split <;> infer_instance

instance (c : Place) (declare : Bool) (name body : Tree) :
    Grows (typeAliasText r c declare name body) := by
  unfold typeAliasText
  split <;> infer_instance

instance (c : Place) (name target : Tree) : Grows (importEqualsText r c name target) := by
  unfold importEqualsText
  split <;> infer_instance

instance (c : Place) (t : Tree) : Grows (declarationText r c t) := by
  unfold declarationText
  split <;> infer_instance

instance (t : Tree) : Grows (declarationEnd t) := by unfold declarationEnd; infer_instance

instance (c : Place) (t : Tree) : Grows (loopLeft r c t) := by
  unfold loopLeft
  split <;> infer_instance

instance (t : Tree) : Grows (loopInitial r t) := by
  unfold loopInitial
  split <;> infer_instance

instance (c : Place) (initial test update t : Tree) : Grows (loop r c initial test update t) := by
  unfold loop; infer_instance

instance (c : Place) (left right t : Tree) : Grows (loopIn r c left right t) := by
  unfold loopIn; infer_instance

instance (c : Place) (await : Bool) (left right t : Tree) :
    Grows (loopOf r c await left right t) := by
  unfold loopOf; infer_instance

instance (c : Place) (t test : Tree) : Grows (loopDo r c t test) := by
  unfold loopDo
  dsimp only
  split <;> infer_instance

instance (c : Place) (value : Tree) (cases : List Tree) : Grows (switchOn r c value cases) := by
  unfold switchOn; infer_instance

instance (c : Place) (test : Tree) (ts : List Tree) : Grows (switchCase r c test ts) := by
  unfold switchCase
  dsimp only
  split <;> split <;> infer_instance

instance (c : Place) (t : Tree) : Grows (blockOf r c t) := by
  unfold blockOf
  split <;> infer_instance

instance (c : Place) (guarded handler finalizer : Tree) :
    Grows (tryCatch r c guarded handler finalizer) := by
  unfold tryCatch
  dsimp only
  split <;> infer_instance

instance (s : Span) (raw : String) : Grows (directive s raw) := by
  unfold directive
  dsimp only
  infer_instance

instance (keyword : String) (t : Tree) : Grows (jump keyword r t) := by unfold jump; infer_instance
instance : Grows marginIndent := by unfold marginIndent; infer_instance

instance (c : Place) (s : Span) (f : StatementForm) (ps : List Tree) :
    Grows (writeStatement r c s f ps) := by
  unfold writeStatement
  dsimp only
  split <;> infer_instance

/-! Imports and exports -/

instance (c : Place) (first second : Tree) : Grows (renamed r c first second) := by
  unfold renamed; infer_instance
instance (c : Place) (ts : List Tree) : Grows (named r c ts) := by
  unfold named
  dsimp only
  infer_instance
instance {gap : Print Unit} [Grows gap] (c : Place) (t : Tree) :
    Grows (attributesOf gap r c t) := by
  unfold attributesOf; infer_instance
instance (t : Tree) : Grows (attributePart t) := by
  unfold attributePart
  split <;> infer_instance

instance importClause.grows (c : Place) (isFirst : Bool) (ts : List Tree) :
    Grows (importClause r c isFirst ts) := by
  induction ts generalizing isFirst with
  | nil => unfold importClause; infer_instance
  | cons t ts ih =>
      unfold importClause
      split
      · infer_instance
      · next same =>
        obtain rfl := List.tail_eq_of_cons_eq same
        infer_instance
      · next same =>
        obtain rfl := List.tail_eq_of_cons_eq same
        dsimp only
        infer_instance
      · infer_instance

instance (c : Place) (typeOnly : Bool) (phase : ImportPhase) (hasClause : Bool)
    (request attrs : Tree) (specifiers : List Tree) :
    Grows (importDeclaration r c typeOnly phase hasClause request attrs specifiers) := by
  unfold importDeclaration
  dsimp only
  split <;> split <;> split <;> infer_instance

instance (c : Place) (typeOnly : Bool) (request : Tree) (specifiers : List Tree) :
    Grows (exportNamed r c typeOnly request specifiers) := by
  unfold exportNamed
  dsimp only
  infer_instance

instance (c : Place) (typeOnly : Bool) (exported request attrs : Tree) :
    Grows (exportAll r c typeOnly exported request attrs) := by
  unfold exportAll
  dsimp only
  infer_instance

instance (c : Place) (t : Tree) : Grows (exportDefault r c t) := by
  unfold exportDefault
  split <;> infer_instance

instance (s : Span) (t : Tree) : Grows (exportOpening s t) := by
  unfold exportOpening
  dsimp only
  infer_instance

instance (c : Place) (s : Span) (f : LinkForm) (ps : List Tree) :
    Grows (writeLink r c s f ps) := by
  unfold writeLink
  split <;> infer_instance

/-! Trees -/

instance (c : Place) (s : Span) (f : Form) (ps : List Tree) : Grows (writeNode r c s f ps) := by
  unfold writeNode
  split <;> infer_instance

instance (c : Place) (t : Tree) : Grows (writeTree r c t) := by
  unfold writeTree
  split <;> infer_instance

end

instance grows_printer (n : Nat) (c : Place) (t : Tree) : Grows (printer n c t) := by
  induction n generalizing c t with
  | zero => exact .pure ()
  | succ n ih => exact inferInstanceAs (Grows (writeTree (printer n) c t))

end RouteWrap.Layout
