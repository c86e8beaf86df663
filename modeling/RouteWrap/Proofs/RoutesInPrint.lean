import RouteWrap.Proofs.Literals
import RouteWrap.Proofs.PrintedCalls
import RouteWrap.Proofs.RouteIds

/-!
The route id in print. Whatever it is, and in each format, it is printed as a literal that is read
back as the route id, and that literal is the second argument of the calls of wrappers, which are
printed with the constants that the passes make.
-/

namespace RouteWrap

namespace Layout

/-- The literal that a route id is printed as. -/
def routeLiteral (format : PrintFormat) (route : Points) : List Char :=
  Quoted.literal (quoteOf format route) route

theorem quoteOf_isQuote (format : PrintFormat) (ps : Points) :
    Scanner.IsQuote (quoteOf format ps) := by
  unfold quoteOf Quoted.cheapest
  split
  · dsimp only
    split
    · exact .inr (.inr rfl)
    · split
      · exact .inl rfl
      · exact .inr (.inl rfl)
  · cases format.quote
    · exact .inl rfl
    · exact .inr (.inl rfl)

/-- The text holds a part of which `P` is true. -/
def Holds (P : List Char → Prop) (text : List Char) : Prop :=
  ∃ before inner behind, P inner ∧ text = before ++ inner ++ behind

namespace Holds

variable {P : List Char → Prop} {text : List Char}

theorem of (holds : P text) : Holds P text := ⟨[], text, [], holds, by simp⟩

theorem prepend (front : List Char) (holds : Holds P text) : Holds P (front ++ text) := by
  obtain ⟨before, inner, behind, holds, rfl⟩ := holds
  exact ⟨front ++ before, inner, behind, holds, by simp⟩

theorem append (holds : Holds P text) (back : List Char) : Holds P (text ++ back) := by
  obtain ⟨before, inner, behind, holds, rfl⟩ := holds
  exact ⟨before, inner, behind ++ back, holds, by simp⟩

end Holds

/-- In the text of a part, a constant is printed with its value inside of the calls of its
wrappers. -/
def PartText (format : PrintFormat) (route : Points) : Part → List Char → Prop
  | .plain _, _ => True
  | .constant c, text => Holds (CallText (routeLiteral format route) c.value c.callees) text

section

variable {format : PrintFormat} {m : Print Unit} {P : List Char → Prop}

theorem Emits.led {first : Print α} {rest : α → Print Unit} [Grows first]
    (prepend : ∀ front text, P text → P (front ++ text))
    (emits : ∀ a, Emits format (rest a) fun _ => P) : Emits format (first >>= rest) fun _ => P :=
  Emits.of_grows.bind fun a front _ => (emits a).mono fun _ text => prepend front text

/-- What comes before or after is of no matter to what a text holds. -/
theorem Emits.after {first : Print α} {rest : α → Print Unit} [Grows first]
    (emits : ∀ a, Emits format (rest a) fun _ => Holds P) :
    Emits format (first >>= rest) fun _ => Holds P :=
  .led (fun front _ holds => holds.prepend front) emits

theorem Emits.before {first : Print Unit} {rest : Unit → Print Unit} [∀ a, Grows (rest a)]
    (emits : Emits format first fun _ => Holds P) :
    Emits format (first >>= rest) fun _ => Holds P :=
  emits.bind fun _ _ holds => Emits.of_grows.mono fun _ more _ => holds.append more

theorem isAbsent_nest_iff (route : Points) (callees : List String) (value : Tree) :
    (nest route callees value).isAbsent = true ↔ callees = [] ∧ value = .absent := by
  cases callees using List.reverseRecOn with
  | nil => cases value <;> simp [nest, Tree.isAbsent]
  | append_singleton callees callee => simp [nest_concat, wrapperCall, Tree.isAbsent]

theorem emits_initial {n : Nat} (route : Points) (callees : List String) (value : Tree)
    (deep : (nest route callees value).depth ≤ n) :
    Emits format ((printer n).initial .free (nest route callees value)) fun _ =>
      Holds (CallText (routeLiteral format route) value callees) := by
  unfold Printer.initial
  split
  · refine .after fun _ => .after fun _ => .after fun _ => ?_
    exact (emits_nest route callees value deep).mono fun _ _ => .of
  · next isAbsent =>
    rw [Bool.not_eq_true, Bool.not_eq_false', isAbsent_nest_iff] at isAbsent
    obtain ⟨rfl, rfl⟩ := isAbsent
    have unprinted (p : Page) : Page.Adds p (((printer n).argument .absent).run p).2 [] := by
      cases n <;> exact .refl p
    exact fun p _ => ⟨[], .refl p, .of (.value ⟨n, p, deep, .inl (unprinted p)⟩)⟩

theorem emits_constant {n : Nat} (c : Constant) (route : Points)
    (deep : (c.item route).toTree.depth ≤ n) :
    Emits format (printer n .free (c.item route).toTree) fun _ =>
      Holds (CallText (routeLiteral format route) c.value c.callees) := by
  simp only [Constant.item, Item.toTree, Declaration.toTree, Constant.toVariable,
    VariableDecl.toTree, List.map_singleton, Constant.toDeclarator, Declarator.toTree,
    Option.getD_some, Tree.depth, Tree.depthList] at deep
  obtain ⟨n, rfl⟩ : ∃ m, n = m + 2 := Nat.exists_eq_add_of_le' (by omega)
  have declarator : Emits format
      (printer (n + 1) .free (c.toDeclarator route).toTree) fun _ =>
        Holds (CallText (routeLiteral format route) c.value c.callees) := by
    change Emits format (do
      printer n .free (.bind c.binding c.binder c.name)
      if c.definite then Print.char '!'
      (printer n).ascription c.ascription
      (printer n).initial .free (nest route c.callees c.value)) _
    have initial : Emits format ((printer n).initial .free (nest route c.callees c.value)) fun _ =>
        Holds (CallText (routeLiteral format route) c.value c.callees) :=
      emits_initial route c.callees c.value (by omega)
    refine .after fun _ => ?_
    dsimp only
    split
    · exact .after fun _ => .after fun _ => initial
    · exact .after fun _ => initial
  change Emits format (do
    exportOpening c.span (c.toVariable route).toTree
    Print.word "export "
    Print.wordSpace
    Print.fixedModifier c.declare "declare"
    Print.text c.kind.text
    Print.softSpace
    printer (n + 1) .free (c.toDeclarator route).toTree
    declarationEnd (c.toVariable route).toTree
    if !endsInSemicolon (c.toVariable route).toTree then Print.owesNothing) _
  refine .after fun _ => .after fun _ => .after fun _ => .after fun _ => .after fun _ => ?_
  exact .after fun _ => .before declarator

/-! Statements in a row -/

/-- The text is one text after the other for these. -/
def Texts (R : β → List Char → Prop) (as : List β) (text : List Char) : Prop :=
  ∃ texts, List.Forall₂ R as texts ∧ text = texts.flatten

variable {r : Printer} {tree : β → Tree} {R : β → List Char → Prop}
  {c : Place}

theorem Texts.nil : Texts R [] [] := ⟨[], .nil, rfl⟩

theorem Texts.cons {a : β} {as : List β} {x text : List Char} (first : R a x)
    (rest : Texts R as text) : Texts R (a :: as) (x ++ text) := by
  obtain ⟨texts, each, rfl⟩ := rest
  exact ⟨x :: texts, .cons first each, rfl⟩

theorem Texts.append {as bs : List β} {x y : List Char} (first : Texts R as x)
    (rest : Texts R bs y) : Texts R (as ++ bs) (x ++ y) := by
  obtain ⟨xs, first, rfl⟩ := first
  obtain ⟨ys, rest, rfl⟩ := rest
  exact ⟨xs ++ ys, List.rel_append first rest, by rw [List.flatten_append]⟩

theorem Texts.drop {as bs : List β} {text : List Char} (both : Texts R (as ++ bs) text) :
    ∃ front rest, Texts R bs rest ∧ text = front ++ rest := by
  induction as generalizing text with
  | nil => exact ⟨[], text, both, rfl⟩
  | cons a as ih =>
      obtain ⟨texts, each, rfl⟩ := both
      obtain ⟨x, _, -, others, rfl⟩ := List.forall₂_cons_left_iff.mp each
      obtain ⟨front, rest, texts, same⟩ := ih ⟨_, others, rfl⟩
      exact ⟨x ++ front, rest, texts, by rw [List.flatten_cons, same, List.append_assoc]⟩

theorem emits_statements {as : List β}
    (each : ∀ a ∈ as, Emits format (r c (tree a)) fun _ => R a)
    (led : ∀ a front text, R a text → R a (front ++ text)) :
    Emits format (statements r c (as.map tree)) fun _ => Texts R as := by
  induction as with
  | nil => exact .pure .nil
  | cons a as ih =>
      obtain ⟨first, each⟩ := List.forall_mem_cons.mp each
      refine Emits.of_grows.bind fun _ front _ => ?_
      refine first.bind fun _ text holds => ?_
      refine (ih each).mono fun _ more rest => ?_
      rw [← List.append_assoc]
      exact .cons (led a front text holds) rest

theorem emits_directives {as : List β}
    (each : ∀ a ∈ as, Emits format (r c (tree a)) fun _ => R a) :
    Emits format (forIn (as.map tree) PUnit.unit fun t _ => do
      r c t
      return .yield PUnit.unit) fun _ => Texts R as := by
  induction as with
  | nil => exact .pure .nil
  | cons a as ih =>
      obtain ⟨first, each⟩ := List.forall_mem_cons.mp each
      rw [List.map_cons, List.forIn_cons, bind_assoc]
      refine first.bind fun _ text holds => ?_
      rw [pure_bind]
      exact (ih each).mono fun _ more rest => .cons holds rest

theorem emits_bodyStatements [∀ c t, Grows (r c t)] {as : List β}
    (each : ∀ a ∈ as, Emits format (r c (tree a)) fun _ => R a)
    (led : ∀ a front text, R a text → R a (front ++ text))
    (strings : ∀ a ∈ as, (isStringStatement (tree a)).isSome → ∀ text, R a text) :
    Emits format (bodyStatements r c (as.map tree)) fun _ => Texts R as := by
  obtain ⟨ds, ss, rfl, directives, others⟩ : ∃ ds ss, as = ds ++ ss ∧
      (as.map tree).takeWhile isDirective = ds.map tree ∧
      (as.map tree).dropWhile isDirective = ss.map tree :=
    ⟨_, _, List.takeWhile_append_dropWhile.symm, List.takeWhile_map .., List.dropWhile_map ..⟩
  rw [List.forall_mem_append] at each strings
  unfold bodyStatements
  rw [directives, others]
  refine (emits_directives each.1).bind fun _ text directives => ?_
  suffices rest : Emits format _ fun _ => Texts R ss from
    rest.mono fun _ more rest => directives.append rest
  cases ss with
  | nil => exact .pure .nil
  | cons a ss =>
      obtain ⟨first, each⟩ := List.forall_mem_cons.mp each.2
      refine Emits.get.ask fun p _ => ?_
      split
      · next string _ =>
        have anyText : ∀ text, R a text := strings.2 a List.mem_cons_self (by rw [string]; rfl)
        refine Emits.of_grows.bind fun _ text _ => Emits.of_grows.bind fun _ stop _ => ?_
        refine (emits_statements each led).mono fun _ more rest => ?_
        rw [← List.append_assoc]
        exact .cons (anyText _) rest
      · refine first.bind fun _ text holds => ?_
        exact (emits_statements each led).mono fun _ more rest => .cons holds rest

end

/-! Whole modules -/

theorem opened_commentsAt {format : PrintFormat} {p : Page} (inFormat : p.format = format) :
    ((Print.commentsAt 0).run p).2.Opened format := by
  obtain ⟨left, taken, -, uncommented⟩ := Print.run_takeComments 0 p
  have opened : ((Print.takeComments 0).run p).2.Opened format := by
    rw [taken]
    exact ⟨inFormat, uncommented⟩
  obtain ⟨text, adds⟩ := Grows.adds (m := Print.comments ((Print.takeComments 0).run p).1)
    ((Print.takeComments 0).run p).2
  exact adds.opened opened

/-- Printing a module starts with its first comments. -/
theorem Emits.onOpened {format : PrintFormat} {m : Print Unit} {P : List Char → Prop} {p : Page}
    (inFormat : p.format = format) (prepend : ∀ front text, P text → P (front ++ text))
    (emits : Emits format m fun _ => P) :
    ∃ text, p.Adds ((Print.commentsAt 0 >>= fun _ => m).run p).2 text ∧ P text := by
  obtain ⟨front, comments⟩ := Grows.adds (m := Print.commentsAt 0) p
  obtain ⟨text, adds, holds⟩ := emits _ (opened_commentsAt inFormat)
  exact ⟨front ++ text, comments.trans adds, prepend front text holds⟩

theorem depth_le_depthList {t : Tree} {ts : List Tree} (listed : t ∈ ts) :
    t.depth ≤ Tree.depthList ts := by
  induction ts with
  | nil => cases listed
  | cons s ts ih =>
      rw [Tree.depthList]
      rcases List.mem_cons.mp listed with rfl | listed
      · exact Nat.le_max_left ..
      · exact Nat.le_trans (ih listed) (Nat.le_max_right ..)

end Layout

open Layout

theorem emits_part {format : PrintFormat} {n : Nat} (p : Part) (route : Points)
    (deep : (p.item route).toTree.depth ≤ n) :
    Emits format (printer n .free (p.item route).toTree) fun _ => PartText format route p := by
  cases p with
  | plain => exact .of_grows
  | constant c => exact emits_constant c route deep

theorem emits_parts {format : PrintFormat} (parts : List Part) (route : Points) :
    Emits format
      (bodyStatements (printer (Tree.depthList (parts.map fun p => (p.item route).toTree) + 1)) .free
        (parts.map fun p => (p.item route).toTree))
      fun _ => Texts (PartText format route) parts := by
  refine emits_bodyStatements (fun p listed => emits_part p route ?_) ?_ ?_
  · exact Nat.le_succ_of_le (depth_le_depthList (List.mem_map_of_mem listed))
  · intro p front text holds
    cases p with
    | plain => trivial
    | constant c => exact holds.prepend front
  · intro p _ isString text
    cases p with
    | plain => trivial
    | constant c => cases isString

/-- The text is that of one part after the other, between what leads and what ends the module. -/
def ModuleText (format : PrintFormat) (route : Points) (parts : List Part) (text : List Char) :
    Prop :=
  ∃ before texts behind, List.Forall₂ (PartText format route) parts texts ∧
    text = before ++ texts.flatten ++ behind

theorem Module.printed_ofParts (m : Module) (parts : List Part) (route : Points)
    (format : PrintFormat) :
    ModuleText format route parts ((m.ofParts parts route).printed format).toList := by
  let all := (m.directives.map fun d => Part.plain (.statement d)) ++ parts
  have trees : (m.ofParts parts route).directives ++ (m.ofParts parts route).trees =
      all.map fun p => (p.item route).toTree := by
    simp [all, Module.ofParts, Module.trees, Function.comp_def, Part.item, Item.toTree]
  have body : Emits format (do
      bodyStatements (printer (Tree.depthList (all.map fun p => (p.item route).toTree) + 1))
        .free (all.map fun p => (p.item route).toTree)
      Print.semicolonIfOwed
      Print.commentsAt m.length) fun _ => ModuleText format route parts := by
    refine (emits_parts all route).bind fun _ text whole => ?_
    refine Emits.of_grows.mono fun _ behind _ => ?_
    obtain ⟨before, _, ⟨texts, each, rfl⟩, rfl⟩ := whole.drop
    exact ⟨before, texts, behind, each, rfl⟩
  have prepend (front text : List Char) (whole : ModuleText format route parts text) :
      ModuleText format route parts (front ++ text) := by
    obtain ⟨before, texts, behind, each, rfl⟩ := whole
    exact ⟨front ++ before, texts, behind, each, by simp⟩
  let page := Page.empty format (m.ofParts parts route).dialect.tags (m.ofParts parts route).comments
  have printed : ∃ text, page.Adds ((writeModule (m.ofParts parts route)).run page).2 text ∧
      ModuleText format route parts text := by
    unfold writeModule
    rw [trees]
    refine Emits.onOpened rfl prepend ?_
    dsimp only
    split
    · exact .led prepend fun _ => .led prepend fun _ => body
    · exact body
  obtain ⟨text, adds, whole⟩ := printed
  have written : (m.ofParts parts route).printed format =
      String.ofList (((writeModule (m.ofParts parts route)).run page).2.reversed.reverse) := rfl
  have blank : page.reversed = [] := rfl
  rw [written, adds.reversed, blank, List.append_nil, List.reverse_reverse, String.toList_ofList]
  exact whole

/-- A text is refused for every route id, or it is read and rewritten into parts that are filled in
with the route id. Of these, the constants are printed with their values inside of the calls of
wrappers; one call is printed for each entry of the report, and its second argument is a literal
that is read back as the route id. Where nothing is wrapped, the text is left as it is. -/
theorem Instrumenter.transform_routeLiteral (i : Instrumenter) (source : String)
    (options : ReadOptions) :
    (∃ e, ∀ routeId, i.transform source routeId options = .error e) ∨
      ∃ (m : Module) (faults : List Diagnostic) (parts : List Part) (report : Report),
        Module.ofSource source options = .ok (m, faults) ∧
        (parts.flatMap Part.callees).Perm (report.wrapped.map (·.wrapperLocal)) ∧
        (∀ p ∈ parts, ∀ e ∈ report.wrapped, p.Uncalled e.wrapperLocal) ∧
        ∀ routeId,
          m.instrument i.presets routeId = (m.ofParts parts (.ofString routeId), report) ∧
          Scanner.ReadsAs (routeLiteral i.format (.ofString routeId)) (.ofString routeId) ∧
          ∃ code, i.transform source routeId options = .ok { code, report } ∧
            (report.modified = true →
              ModuleText i.format (.ofString routeId) parts code.toList) ∧
            (report.modified = false → code = source) := by
  rcases i.transform_route source options with refused | read
  · exact .inl refused
  · obtain ⟨m, faults, parts, report, read, callees, uncalled, each⟩ := read
    refine .inr ⟨m, faults, parts, report, read, callees, uncalled, fun routeId => ?_⟩
    obtain ⟨instrumented, transformed⟩ := each routeId
    refine ⟨instrumented, Scanner.readsAs_literal (quoteOf_isQuote ..) routeId, _, transformed, ?_⟩
    constructor
    · intro modified
      rw [Module.emit, if_pos modified]
      exact m.printed_ofParts parts _ i.format
    · intro unmodified
      rw [Module.emit, if_neg (by rw [unmodified]; exact Bool.false_ne_true)]

end RouteWrap
