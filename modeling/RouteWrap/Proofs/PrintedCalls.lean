import RouteWrap.Proofs.Growth
import RouteWrap.Proofs.Stacks

/-!
The calls of wrappers as they are printed. What a printer adds to a page is described step by step,
on every page of one format whose first comments are printed. In front of what the rewrite builds
no comment is printed, so a call is its callee and, between parentheses, what is printed of its
value, a comma and the route id as a literal, apart from blanks.
-/

namespace RouteWrap.Layout

/-- A page in the format, without comments for what starts at the start of the source. -/
structure Page.Opened (format : PrintFormat) (p : Page) : Prop where
  format : p.format = format
  uncommented : ∀ g ∈ p.comments, g.1 ≠ 0

theorem Page.Adds.opened {format : PrintFormat} {p q : Page} {text : List Char}
    (adds : p.Adds q text) (opened : p.Opened format) : q.Opened format where
  format := adds.format.trans opened.format
  uncommented g listed := opened.uncommented g (adds.comments listed)

/-- On every opened page, `m` adds a text of which `P` holds with what `m` answers. -/
def Emits (format : PrintFormat) (m : Print α) (P : α → List Char → Prop) : Prop :=
  ∀ p : Page, p.Opened format → ∃ text, p.Adds (m.run p).2 text ∧ P (m.run p).1 text

namespace Emits

variable {format : PrintFormat} {m : Print α} {f : α → Print β} {P : α → List Char → Prop}
  {Q : β → List Char → Prop}

theorem mono {P' : α → List Char → Prop} (emits : Emits format m P)
    (implies : ∀ a text, P a text → P' a text) : Emits format m P' := by
  intro p opened
  obtain ⟨text, adds, holds⟩ := emits p opened
  exact ⟨text, adds, implies _ _ holds⟩

theorem of_grows [grows : Grows m] : Emits format m fun _ _ => True :=
  fun p _ => (grows.adds p).imp fun _ adds => ⟨adds, trivial⟩

theorem pure {a : α} (holds : P a []) : Emits format (pure a) P :=
  fun p _ => ⟨[], .refl p, holds⟩

theorem bind (first : Emits format m P)
    (rest : ∀ a text, P a text → Emits format (f a) fun b more => Q b (text ++ more)) :
    Emits format (m >>= f) Q := by
  intro p opened
  obtain ⟨a, addsFirst, holds⟩ := first p opened
  obtain ⟨b, addsRest, holds⟩ := rest _ a holds _ (addsFirst.opened opened)
  exact ⟨a ++ b, addsFirst.trans addsRest, holds⟩

/-- Answers of a step that adds nothing decide how a printer goes on. -/
theorem ask {answers : α → Prop} (first : Emits format m fun a text => answers a ∧ text = [])
    (rest : ∀ a, answers a → Emits format (f a) Q) : Emits format (m >>= f) Q := by
  refine first.bind fun a text holds => ?_
  obtain ⟨answered, rfl⟩ := holds
  exact rest a answered

theorem get : Emits format get fun p text => p.Opened format ∧ text = [] :=
  fun p opened => ⟨[], .refl p, opened, rfl⟩

theorem chars (cs : List Char) : Emits format (Print.chars cs) fun _ text => text = cs :=
  fun p _ => ⟨cs, .append p cs, rfl⟩

theorem char (c : Char) : Emits format (Print.char c) fun _ text => text = [c] :=
  fun p _ => ⟨[c], .append p [c], rfl⟩

theorem modify {f : Page → Page} (kept : ∀ p : Page, p.Adds (f p) []) :
    Emits format (modify f) fun _ text => True ∧ text = [] :=
  fun p _ => ⟨[], kept p, trivial, rfl⟩

theorem anyM {f : α → Print Bool}
    (each : ∀ a, Emits format (f a) fun _ text => True ∧ text = []) (l : List α) :
    Emits format (l.anyM f) fun _ text => True ∧ text = [] := by
  induction l with
  | nil => exact .pure ⟨trivial, rfl⟩
  | cons a l ih =>
      refine (each a).ask fun found _ => ?_
      cases found with
      | true => exact .pure ⟨trivial, rfl⟩
      | false => exact ih

end Emits

/-! Blanks -/

def Blank (text : List Char) : Prop := ∀ c ∈ text, c = ' ' ∨ c = '\t' ∨ c = '\n'

theorem Blank.nil : Blank [] := by simp [Blank]

theorem Blank.append {a b : List Char} (first : Blank a) (rest : Blank b) : Blank (a ++ b) :=
  fun c listed => (List.mem_append.mp listed).elim (first c) (rest c)

section

variable {format : PrintFormat}

theorem emits_space : Emits format Print.space fun _ => Blank :=
  (Emits.char ' ').mono fun _ _ same => by simp [same, Blank]

theorem emits_newline : Emits format Print.newline fun _ => Blank :=
  (Emits.char '\n').mono fun _ _ same => by simp [same, Blank]

theorem emits_if {c : Prop} [Decidable c] {m n : Print Unit} {P : Unit → List Char → Prop}
    (yes : Emits format m P) (no : Emits format n P) : Emits format (if c then m else n) P := by
  split
  · exact yes
  · exact no

theorem emits_minified :
    Emits format Print.minified fun b text => b = format.minify ∧ text = [] :=
  Emits.get.ask fun _ opened => .pure ⟨congrArg PrintFormat.minify opened.format, rfl⟩

theorem emits_softSpace : Emits format Print.softSpace fun _ => Blank :=
  emits_minified.ask fun _ _ => emits_if emits_space (.pure .nil)

theorem emits_softNewline : Emits format Print.softNewline fun _ => Blank :=
  emits_minified.ask fun _ _ => emits_if emits_newline (.pure .nil)

theorem emits_lineIndent : Emits format Print.lineIndent fun _ => Blank := by
  refine Emits.get.ask fun p _ => emits_if (.pure .nil) (emits_if ?_ ?_)
  · refine emits_space.bind fun _ text blank => ?_
    refine Emits.mono (.modify fun _ => ⟨rfl, rfl, List.Subset.refl _⟩) fun _ more none => ?_
    rwa [none.2, List.append_nil]
  · refine (Emits.chars _).mono fun _ text same => ?_
    rw [same]
    exact fun c listed => .inr (.inl (List.eq_of_mem_replicate listed))

theorem emits_wordSpace : Emits format Print.wordSpace fun _ => Blank := by
  refine Emits.get.ask fun p _ => ?_
  split
  · exact .pure .nil
  · exact emits_if emits_space (.pure .nil)

/-! Calls -/

/-- The quote that a literal is printed in, where a template may stand for it. -/
def quoteOf (format : PrintFormat) (ps : Points) : Char :=
  if format.minify then Quoted.cheapest ps true else format.quote.char

theorem emits_literal (ps : Points) :
    Emits format (Print.literal ps true) fun _ text =>
      text = Quoted.literal (quoteOf format ps) ps := by
  refine Emits.get.ask fun p opened => ?_
  rw [opened.format]
  exact .chars _

theorem emits_takeComments :
    Emits format (Print.takeComments 0) fun cs text => cs = [] ∧ text = [] := by
  intro p opened
  have unfound : p.comments.find? (·.1 == 0) = none :=
    List.find?_eq_none.mpr fun g listed => by simpa using opened.uncommented g listed
  simp only [Print.takeComments, StateT.run, modifyGet, MonadStateOf.modifyGet, StateT.modifyGet,
    unfound]
  exact ⟨[], .refl p, rfl, rfl⟩

theorem emits_hasComments (start : Nat) :
    Emits format (Print.hasComments start) fun _ text => True ∧ text = [] :=
  Emits.get.ask fun _ _ => .pure ⟨trivial, rfl⟩

theorem emits_atStatement : Emits format Print.atStatement fun _ text => True ∧ text = [] :=
  Emits.get.ask fun _ _ => .pure ⟨trivial, rfl⟩

theorem emits_atDefaultExport :
    Emits format Print.atDefaultExport fun _ text => True ∧ text = [] :=
  Emits.get.ask fun _ _ => .pure ⟨trivial, rfl⟩

theorem emits_argumentComments :
    Emits format (Print.argumentComments 0) fun found text => found = false ∧ text = [] :=
  emits_takeComments.ask fun _ none => none ▸ .pure ⟨rfl, rfl⟩

theorem emits_word (s : String) :
    Emits format (Print.word s) fun _ text => ∃ front, Blank front ∧ text = front ++ s.toList :=
  emits_wordSpace.bind fun _ front blank =>
    (Emits.chars _).mono fun _ _ same => ⟨front, blank, by rw [same]⟩

theorem emits_indented {m : Print Unit} {P : List Char → Prop}
    (emits : Emits format m fun _ => P) : Emits format (Print.indented m) fun _ => P := by
  refine Emits.ask (.modify fun _ => ⟨rfl, rfl, List.Subset.refl _⟩) fun _ _ => ?_
  refine emits.bind fun _ text holds => ?_
  refine Emits.mono (.modify fun _ => ⟨rfl, rfl, List.Subset.refl _⟩) fun _ after none => ?_
  rwa [none.2, List.append_nil]

/-! The arguments of a call -/

variable {r : Printer} {inner argument : Tree} {Inner Argument : List Char → Prop}

/-- Two texts with a comma between them, apart from blanks. -/
def PairText (First Second : List Char → Prop) (text : List Char) : Prop :=
  ∃ before first between second, Blank before ∧ Blank between ∧ First first ∧ Second second ∧
    text = (before ++ first) ++ ',' :: (between ++ second)

/-- An argument that starts at the start of the source has no comments in front of it. -/
theorem emits_one {t : Tree} (unplaced : t.span.start = 0) {P : List Char → Prop}
    (alone : Emits format (r.argument t) fun _ => P) :
    Emits format (commentedArguments.one r t) fun _ text =>
      ∃ before x, Blank before ∧ P x ∧ text = before ++ x := by
  unfold commentedArguments.one
  rw [unplaced]
  refine emits_argumentComments.ask fun _ none => ?_
  subst none
  refine emits_softNewline.bind fun _ line blankLine => ?_
  refine emits_lineIndent.bind fun _ indent blankIndent => ?_
  refine alone.mono fun _ x holds => ⟨line ++ indent, x, blankLine.append blankIndent, holds, ?_⟩
  rw [List.append_assoc]

theorem emits_commentedArguments
    (first : Emits format (commentedArguments.one r inner) fun _ text =>
      ∃ before x, Blank before ∧ Inner x ∧ text = before ++ x)
    (second : Emits format (commentedArguments.one r argument) fun _ text =>
      ∃ before x, Blank before ∧ Argument x ∧ text = before ++ x) :
    Emits format (commentedArguments r [inner, argument]) fun _ => PairText Inner Argument := by
  unfold commentedArguments
  refine first.bind fun _ text one => ?_
  obtain ⟨before, x, blankBefore, holds, rfl⟩ := one
  refine (Emits.char ',').bind fun _ comma isComma => ?_
  unfold commentedArguments
  refine second.mono fun _ more one => ?_
  obtain ⟨between, y, blankBetween, isArgument, rfl⟩ := one
  exact ⟨before, x, between, y, blankBefore, blankBetween, holds, isArgument, by rw [isComma]; rfl⟩

theorem emits_commaList (first : Emits format (r.argument inner) fun _ => Inner)
    (second : Emits format (r.argument argument) fun _ => Argument) :
    Emits format (Print.commaList ([inner, argument].map r.argument)) fun _ =>
      PairText Inner Argument := by
  unfold Print.commaList
  refine first.bind fun _ x holds => ?_
  refine (Emits.char ',').bind fun _ comma isComma => ?_
  refine emits_softSpace.bind fun _ between blank => ?_
  unfold Print.commaList
  refine second.mono fun _ y isArgument => ⟨[], x, between, y, .nil, blank, holds, isArgument, ?_⟩
  rw [isComma]
  rfl

theorem emits_arguments (alone : Emits format (r.argument inner) fun _ => Inner)
    (led : Emits format (commentedArguments.one r inner) fun _ text =>
      ∃ before x, Blank before ∧ Inner x ∧ text = before ++ x)
    (second : Emits format (r.argument argument) fun _ => Argument)
    (unplaced : argument.span.start = 0) :
    Emits format (arguments r .none [inner, argument]) fun _ text =>
      ∃ pair behind, PairText Inner Argument pair ∧ Blank behind ∧
        text = '(' :: pair ++ behind ++ [')'] := by
  unfold arguments
  refine (Emits.char '(').bind fun _ opening isOpening => ?_
  subst isOpening
  simp only [Span.none, Nat.lt_irrefl, if_false]
  refine Emits.ask (.pure ⟨rfl, rfl⟩) fun atEnd never => ?_
  subst never
  refine (Emits.anyM (fun t => emits_hasComments _) _).ask fun commented _ => ?_
  cases commented with
  | true =>
      simp only [Bool.false_or, if_true, Bool.false_eq_true, if_false]
      have listed : Emits format (do
            commentedArguments r [inner, argument]
            let closed ← pure false
            if !closed then Print.softNewline) fun _ text =>
          ∃ pair line, PairText Inner Argument pair ∧ Blank line ∧ text = pair ++ line := by
        refine (emits_commentedArguments led (emits_one unplaced second)).bind fun _ pair isPair => ?_
        refine Emits.ask (.pure ⟨rfl, rfl⟩) fun closed never => ?_
        subst never
        exact emits_softNewline.mono fun _ line blank => ⟨pair, line, isPair, blank, rfl⟩
      refine (emits_indented listed).bind fun _ text listed => ?_
      obtain ⟨pair, line, isPair, blankLine, rfl⟩ := listed
      refine emits_lineIndent.bind fun _ indent blankIndent => ?_
      refine (Emits.char ')').mono fun _ closing isClosing =>
        ⟨pair, line ++ indent, isPair, blankLine.append blankIndent, ?_⟩
      subst isClosing
      simp
  | false =>
      simp only [Bool.false_or, Bool.false_eq_true, if_false]
      refine (emits_commaList alone second).bind fun _ pair isPair => ?_
      refine (Emits.char ')').mono fun _ closing isClosing => ⟨pair, [], isPair, .nil, ?_⟩
      rw [isClosing, List.append_nil]
      rfl

/-! Calls of wrappers -/

/-- What is printed of an argument, alone or under the comments in front of it. -/
def Printed (t : Tree) (text : List Char) : Prop :=
  ∃ n p, t.depth ≤ n ∧
    (Page.Adds p (((printer n).argument t).run p).2 text ∨
      Page.Adds p ((commentedArguments.one (printer n) t).run p).2 text)

/-- The text of a value inside of calls, from the inside out, with `literal` as the second argument
of each. -/
inductive CallText (literal : List Char) (value : Tree) : List String → List Char → Prop
  | value {text : List Char} (printed : Printed value text) : CallText literal value [] text
  | call {callees : List String} {front before inner between behind : List Char}
      (calls : CallText literal value callees inner) (callee : String)
      (blank : Blank front ∧ Blank before ∧ Blank between ∧ Blank behind) :
      CallText literal value (callees ++ [callee])
        (front ++ callee.toList ++
          ('(' :: ((before ++ inner) ++ ',' :: (between ++ literal)) ++ behind ++ [')']))

variable {route : Points} {n : Nat}

theorem emits_wrapperCall (callee : String)
    (deep : (wrapperCall callee inner route).depth ≤ n)
    (alone : ∀ m, inner.depth ≤ m → Emits format ((printer m).argument inner) fun _ => Inner)
    (led : ∀ m, inner.depth ≤ m →
      Emits format (commentedArguments.one (printer m) inner) fun _ text =>
        ∃ before x, Blank before ∧ Inner x ∧ text = before ++ x) :
    Emits format ((printer n).argument (wrapperCall callee inner route)) fun _ text =>
      ∃ front pair behind, Blank front ∧
        PairText Inner (· = Quoted.literal (quoteOf format route) route) pair ∧ Blank behind ∧
        text = front ++ callee.toList ++ ('(' :: pair ++ behind ++ [')']) := by
  simp only [wrapperCall, Tree.depth, Tree.depthList] at deep
  obtain ⟨n, rfl⟩ : ∃ m, n = m + 2 := Nat.exists_eq_add_of_le' (by omega)
  -- the place of an argument needs no parentheses around a call
  have plain : (printer (n + 2)).argument (wrapperCall callee inner route) = (do
      let isStatement ← Print.atStatement
      let isExport ← Print.atDefaultExport
      if isExport then Print.markDefaultExport
      else if isStatement then Print.markStatement
      Print.word callee
      arguments (printer (n + 1)) .none [inner, .expr .none (.string route) []]) := rfl
  have call : Emits format (do
      Print.word callee
      arguments (printer (n + 1)) .none [inner, .expr .none (.string route) []]) fun _ text =>
        ∃ front pair behind, Blank front ∧
          PairText Inner (· = Quoted.literal (quoteOf format route) route) pair ∧ Blank behind ∧
          text = front ++ callee.toList ++ ('(' :: pair ++ behind ++ [')']) := by
    refine (emits_word callee).bind fun _ name isName => ?_
    obtain ⟨front, blankFront, rfl⟩ := isName
    have second : Emits format ((printer (n + 1)).argument (.expr .none (.string route) []))
        fun _ text => text = Quoted.literal (quoteOf format route) route := emits_literal route
    have shallow : inner.depth ≤ n + 1 := by omega
    refine (emits_arguments (alone _ shallow) (led _ shallow) second rfl).mono fun _ text listed => ?_
    obtain ⟨pair, behind, isPair, blankBehind, rfl⟩ := listed
    exact ⟨front, pair, behind, blankFront, isPair, blankBehind, rfl⟩
  rw [plain]
  refine emits_atStatement.ask fun isStatement _ => ?_
  refine emits_atDefaultExport.ask fun isExport _ => ?_
  dsimp only
  split
  · exact Emits.ask (.modify fun _ => ⟨rfl, rfl, List.Subset.refl _⟩) fun _ _ => call
  · split
    · exact Emits.ask (.modify fun _ => ⟨rfl, rfl, List.Subset.refl _⟩) fun _ _ => call
    · exact call

/-- What is printed of a value inside of the calls of its wrappers. -/
theorem emits_nest (route : Points) (callees : List String) (value : Tree)
    (deep : (nest route callees value).depth ≤ n) :
    Emits format ((printer n).argument (nest route callees value)) fun _ =>
      CallText (Quoted.literal (quoteOf format route) route) value callees := by
  induction callees using List.reverseRecOn generalizing n with
  | nil =>
      intro p opened
      obtain ⟨text, adds⟩ := Grows.adds (m := (printer n).argument value) p
      exact ⟨text, adds, .value ⟨n, p, deep, .inl adds⟩⟩
  | append_singleton callees callee ih =>
      have led (m : Nat) (shallow : (nest route callees value).depth ≤ m) :
          Emits format (commentedArguments.one (printer m) (nest route callees value)) fun _ text =>
            ∃ before x, Blank before ∧
              CallText (Quoted.literal (quoteOf format route) route) value callees x ∧
              text = before ++ x := by
        cases callees using List.reverseRecOn with
        | nil =>
            intro p opened
            obtain ⟨text, adds⟩ := Grows.adds (m := commentedArguments.one (printer m) value) p
            exact ⟨text, adds, [], text, .nil, .value ⟨m, p, shallow, .inr adds⟩, rfl⟩
        | append_singleton callees inner =>
            refine emits_one ?_ (ih shallow)
            rw [nest_concat]
            rfl
      rw [nest_concat] at deep ⊢
      refine (emits_wrapperCall callee deep (fun _ => ih) led).mono fun _ text call => ?_
      obtain ⟨front, _, behind, blankFront, pair, blankBehind, rfl⟩ := call
      obtain ⟨before, inner, between, _, blankBefore, blankBetween, calls, rfl, rfl⟩ := pair
      exact .call calls callee ⟨blankFront, blankBefore, blankBetween, blankBehind⟩

end

end RouteWrap.Layout
