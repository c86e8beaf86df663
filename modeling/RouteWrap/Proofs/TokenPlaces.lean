import RouteWrap.Proofs.Forward

/-!
Where tokens stand. A token that is read stands between the offsets of the scanner before and after
it, and one that is a name or a string takes up some of the text. A token that is read anew stays
where it stood.
-/

namespace RouteWrap

/-- Tokens that are a name or a string. -/
def Kind.isText (k : Kind) : Bool := k.isNameLike || k == .string

/-- The token starts at the offset or before it, and before it where it has text. -/
structure Token.Precedes (t : Token) (offset : Nat) : Prop where
  start : t.start ≤ offset
  text : t.kind.isText → t.start < offset

namespace Scanner

theorem lt_of_forward {α β : Type} {m : Scan α} {f : α → Scan β} {s : Scanner}
    (first : s.offset < (m.run s).2.offset) [rest : ∀ a, Forward (f a)] :
    s.offset < ((m >>= f).run s).2.offset :=
  Nat.lt_of_lt_of_le first ((rest _).leads _)

variable {s : Scanner} {start : Nat} {c : Char} {cs : List Char}

theorem lt_skip (at? : s.rest = c :: cs) : s.offset < (skip.run s).2.offset := by
  obtain ⟨rest⟩ := s
  obtain rfl : rest = c :: cs := at?
  exact Nat.lt_add_of_pos_right c.utf8Size_pos

theorem lt_takeWhile {p : Char → Bool} (at? : s.rest = c :: cs) (holds : p c) :
    s.offset < ((takeWhile p).run s).2.offset := by
  rw [run_takeWhile, at?, List.takeWhile_cons_of_pos holds, bytes_cons]
  have taken := c.utf8Size_pos
  exact Nat.lt_add_of_pos_right (by omega)

/-- A name has at least the character that it starts with. -/
theorem lt_name (at? : s.rest = c :: cs) (starts : Identifier.startsName c || c == '\\') :
    s.offset < (name.run s).2.offset := by
  have head : s.rest.head? = some c := by rw [at?]; rfl
  unfold name
  change s.offset < (StateT.run (ite (s.rest.head? == some '\\') _ _ : Scan _) s).2.offset
  rw [head]
  split
  · obtain ⟨rest, forward, same⟩ := exists_nameEscape_eq true
    rw [same]
    exact lt_of_forward (lt_of_forward (lt_skip at?))
  · rename_i other
    have continues : Identifier.continuesName c := by
      rw [Bool.or_eq_true, beq_iff_eq] at starts
      refine Identifier.continuesName_of_startsName (starts.resolve_right fun same => other ?_)
      rw [same]
      rfl
    unfold nameTail
    exact lt_of_forward (lt_of_forward (lt_takeWhile at? continues))

theorem lt_zero (at? : s.rest = c :: cs) : s.offset < (zero.run s).2.offset := by
  unfold zero
  refine @lt_of_forward _ _ _ _ _ (lt_skip at?) fun _ => .on fun c => ?_
  split <;> infer_instance

theorem lt_decimal (at? : s.rest = c :: cs) (digit : c.isDigit) :
    s.offset < (decimal.run s).2.offset := by
  have digits (n : Nat) : s.offset < ((digitsTail Char.isDigit (n + 1)).run s).2.offset := by
    unfold digitsTail
    exact lt_of_forward (lt_takeWhile at? digit)
  have tail : s.offset < (decimalTail.run s).2.offset :=
    @lt_of_forward _ _ _ (fun _ => pure ()) s (digits s.rest.length) inferInstance
  unfold decimal
  refine @lt_of_forward _ _ _ _ _ tail fun _ => .on fun c => ?_
  split <;> infer_instance

theorem lt_privateName (at? : s.rest = c :: cs) : s.offset < (privateName.run s).2.offset := by
  unfold privateName
  refine @lt_of_forward _ _ _ _ _ (lt_skip at?) fun _ => .on fun c => ?_
  split <;> infer_instance

/-- A lexeme that is a name or a string takes up some of the text. -/
def Fills (s : Scanner) (m : Scan Lexeme) : Prop :=
  (m.run s).1.kind.isText → s.offset < (m.run s).2.offset

namespace Fills

theorem of_lt {α : Type} {m : Scan α} {f : α → Scan Lexeme}
    (first : s.offset < (m.run s).2.offset) [∀ a, Forward (f a)] : Fills s (m >>= f) :=
  fun _ => lt_of_forward first

theorem of_skip {f : Unit → Scan Lexeme} (at? : s.rest = c :: cs) [∀ a, Forward (f a)] :
    Fills s (skip >>= f) :=
  of_lt (lt_skip at?)

/-- Other lexemes may be empty. -/
theorem other {α : Type} {m : Scan α} {f : α → Lexeme}
    (other : ∀ a, (f a).kind.isText = false) : Fills s (m >>= fun a => pure (f a)) :=
  fun text => nomatch (other _).symm.trans text

theorem get {f : Scanner → Scan Lexeme} (rest : Fills s (f s)) : Fills s (get >>= f) := rest

end Fills

theorem fills_lexeme : Fills s (lexeme start) := by
  unfold lexeme
  refine .get ?_
  generalize at? : s.rest = before
  cases before with
  | nil => exact nofun
  | cons c cs =>
      dsimp only
      split
      · next starts => exact .of_lt (lt_name at? starts)
      split
      · exact .of_lt (lt_zero at?)
      split
      · next digit => exact .of_lt (lt_decimal at? digit)
      split
      · exact .of_skip at?
      split
      · exact .of_skip at?
      split
      · exact .of_skip at?
      split
      · split
        · exact .other fun _ => rfl
        · exact fun _ => lt_privateName at?
      split
      · exact .other fun _ => rfl
      · exact .of_skip at?

/-- Whatever is read, it is neither a name nor a string. -/
def Plain {α : Type} (kind : α → Kind) (m : Scan α) : Prop :=
  ∀ s, (kind (m.run s).1).isText = false

namespace Plain

variable {α β : Type} {kind : β → Kind}

theorem pure {b : β} (plain : (kind b).isText = false) : Plain kind (pure b) := fun _ => plain

theorem after {m : Scan α} {f : α → Scan β} (rest : ∀ a, Plain kind (f a)) :
    Plain kind (m >>= f) :=
  fun _ => rest _ _

end Plain

theorem plain_templateTail {whole head : Kind} (wholePlain : whole.isText = false)
    (headPlain : head.isText = false) (n : Nat) (raw : List Char) (points : Option Points) :
    Plain TemplateText.kind (templateTail whole head start n raw points) := by
  induction n generalizing raw points with
  | zero => exact .pure rfl
  | succ n ih =>
      unfold templateTail
      refine .after fun more => .after fun c => ?_
      split
      · exact .after fun _ => .pure rfl
      · exact .after fun _ => .pure wholePlain
      · refine .after fun _ => .after fun c => ?_
        split
        · exact .after fun _ => .pure headPlain
        · exact ih _ _
      · refine .after fun _ => .after fun c => ?_
        split
        · exact .after fun _ => ih _ _
        · exact ih _ _
      · exact .after fun _ => .after fun s => .after fun value => .after fun s => ih _ _

theorem plain_templateLexeme {whole head : Kind} (wholePlain : whole.isText = false)
    (headPlain : head.isText = false) : Plain Lexeme.kind (templateLexeme whole head start) :=
  fun s => plain_templateTail wholePlain headPlain (s.rest.length + 1) [] (some []) s

/-! Readers of tokens -/

/-- A token that is read from `start` on. -/
def Finishes (start : Nat) (s : Scanner) (lex : Scan Token) : Prop :=
  (lex.run s).1.start = start ∧ (lex.run s).1.Precedes (lex.run s).2.offset

namespace Finishes

variable {g : Gap} {l : Lexeme} {t : Token} {α : Type} {bound : Nat}

theorem given (place : t.start = start) (precedes : t.Precedes s.offset) :
    Finishes start s (pure t) :=
  ⟨place, precedes⟩

theorem finish (reached : start ≤ s.offset) (filled : l.kind.isText → start < s.offset) :
    Finishes start s (finish start g l) :=
  ⟨rfl, reached, filled⟩

theorem of_lt (reached : start < s.offset) : Finishes start s (Scanner.finish start g l) :=
  finish (Nat.le_of_lt reached) fun _ => reached

theorem plain (plain : l.kind.isText = false) (reached : start ≤ s.offset) :
    Finishes start s (Scanner.finish start g l) :=
  finish reached fun text => nomatch plain.symm.trans text

theorem lexeme : Finishes s.offset s (lexeme s.offset >>= Scanner.finish s.offset g) :=
  finish (Leads.leads (R := Reaches) (m := Scanner.lexeme s.offset) s) fills_lexeme

/-! What is read before the token ends -/

theorem after {m : Scan α} {f : α → Scan Token} [forward : Forward m] (reached : bound ≤ s.offset)
    (rest : ∀ a s', bound ≤ s'.offset → Finishes start s' (f a)) : Finishes start s (m >>= f) :=
  rest _ _ (Nat.le_trans reached (forward.leads s))

theorem pure {a : α} {f : α → Scan Token} (rest : Finishes start s (f a)) :
    Finishes start s (Pure.pure a >>= f) :=
  rest

theorem get {f : Scanner → Scan Token} (rest : Finishes start s (f s)) :
    Finishes start s (MonadState.get >>= f) :=
  rest

theorem position {f : Nat → Scan Token} (rest : Finishes start s (f s.offset)) :
    Finishes start s (position >>= f) :=
  rest

theorem peek {f : Option Char → Scan Token} (rest : Finishes start s (f s.rest.head?)) :
    Finishes start s (peek >>= f) :=
  rest

theorem skip {f : Unit → Scan Token} (at? : s.rest = c :: cs)
    (rest : ∀ s', s.offset < s'.offset → Finishes start s' (f ())) :
    Finishes start s (skip >>= f) :=
  rest _ (lt_skip at?)

end Finishes

/-- The token that is read stands between the offsets before and after it. -/
class Lexes (lex : Scan Token) : Prop where
  lexes : ∀ s, s.offset ≤ (lex.run s).1.start ∧ (lex.run s).1.Precedes (lex.run s).2.offset

theorem Lexes.of_finishes {lex : Scan Token} (each : ∀ s, Finishes s.offset s lex) : Lexes lex :=
  ⟨fun s => ⟨Nat.le_of_eq (each s).1.symm, (each s).2⟩⟩

/-- Before the token, nothing but space is read. -/
theorem Lexes.of_gap {f : Gap → Scan Token} (rest : ∀ g s, Finishes s.offset s (f g)) :
    Lexes (remaining >>= fun n => gap n noGap >>= f) where
  lexes s :=
    have reached := (forward_gap (s.rest.length + 1) noGap).leads s
    have ⟨place, precedes⟩ := rest _ _
    ⟨Nat.le_trans reached (Nat.le_of_eq place.symm), precedes⟩

instance : Lexes next := .of_gap fun _ _ => .position .lexeme

instance : Lexes jsxValue := by
  refine .of_gap fun g s => .position (.peek ?_)
  cases at? : s.rest with
  | nil => exact .lexeme
  | cons quote cs =>
      dsimp only [List.head?_cons]
      split
      · refine .skip at? fun s₁ skipped => .after skipped fun text s₂ taken => ?_
        refine .after taken fun c s₃ peeked => ?_
        split
        · exact .after peeked fun _ s₄ closed => .of_lt closed
        · exact .after peeked fun _ s₄ told => .of_lt told
      · exact .lexeme

instance : Lexes jsxChild := by
  refine .of_finishes fun s => .position (.after (Nat.le_refl _) fun c s₁ peeked => ?_)
  split
  · exact .pure (.plain rfl peeked)
  · exact .after peeked fun _ s₂ skipped => .pure (.plain rfl skipped)
  · exact .after peeked fun _ s₂ skipped => .pure (.plain rfl skipped)
  · refine .after peeked fun text s₂ taken => .after taken fun c s₃ reached => ?_
    split
    · split
      · exact .after reached fun _ s₄ placed => .after placed fun _ s₅ told =>
          .pure (.plain rfl told)
      · exact .pure (.plain rfl reached)
    · exact .pure (.plain rfl reached)

/-- The token stands where the one did that it takes the place of. -/
class Relexes (lex : Token → Scan Token) : Prop where
  relexes : ∀ t s, t.Precedes s.offset → Finishes t.start s (lex t)

instance : Relexes templateRest where
  relexes t s precedes := by
    have plain := @plain_templateLexeme t.start .templateTail .templateMiddle rfl rfl s
    have forward : Forward (templateLexeme .templateTail .templateMiddle t.start) := inferInstance
    exact Finishes.plain plain (Nat.le_trans precedes.start (forward.leads s))

instance : Relexes regex where
  relexes t s precedes := by
    unfold regex
    refine .after precedes.start fun s' s₁ reached => ?_
    split
    · exact .after reached fun _ s₂ told => .after told fun _ s₃ taken => .plain rfl taken
    · refine .after reached fun _ s₂ skipped => .after skipped fun _ s₃ placed => ?_
      exact .after placed fun flags s₄ taken => .after taken fun seen s₅ told => .plain rfl told

instance : Relexes jsxName where
  relexes t s precedes := by
    refine .peek ?_
    cases at? : s.rest with
    | nil => exact .given rfl precedes
    | cons c cs =>
        rw [List.head?_cons]
        split
        · next hyphen =>
          obtain rfl : c = '-' := by simpa using hyphen
          have further := lt_takeWhile (p := fun c => c == '-' || Identifier.continuesName c) at? rfl
          have reached := Nat.lt_of_le_of_lt precedes.start further
          exact .given rfl ⟨Nat.le_of_lt reached, fun _ => reached⟩
        · exact .given rfl precedes

instance : Relexes rightAngle where
  relexes t s precedes := by
    refine .get ?_
    extract_lets rest
    split
    · exact .after precedes.start fun _ s' skipped => .given rfl ⟨skipped, nofun⟩
    · exact .given rfl precedes

instance {lex : Token → Scan Token} [relexes : Relexes lex] {p : Token → Bool} :
    Relexes (fun t => if p t then lex t else pure t) where
  relexes t s precedes := by
    split
    · exact relexes.relexes t s precedes
    · exact .given rfl precedes

instance : Relexes leftAngle where
  relexes _ _ _ := ⟨rfl, Nat.le_succ _, nofun⟩

end Scanner

end RouteWrap
