import Mathlib.Order.Defs.Unbundled
import RouteWrap.Proofs.FreshRuns
import RouteWrap.Proofs.Literals
import RouteWrap.Syntax.Scanner

/-!
Scanning moves forward: whatever a scanner reads, its offset does not fall.
-/

namespace RouteWrap

/-- Every run leads from a state to one that is related to it. -/
class Leads {σ α : Type} (R : σ → σ → Prop) (m : StateM σ α) : Prop where
  leads : ∀ s, R s (m.run s).2

namespace Leads

variable {σ α β : Type} {R : σ → σ → Prop} {m : StateM σ α} {f : α → StateM σ β}

theorem modify {g : σ → σ} (each : ∀ s, R s (g s)) : Leads R (modify g : StateM σ PUnit) := ⟨each⟩

theorem followed [IsTrans σ R] (first : Leads R m) (rest : ∀ a, Leads R (f a)) :
    Leads R (m >>= f) where
  leads s := IsTrans.trans _ _ _ (first.leads s) ((rest (m.run s).1).leads (m.run s).2)

theorem on [IsTrans σ R] [first : Leads R m] (rest : ∀ a, Leads R (f a)) : Leads R (m >>= f) :=
  followed first rest

instance bind [IsTrans σ R] [first : Leads R m] [rest : ∀ a, Leads R (f a)] :
    Leads R (m >>= f) :=
  on rest

-- The next three keep a result that nothing reads out of the search for what follows it: each
-- such result doubles the size of the instances that are found under it.

/-- Steps that follow whatever the first one gives. -/
instance (priority := 10001) next [IsTrans σ R] {n : StateM σ β} [first : Leads R m]
    [rest : Leads R n] : Leads R (m >>= fun _ => n) :=
  bind

/-- Steps that depend on the first one's result by a test alone. -/
instance (priority := 10002) test [IsTrans σ R] {c : α → Prop} [∀ a, Decidable (c a)]
    {yes no : StateM σ β} [first : Leads R m] [Leads R yes] [Leads R no] :
    Leads R (m >>= fun a => if c a then yes else no) :=
  on fun _ => by split <;> assumption

/-- A test of two results. -/
instance (priority := 10003) tests [IsTrans σ R] {γ : Type} {m' : StateM σ γ} {c : α → γ → Prop}
    [∀ a b, Decidable (c a b)] {yes no : StateM σ β} [first : Leads R m] [second : Leads R m']
    [Leads R yes] [Leads R no] :
    Leads R (m >>= fun a => m' >>= fun b => if c a b then yes else no) :=
  on fun _ => on fun _ => by split <;> assumption

/-! Results that are taken apart at once -/

instance (priority := high) bindPair [IsTrans σ R] {α' : Type} {m : StateM σ (α × α')}
    {f : α × α' → StateM σ β} [first : Leads R m] [rest : ∀ a b, Leads R (f (a, b))] :
    Leads R (m >>= f) :=
  on fun (a, b) => rest a b

instance (priority := high) bindOption [IsTrans σ R] {m : StateM σ (Option α)}
    {f : Option α → StateM σ β} [first : Leads R m] [none : Leads R (f none)]
    [some : ∀ a, Leads R (f (some a))] : Leads R (m >>= f) :=
  on fun o => by
    cases o with
    | none => exact none
    | some a => exact some a

/-- From a state that is reached, one that is reached. -/
theorem after {f : α → StateM σ β} {s s' : σ} (first : R s (m.run s').2)
    (rest : ∀ a s'', R s s'' → R s ((f a).run s'').2) : R s ((m >>= f).run s').2 :=
  rest _ _ first

/-- What is done on trial may be undone. -/
theorem trying {f : σ → α → StateM σ β} (first : Leads R m)
    (rest : ∀ s a s', R s s' → R s ((f s a).run s').2) :
    Leads R (do let s ← MonadState.get; let a ← m; f s a) :=
  ⟨fun s => rest s _ _ (first.leads s)⟩

variable [Std.Refl R]

instance pure (a : α) : Leads R (pure a : StateM σ α) := ⟨fun s => Std.Refl.refl s⟩

instance get : Leads R (get : StateM σ σ) := ⟨fun s => Std.Refl.refl s⟩

instance map {g : α → β} [leads : Leads R m] : Leads R (g <$> m) := ⟨leads.leads⟩

instance ite {c : Prop} [Decidable c] {yes no : StateM σ α} [Leads R yes] [Leads R no] :
    Leads R (if c then yes else no) := by
  split <;> infer_instance

instance forIn [IsTrans σ R] {γ : Type} {f : α → γ → StateM σ (ForInStep γ)}
    [each : ∀ a c, Leads R (f a c)] :
    ∀ (l : List α) (c : γ), Leads R (forIn l c f)
  | [], c => by rw [List.forIn_nil]; infer_instance
  | a :: l, c => by
      rw [List.forIn_cons]
      refine on fun step => ?_
      cases step with
      | done => infer_instance
      | yield c => exact forIn l c

instance forM [IsTrans σ R] {f : α → StateM σ PUnit} [each : ∀ a, Leads R (f a)] :
    ∀ l : List α, Leads R (l.forM f)
  | [] => pure _
  | a :: l =>
      followed (each a) fun _ => forM l

end Leads

namespace Scanner

/-- The second scanner has not gone back behind the first. -/
def Reaches (s s' : Scanner) : Prop := s.offset ≤ s'.offset

instance : Std.Refl Reaches := ⟨fun _ => Nat.le_refl _⟩
instance : IsTrans Scanner Reaches := ⟨fun _ _ _ => Nat.le_trans⟩

/-- The offset does not fall. -/
abbrev Forward {α : Type} (m : Scan α) : Prop := Leads Reaches m

variable {α : Type}

instance : Forward peek := by unfold peek; infer_instance
instance : Forward position := by unfold position; infer_instance
instance {f : Fault} {n : Nat} : Forward (fault f n) := .modify fun _ => Nat.le_refl _
instance : Forward skip := .modify fun s => by
  split
  · exact Nat.le_add_right ..
  · exact Nat.le_refl _
instance {g : Scanner → Trivia} : Forward (modify fun s => { s with trivia := g s }) :=
  .modify fun _ => Nat.le_refl _
instance {n : Nat} : Forward (skipMany n) := .modify fun _ => Nat.le_add_right ..
instance {p : Char → Bool} : Forward (takeWhile p) := ⟨fun _ => Nat.le_add_right ..⟩
instance {t : String} : Forward (startsWith t) := by unfold startsWith; infer_instance
instance : Forward remaining := by unfold remaining; infer_instance

/-! Escape sequences -/

instance forward_hexDigits : ∀ n value, Forward (hexDigits n value)
  | 0, _ => by unfold hexDigits; infer_instance
  | n + 1, value => by
      have := forward_hexDigits n
      unfold hexDigits
      refine .on fun c => ?_
      split <;> infer_instance

instance forward_bracedDigits : ∀ n value, Forward (bracedDigits n value)
  | 0, _ => by unfold bracedDigits; infer_instance
  | n + 1, value => by
      have := forward_bracedDigits n
      unfold bracedDigits
      refine .on fun c => ?_
      split <;> infer_instance

/-- The second half of a pair, which is put back if it is none. -/
theorem forward_lowHalf (high : Nat) : Forward (do
    let before ← get
    skipMany 2
    match ← hexDigits 4 0 with
    | none => return none
    | some low =>
        if isLowSurrogate low then return some (joinSurrogates high low, true)
        else
          set before
          return some (high, false)) := by
  refine .trying inferInstance fun s _ s' reached => ?_
  have later : Reaches s ((hexDigits 4 0).run s').2 :=
    Nat.le_trans reached ((forward_hexDigits 4 0).leads s')
  refine Leads.after later fun digits s'' reached => ?_
  split
  · exact reached
  · split
    · exact reached
    · exact Nat.le_refl _

instance : Forward unicodeEscape := by
  unfold unicodeEscape
  refine .on fun c => ?_
  split
  · refine .on fun _ => .on fun c => ?_
    split <;> infer_instance
  · refine .on fun digits => ?_
    split
    · infer_instance
    · refine .on fun isPair => ?_
      split
      · exact forward_lowHalf _
      · infer_instance

instance forward_octalDigits : ∀ n value, Forward (octalDigits n value)
  | 0, _ => by unfold octalDigits; infer_instance
  | n + 1, value => by
      have := forward_octalDigits n
      unfold octalDigits
      refine .on fun c => ?_
      split <;> infer_instance

instance {inTemplate : Bool} : Forward (escapeSequence inTemplate) := by
  unfold escapeSequence
  refine .on fun c => ?_
  split
  · infer_instance
  refine .on fun _ => ?_
  split
  · infer_instance
  split
  · infer_instance
  split <;> infer_instance

/-! Names -/

theorem exists_nameEscape_eq (first : Bool) :
    ∃ rest : Scan (List Char), Forward rest ∧ nameEscape first = skip >>= fun _ => rest := by
  refine ⟨_, ?_, rfl⟩
  refine .on fun start => .on fun c => ?_
  split
  · infer_instance
  refine .on fun _ => .on fun escape => ?_
  split <;> infer_instance

instance {first : Bool} : Forward (nameEscape first) := by
  obtain ⟨rest, forward, same⟩ := exists_nameEscape_eq first
  rw [same]
  infer_instance

instance forward_nameTail : ∀ n acc escaped, Forward (nameTail n acc escaped)
  | 0, _, _ => by unfold nameTail; infer_instance
  | n + 1, _, _ => by
      have := forward_nameTail n
      unfold nameTail
      infer_instance

instance : Forward name := by unfold name; infer_instance

/-! Numerals -/

instance : Forward unexpectedHere := by
  unfold unexpectedHere
  refine .on fun c => ?_
  split <;> infer_instance

instance forward_digitsTail {isDigit : Char → Bool} : ∀ n, Forward (digitsTail isDigit n)
  | 0 => by unfold digitsTail; infer_instance
  | n + 1 => by
      have := @forward_digitsTail isDigit n
      unfold digitsTail
      infer_instance

instance : Forward decimalTail := by unfold decimalTail; infer_instance
instance : Forward decimalDigits := by unfold decimalDigits; infer_instance
instance : Forward exponentTail := by unfold exponentTail; infer_instance
instance : Forward exponent := by unfold exponent; infer_instance
instance {kind : NumeralKind} : Forward (numeralEnd kind) := by unfold numeralEnd; infer_instance
instance : Forward fraction := by unfold fraction; infer_instance
instance : Forward decimal := by
  unfold decimal
  refine .on fun _ => .on fun c => ?_
  split <;> infer_instance
instance {kind : NumeralKind} {isDigit : Char → Bool} : Forward (radix kind isDigit) := by
  unfold radix; infer_instance
instance : Forward legacyOctal := by
  unfold legacyOctal
  refine .on fun digits => .on fun c => ?_
  split <;> infer_instance
instance : Forward zero := by
  unfold zero
  refine .on fun _ => .on fun c => ?_
  split <;> infer_instance

/-! Strings and templates -/

instance forward_stringTail {quote : Char} {start : Nat} :
    ∀ n acc escaped, Forward (stringTail quote start n acc escaped)
  | 0, _, _ => by unfold stringTail; infer_instance
  | n + 1, _, _ => by
      have := @forward_stringTail quote start n
      unfold stringTail
      refine .on fun more => .on fun c => ?_
      split
      · refine .on fun escape => .on fun _ => ?_
        refine .on fun value => ?_
        split <;> infer_instance
      · infer_instance
      · infer_instance

instance forward_templateTail {whole head : Kind} {start : Nat} :
    ∀ n raw points, Forward (templateTail whole head start n raw points)
  | 0, _, _ => by unfold templateTail; infer_instance
  | n + 1, _, _ => by
      have := @forward_templateTail whole head start n
      unfold templateTail
      refine .on fun more => .on fun c => ?_
      split <;> infer_instance

/-! Comments -/

instance {opening : String} : Forward (lineComment opening) := by
  unfold lineComment; infer_instance

instance : Forward blockComment := by
  unfold blockComment
  refine .on fun start => .on fun _ => ?_
  refine .on fun s => ?_
  split <;> infer_instance

instance forward_gap : ∀ n g, Forward (gap n g)
  | 0, _ => by unfold gap; infer_instance
  | n + 1, g => by
      have := forward_gap n
      unfold gap
      refine .on fun s => ?_
      split <;> infer_instance

/-! Tokens -/

instance : Forward privateName := by
  unfold privateName
  refine .on fun _ => .on fun c => ?_
  split <;> infer_instance
instance {whole head : Kind} {start : Nat} : Forward (templateLexeme whole head start) := by
  unfold templateLexeme; infer_instance
instance {before : List Char} : Forward (spelling before) := by unfold spelling; infer_instance

instance {start : Nat} : Forward (lexeme start) := by
  unfold lexeme
  refine .on fun s => ?_
  extract_lets before
  generalize before = cs
  cases cs with
  | nil => infer_instance
  | cons c cs =>
      dsimp only
      cases markAt (c :: cs) <;> infer_instance

end Scanner

end RouteWrap
