import RouteWrap.Proofs.TokenPlaces
import RouteWrap.Syntax.Cursor

/-!
Reading moves forward: the current token is never followed by one that stands before it, and a
fault that ends the reading stays. So it is for each step of a reading and for what is made of
steps; what is read ahead or on trial is undone.
-/

namespace RouteWrap

namespace Cursor

/-- The current token stands before what is still to be scanned. -/
def Ready (c : Cursor) : Prop := c.token.Precedes c.scanner.offset

/-- The current token of the second does not stand before that of the first, and a fault that
ended the reading stays. -/
structure Reaches (c c' : Cursor) : Prop where
  ready : c.Ready → c'.Ready
  start : c.Ready → c.token.start ≤ c'.token.start
  fatal : c.fatal.isSome → c'.fatal.isSome

/-- All else may change. -/
theorem Reaches.of_eq {c c' : Cursor} (token : c'.token = c.token)
    (offset : c'.scanner.offset = c.scanner.offset) (fatal : c'.fatal = c.fatal) :
    Reaches c c' where
  ready := by rw [Ready, Ready, token, offset]; exact id
  start _ := by rw [token]
  fatal := by rw [fatal]; exact id

instance : Std.Refl Reaches := ⟨fun _ => .of_eq rfl rfl rfl⟩

instance : IsTrans Cursor Reaches where
  trans _ _ _ first second :=
    ⟨second.ready ∘ first.ready,
      fun ready => Nat.le_trans (first.start ready) (second.start (first.ready ready)),
      second.fatal ∘ first.fatal⟩

end Cursor

namespace P

/-- Reading goes on from the current token, and a fault that ended it stays. -/
abbrev Forward {α : Type} (m : P α) : Prop := Leads Cursor.Reaches m

variable {α σ : Type}

instance : Forward token := by unfold token; infer_instance
instance : Forward kind := by unfold kind; infer_instance
instance : Forward context := by unfold context; infer_instance
instance : Forward typed := by unfold typed; infer_instance
instance : Forward tags := by unfold tags; infer_instance
instance : Forward start := by unfold start; infer_instance
instance : Forward stopped := by unfold stopped; infer_instance
instance {s : Nat} : Forward (since s) := by unfold since; infer_instance
instance : Forward hasFatal := by unfold hasFatal; infer_instance
instance : Forward ended := by unfold ended; infer_instance
instance {f : Fault} {offset : Nat} : Forward (fault f offset) :=
  .modify fun _ => .of_eq rfl rfl rfl

instance {d : Diagnostic} : Forward (stop d) := .modify fun c => by
  split
  · exact .of_eq rfl rfl rfl
  · have further : c.scanner.offset ≤ c.scanner.offset + Scanner.bytes c.scanner.rest :=
      Nat.le_add_right ..
    exact {
      ready := fun ready => ⟨Nat.le_trans ready.start further,
        fun text => Nat.lt_of_lt_of_le (ready.text text) further⟩
      start := fun _ => Nat.le_refl _
      fatal := fun _ => rfl }

instance {f : Fault} {offset : Nat} : Forward (fatal f offset) := by unfold fatal; infer_instance

instance : Forward unexpected where
  leads c := by
    change Cursor.Reaches c (StateT.run (ite _ _ _ : P Unit) c).2
    split
    · split
      · next known _ =>
        -- The fault that the scanner knows of is taken from it first.
        refine IsTrans.trans _ _ _ ?_ ((inferInstance : Forward (stop known)).leads _)
        exact .of_eq rfl rfl rfl
      · exact (inferInstance : Forward (stop _)).leads c
    · exact (inferInstance : Forward (stop _)).leads c

instance {lex : Token → Scan Token} [relexes : Scanner.Relexes lex] : Forward (rescan lex) where
  leads c :=
    { ready := fun ready => (relexes.relexes c.token c.scanner ready).2
      start := fun ready => Nat.le_of_eq (relexes.relexes c.token c.scanner ready).1.symm
      fatal := id }

instance {lex : Scan Token} [lexes : Scanner.Lexes lex] : Forward (moveWith lex) where
  leads c :=
    { ready := fun _ => (lexes.lexes c.scanner).2
      start := fun ready => Nat.le_trans ready.start (lexes.lexes c.scanner).1
      fatal := id }

instance : Forward move := by unfold move; infer_instance
instance : Forward moveOver := by
  unfold moveOver
  refine .on fun t => ?_
  split <;> infer_instance
instance {k : Kind} : Forward (at? k) := by unfold at?; infer_instance
instance {m : String} : Forward (atMark m) := by unfold atMark; infer_instance
instance {w : String} : Forward (atWord w) := by unfold atWord; infer_instance
instance : Forward newline := by unfold newline; infer_instance
instance {k : Kind} : Forward (eat k) := by unfold eat; infer_instance
instance {m : String} : Forward (eatMark m) := by unfold eatMark; infer_instance
instance {w : String} : Forward (eatWord w) := by unfold eatWord; infer_instance
instance {k : Kind} : Forward (require k) := by unfold require; infer_instance
instance {k : Kind} : Forward (expect k) := by unfold expect; infer_instance
instance {m : String} : Forward (expectMark m) := by unfold expectMark; infer_instance
instance {w : String} : Forward (expectWord w) := by unfold expectWord; infer_instance
instance : Forward statementEnds := by unfold statementEnds; infer_instance
instance : Forward semicolon := by unfold semicolon; infer_instance

/-! Looking ahead and trying -/

instance {p : P α} : Forward (ahead p) := ⟨fun _ => .of_eq rfl rfl rfl⟩

instance {p : P α} [Forward p] : Forward (tryRead p) := by
  refine .trying inferInstance fun c a c' reached => ?_
  change Cursor.Reaches c (StateT.run (ite _ _ _ : P (Option α)) c').2
  split
  · exact .of_eq rfl rfl rfl
  · exact reached

instance {p : P (Option α)} [Forward p] : Forward (attempt p) := by
  refine .trying inferInstance fun c a c' reached => ?_
  cases a with
  | some => exact reached
  | none => exact .of_eq rfl rfl rfl

instance {f : Cursor → Context} : Forward (modify fun c => { c with context := f c }) :=
  .modify fun _ => .of_eq rfl rfl rfl

instance {change : Context → Context} {p : P α} [Forward p] : Forward (within change p) := by
  unfold within; infer_instance

instance {p : P Bool} : Forward (follows p) := by unfold follows; infer_instance
instance : Forward bound := by unfold bound; infer_instance

instance {f : Cursor → List Nat} : Forward (modify fun c => { c with covers := f c }) :=
  .modify fun _ => .of_eq rfl rfl rfl

instance {f : Cursor → List (Nat × Nat)} :
    Forward (modify fun c => { c with trailingCommas := f c }) :=
  .modify fun _ => .of_eq rfl rfl rfl

/-! Loops -/

instance forward_repeatWith {step : σ → P (σ × Bool)} [each : ∀ s, Forward (step s)] :
    ∀ n s, Forward (repeatWith step n s)
  | 0, s => by unfold repeatWith; infer_instance
  | n + 1, s => by
      have (s : σ) : Forward (repeatWith step n s) := forward_repeatWith n s
      unfold repeatWith
      infer_instance

theorem forward_iterate {step : σ → P (σ × Bool)} {s : σ} (each : ∀ s, Forward (step s)) :
    Forward (iterate step s) := by
  unfold iterate; infer_instance

instance {step : σ → P (σ × Bool)} {s : σ} [each : ∀ s, Forward (step s)] :
    Forward (iterate step s) :=
  forward_iterate each

instance {close : Kind} {p : P α} [Forward p] : Forward (many close p) := by
  unfold many; infer_instance
instance {close : Kind} {p : P α} [Forward p] : Forward (separated close p) := by
  unfold separated; infer_instance
instance {close : Kind} {p : P α} [Forward p] {rest : P (α × Nat)} [Forward rest]
    {misplaced : Fault} : Forward (separatedWithRest close p rest misplaced) := by
  unfold separatedWithRest
  extract_lets one
  have each : ∀ acc, Forward (one acc) := by
    rintro ⟨found, last⟩
    change Forward (match last with | some offset => _ | none => _)
    cases last <;> infer_instance
  infer_instance

/-! Names -/

instance {k : Kind} {offset : Nat} {c : Context} : Forward (checkName k offset c) := by
  unfold checkName; infer_instance
instance : Forward takeName := by unfold takeName; infer_instance
instance : Forward anyName := by unfold anyName; infer_instance
instance : Forward bindingName := by unfold bindingName; infer_instance
instance : Forward reference := by unfold reference; infer_instance

end P

end RouteWrap
