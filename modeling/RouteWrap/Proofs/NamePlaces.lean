import RouteWrap.Proofs.ForwardReading
import RouteWrap.Proofs.ReportOrder

/-!
Names are read in the order of the text. The names that were read stand one before the next, and all
of them before the current token; what reads another one adds it at the end. So it is unless a fault
ends the reading.
-/

namespace RouteWrap

namespace Name

/-- The names stand one before the next, and before the offset. -/
structure Before (ns : List Name) (offset : Nat) : Prop where
  ascending : Ascending ns
  lt : ∀ n ∈ ns, n.span.start < offset

namespace Before

variable {ns ns' : List Name} {n : Name} {offset offset' : Nat}

theorem nil : Before [] offset := ⟨.nil, nofun⟩

theorem mono (before : Before ns offset) (le : offset ≤ offset') : Before ns offset' :=
  ⟨before.ascending, fun n listed => Nat.lt_of_lt_of_le (before.lt n listed) le⟩

theorem sublist (before : Before ns offset) (among : ns'.Sublist ns) : Before ns' offset :=
  ⟨before.ascending.sublist among, fun n listed => before.lt n (among.subset listed)⟩

theorem concat (before : Before ns offset) (place : offset ≤ n.span.start)
    (lt : n.span.start < offset') : Before (ns ++ [n]) offset' where
  ascending := by
    refine List.pairwise_append.mpr ⟨before.ascending, List.pairwise_singleton _ _, ?_⟩
    intro earlier listed later same
    rw [List.mem_singleton.mp same]
    exact Nat.lt_of_lt_of_le (before.lt earlier listed) place
  lt := by
    refine List.forall_mem_append.mpr ⟨fun earlier listed => ?_, List.forall_mem_singleton.mpr lt⟩
    exact Nat.lt_trans (before.lt earlier listed) (Nat.lt_of_le_of_lt place lt)

end Before

end Name

namespace Kind

variable {k : Kind}

theorem isText_of_isNameLike (named : k.isNameLike) : k.isText := by
  rw [isText, named, Bool.true_or]

theorem isText_of_isName (named : k.isName) : k.isText := by
  cases k with
  | identifier | word => rfl
  | _ => cases named

end Kind

namespace P

variable {α β σ : Type} {before : List Name}

/-- Where the names before stand before the current token, the names after do so too. -/
def PlacesFrom (c : Cursor) (before : List Name) (m : P α) (after : α → List Name) : Prop :=
  c.Ready → Name.Before before c.token.start → (m.run c).2.fatal = none →
    Name.Before (after (m.run c).1) (m.run c).2.token.start

structure Places (before : List Name) (m : P α) (after : α → List Name) : Prop where
  forward : Forward m
  places : ∀ c, PlacesFrom c before m after

/-- Whatever names were read before, those of the result are added to them. -/
def Adds (m : P α) (names : α → List Name) : Prop :=
  ∀ before, Places before m fun a => before ++ names a

theorem fatal_of_leads {c c' : Cursor} (reached : c.Reaches c') (ended : c'.fatal = none) :
    c.fatal = none := by
  cases found : c.fatal with
  | none => rfl
  | some _ =>
      have stays := reached.fatal (by rw [found]; rfl)
      rw [ended] at stays
      cases stays

namespace PlacesFrom

variable {c : Cursor} {m : P α} {f : α → P β} {after : β → List Name}

theorem token {f : Token → P β} (rest : PlacesFrom c before (f c.token) after) :
    PlacesFrom c before (token >>= f) after :=
  rest

theorem kind {f : Kind → P β} (rest : PlacesFrom c before (f c.token.kind) after) :
    PlacesFrom c before (kind >>= f) after :=
  rest

theorem start {f : Nat → P β} (rest : PlacesFrom c before (f c.token.start) after) :
    PlacesFrom c before (start >>= f) after :=
  rest

theorem keeping [forward : Forward m] (same : (m.run c).2.token = c.token)
    (rest : ∀ a c', c'.token = c.token → PlacesFrom c' before (f a) after) :
    PlacesFrom c before (m >>= f) after :=
  fun ready placed ended => rest _ _ same ((forward.leads c).ready ready) (same ▸ placed) ended

/-- What is read first adds no name, and what it gives is known. -/
theorem on [forward : Forward m]
    (rest : PlacesFrom (m.run c).2 before (f (m.run c).1) after) :
    PlacesFrom c before (m >>= f) after := by
  intro ready placed ended
  have reached := forward.leads c
  exact rest (reached.ready ready) (placed.mono (reached.start ready)) ended

theorem bind [forward : Forward m] {names : α → List Name} (first : PlacesFrom c before m names)
    (rest : ∀ a, Places (names a) (f a) after) : PlacesFrom c before (m >>= f) after := by
  intro ready placed ended
  have lasting := fatal_of_leads ((rest _).forward.leads _) ended
  exact (rest _).places _ ((forward.leads c).ready ready) (first ready placed lasting) ended

end PlacesFrom

/-- Whatever is read, it holds of the result. -/
def Gives (p : α → Prop) (m : P α) : Prop := ∀ c, p (m.run c).1

namespace Gives

variable {p : α → Prop} {m : P β} {f : β → P α} {a : α}

theorem pure (holds : p a) : Gives p (pure a) := fun _ => holds

theorem after (rest : ∀ b, Gives p (f b)) : Gives p (m >>= f) := fun _ => rest _ _

end Gives

namespace Places

variable {m : P α} {f : α → P β} {names : α → List Name} {after : β → List Name} {a : α}

/-- Names that were read before may be left aside. -/
theorem aside {ns : List Name} (places : Places before m names) (among : before.Sublist ns) :
    Places ns m names where
  forward := places.forward
  places c ready placed := places.places c ready (placed.sublist among)

theorem quiet [forward : Forward m] : Places before m fun _ => before where
  forward := forward
  places c ready placed _ := placed.mono ((forward.leads c).start ready)

theorem of_gives [forward : Forward m] (among : Gives (fun a => (names a).Sublist before) m) :
    Places before m names where
  forward := forward
  places c ready placed ended := (quiet.places c ready placed ended).sublist (among c)

/-- What is read besides the names that were read last leaves these as they are. -/
theorem of_same {ns : List Name} [Forward m] (same : Gives (fun a => names a = ns) m) :
    Places (before ++ ns) m fun a => before ++ names a :=
  of_gives fun c => (congrArg (before ++ ·) (same c)) ▸ .refl _

theorem pure (among : (names a).Sublist before) : Places before (pure a) names :=
  of_gives (.pure among)

theorem bind (first : Places before m names) (rest : ∀ a, Places (names a) (f a) after) :
    Places before (m >>= f) after where
  forward := .followed first.forward fun a => (rest a).forward
  places c :=
    have := first.forward
    .bind (first.places c) rest

/-- A pair that is read is taken apart at once. -/
theorem bindPair {α' : Type} {m : P (α × α')} {f : α × α' → P β} {names : α × α' → List Name}
    (first : Places before m names) (rest : ∀ a b, Places (names (a, b)) (f (a, b)) after) :
    Places before (m >>= f) after :=
  bind first (Prod.rec rest)

theorem map {g : α → β} (places : Places before m fun a => after (g a)) :
    Places before (g <$> m) after where
  forward := have := places.forward; inferInstance
  places := places.places

theorem on [Forward m] (rest : ∀ a, Places before (f a) after) : Places before (m >>= f) after :=
  bind quiet rest

theorem within {change : Context → Context} (places : Places before m names) :
    Places before (within change m) names :=
  .on fun _ => .on fun _ => .bind places fun _ => .on fun _ => .pure (.refl _)

/-- A fault that ends the reading leaves nothing to be shown. -/
theorem refused [Forward m] [rest : ∀ a, Forward (f a)] (fails : ∀ c, (m.run c).2.fatal.isSome) :
    Places before (m >>= f) after where
  forward := inferInstance
  places c _ _ ended := by
    have lasting : (m.run c).2.fatal = none := fatal_of_leads ((rest _).leads _) ended
    have found := fails c
    rw [lasting] at found
    cases found

end Places

/-! Names -/

theorem isSome_fatal_stop (d : Diagnostic) (c : Cursor) : ((stop d).run c).2.fatal.isSome := by
  change (ite _ c _ : Cursor).fatal.isSome
  split
  · assumption
  · rfl

theorem isSome_fatal_unexpected (c : Cursor) : (unexpected.run c).2.fatal.isSome := by
  change (StateT.run (ite _ _ _ : P Unit) c).2.fatal.isSome
  split
  · split
    · exact isSome_fatal_stop _ _
    · exact isSome_fatal_stop _ _
  · exact isSome_fatal_stop _ _

theorem token_checkName (k : Kind) (offset : Nat) (x : Context) (c : Cursor) :
    ((checkName k offset x).run c).2.token = c.token := by
  unfold checkName
  dsimp only
  split <;> split <;> rfl

/-- A name is added where the current token is one. -/
theorem places_move {c : Cursor} {n : Name} (text : c.token.kind.isText)
    (place : n.span = c.token.span) : PlacesFrom c before move fun _ => before ++ [n] := by
  intro ready placed _
  have moved : c.scanner.offset ≤ (Scanner.next.run c.scanner).1.start :=
    (Scanner.Lexes.lexes c.scanner).1
  have stands : n.span.start = c.token.start := congrArg Span.start place
  refine placed.concat (Nat.le_of_eq stands.symm) ?_
  rw [stands]
  exact Nat.lt_of_lt_of_le (ready.text text) moved

theorem places_takeName {c : Cursor} (text : c.token.kind.isText) :
    PlacesFrom c before takeName fun n => before ++ [n] :=
  .token (.bind (@places_move _ _ ⟨c.token.span, c.token.text⟩ text rfl) fun _ => .pure (.refl _))

theorem adds_anyName : Adds anyName fun n => [n] := by
  refine fun before => ⟨inferInstance, fun c => .token ?_⟩
  split
  · next named => exact places_takeName (Kind.isText_of_isNameLike named)
  · exact (Places.refused isSome_fatal_unexpected).places c

theorem adds_bindingName : Adds bindingName fun n => [n] := by
  refine fun before => ⟨inferInstance, fun c => .token ?_⟩
  split
  · next named =>
    refine .keeping rfl fun x c₁ same₁ => ?_
    refine .keeping (token_checkName _ _ _ _) fun _ c₂ same₂ => places_takeName ?_
    rw [same₂, same₁]
    exact Kind.isText_of_isName named
  split
  · exact (Places.refused (isSome_fatal_stop _)).places c
  · exact (Places.refused isSome_fatal_unexpected).places c

/-! Loops and lists -/

theorem places_repeatWith {step : σ → P (σ × Bool)} {names : σ → List Name}
    (each : ∀ s, Places (names s) (step s) fun r => names r.1) (n : Nat) (s : σ) :
    Places (names s) (repeatWith step n s) names := by
  induction n generalizing s with
  | zero => exact .pure (.refl _)
  | succ n ih =>
      unfold repeatWith
      refine .bindPair (each s) fun s more => ?_
      dsimp only
      split
      · exact ih s
      · exact .pure (.refl _)

theorem places_iterate {step : σ → P (σ × Bool)} {s : σ} (names : σ → List Name)
    (first : (names s).Sublist before)
    (each : ∀ s, Places (names s) (step s) fun r => names r.1) :
    Places before (iterate step s) names :=
  .on fun n => (places_repeatWith each n s).aside first

variable {close : Kind} {element : P α} {names : α → List Name}

/-- What is pushed comes last. -/
theorem pushed (as : Array α) (a : α) :
    (before ++ (as.push a).toList.flatMap names).Sublist
      (before ++ as.toList.flatMap names ++ names a) := by
  rw [Array.toList_push, List.flatMap_append, List.flatMap_singleton, List.append_assoc]

theorem adds_separated (each : Adds element names) :
    Adds (separated close element) fun r => r.1.flatMap names := by
  intro before
  refine .bind (places_iterate (fun (r : Array α × Bool × Option Nat) =>
      before ++ r.1.toList.flatMap names) (by simp) fun (found, first, _) => ?_)
    fun (found, _, comma) => .pure (.refl _)
  refine .on fun k => .on fun isEnd => ?_
  split
  · exact .pure (.refl _)
  split
  · exact .bind (each _) fun a => .pure (pushed _ _)
  split
  · exact .on fun offset => .on fun _ => .pure (.refl _)
  refine .on fun comma => .on fun _ => .on fun k => ?_
  split
  · exact .pure (.refl _)
  · exact .bind (each _) fun a => .pure (pushed _ _)

/-- An element after dots adds its names as the others do. -/
theorem adds_separatedWithRest {rest : P (α × Nat)} (misplaced : Fault)
    (each : Adds element names) (last : Adds rest fun r => names r.1) :
    Adds (separatedWithRest close element rest misplaced) fun as => as.flatMap names := by
  intro before
  unfold separatedWithRest
  extract_lets one
  have adds : ∀ acc, Places (before ++ acc.1.toList.flatMap names) (one acc)
      fun r => before ++ r.1.toList.flatMap names := by
    rintro ⟨found, last?⟩
    dsimp -zeta only [one]
    extract_lets added
    have adds (u : Unit) : Places (before ++ found.toList.flatMap names) (added u)
        fun r => before ++ r.1.toList.flatMap names := by
      refine .on fun dots => ?_
      split
      · exact .bind (last _) fun (a, offset) => .pure (pushed _ _)
      · exact .bind (each _) fun a => .pure (pushed _ _)
    cases last? with
    | none => exact adds ()
    | some offset => exact .on fun _ => adds ()
  clear_value one
  refine .bind (places_iterate (fun (r : (Array α × Option Nat) × Bool) =>
      before ++ r.1.1.toList.flatMap names) (by simp) fun (acc, first) => ?_)
    fun (found, _) => .pure (.refl _)
  refine .on fun k => .on fun isEnd => ?_
  split
  · exact .pure (.refl _)
  split
  · exact .bind (adds acc) fun a => .pure (.refl _)
  split
  · exact .on fun offset => .on fun _ => .pure (.refl _)
  refine .on fun comma => .on fun _ => .on fun k => ?_
  split
  · refine .on fun c => ?_
    split
    · exact .on fun _ => .pure (.refl _)
    · exact .pure (.refl _)
  · exact .bind (adds acc) fun a => .pure (.refl _)

end P

end RouteWrap
