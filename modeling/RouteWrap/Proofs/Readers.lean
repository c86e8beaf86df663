import RouteWrap.Syntax.Cursor

/-!
What readers keep to. Something is expected of the results of each type: of lists, pairs and
options that their parts are as expected, of most others nothing. A reader gives what is expected
where the readers that it is made of do, from whatever state it starts.
-/

namespace RouteWrap

/-- What is expected of the results of a type. -/
class Expected (α : Type) where
  holds : α → Prop

namespace Expected

variable {α β : Type} [Expected α] [Expected β]

instance (priority := low) nothing {α : Type} : Expected α := ⟨fun _ => True⟩

instance list : Expected (List α) := ⟨fun as => ∀ a ∈ as, holds a⟩

instance array : Expected (Array α) := ⟨fun as => ∀ a ∈ as, holds a⟩

instance option : Expected (Option α) := ⟨fun a => ∀ b ∈ a, holds b⟩

instance pair : Expected (α × β) := ⟨fun p => holds p.1 ∧ holds p.2⟩

end Expected

/-- The result is as expected. -/
class Meets {α : Type} [Expected α] (a : α) : Prop where
  meets : Expected.holds a

/-- Whatever is read, the result is as expected. -/
class Reads {α : Type} [Expected α] (m : P α) : Prop where
  reads : ∀ c, Meets (m.run c).1

/-- A result that is as expected. -/
structure Met (α : Type) [Expected α] where
  value : α
  met : Meets value

instance {α : Type} [Expected α] (a : Met α) : Meets a.value := a.met

namespace Meets

instance (priority := low) anything {α : Type} (a : α) : @Meets α Expected.nothing a :=
  @Meets.mk α Expected.nothing a trivial

variable {α β : Type} {_ : Expected α} {_ : Expected β} {a : α} {b : β}
variable {as bs : List α} {xs : Array α}

theorem list_iff : Meets as ↔ ∀ a ∈ as, Meets a :=
  ⟨fun all a listed => ⟨all.meets a listed⟩, fun each => ⟨fun a listed => (each a listed).meets⟩⟩

/-! Lists -/

instance nil : Meets ([] : List α) := list_iff.mpr fun _ listed => absurd listed List.not_mem_nil

instance cons [first : Meets a] [rest : Meets as] : Meets (a :: as) :=
  list_iff.mpr (List.forall_mem_cons.mpr ⟨first, list_iff.mp rest⟩)

instance append [first : Meets as] [rest : Meets bs] : Meets (as ++ bs) :=
  list_iff.mpr (List.forall_mem_append.mpr ⟨list_iff.mp first, list_iff.mp rest⟩)

theorem head (all : Meets (a :: as)) : Meets a := list_iff.mp all a List.mem_cons_self

theorem tail (all : Meets (a :: as)) : Meets as :=
  list_iff.mpr (List.forall_mem_cons.mp (list_iff.mp all)).2

instance toList [all : Meets xs] : Meets xs.toList :=
  ⟨fun a listed => all.meets a (Array.mem_toList_iff.mp listed)⟩

instance toArray [all : Meets as] : Meets as.toArray :=
  ⟨fun a listed => all.meets a (List.mem_toArray.mp listed)⟩

instance push [rest : Meets xs] [last : Meets a] : Meets (xs.push a) where
  meets b listed := by
    rcases Array.mem_push.mp listed with earlier | rfl
    · exact rest.meets b earlier
    · exact last.meets

/-! Options -/

instance : Meets (none : Option α) := ⟨fun _ found => nomatch found⟩

instance [met : Meets a] : Meets (some a) where
  meets _ found := Option.some_inj.mp found ▸ met.meets

theorem of_some (met : Meets (some a)) : Meets a := ⟨met.meets a rfl⟩

instance getD {o : Option α} [met : Meets o] [default : Meets a] : Meets (o.getD a) := by
  cases o with
  | none => exact default
  | some b => exact met.of_some

instance head? [met : Meets as] : Meets as.head? := by
  cases as with
  | nil => exact inferInstanceAs (Meets none)
  | cons a as =>
      have := met.head
      exact inferInstanceAs (Meets (some a))

/-! Pairs -/

instance pair [first : Meets a] [second : Meets b] : Meets (a, b) := ⟨first.meets, second.meets⟩

theorem of_pair (both : Meets (a, b)) : Meets a ∧ Meets b := ⟨⟨both.meets.1⟩, ⟨both.meets.2⟩⟩

instance fst {γ : Type} [Expected γ] {p : α × γ} [both : Meets p] : Meets p.1 := ⟨both.meets.1⟩

instance ite {c : Prop} [Decidable c] {yes no : α} [Meets yes] [Meets no] :
    Meets (if c then yes else no) := by
  split <;> infer_instance

end Meets

namespace Reads

variable {α β γ δ : Type} {_ : Expected α}

instance (priority := low) anything {α : Type} (m : P α) : @Reads α Expected.nothing m :=
  @Reads.mk α Expected.nothing m fun _ => .anything _

instance (priority := low) anyList {α : Type} (m : P (List α)) :
    @Reads (List α) (@Expected.list α .nothing) m :=
  @Reads.mk _ (@Expected.list α .nothing) m fun _ => Meets.list_iff.mpr fun _ _ => .anything _

instance (priority := low) anyOption {α : Type} (m : P (Option α)) :
    @Reads (Option α) (@Expected.option α .nothing) m :=
  @Reads.mk _ (@Expected.option α .nothing) m fun _ => ⟨fun _ _ => trivial⟩

instance pure {a : α} [met : Meets a] : Reads (pure a : P α) := ⟨fun _ => met⟩

theorem of_meets {a : α} (met : Meets a) : Reads (Pure.pure a : P α) := pure

instance ite {c : Prop} [Decidable c] {yes no : P α} [Reads yes] [Reads no] :
    Reads (if c then yes else no) := by
  split <;> infer_instance

/-- The first result is of no account. -/
theorem after {m : P β} {f : β → P α} (rest : ∀ a, Reads (f a)) : Reads (m >>= f) :=
  ⟨fun c => (rest (m.run c).1).reads _⟩

instance (priority := 10002) next {m : P β} {n : P α} [rest : Reads n] :
    Reads (m >>= fun _ => n) :=
  after fun _ => rest

/-- Steps that depend on a result by a test alone. -/
instance (priority := 10003) test {m : P β} {c : β → Prop} [∀ b, Decidable (c b)] {yes no : P α}
    [Reads yes] [Reads no] : Reads (m >>= fun b => if c b then yes else no) :=
  after fun _ => by split <;> assumption

/-- A test of two results. -/
instance (priority := 10004) tests {m : P β} {m' : P γ} {c : β → γ → Prop}
    [∀ b c', Decidable (c b c')] {yes no : P α} [Reads yes] [Reads no] :
    Reads (m >>= fun b => m' >>= fun c' => if c b c' then yes else no) :=
  after fun _ => after fun _ => by split <;> assumption

section

variable [Expected β] [Expected γ] [Expected δ]

theorem followed {m : P β} {f : β → P α} (first : Reads m)
    (rest : ∀ b : Met β, Reads (f b.value)) : Reads (m >>= f) :=
  ⟨fun c => (rest ⟨_, first.reads c⟩).reads _⟩

instance bind {m : P β} {f : β → P α} [first : Reads m] [rest : ∀ b : Met β, Reads (f b.value)] :
    Reads (m >>= f) := followed first rest

instance map {m : P β} {f : β → α} [first : Reads m] [rest : ∀ b : Met β, Meets (f b.value)] :
    Reads (f <$> m) :=
  ⟨fun c => rest ⟨_, first.reads c⟩⟩

/-! Results that are taken apart at once -/

instance (priority := high) bindPair {m : P (β × γ)} {f : β × γ → P α} [first : Reads m]
    [rest : ∀ (b : Met β) (c : Met γ), Reads (f (b.value, c.value))] : Reads (m >>= f) :=
  followed first fun ⟨(b, c), met⟩ => rest ⟨b, met.of_pair.1⟩ ⟨c, met.of_pair.2⟩

instance (priority := 10001) bindTriple {m : P (β × γ × δ)} {f : β × γ × δ → P α}
    [first : Reads m] [rest : ∀ (b : Met β) (c : Met γ) (d : Met δ),
      Reads (f (b.value, c.value, d.value))] : Reads (m >>= f) :=
  followed first fun ⟨(b, c, d), met⟩ =>
    rest ⟨b, met.of_pair.1⟩ ⟨c, met.of_pair.2.of_pair.1⟩ ⟨d, met.of_pair.2.of_pair.2⟩

instance (priority := high) bindOption {m : P (Option β)} {f : Option β → P α} [first : Reads m]
    [none : Reads (f none)] [some : ∀ b : Met β, Reads (f (some b.value))] : Reads (m >>= f) := by
  refine followed first fun ⟨o, met⟩ => ?_
  cases o with
  | none => exact none
  | some b => exact some ⟨b, met.of_some⟩

end

end Reads

namespace P

variable {α β γ σ : Type} {_ : Expected α} {_ : Expected β} {_ : Expected γ} {_ : Expected σ}

/-! Loops -/

theorem reads_repeatWith {step : σ → P (σ × Bool)} (each : ∀ s : Met σ, Reads (step s.value))
    (bound : Nat) (s : Met σ) : Reads (repeatWith step bound s.value) := by
  induction bound generalizing s with
  | zero => unfold repeatWith; infer_instance
  | succ bound ih => unfold repeatWith; infer_instance

theorem reads_iterate {step : σ → P (σ × Bool)} {s : σ} (first : Meets s)
    (each : ∀ s : Met σ, Reads (step s.value)) : Reads (iterate step s) := by
  have repeated (n : Nat) : Reads (repeatWith step n s) := reads_repeatWith each n ⟨s, first⟩
  unfold iterate
  infer_instance

instance {step : σ → P (σ × Bool)} {s : σ} [first : Meets s]
    [each : ∀ s : Met σ, Reads (step s.value)] : Reads (iterate step s) :=
  reads_iterate first each

instance (priority := high) {step : α × β → P ((α × β) × Bool)} {s : α × β} [first : Meets s]
    [each : ∀ (a : Met α) (b : Met β), Reads (step (a.value, b.value))] :
    Reads (iterate step s) :=
  reads_iterate first fun ⟨(a, b), met⟩ => each ⟨a, met.of_pair.1⟩ ⟨b, met.of_pair.2⟩

instance (priority := 10001) {step : α × β × γ → P ((α × β × γ) × Bool)} {s : α × β × γ}
    [first : Meets s] [each : ∀ (a : Met α) (b : Met β) (c : Met γ),
      Reads (step (a.value, b.value, c.value))] :
    Reads (iterate step s) :=
  reads_iterate first fun ⟨(a, b, c), met⟩ =>
    each ⟨a, met.of_pair.1⟩ ⟨b, met.of_pair.2.of_pair.1⟩ ⟨c, met.of_pair.2.of_pair.2⟩

/-! Readers made of others -/

variable {p : P α} [Reads p]

instance : Reads (ahead p) := by unfold ahead; infer_instance
instance : Reads (tryRead p) := by unfold tryRead; infer_instance
instance reads_attempt {p : P (Option α)} [Reads p] : Reads (attempt p) := by
  unfold attempt
  infer_instance
instance {change : Context → Context} : Reads (within change p) := by
  unfold within; infer_instance
instance {close : Kind} : Reads (many close p) := by unfold many; infer_instance
-- Each condition in a chain counts what follows it twice.
set_option synthInstance.maxSize 500 in
instance {close : Kind} : Reads (separated close p) := by unfold separated; infer_instance

set_option synthInstance.maxSize 500 in
instance reads_separatedWithRest {close : Kind} {rest : P (α × Nat)} [Reads rest]
    {misplaced : Fault} : Reads (separatedWithRest close p rest misplaced) := by
  unfold separatedWithRest
  extract_lets one
  have each : ∀ acc : Met (Array α × Option Nat), Reads (one acc.value) := by
    rintro ⟨⟨found, last⟩, met⟩
    have := met.of_pair.1
    have := met.of_pair.2
    change Reads (match last with | some offset => _ | none => _)
    cases last <;> infer_instance
  infer_instance

end P

end RouteWrap
