import Mathlib.Data.List.Forall2

/-!
Answers that may be errors, by how they are put together from others.
-/

namespace RouteWrap

theorem eq_ok_of_toOption {x : Except ε α} {a : α} (found : x.toOption = some a) : x = .ok a := by
  cases x with
  | error => cases found
  | ok b => exact congrArg Except.ok (Option.some.inj found)

theorem bind_eq_ok_iff {x : Except ε α} {f : α → Except ε β} {b : β} :
    x >>= f = .ok b ↔ ∃ a, x = .ok a ∧ f a = .ok b := by
  cases x with
  | error e => exact ⟨nofun, nofun⟩
  | ok a =>
      refine ⟨fun next => ⟨a, rfl, next⟩, ?_⟩
      rintro ⟨_, ⟨⟩, next⟩
      exact next

theorem bind_eq_error_iff {x : Except ε α} {f : α → Except ε β} {e : ε} :
    x >>= f = .error e ↔ x = .error e ∨ ∃ a, x = .ok a ∧ f a = .error e := by
  cases x with
  | error e' =>
      refine ⟨fun same => .inl (by cases same; rfl), ?_⟩
      rintro (same | ⟨_, ⟨⟩, -⟩)
      cases same
      rfl
  | ok a =>
      refine ⟨fun next => .inr ⟨a, rfl, next⟩, ?_⟩
      rintro (same | ⟨_, ⟨⟩, next⟩)
      · cases same
      · exact next

theorem mapError_eq_ok_iff {x : Except ε α} {f : ε → ε'} {a : α} :
    x.mapError f = .ok a ↔ x = .ok a := by
  cases x with
  | error e => exact ⟨nofun, nofun⟩
  | ok b => exact ⟨fun same => congrArg Except.ok (Except.ok.inj same),
      fun same => congrArg Except.ok (Except.ok.inj same)⟩

theorem mapError_eq_error_iff {x : Except ε α} {f : ε → ε'} {e' : ε'} :
    x.mapError f = .error e' ↔ ∃ e, x = .error e ∧ f e = e' := by
  cases x with
  | error e =>
      refine ⟨fun same => ⟨e, rfl, Except.error.inj same⟩, ?_⟩
      rintro ⟨_, ⟨⟩, rfl⟩
      rfl
  | ok a => exact ⟨nofun, nofun⟩

theorem map_eq_ok_iff {x : Except ε α} {f : α → β} {b : β} :
    f <$> x = .ok b ↔ ∃ a, x = .ok a ∧ f a = b := by
  cases x with
  | error e => exact ⟨nofun, nofun⟩
  | ok a =>
      refine ⟨fun same => ⟨a, rfl, Except.ok.inj same⟩, ?_⟩
      rintro ⟨_, ⟨⟩, rfl⟩
      rfl

theorem map_eq_error_iff {x : Except ε α} {f : α → β} {e : ε} :
    f <$> x = .error e ↔ x = .error e := by
  cases x with
  | error e' => exact ⟨fun same => congrArg Except.error (Except.error.inj same),
      fun same => congrArg Except.error (Except.error.inj same)⟩
  | ok a => exact ⟨nofun, nofun⟩

/-- Two answers that agree under functions are one error, or none is an error. -/
theorem map_eq_map_cases {x : Except ε α} {y : Except ε β} {f : α → γ} {g : β → γ}
    (same : f <$> x = g <$> y) :
    (∃ e, x = .error e ∧ y = .error e) ∨ ∃ a b, x = .ok a ∧ y = .ok b ∧ f a = g b := by
  cases x with
  | error e =>
      cases y with
      | error e' => exact .inl ⟨e, rfl, by cases same; rfl⟩
      | ok b => cases same
  | ok a =>
      cases y with
      | error e' => cases same
      | ok b => exact .inr ⟨a, b, rfl, rfl, Except.ok.inj same⟩

theorem map_mapError (x : Except ε α) (f : ε → ε') (g : α → β) :
    g <$> x.mapError f = (g <$> x).mapError f := by
  cases x <;> rfl

section bind

variable {x : Except ε α} {x' : Except ε α'} {f : α → Except ε β} {r : β → γ}

theorem map_bind_congr {g : α → Except ε β} (same : ∀ a, r <$> f a = r <$> g a) :
    r <$> (x >>= f) = r <$> (x >>= g) := by
  cases x with
  | error => rfl
  | ok a => exact same a

/-- Steps that agree under functions, and go on alike from answers that do, agree. -/
theorem map_bind_of_map {p : α → δ} {p' : α' → δ} {f' : α' → Except ε β'} {r' : β' → γ}
    (first : p <$> x = p' <$> x') (next : ∀ a a', p a = p' a' → r <$> f a = r' <$> f' a') :
    r <$> (x >>= f) = r' <$> (x' >>= f') := by
  obtain ⟨e, rfl, rfl⟩ | ⟨a, a', rfl, rfl, same⟩ := map_eq_map_cases first
  · rfl
  · exact next a a' same

end bind

section mapM

variable {f : α → Except ε β}

theorem mapM_eq_ok_iff {as : List α} {bs : List β} :
    as.mapM f = .ok bs ↔ List.Forall₂ (fun a b => f a = .ok b) as bs := by
  induction as generalizing bs with
  | nil =>
      cases bs with
      | nil => exact ⟨fun _ => .nil, fun _ => rfl⟩
      | cons b bs => exact ⟨nofun, nofun⟩
  | cons a as ih =>
      rw [List.mapM_cons]
      constructor
      · intro mapped
        obtain ⟨b, head, rest⟩ := bind_eq_ok_iff.mp mapped
        obtain ⟨bs', tail, last⟩ := bind_eq_ok_iff.mp rest
        cases last
        exact .cons head (ih.mp tail)
      · rintro (_ | ⟨head, tail⟩)
        rw [head, ih.mpr tail]
        rfl

/-- The error is that of one element, and all before it are fine. -/
theorem mapM_eq_error_iff {as : List α} {e : ε} :
    as.mapM f = .error e ↔ ∃ before a after, as = before ++ a :: after ∧
      (∀ b ∈ before, ∃ c, f b = .ok c) ∧ f a = .error e := by
  induction as with
  | nil => exact ⟨nofun, by simp⟩
  | cons a as ih =>
      rw [List.mapM_cons]
      constructor
      · intro mapped
        obtain head | ⟨c, head, mapped⟩ := bind_eq_error_iff.mp mapped
        · exact ⟨[], a, as, rfl, nofun, head⟩
        · obtain tail | ⟨cs, -, last⟩ := bind_eq_error_iff.mp mapped
          · obtain ⟨before, b, after, rfl, fine, fails⟩ := ih.mp tail
            refine ⟨a :: before, b, after, rfl, ?_, fails⟩
            rintro b' (_ | ⟨_, listed⟩)
            · exact ⟨c, head⟩
            · exact fine b' listed
          · cases last
      · rintro ⟨_ | ⟨first, before⟩, b, after, split, fine, fails⟩
        · obtain ⟨rfl, rfl⟩ := List.cons.inj split
          rw [fails]
          rfl
        · obtain ⟨rfl, rfl⟩ := List.cons.inj split
          obtain ⟨c, head⟩ := fine _ (.head _)
          have tail := ih.mpr
            ⟨before, b, after, rfl, fun b' listed => fine b' (.tail _ listed), fails⟩
          rw [head, tail]
          rfl

end mapM

end RouteWrap
