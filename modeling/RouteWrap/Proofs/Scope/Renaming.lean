import Mathlib.Data.List.Nodup
import RouteWrap.Scope.Rename

/-!
New names for some names. Where the new names are pairwise different and none of them was in use,
no two names in use become one.
-/

namespace RouteWrap.Renaming

theorem apply_of_notMem {σ : Renaming} {n : String} (unmoved : n ∉ σ.map Prod.fst) :
    σ.apply n = n := by
  have none : σ.lookup n = none := by
    rw [List.lookup_eq_none_iff]
    intro move moved
    rw [bne_iff_ne]
    rintro rfl
    exact unmoved (List.mem_map_of_mem moved)
  rw [apply, none]
  rfl

theorem apply_mem {σ : Renaming} {n : String} (moved : n ∈ σ.map Prod.fst) :
    (n, σ.apply n) ∈ σ := by
  cases found : σ.lookup n with
  | none =>
      obtain ⟨move, listed, rfl⟩ := List.mem_map.mp moved
      have other := List.lookup_eq_none_iff.mp found move listed
      simp at other
  | some a =>
      obtain ⟨before, after, split, -⟩ := List.lookup_eq_some_iff.mp found
      rw [apply, found, split]
      simp

theorem eq_of_mem {σ : Renaming} {n m a : String} (distinct : (σ.map Prod.snd).Nodup)
    (first : (n, a) ∈ σ) (second : (m, a) ∈ σ) : n = m := by
  have same := List.inj_on_of_nodup_map distinct first second rfl
  exact congrArg Prod.fst same

theorem apply_injOn {σ : Renaming} {used : List String} (distinct : (σ.map Prod.snd).Nodup)
    (fresh : ∀ a ∈ σ.map Prod.snd, a ∉ used) {n m : String} (usedN : n ∈ used) (usedM : m ∈ used)
    (same : σ.apply n = σ.apply m) : n = m := by
  by_cases movedN : n ∈ σ.map Prod.fst
  · have aliasN := apply_mem movedN
    by_cases movedM : m ∈ σ.map Prod.fst
    · rw [same] at aliasN
      exact eq_of_mem distinct aliasN (apply_mem movedM)
    · rw [same, apply_of_notMem movedM] at aliasN
      exact absurd usedM (fresh m (List.mem_map_of_mem aliasN))
  · rw [apply_of_notMem movedN] at same
    by_cases movedM : m ∈ σ.map Prod.fst
    · have aliasM := apply_mem movedM
      rw [← same] at aliasM
      exact absurd usedN (fresh n (List.mem_map_of_mem aliasM))
    · rw [apply_of_notMem movedM] at same
      exact same

end RouteWrap.Renaming
