import Mathlib.Data.List.Nodup
import Mathlib.Data.List.Perm.Basic
import RouteWrap.FreshNames

/-!
Fresh names are fresh. The candidates for one stem are pairwise different, so among one more of
them than there are names taken, one is free; the first such is handed out and taken.
-/

namespace RouteWrap.FreshNames

private theorem toString_ne_empty (n : Nat) : toString n ≠ "" := by
  intro empty
  have digits : Nat.toDigits 10 n = [] := by
    rw [← Nat.toList_repr]
    exact congrArg String.toList empty
  exact Nat.toDigits_ne_nil digits

private theorem toString_injective {n m : Nat} (equal : toString n = toString m) : n = m := by
  have digits : Nat.toDigits 10 n = Nat.toDigits 10 m := by
    rw [← Nat.toList_repr, ← Nat.toList_repr]
    exact congrArg String.toList equal
  rw [← Nat.ofDigitChars_ten_toDigits (n := n), digits, Nat.ofDigitChars_ten_toDigits]

theorem candidate_injective (stem : String) : Function.Injective (candidate stem) := by
  have numbered (n : Nat) : candidate stem 0 ≠ candidate stem (n + 1) := by
    intro equal
    have trailing : "_" ++ stem ++ "" = "_" ++ stem ++ toString (n + 2) := by
      simpa [candidate] using equal
    exact toString_ne_empty (n + 2) ((String.append_right_inj _).mp trailing).symm
  intro n m equal
  cases n with
  | zero =>
      cases m with
      | zero => rfl
      | succ m => exact absurd equal (numbered m)
  | succ n =>
      cases m with
      | zero => exact absurd equal.symm (numbered n)
      | succ m =>
          have digits := toString_injective ((String.append_right_inj _).mp equal)
          omega

theorem exists_free_candidate (f : FreshNames) (stem : String) :
    ∃ n ∈ List.range (f.taken.length + 1), candidate stem n ∉ f.taken := by
  by_contra! allTaken
  let tried := (List.range (f.taken.length + 1)).map (candidate stem)
  have distinct : tried.Nodup := List.nodup_range.map (candidate_injective stem)
  have contained : tried ⊆ f.taken := by
    intro name tries
    obtain ⟨n, bounded, rfl⟩ := List.mem_map.mp tries
    exact allTaken n bounded
  have tooMany := distinct.length_le_of_subset contained
  simp only [tried, List.length_map, List.length_range] at tooMany
  omega

theorem candidate_firstFree (f : FreshNames) (stem : String) :
    candidate stem (f.firstFree stem) ∉ f.taken ∧
      ∀ n < f.firstFree stem, candidate stem n ∈ f.taken := by
  let free (n : Nat) : Bool := !f.isTaken (candidate stem n)
  cases found : (List.range (f.taken.length + 1)).find? free with
  | none =>
      obtain ⟨n, bounded, unused⟩ := exists_free_candidate f stem
      have used := List.find?_eq_none.mp found n bounded
      simp [free, isTaken, unused] at used
  | some n =>
      have chosen : f.firstFree stem = n := congrArg (fun found? => found?.getD 0) found
      rw [List.find?_range_eq_some] at found
      obtain ⟨unused, _, smaller⟩ := found
      rw [chosen]
      refine ⟨by simpa [free, isTaken] using unused, fun k below => ?_⟩
      simpa [free, isTaken] using smaller k below

theorem generate_notMem (f : FreshNames) (base : String) :
    (f.generate base).1 ∉ f.taken :=
  (candidate_firstFree f (stem base)).1

@[simp] theorem taken_generate (f : FreshNames) (base : String) :
    (f.generate base).2.taken = (f.generate base).1 :: f.taken := rfl

theorem claim_notMem (f : FreshNames) (preferred : String) :
    (f.claim preferred).1 ∉ f.taken := by
  unfold claim
  split
  · exact generate_notMem f preferred
  · next free => simpa [isTaken] using free

/-- What is claimed is the name itself, or a candidate for it when it is taken. -/
theorem claim_eq_or (f : FreshNames) (preferred : String) :
    (f.claim preferred).1 = preferred ∨
      preferred ∈ f.taken ∧ ∃ k, (f.claim preferred).1 = candidate (stem preferred) k := by
  unfold claim
  split
  · next taken => exact .inr ⟨by simpa [isTaken] using taken, _, rfl⟩
  · exact .inl rfl

@[simp] theorem taken_claim (f : FreshNames) (preferred : String) :
    (f.claim preferred).2.taken = (f.claim preferred).1 :: f.taken := by
  unfold claim
  split <;> rfl

/-- A supply that held `names` and has handed out `handed` since, in some order. -/
structure Supplied (names handed : List String) (f : FreshNames) : Prop where
  taken : f.taken.Perm (handed ++ names)
  distinct : handed.Nodup
  apart : ∀ n ∈ handed, n ∉ names

theorem supplied_nil (names : List String) : Supplied names [] ⟨names⟩ where
  taken := List.Perm.refl _
  distinct := List.nodup_nil
  apart := by simp

theorem Supplied.hand {names handed handed' : List String} {f f' : FreshNames} {n : String}
    (supplied : f.Supplied names handed) (free : n ∉ f.taken) (takes : f'.taken = n :: f.taken)
    (more : handed'.Perm (n :: handed)) : f'.Supplied names handed' := by
  rw [supplied.taken.mem_iff, List.mem_append, not_or] at free
  obtain ⟨unhanded, unnamed⟩ := free
  refine ⟨?_, ?_, ?_⟩
  · rw [takes]
    exact (supplied.taken.cons n).trans (more.symm.append_right names)
  · exact more.nodup_iff.mpr (List.nodup_cons.mpr ⟨unhanded, supplied.distinct⟩)
  · intro k held
    rcases List.mem_cons.mp (more.mem_iff.mp held) with rfl | before
    · exact unnamed
    · exact supplied.apart k before

end RouteWrap.FreshNames
