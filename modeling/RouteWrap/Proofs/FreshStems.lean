import Mathlib
import RouteWrap.Proofs.FreshRuns

/-!
Requests for different stems. A candidate strips back to the stem that it is for, so no name is a
candidate for two stems, and what is handed out for one leaves the candidates for the others as
they were. In a run of requests the names for a stem are therefore its free candidates in turn,
whatever is asked for in between.
-/

namespace RouteWrap.FreshNames

/-! Stems -/

theorem dropWhile_stops {p : Char → Bool} {dropped kept : List Char} (drops : ∀ c ∈ dropped, p c)
    (stops : ∀ c ∈ kept.head?, p c = false) : (dropped ++ kept).dropWhile p = kept := by
  rw [List.dropWhile_append_of_pos drops]
  cases kept with
  | nil => rfl
  | cons c kept => exact List.dropWhile_cons_of_neg (Bool.eq_false_iff.mp (stops c rfl))

/-- A base splits in one way into underscores, what is left of it, and digits. -/
theorem Strips.strip_eq {base s : String} (strips : Strips base s) : strip base = s := by
  obtain ⟨underscores, digits, split, underscored, first, numeric, last⟩ := strips
  have front : base.toList.dropWhile (· == '_') = s.toList ++ digits := by
    rw [split]
    exact dropWhile_stops (by simpa using underscored) (by simpa using first)
  have back : (s.toList ++ digits).reverse.dropWhile Char.isDigit = s.toList.reverse := by
    rw [List.reverse_append]
    exact dropWhile_stops (by simpa using numeric) (by rwa [List.head?_reverse])
  simp only [strip, front, back, List.reverse_reverse, String.ofList_toList]

/-- What a base is stripped to, or what stands in for it. -/
structure IsStem (s : String) : Prop where
  nonempty : s ≠ ""
  front : ∀ c ∈ s.toList.head?, c ≠ '_'
  back : ∀ c ∈ s.toList.getLast?, c.isDigit = false

theorem isStem_stem (base : String) : IsStem (stem base) := by
  rw [stem_eq]
  split
  · refine ⟨by decide, fun c leads => ?_, fun c ends => ?_⟩
    · obtain rfl : 't' = c := Option.some.inj leads
      decide
    · obtain rfl : 'p' = c := Option.some.inj ends
      decide
  · next nonempty =>
    obtain ⟨underscores, digits, split, -, first, -, last⟩ := strips_strip base
    refine ⟨nonempty, fun c leads => first c ?_, last⟩
    exact List.mem_head?_append_of_mem_head? leads

theorem IsStem.strips_candidate {s : String} (normal : IsStem s) (k : Nat) :
    Strips (candidate s k) s := by
  obtain ⟨digits, text, numeric⟩ := toList_candidate s k
  refine ⟨['_'], digits, text, by simp, fun c leads => normal.front c ?_, numeric, normal.back⟩
  have nonempty : s.toList ≠ [] := by simpa using normal.nonempty
  rwa [List.head?_append_of_ne_nil _ nonempty] at leads

theorem IsStem.stem_candidate {s : String} (normal : IsStem s) (k : Nat) :
    stem (candidate s k) = s := by
  rw [stem_eq, (normal.strips_candidate k).strip_eq, if_neg normal.nonempty]

theorem disjoint_candidates {a b : String} (apart : stem a ≠ stem b) :
    Disjoint (Set.range (candidate (stem a))) (Set.range (candidate (stem b))) := by
  rw [Set.disjoint_left]
  rintro name ⟨j, rfl⟩ ⟨k, same⟩
  refine apart ?_
  calc
    stem a = stem (candidate (stem a) j) := ((isStem_stem a).stem_candidate j).symm
    _ = stem (candidate (stem b) k) := by rw [same]
    _ = stem b := (isStem_stem b).stem_candidate k

/-! Free candidates -/

def Free (f : FreshNames) (s : String) (k : Nat) : Prop := candidate s k ∉ f.taken

/-- The free candidate for `s` that has `n` free ones before it. -/
noncomputable def nthFree (f : FreshNames) (s : String) (n : Nat) : String :=
  candidate s (Nat.nth (f.Free s) n)

theorem infinite_free (f : FreshNames) (s : String) : {k | f.Free s k}.Infinite := by
  have used : {k | candidate s k ∈ f.taken}.Finite :=
    (List.finite_toSet f.taken).preimage (candidate_injective s).injOn
  exact used.infinite_compl

theorem firstFree_eq (f : FreshNames) (s : String) : f.firstFree s = Nat.nth (f.Free s) 0 := by
  classical
  obtain ⟨free, used⟩ := f.candidate_firstFree s
  have none : Nat.count (f.Free s) (f.firstFree s) = 0 :=
    Nat.count_iff_forall_not.mpr fun k below => not_not_intro (used k below)
  rw [← none]
  exact (Nat.nth_count free).symm

theorem generate_eq (f : FreshNames) (base : String) :
    (f.generate base).1 = f.nthFree (stem base) 0 := by
  rw [nthFree, ← firstFree_eq]
  rfl

theorem free_generate (f : FreshNames) (base s : String) (k : Nat) :
    (f.generate base).2.Free s k ↔ candidate s k ≠ (f.generate base).1 ∧ f.Free s k := by
  rw [Free, taken_generate, List.mem_cons, not_or, Free]

/-- When the first of infinitely many numbers is left out, those behind it move up by one. -/
theorem nth_of_ne_first {p q : Nat → Prop} (many : {k | p k}.Infinite)
    (rest : ∀ k, q k ↔ k ≠ Nat.nth p 0 ∧ p k) (n : Nat) : Nat.nth q n = Nat.nth p (n + 1) := by
  let later (n : Nat) : Nat := Nat.nth p (n + 1)
  have ascends : StrictMono later := (Nat.nth_strictMono many).comp (strictMono_id.add_const 1)
  have stays (n : Nat) : q (later n) :=
    (rest _).mpr ⟨(Nat.nth_injective many).ne n.succ_ne_zero, Nat.nth_mem_of_infinite many _⟩
  have unending : {k | q k}.Infinite := Set.infinite_of_injective_forall_mem ascends.injective stays
  have onto : ∀ k, q k → k ∈ Set.range later := by
    intro k remains
    obtain ⟨other, listed⟩ := (rest k).mp remains
    obtain ⟨m, rfl⟩ : k ∈ Set.range (Nat.nth p) := Nat.range_nth_of_infinite many ▸ listed
    cases m with
    | zero => exact absurd rfl other
    | succ m => exact ⟨m, rfl⟩
  calc
    Nat.nth q n = later (Nat.nth (fun k => q (later k)) n) :=
      (Nat.nth_comp_of_strictMono ascends onto fun finite => absurd finite unending).symm
    _ = later n := congrArg later (Nat.nth_of_forall fun k _ => stays k)

theorem nthFree_generate (f : FreshNames) (earlier base : String) (n : Nat) :
    (f.generate earlier).2.nthFree (stem base) n =
      f.nthFree (stem base) (n + if stem earlier = stem base then 1 else 0) := by
  split
  · next same =>
    -- Of the candidates for the stem, the first free one is what was handed out.
    have rest (k : Nat) : (f.generate earlier).2.Free (stem base) k ↔
        k ≠ Nat.nth (f.Free (stem base)) 0 ∧ f.Free (stem base) k := by
      rw [free_generate, generate_eq, same, nthFree, (candidate_injective _).ne_iff]
    exact congrArg _ (nth_of_ne_first (f.infinite_free _) rest n)
  · next apart =>
    -- What was handed out is no candidate for the stem at all.
    have rest : (f.generate earlier).2.Free (stem base) = f.Free (stem base) := by
      funext k
      rw [free_generate, eq_iff_iff, and_iff_right_iff_imp]
      exact fun _ same => (disjoint_candidates apart).ne_of_mem ⟨_, rfl⟩ ⟨k, rfl⟩ same.symm
    rw [nthFree, rest, Nat.add_zero, nthFree]

/-! Runs of requests -/

theorem nthFree_after (f : FreshNames) (earlier : List String) (base : String) (n : Nat) :
    (f.after (earlier.map .generate)).nthFree (stem base) n =
      f.nthFree (stem base) (n + earlier.countP fun e => stem e = stem base) := by
  induction earlier generalizing f with
  | nil => rfl
  | cons e earlier ih =>
      rw [List.map_cons, after, ih, Call.run, nthFree_generate, List.countP_cons, Nat.add_assoc]
      simp only [decide_eq_true_eq]

theorem handed_append (f : FreshNames) (calls later : List Call) :
    f.handed (calls ++ later) = f.handed calls ++ (f.after calls).handed later := by
  induction calls generalizing f with
  | nil => rfl
  | cons c calls ih => rw [List.cons_append, handed, handed, after, ih, List.append_assoc]

theorem handed_generate_cons (f : FreshNames) (base : String) (calls : List Call) :
    f.handed (.generate base :: calls) =
      f.nthFree (stem base) 0 :: (f.generate base).2.handed calls := by
  rw [← generate_eq]
  rfl

theorem length_handed_generate (f : FreshNames) (bases : List String) :
    (f.handed (bases.map .generate)).length = bases.length := by
  induction bases generalizing f with
  | nil => rfl
  | cons base bases ih =>
      rw [List.map_cons, handed_generate_cons, List.length_cons, ih, List.length_cons]

theorem handed_generate_pair (f : FreshNames) {a b : String} (apart : stem a ≠ stem b) :
    f.handed [.generate a, .generate b] = [f.nthFree (stem a) 0, f.nthFree (stem b) 0] := by
  rw [handed_generate_cons, handed_generate_cons, nthFree_generate, if_neg apart]
  rfl

/-- The candidates for different stems are different, so requests for them can change places: each
is handed the same name, and the names then taken are the same. In any run of requests a base is
handed the free candidate for its stem that has as many free ones before it as there were requests
for that stem, whatever else was asked for. And a generated name has the stem it was generated
from. -/
theorem stems_independent (f : FreshNames) :
    (∀ a b, stem a ≠ stem b →
      Disjoint (Set.range (candidate (stem a))) (Set.range (candidate (stem b))) ∧
        (∃ x y, f.handed [.generate a, .generate b] = [x, y] ∧
          f.handed [.generate b, .generate a] = [y, x]) ∧
          ∀ n, n ∈ (f.after [.generate a, .generate b]).taken ↔
            n ∈ (f.after [.generate b, .generate a]).taken) ∧
      (∀ earlier base later,
        (f.handed ((earlier ++ base :: later).map .generate))[earlier.length]? =
          some (f.nthFree (stem base) (earlier.countP fun e => stem e = stem base))) ∧
        ∀ base, stem (f.generate base).1 = stem base := by
  refine ⟨fun a b apart => ⟨disjoint_candidates apart, ?_, fun n => ?_⟩, ?_, fun base => ?_⟩
  · exact ⟨_, _, f.handed_generate_pair apart, f.handed_generate_pair apart.symm⟩
  · rw [mem_taken_after, mem_taken_after, f.handed_generate_pair apart,
      f.handed_generate_pair apart.symm, List.mem_pair, List.mem_pair]
    simp [or_comm]
  · intro earlier base later
    have reached := f.length_handed_generate earlier
    rw [List.map_append, List.map_cons, handed_append,
      List.getElem?_append_right reached.le, reached, Nat.sub_self, handed_generate_cons,
      List.getElem?_cons_zero, nthFree_after, Nat.zero_add]
  · exact (isStem_stem base).stem_candidate _

theorem loader_action_independent :
    stem "loader" ≠ stem "__action12" ∧
      handed ⟨["_loader"]⟩ [.generate "loader", .generate "__action12"] = ["_loader2", "_action"] ∧
        handed ⟨["_loader"]⟩ [.generate "__action12", .generate "loader"] =
          ["_action", "_loader2"] := by
  have apart : stem "loader" ≠ stem "__action12" := by decide +kernel
  have there : handed ⟨["_loader"]⟩ [.generate "loader", .generate "__action12"] =
      ["_loader2", "_action"] := by decide +kernel
  obtain ⟨-, ⟨x, y, names, turned⟩, -⟩ := (stems_independent ⟨["_loader"]⟩).1 _ _ apart
  cases there.symm.trans names
  exact ⟨apart, there, turned⟩

end RouteWrap.FreshNames
