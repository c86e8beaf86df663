import RouteWrap.Grammar.Link
import RouteWrap.Proofs.FreshRuns
import RouteWrap.Proofs.ValidPresets

/-!
Names of a valid preset that a module can bind. The test that presets are held to goes by letters
and numbers. It lets pass the words of the language, some numbers and circled letters that no name
contains, and marks that no name begins with; what a wrapper is called is never a word, as it holds
a capital.
-/

namespace RouteWrap

namespace Identifier

/-- Words that nothing in a module can be bound to. -/
def moduleWords : List String :=
  Kind.reserved ++ Grammar.futureWords ++ ["await", "yield", "eval", "arguments"]

/-- What the grammar of a module admits where a name is bound. -/
def BindsInModule (name : String) : Prop := IsName name ∧ name ∉ moduleWords

/-- Letters and numbers that no name contains, such as superscripts, fractions and circled ones. -/
def outliers : List (Nat × Nat) :=
  [(0xb2, 0xb3), (0xb9, 0xb9), (0xbc, 0xbe), (0x9f4, 0x9f9), (0xb72, 0xb77), (0xbf0, 0xbf2),
   (0xc78, 0xc7e), (0xd58, 0xd5e), (0xd70, 0xd78), (0xf2a, 0xf33), (0x1372, 0x137c),
   (0x17f0, 0x17f9), (0x2070, 0x2070), (0x2074, 0x2079), (0x2080, 0x2089), (0x2150, 0x215f),
   (0x2189, 0x2189), (0x2460, 0x249b), (0x24b6, 0x24ff), (0x2776, 0x2793), (0x2cfd, 0x2cfd),
   (0x2e2f, 0x2e2f), (0x3192, 0x3195), (0x3220, 0x3229), (0x3248, 0x324f), (0x3251, 0x325f),
   (0x3280, 0x3289), (0x32b1, 0x32bf), (0xa830, 0xa835), (0x10107, 0x10133), (0x10175, 0x10178),
   (0x1018a, 0x1018b), (0x102e1, 0x102fb), (0x10320, 0x10323), (0x10858, 0x1085f),
   (0x10879, 0x1087f), (0x108a7, 0x108af), (0x108fb, 0x108ff), (0x10916, 0x1091b),
   (0x109bc, 0x109bd), (0x109c0, 0x109cf), (0x109d2, 0x109ff), (0x10a40, 0x10a48),
   (0x10a7d, 0x10a7e), (0x10a9d, 0x10a9f), (0x10aeb, 0x10aef), (0x10b58, 0x10b5f),
   (0x10b78, 0x10b7f), (0x10ba9, 0x10baf), (0x10cfa, 0x10cff), (0x10e60, 0x10e7e),
   (0x10f1d, 0x10f26), (0x10f51, 0x10f54), (0x10fc5, 0x10fcb), (0x11052, 0x11065),
   (0x111e1, 0x111f4), (0x1173a, 0x1173b), (0x118ea, 0x118f2), (0x11c5a, 0x11c6c),
   (0x11fc0, 0x11fd4), (0x16b5b, 0x16b61), (0x16e80, 0x16e96), (0x1d2c0, 0x1d2d3),
   (0x1d2e0, 0x1d2f3), (0x1d360, 0x1d378), (0x1e8c7, 0x1e8cf), (0x1ec71, 0x1ecab),
   (0x1ecad, 0x1ecaf), (0x1ecb1, 0x1ecb4), (0x1ed01, 0x1ed2d), (0x1ed2f, 0x1ed3d),
   (0x1f100, 0x1f10c), (0x1f130, 0x1f149), (0x1f150, 0x1f169), (0x1f170, 0x1f189)]

/-- A letter that a name contains but does not begin with. -/
def isMark (c : Char) : Bool := isLetter c && continuesName c && !startsName c

/-- The letters and numbers of a name stand where the grammar of a module admits them. -/
structure Conforms (name : String) : Prop where
  contained : ∀ c ∈ name.toList, inRanges outliers c.toNat = false
  first : ∀ c ∈ name.toList.head?, isMark c = false

instance (name : String) : Decidable (Conforms name) :=
  decidable_of_iff (name.toList.all (fun c => !inRanges outliers c.toNat) &&
      name.toList.head?.all (!isMark ·)) <| by
    simp only [Bool.and_eq_true, List.all_eq_true, Option.all_eq_true, Bool.not_eq_true']
    exact ⟨fun ⟨contained, first⟩ => ⟨contained, first⟩,
      fun ⟨contained, first⟩ => ⟨contained, first⟩⟩

/-! Tables of ranges -/

theorem inRanges_cons (q : Nat × Nat) (qs : List (Nat × Nat)) (n : Nat) :
    inRanges (q :: qs) n ↔ q.1 ≤ n ∧ n ≤ q.2 ∨ inRanges qs n := by
  simp [inRanges]

theorem inRanges_append (qs rs : List (Nat × Nat)) (n : Nat) :
    inRanges (qs ++ rs) n = (inRanges qs n || inRanges rs n) := List.any_append

/-- What is left of ranges that ascend when those that lie in another are taken away. -/
def beyond (q : Nat × Nat) (rs : List (Nat × Nat)) : List (Nat × Nat) :=
  match rs.dropWhile fun r => q.1 ≤ r.1 && r.2 ≤ q.2 with
  | [] => []
  | r :: rs => (if q.1 ≤ r.1 then max r.1 (q.2 + 1) else r.1, r.2) :: rs

theorem inRanges_beyond {q : Nat × Nat} {rs : List (Nat × Nat)} {n : Nat}
    (outside : ¬ (q.1 ≤ n ∧ n ≤ q.2)) (inside : inRanges rs n) : inRanges (beyond q rs) n := by
  rw [← List.takeWhile_append_dropWhile (p := fun r => q.1 ≤ r.1 && r.2 ≤ q.2) (l := rs),
    inRanges_append, Bool.or_eq_true] at inside
  rw [beyond]
  obtain taken | left := inside
  · obtain ⟨r, listed, within⟩ := List.any_eq_true.mp taken
    have covered := List.mem_takeWhile_imp listed
    simp only [Bool.and_eq_true, decide_eq_true_eq] at within covered
    omega
  · cases rest : rs.dropWhile fun r => q.1 ≤ r.1 && r.2 ≤ q.2 with
    | nil => rw [rest] at left; cases left
    | cons r rs =>
        rw [rest, inRanges_cons] at left
        rw [inRanges_cons]
        refine left.imp_left fun within => ⟨?_, within.2⟩
        dsimp only
        split <;> omega

/-- Whether the ranges of the first list hold all that those of the second do; both ascend. -/
def spans : List (Nat × Nat) → List (Nat × Nat) → Bool
  | _, [] => true
  | [], _ :: _ => false
  | q :: qs, r :: rs => spans qs (beyond q (r :: rs))

theorem inRanges_of_spans {qs rs : List (Nat × Nat)} (spanned : spans qs rs) {n : Nat}
    (inside : inRanges rs n) : inRanges qs n := by
  induction qs generalizing rs with
  | nil =>
      cases rs with
      | nil => exact inside
      | cons r rs => cases spanned
  | cons q qs ih =>
      cases rs with
      | nil => cases inside
      | cons r rs =>
          rw [inRanges_cons]
          by_cases within : q.1 ≤ n ∧ n ≤ q.2
          · exact .inl within
          · exact .inr (ih spanned (inRanges_beyond within inside))

/-- Ranges that ascend, put between others that do. -/
def mergeRanges : List (Nat × Nat) → List (Nat × Nat) → List (Nat × Nat)
  | [], rs => rs
  | q :: qs, rs =>
      (rs.takeWhile fun r => r.1 ≤ q.1) ++ q :: mergeRanges qs (rs.dropWhile fun r => r.1 ≤ q.1)

theorem inRanges_mergeRanges (qs rs : List (Nat × Nat)) (n : Nat) :
    inRanges (mergeRanges qs rs) n = (inRanges qs n || inRanges rs n) := by
  induction qs generalizing rs with
  | nil => rfl
  | cons q qs ih =>
      have split := congrArg (inRanges · n)
        (List.takeWhile_append_dropWhile (p := fun r => r.1 ≤ q.1) (l := rs))
      simp only [inRanges_append] at split
      rw [mergeRanges, inRanges_append, Bool.eq_iff_iff, Bool.or_eq_true, inRanges_cons, ih,
        Bool.or_eq_true, Bool.or_eq_true, inRanges_cons, ← split, Bool.or_eq_true]
      tauto

/-- Ranges that ascend from a number and do not touch. -/
def ascends : Nat → List (Nat × Nat) → Bool
  | _, [] => true
  | low, q :: qs => low < q.1 && q.1 ≤ q.2 && ascends (q.2 + 1) qs

/-- The ranges of the numbers from `low` on that lie in none of the given ones. -/
def gaps : Nat → List (Nat × Nat) → List (Nat × Nat)
  | low, [] => [(low, 0x10ffff)]
  | low, q :: qs => (low, q.1 - 1) :: gaps (q.2 + 1) qs

theorem le_of_ascends {low : Nat} {qs : List (Nat × Nat)} (ordered : ascends low qs) {n : Nat}
    (inside : inRanges qs n) : low < n := by
  induction qs generalizing low with
  | nil => cases inside
  | cons q qs ih =>
      simp only [ascends, Bool.and_eq_true, decide_eq_true_eq] at ordered
      rw [inRanges_cons] at inside
      obtain within | later := inside
      · omega
      · have := ih ordered.2 later
        omega

theorem outside_of_gaps {low : Nat} {qs : List (Nat × Nat)} (ordered : ascends low qs) {n : Nat}
    (between : inRanges (gaps low qs) n) : low ≤ n ∧ ¬ inRanges qs n := by
  induction qs generalizing low with
  | nil =>
      rw [gaps, inRanges_cons] at between
      obtain within | none := between
      · exact ⟨within.1, nofun⟩
      · cases none
  | cons q qs ih =>
      simp only [ascends, Bool.and_eq_true, decide_eq_true_eq] at ordered
      rw [gaps, inRanges_cons] at between
      rw [inRanges_cons]
      obtain within | later := between
      · refine ⟨within.1, ?_⟩
        rintro (inside | inside)
        · omega
        · have := le_of_ascends ordered.2 inside
          omega
      · obtain ⟨above, outside⟩ := ih ordered.2 later
        exact ⟨by omega, fun inside => inside.elim (by omega) outside⟩

/-! Letters and numbers against the characters of names -/

theorem continuesName_of_outlier {c : Char} (outlier : inRanges outliers c.toNat) :
    continuesName c = false := by
  have beyondAscii : spans [(128, 0x10ffff)] outliers := by decide +kernel
  have far := inRanges_of_spans beyondAscii outlier
  have ordered : ascends 0 IdentifierTable.continues := by decide +kernel
  have apart : spans (gaps 0 IdentifierTable.continues) outliers := by decide +kernel
  have outside := (outside_of_gaps ordered (inRanges_of_spans apart outlier)).2
  have joiners : ∀ n ∈ [0x200c, 0x200d], inRanges outliers n = false := by decide +kernel
  have other (n : Nat) (joins : n ∈ [0x200c, 0x200d]) : c.toNat ≠ n := by
    rintro rfl
    rw [joiners _ joins] at outlier
    cases outlier
  have large : ¬ c.toNat < 128 := by
    simp [inRanges] at far
    omega
  rw [continuesName, if_neg large]
  simp [outside, other]

theorem continuesName_iff {c : Char} (listed : isLetterOrNumber c) :
    continuesName c ↔ inRanges outliers c.toNat = false := by
  rw [← Bool.not_eq_true]
  constructor
  · intro continues outlier
    rw [continuesName_of_outlier outlier] at continues
    cases continues
  · intro ordinary
    rw [isLetterOrNumber] at listed
    split at listed
    · exact continuesName_of_isAlphanum listed
    · next far =>
      have letters : spans (mergeRanges outliers IdentifierTable.continues)
          AlphabetTable.letters := by decide +kernel
      have numbers : spans (mergeRanges outliers IdentifierTable.continues)
          AlphabetTable.numbers := by decide +kernel
      have merged : inRanges (mergeRanges outliers IdentifierTable.continues) c.toNat :=
        (Bool.or_eq_true _ _ ▸ listed).elim (inRanges_of_spans letters) (inRanges_of_spans numbers)
      rw [inRanges_mergeRanges, Bool.or_eq_true] at merged
      rw [continuesName, if_neg far]
      simp [merged.resolve_left ordinary]

theorem isName_iff_of_isPlainName {name : String} (plain : isPlainName name) :
    IsName name ↔ Conforms name := by
  obtain ⟨c, cs, text, starts, rest⟩ := isPlainName_iff.mp plain
  have signs : ∀ d ∈ ['$', '_'], startsName d = true := List.all_eq_true.mp (by decide)
  have contains (d : Char) (allowed : d ∈ ['$', '_'] ∨ isLetterOrNumber d) :
      continuesName d ↔ inRanges outliers d.toNat = false := by
    refine allowed.elim (fun sign => ?_) continuesName_iff
    have continues := continuesName_of_startsName (signs d sign)
    refine iff_of_true continues ?_
    rw [← Bool.not_eq_true]
    intro outlier
    rw [continuesName_of_outlier outlier] at continues
    cases continues
  have allowed : ∀ d ∈ c :: cs, d ∈ ['$', '_'] ∨ isLetterOrNumber d := by
    simp only [Bool.or_eq_true, beq_iff_eq] at starts rest
    simp only [List.mem_cons, List.not_mem_nil, or_false, forall_eq_or_imp]
    exact ⟨starts.imp_right isLetterOrNumber_of_isLetter, rest⟩
  have named : IsName name ↔ startsName c ∧ ∀ d ∈ cs, continuesName d := by
    simp [IsName, Spells, text]
  rw [named]
  constructor
  · rintro ⟨begins, continues⟩
    refine ⟨fun d listed => ?_, fun d listed => ?_⟩
    · rw [text] at listed
      refine (contains d (allowed d listed)).mp ?_
      obtain rfl | later := List.mem_cons.mp listed
      · exact continuesName_of_startsName begins
      · exact continues d later
    · rw [text, List.head?_cons, Option.mem_some_iff] at listed
      simp [isMark, ← listed, begins]
  · rintro ⟨contained, first⟩
    rw [text] at contained first
    have continues (d : Char) (listed : d ∈ c :: cs) : continuesName d :=
      (contains d (allowed d listed)).mpr (contained d listed)
    refine ⟨?_, fun d later => continues d (List.mem_cons_of_mem c later)⟩
    have unmarked := first c rfl
    simp only [Bool.or_eq_true, beq_iff_eq] at starts
    obtain sign | letter := starts
    · exact signs c (by simpa using sign)
    · simpa [isMark, letter, continues c List.mem_cons_self] using unmarked

/-! Capitals -/

theorem isLower_iff {c : Char} : c.isLower ↔ 97 ≤ c.toNat ∧ c.toNat ≤ 122 := by
  delta Char.isLower
  rw [Bool.and_eq_true, decide_eq_true_eq, decide_eq_true_eq]
  exact Iff.rfl

theorem isLower_ofNat {n : Nat} (lower : (Char.ofNat n).isLower) : 97 ≤ n ∧ n ≤ 122 := by
  by_cases valid : n.isValidChar
  · have same : Char.ofNat n = Char.ofNatAux n valid := dif_pos valid
    rw [same] at lower
    exact isLower_iff.mp lower
  · have zero : Char.ofNat n = '\x00' := dif_neg valid
    rw [zero] at lower
    cases lower

/-- The capital form of a character is not made of small letters of ASCII alone. -/
theorem exists_capital (c : Char) : ∃ d ∈ Uppercase.ofChar c, d.isLower = false := by
  have expansions : ∀ e ∈ UppercaseTable.expansions, ∃ n ∈ e.2, ¬ (97 ≤ n ∧ n ≤ 122) := by
    decide +kernel
  have runs : ∀ r ∈ UppercaseTable.runs,
      (122 : Int) < r.first + r.distance ∨ r.last + r.distance < (97 : Int) := by
    decide +kernel
  have small {n : Nat} (other : ¬ (97 ≤ n ∧ n ≤ 122)) : (Char.ofNat n).isLower = false :=
    Bool.eq_false_iff.mpr fun lower => other (isLower_ofNat lower)
  rw [Uppercase.ofChar]
  split
  · next ascii =>
    have table : ∀ n < 128, (Char.ofNat n).toUpper.isLower = false := by decide +kernel
    refine ⟨c.toUpper, List.mem_singleton_self _, ?_⟩
    rw [← Char.ofNat_toNat c]
    exact table c.toNat ascii
  next far =>
  split
  · next ns expanded =>
    obtain ⟨before, after, split, -⟩ := List.lookup_eq_some_iff.mp expanded
    have entry : (c.toNat, ns) ∈ UppercaseTable.expansions := by simp [split]
    obtain ⟨n, listed, other⟩ := expansions _ entry
    exact ⟨Char.ofNat n, List.mem_map_of_mem listed, small other⟩
  split
  · next n capital =>
    obtain ⟨r, listed, within⟩ := List.exists_of_findSome?_eq_some capital
    have distant := runs r listed
    rw [Uppercase.ofRun] at within
    split at within
    · next holds =>
      simp only [Bool.and_eq_true, decide_eq_true_eq] at holds
      cases within
      exact ⟨_, List.mem_singleton_self _, small (by omega)⟩
    · cases within
  · refine ⟨c, List.mem_singleton_self c, Bool.eq_false_iff.mpr fun lower => ?_⟩
    have := isLower_iff.mp lower
    omega

theorem not_mem_moduleWords {name : String} {c : Char} (listed : c ∈ name.toList)
    (other : c.isLower = false) : name ∉ moduleWords := by
  have words : moduleWords.all fun w => w.toList.all Char.isLower := by decide +kernel
  intro word
  rw [List.all_eq_true.mp (List.all_eq_true.mp words name word) c listed] at other
  cases other

end Identifier

namespace Preset

open Identifier (BindsInModule Conforms moduleWords)

variable {p : Preset} {e : String}

theorem wrapperName_not_mem_moduleWords (named : e ≠ "") :
    p.wrapperName e ∉ moduleWords := by
  obtain ⟨c, cs, text⟩ := List.exists_cons_of_ne_nil (mt String.toList_eq_nil_iff.mp named)
  obtain ⟨d, listed, capital⟩ := Identifier.exists_capital c
  refine Identifier.not_mem_moduleWords (c := d) ?_ capital
  simp [wrapperName, WrapperNaming.wrapperName, Uppercase.capitalize, text, listed]

/-- Of the names of a valid preset, those that a module can bind are the ones of letters and numbers
that the grammar admits where they stand; an export must be no word of the language besides, which
no wrapper is. -/
theorem bindsInModule_iff (accepted : p.validate = .ok ()) :
    (∀ e ∈ p.exports, BindsInModule e ∧ BindsInModule (p.wrapperName e)) ↔
      ∀ e ∈ p.exports, e ∉ moduleWords ∧ Conforms e ∧ Conforms (p.wrapperName e) := by
  have consistent := validate_eq_ok_iff.mp accepted
  refine forall_congr' fun e => forall_congr' fun listed => ?_
  obtain ⟨plain, plainWrapper⟩ := consistent.named e listed
  have named : e ≠ "" := by
    rintro rfl
    cases plain
  rw [BindsInModule, BindsInModule, Identifier.isName_iff_of_isPlainName plain,
    Identifier.isName_iff_of_isPlainName plainWrapper,
    and_iff_left (wrapperName_not_mem_moduleWords named), and_comm (a := Conforms e), and_assoc]

/-- A name of letters beyond ASCII, whose wrapper begins with one of two capitals for one letter. -/
def eszett : Preset := ⟨⟨"", "Fn"⟩, [⟨"server", "./server", ["ßeta", "été"]⟩]⟩

theorem eszett_bindsInModule :
    eszett.validate = .ok () ∧ eszett.wrapperName "ßeta" = "SSetaFn" ∧
      BindsInModule "ßeta" ∧ BindsInModule "SSetaFn" := by
  have accepted : eszett.validate = .ok () := by decide +kernel
  have conforming : ∀ e ∈ eszett.exports,
      e ∉ moduleWords ∧ Conforms e ∧ Conforms (eszett.wrapperName e) := by
    decide +kernel
  obtain ⟨export_, wrapper⟩ := (bindsInModule_iff accepted).mpr conforming "ßeta" (by decide)
  exact ⟨accepted, by decide +kernel, export_, wrapper⟩

/-- A power and a word of the language. -/
def unbindable : Preset := ⟨.standard, [⟨"server", "./server", ["a²", "class"]⟩]⟩

theorem unbindable_accepted :
    unbindable.validate = .ok () ∧ ¬ BindsInModule "a²" ∧ ¬ BindsInModule "class" ∧
      ¬ BindsInModule (unbindable.wrapperName "a²") := by
  have unnamed (name : String) (listed : name ∈ ["a²", unbindable.wrapperName "a²"]) :
      ¬ BindsInModule name := by
    have tested : ∀ name ∈ ["a²", unbindable.wrapperName "a²"],
        Identifier.isPlainName name = true ∧ ¬ Conforms name := by decide +kernel
    obtain ⟨plain, outlying⟩ := tested name listed
    exact fun binds => outlying ((Identifier.isName_iff_of_isPlainName plain).mp binds.1)
  have word : "class" ∈ moduleWords := by decide
  exact ⟨by decide +kernel, unnamed _ (by simp), fun binds => binds.2 word, unnamed _ (by simp)⟩

end Preset

end RouteWrap
