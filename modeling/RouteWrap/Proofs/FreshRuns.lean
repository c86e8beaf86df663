import Mathlib.Data.List.DropRight
import Mathlib.Data.List.TakeWhile
import RouteWrap.Proofs.FreshNames
import RouteWrap.Proofs.Scope.Bindings
import RouteWrap.Syntax.Kind
import RouteWrap.Text.Identifier

/-!
Runs of a supply of fresh names. In any run of calls on the supply of a module, the names taken are
those that the module uses, those reserved and those handed out; a name asked for is looked for
among the candidates in turn, the search ends, and what it ends at is a valid name.
-/

namespace RouteWrap

/-! Valid names -/

namespace Identifier

/-- A name whose first character is of one class and whose others are of another. -/
def Spells (first rest : Char → Bool) (name : String) : Prop :=
  ∃ c cs, name.toList = c :: cs ∧ first c ∧ ∀ d ∈ cs, rest d

/-- What the grammar of a module admits as a name. -/
def IsName (name : String) : Prop := Spells startsName continuesName name

/-- Whether the ranges of the second list lie in ranges of the first; both ascend. -/
def covers : List (Nat × Nat) → List (Nat × Nat) → Bool
  | _, [] => true
  | [], _ :: _ => false
  | q :: qs, r :: rs => covers qs ((r :: rs).dropWhile fun r => q.1 ≤ r.1 && r.2 ≤ q.2)

theorem exists_of_covers {qs rs : List (Nat × Nat)} (covered : covers qs rs) :
    ∀ r ∈ rs, ∃ q ∈ qs, q.1 ≤ r.1 ∧ r.2 ≤ q.2 := by
  induction qs generalizing rs with
  | nil =>
      cases rs with
      | nil => simp
      | cons r rs => cases covered
  | cons q qs ih =>
      cases rs with
      | nil => simp
      | cons r rs =>
          rw [covers] at covered
          intro s listed
          rw [← List.takeWhile_append_dropWhile (p := fun r => q.1 ≤ r.1 && r.2 ≤ q.2)
            (l := r :: rs), List.mem_append] at listed
          rcases listed with inside | later
          · have within := List.mem_takeWhile_imp inside
            rw [Bool.and_eq_true, decide_eq_true_eq, decide_eq_true_eq] at within
            exact ⟨q, List.mem_cons_self, within⟩
          · obtain ⟨q', listed, within⟩ := ih covered s later
            exact ⟨q', List.mem_cons_of_mem _ listed, within⟩

theorem continuesName_of_startsName {c : Char} (starts : startsName c) : continuesName c := by
  unfold startsName at starts
  unfold continuesName
  split
  · next ascii => simp_all
  · next other =>
    rw [if_neg other] at starts
    obtain ⟨r, listed, within⟩ := List.any_eq_true.mp starts
    have table : covers IdentifierTable.continues IdentifierTable.starts := by decide +kernel
    obtain ⟨q, listedQ, low, high⟩ := exists_of_covers table r listed
    have among : inRanges IdentifierTable.continues c.toNat := by
      refine List.any_eq_true.mpr ⟨q, listedQ, ?_⟩
      simp only [Bool.and_eq_true, decide_eq_true_eq] at within ⊢
      omega
    simp [among]

theorem toNat_lt_of_isAlphanum {c : Char} (ascii : c.isAlphanum) : c.toNat < 128 := by
  delta Char.isAlphanum Char.isAlpha Char.isUpper Char.isLower Char.isDigit at ascii
  simp only [Bool.or_eq_true, Bool.and_eq_true, decide_eq_true_eq, ge_iff_le,
    UInt32.le_iff_toNat_le] at ascii
  change c.val.toNat < 128
  have upper : 'Z'.val.toNat = 90 := rfl
  have lower : 'z'.val.toNat = 122 := rfl
  have digit : '9'.val.toNat = 57 := rfl
  omega

theorem continuesName_of_isAlphanum {c : Char} (ascii : c.isAlphanum) : continuesName c := by
  rw [continuesName, if_pos (toNat_lt_of_isAlphanum ascii), isAsciiStart]
  rw [Char.isAlphanum, Bool.or_eq_true] at ascii
  rcases ascii with letter | digit
  · simp [letter]
  · simp [digit]

theorem isLetterOrNumber_of_isLetter {c : Char} (letter : isLetter c) : isLetterOrNumber c := by
  unfold isLetter at letter
  unfold isLetterOrNumber
  split
  · next ascii => simp_all [Char.isAlphanum]
  · next other => simp_all

theorem isPlainName_iff {name : String} :
    isPlainName name ↔
      Spells (fun c => c == '$' || c == '_' || isLetter c)
        (fun d => d == '$' || d == '_' || isLetterOrNumber d) name := by
  unfold isPlainName Spells
  cases name.toList with
  | nil => simp
  | cons c cs => simp [and_assoc]

end Identifier

namespace FreshNames

/-- `s` is what is left of `base` when its leading underscores are dropped and then its trailing
digits. -/
def Strips (base s : String) : Prop :=
  ∃ underscores digits, base.toList = underscores ++ (s.toList ++ digits) ∧
    (∀ c ∈ underscores, c = '_') ∧ (∀ c ∈ (s.toList ++ digits).head?, c ≠ '_') ∧
    (∀ c ∈ digits, c.isDigit) ∧ ∀ c ∈ s.toList.getLast?, c.isDigit = false

theorem strips_strip (base : String) : Strips base (strip base) := by
  let tail := base.toList.dropWhile (· == '_')
  have stripped : (strip base).toList = tail.rdropWhile Char.isDigit := String.toList_ofList
  have split : (strip base).toList ++ tail.rtakeWhile Char.isDigit = tail := by
    rw [stripped]
    exact List.rdropWhile_append_rtakeWhile
  refine ⟨base.toList.takeWhile (· == '_'), tail.rtakeWhile Char.isDigit, ?_, ?_, ?_, ?_, ?_⟩
  · rw [split, List.takeWhile_append_dropWhile]
  · intro c listed
    simpa using List.mem_takeWhile_imp listed
  · intro c first
    have other := List.head?_dropWhile_not (· == '_') base.toList
    rw [split] at first
    rw [Option.mem_def.mp first] at other
    simpa using other
  · intro c listed
    exact List.mem_rtakeWhile_imp listed
  · intro c last
    rw [stripped] at last
    obtain ⟨nonempty, rfl⟩ := List.mem_getLast?_eq_getLast last
    exact Bool.eq_false_iff.mpr (List.rdropWhile_last_not _ _ nonempty)

theorem mem_of_mem_stem {base : String} {c : Char} (listed : c ∈ (stem base).toList) :
    c ∈ base.toList ∨ c.isAlphanum := by
  unfold stem at listed
  split at listed
  · have letters : "temp".toList.all Char.isAlphanum := by decide
    exact .inr (List.all_eq_true.mp letters c listed)
  · obtain ⟨underscores, digits, split, -⟩ := strips_strip base
    refine .inl ?_
    rw [split]
    simp [listed]

theorem toList_candidate (stem : String) (k : Nat) :
    ∃ digits, (candidate stem k).toList = '_' :: (stem.toList ++ digits) ∧
      ∀ c ∈ digits, c.isDigit := by
  cases k with
  | zero => exact ⟨[], by simp [candidate], by simp⟩
  | succ k =>
      refine ⟨(toString (k + 2)).toList, by simp [candidate], fun c listed => ?_⟩
      rw [Nat.toString_eq_repr, Nat.toList_repr] at listed
      exact Nat.isDigit_of_mem_toDigits (by omega) (by omega) listed

theorem spells_candidate {first rest : Char → Bool} (opens : first '_')
    (within : ∀ c, first c → rest c) (ascii : ∀ c, c.isAlphanum → rest c) {base : String}
    (spelled : Identifier.Spells first rest base) (k : Nat) :
    Identifier.Spells first rest (candidate (stem base) k) := by
  obtain ⟨b, bs, split, starts, continues⟩ := spelled
  obtain ⟨digits, text, numeric⟩ := toList_candidate (stem base) k
  refine ⟨'_', _, text, opens, fun c listed => ?_⟩
  rcases List.mem_append.mp listed with stemmed | counted
  · rcases mem_of_mem_stem stemmed with based | alphanumeric
    · rw [split, List.mem_cons] at based
      rcases based with rfl | later
      · exact within c starts
      · exact continues c later
    · exact ascii c alphanumeric
  · exact ascii c (by simp [Char.isAlphanum, numeric c counted])

theorem isName_candidate (k : Nat) {base : String} (named : Identifier.IsName base) :
    Identifier.IsName (candidate (stem base) k) :=
  spells_candidate (by decide) (fun _ => Identifier.continuesName_of_startsName)
    (fun _ => Identifier.continuesName_of_isAlphanum) named k

theorem isPlainName_candidate (k : Nat) {base : String} (plain : Identifier.isPlainName base) :
    Identifier.isPlainName (candidate (stem base) k) := by
  rw [Identifier.isPlainName_iff] at plain ⊢
  refine spells_candidate (by decide) (fun c starts => ?_) (fun c ascii => ?_) plain k
  · simp only [Bool.or_eq_true] at starts ⊢
    exact starts.imp_right Identifier.isLetterOrNumber_of_isLetter
  · simp [Identifier.isLetterOrNumber, Identifier.toNat_lt_of_isAlphanum ascii, ascii]

/-- No word of the language starts with an underscore. -/
theorem ofName_candidate (stem : String) (k : Nat) :
    Kind.ofName (candidate stem k) = .identifier := by
  have words : ∀ w ∈ Kind.reserved ++ Kind.contextual, w.toList.head? ≠ some '_' := by
    decide +kernel
  obtain ⟨digits, text, -⟩ := toList_candidate stem k
  have other : candidate stem k ∉ Kind.reserved ++ Kind.contextual := fun listed =>
    words _ listed (by rw [text]; rfl)
  rw [List.mem_append, not_or] at other
  simp [Kind.ofName, other]

/-! The search among the candidates -/

/-- The candidates from one of them on are tried in turn until one is free. -/
inductive Search (f : FreshNames) (stem : String) : Nat → Nat → Prop
  | found {k : Nat} (free : candidate stem k ∉ f.taken) : Search f stem k k
  | next {k n : Nat} (used : candidate stem k ∈ f.taken) (rest : Search f stem (k + 1) n) :
      Search f stem k n

theorem search_of_first {f : FreshNames} {stem : String} {n : Nat}
    (free : candidate stem n ∉ f.taken) (used : ∀ j < n, candidate stem j ∈ f.taken) {k : Nat}
    (start : k ≤ n) : f.Search stem k n := by
  induction start using Nat.decreasingInduction with
  | self => exact .found free
  | of_succ k below ih => exact .next (used k below) ih

theorem search_firstFree (f : FreshNames) (stem : String) :
    f.Search stem 0 (f.firstFree stem) := by
  obtain ⟨free, used⟩ := candidate_firstFree f stem
  exact search_of_first free used (Nat.zero_le _)

/-! Calls -/

inductive Call
  | generate (base : String)
  | claim (preferred : String)
  | reserve (name : String)

/-- The name that a call hands out, and the supply that it leaves. -/
def Call.run (f : FreshNames) : Call → Option String × FreshNames
  | generate base => ((f.generate base).1, (f.generate base).2)
  | claim preferred => ((f.claim preferred).1, (f.claim preferred).2)
  | reserve name => (none, f.reserve name)

def after (f : FreshNames) : List Call → FreshNames
  | [] => f
  | c :: calls => (c.run f).2.after calls

/-- The names that a run of calls hands out, in order. -/
def handed (f : FreshNames) : List Call → List String
  | [] => []
  | c :: calls => (c.run f).1.toList ++ (c.run f).2.handed calls

/-- The call hands out a name that is free, and takes that name and no other. -/
def Hands (f : FreshNames) (c : Call) (n : String) : Prop :=
  (c.run f).1 = some n ∧ n ∉ f.taken ∧ ∀ k, k ∈ (c.run f).2.taken ↔ k = n ∨ k ∈ f.taken

/-- What a call of each kind does to the supply that it meets. -/
def Call.Answered (f : FreshNames) : Call → Prop
  | generate base => ∃ s k, Strips base s ∧
      f.Search (if s = "" then "temp" else s) 0 k ∧
      (∀ j < k, candidate (if s = "" then "temp" else s) j ∈ f.taken) ∧
      f.Hands (.generate base) (candidate (if s = "" then "temp" else s) k)
  | claim preferred => (∃ n, f.Hands (.claim preferred) n) ∧
      (((claim preferred).run f).1 = some preferred ↔ preferred ∉ f.taken) ∧
      (preferred ∈ f.taken → (claim preferred).run f = (generate preferred).run f)
  | reserve name => ((reserve name).run f).1 = none ∧
      ∀ k, k ∈ ((reserve name).run f).2.taken ↔ k = name ∨ k ∈ f.taken

theorem hands_generate (f : FreshNames) (base : String) :
    f.Hands (.generate base) (candidate (stem base) (f.firstFree (stem base))) :=
  ⟨rfl, f.generate_notMem base, fun _ => List.mem_cons⟩

theorem hands_claim (f : FreshNames) (preferred : String) :
    f.Hands (.claim preferred) (f.claim preferred).1 := by
  refine ⟨rfl, f.claim_notMem preferred, fun k => ?_⟩
  rw [Call.run, f.taken_claim, List.mem_cons]

theorem stem_eq (base : String) :
    stem base = if strip base = "" then "temp" else strip base := by
  simp only [stem, String.isEmpty_iff]

theorem notMem_of_handed {f : FreshNames} {c : Call} {n : String} (hands : (c.run f).1 = some n) :
    n ∉ f.taken := by
  cases c with
  | generate base => exact Option.some.inj hands ▸ f.generate_notMem base
  | claim preferred => exact Option.some.inj hands ▸ f.claim_notMem preferred
  | reserve name => cases hands

theorem answered (f : FreshNames) (c : Call) : c.Answered f := by
  cases c with
  | generate base =>
      refine ⟨strip base, f.firstFree (stem base), strips_strip base, ?_⟩
      rw [← stem_eq]
      exact ⟨f.search_firstFree _, (f.candidate_firstFree _).2, f.hands_generate base⟩
  | claim preferred =>
      refine ⟨⟨_, f.hands_claim preferred⟩, ⟨notMem_of_handed, fun free => ?_⟩, fun taken => ?_⟩
      · have itself : (f.claim preferred).1 = preferred := by simp [claim, isTaken, free]
        rw [Call.run, itself]
      · have generated : f.claim preferred = f.generate preferred := by
          simp [claim, isTaken, taken]
        rw [Call.run, Call.run, generated]
  | reserve name => exact ⟨rfl, fun k => List.mem_cons⟩

theorem mem_taken_run (f : FreshNames) (c : Call) (n : String) :
    n ∈ (c.run f).2.taken ↔ (c.run f).1 = some n ∨ c = .reserve n ∨ n ∈ f.taken := by
  cases c with
  | generate base =>
      rw [(f.hands_generate base).2.2, Call.run, Option.some.injEq, eq_comm]
      simp [generate]
  | claim preferred =>
      rw [(f.hands_claim preferred).2.2, Call.run, Option.some.injEq, eq_comm]
      simp
  | reserve name => simp [Call.run, reserve, eq_comm]

theorem mem_taken_after (f : FreshNames) (calls : List Call) (n : String) :
    n ∈ (f.after calls).taken ↔ n ∈ f.taken ∨ .reserve n ∈ calls ∨ n ∈ f.handed calls := by
  induction calls generalizing f with
  | nil => simp [after, handed]
  | cons c calls ih =>
      rw [after, handed, ih, mem_taken_run, List.mem_cons, List.mem_append, Option.mem_toList,
        eq_comm (a := c)]
      tauto

theorem handed_notMem (f : FreshNames) (calls : List Call) :
    ∀ n ∈ f.handed calls, n ∉ f.taken := by
  induction calls generalizing f with
  | nil => simp [handed]
  | cons c calls ih =>
      intro n listed
      rw [handed, List.mem_append, Option.mem_toList] at listed
      rcases listed with now | later
      · exact notMem_of_handed now
      · exact fun taken => ih _ n later ((mem_taken_run f c n).mpr (.inr (.inr taken)))

theorem nodup_handed (f : FreshNames) (calls : List Call) : (f.handed calls).Nodup := by
  induction calls generalizing f with
  | nil => exact List.nodup_nil
  | cons c calls ih =>
      rw [handed, List.nodup_append']
      refine ⟨?_, ih _, ?_⟩
      · cases (c.run f).1 with
        | none => exact List.nodup_nil
        | some n => exact List.nodup_singleton n
      · intro n now later
        rw [Option.mem_toList] at now
        exact handed_notMem _ calls n later ((mem_taken_run f c n).mpr (.inl now))

end FreshNames

/-! The names that a module uses -/

inductive Tree.Within : Tree → Tree → Prop
  | whole (t : Tree) : Within t t
  | part {t p : Tree} {s : Span} {f : Form} {ps : List Tree} (listed : p ∈ ps)
      (within : Within t p) : Within t (.node s f ps)

/-- A symbol, a reference or a label in the tree has the name. -/
inductive Tree.Uses (t : Tree) (n : String) : Prop
  | symbol {s : Span} {b : Binder} (within : (Tree.bind s b n).Within t)
  | reference {s : Span} {u : Use} (within : (Tree.ref s u n).Within t)
  | label {s : Span} (within : (Tree.label s n).Within t)

theorem Tree.Uses.part {p : Tree} {n : String} {s : Span} {f : Form} {ps : List Tree}
    (listed : p ∈ ps) (uses : p.Uses n) : (Tree.node s f ps).Uses n := by
  cases uses with
  | symbol within => exact .symbol (.part listed within)
  | reference within => exact .reference (.part listed within)
  | label within => exact .label (.part listed within)

mutual

theorem Tree.uses_of_mem_names {t : Tree} {n : String} (named : n ∈ t.names) : t.Uses n := by
  cases t with
  | absent => cases named
  | ref s u k => exact List.mem_singleton.mp named ▸ .reference (.whole _)
  | bind s b k => exact List.mem_singleton.mp named ▸ .symbol (.whole _)
  | label s k => exact List.mem_singleton.mp named ▸ .label (.whole _)
  | node s f ps =>
      obtain ⟨p, listed, uses⟩ := Tree.exists_uses_of_mem_namesList named
      exact uses.part listed

theorem Tree.exists_uses_of_mem_namesList {ts : List Tree} {n : String}
    (named : n ∈ Tree.namesList ts) : ∃ t ∈ ts, t.Uses n := by
  cases ts with
  | nil => cases named
  | cons t ts =>
      rcases List.mem_append.mp named with first | later
      · exact ⟨t, List.mem_cons_self, Tree.uses_of_mem_names first⟩
      · obtain ⟨u, listed, uses⟩ := Tree.exists_uses_of_mem_namesList later
        exact ⟨u, List.mem_cons_of_mem _ listed, uses⟩

end

theorem Tree.Within.names_subset {t u : Tree} (within : t.Within u) : t.names ⊆ u.names := by
  induction within with
  | whole => exact List.Subset.refl _
  | part listed _ ih => exact fun n named => Tree.mem_namesList.mpr ⟨_, listed, ih named⟩

theorem Tree.mem_names_iff {t : Tree} {n : String} : n ∈ t.names ↔ t.Uses n := by
  refine ⟨Tree.uses_of_mem_names, fun uses => ?_⟩
  cases uses with
  | symbol within | reference within | label within =>
      exact within.names_subset (List.mem_singleton_self n)

namespace Module

def Uses (m : Module) (n : String) : Prop := ∃ i ∈ m.items, i.toTree.Uses n

theorem mem_names_iff {m : Module} {n : String} : n ∈ m.names ↔ m.Uses n := by
  rw [names, Tree.mem_namesList, trees]
  simp only [Uses, List.mem_map, exists_exists_and_eq_and, Tree.mem_names_iff]

/-- After any run of calls on the supply of a module, no name was handed out twice, and those taken
are just the names that the module uses, those reserved and those handed out. Any call is answered
then, and what is generated from a valid name is one, and no word of the language. -/
theorem freshNames_run (m : Module) (calls : List FreshNames.Call) :
    (FreshNames.handed ⟨m.names⟩ calls).Nodup ∧
      (∀ n, n ∈ (FreshNames.after ⟨m.names⟩ calls).taken ↔
        m.Uses n ∨ .reserve n ∈ calls ∨ n ∈ FreshNames.handed ⟨m.names⟩ calls) ∧
      (∀ c, FreshNames.Call.Answered (FreshNames.after ⟨m.names⟩ calls) c) ∧
      ∀ base n,
        (FreshNames.Call.run (FreshNames.after ⟨m.names⟩ calls) (.generate base)).1 = some n →
          (Identifier.IsName base → Identifier.IsName n) ∧
            (Identifier.isPlainName base → Identifier.isPlainName n) ∧
              Kind.ofName n = .identifier := by
  refine ⟨FreshNames.nodup_handed _ calls, fun n => ?_, FreshNames.answered _, ?_⟩
  · rw [FreshNames.mem_taken_after, mem_names_iff]
  · intro base n generated
    obtain rfl := Option.some.inj generated
    exact ⟨FreshNames.isName_candidate _, FreshNames.isPlainName_candidate _,
      FreshNames.ofName_candidate _ _⟩

example : FreshNames.handed ⟨["_loader"]⟩
    [.reserve "_loader2", .generate "__loader12", .claim "loader", .claim "loader",
      .generate "7"] = ["_loader3", "loader", "_loader4", "_temp"] := by decide +kernel

end Module

end RouteWrap
