import Mathlib
import RouteWrap.Command.Fault

/-!
Lines and columns against offsets. The line and column of an offset lead back to the greatest
character boundary that is not after it, no two boundaries share them, and they grow with the
offset. An offset past the end has those of the end, so a fault may be marked there instead.
-/

namespace RouteWrap

namespace Position

/-- The byte reached by going behind so many line feeds and then so many characters further on the
same line, if the text has that place. -/
def byteOf? : Nat → Nat → List Char → Option Nat
  | 0, 0, _ => some 0
  | 0, column + 1, c :: cs =>
      if c == '\n' then none else (byteOf? 0 column cs).map (c.utf8Size + ·)
  | feeds + 1, column, c :: cs =>
      (byteOf? (if c == '\n' then feeds else feeds + 1) column cs).map (c.utf8Size + ·)
  | _, _, [] => none

/-- The line feeds before the line, which go round with it. -/
def feeds (p : Position) : Nat := (p.line - 1).toNat

/-- Lines before columns. -/
def place (p : Position) : Nat ×ₗ Nat := toLex (p.line.toNat, p.column.toNat)

/-- The place with its line counted from zero. -/
def spot (p : Position) : Nat ×ₗ Nat := toLex (p.feeds, p.column.toNat)

/-- The number of the line goes round: the text is nothing but as many line feeds as numbers of 32
bits can count, and the offset is its end. -/
def Overflows (source : String) (offset : Nat) : Prop :=
  source.toList = List.replicate (2 ^ 32 - 1) '\n' ∧ 2 ^ 32 - 1 ≤ offset

/-! Bytes of characters -/

def bytes (cs : List Char) : Nat := (cs.map Char.utf8Size).sum

@[simp] theorem bytes_nil : bytes [] = 0 := rfl

@[simp] theorem bytes_cons (c : Char) (cs : List Char) :
    bytes (c :: cs) = c.utf8Size + bytes cs := by
  simp [bytes]

@[simp] theorem bytes_append (as bs : List Char) : bytes (as ++ bs) = bytes as + bytes bs := by
  simp [bytes]

theorem length_le_bytes (cs : List Char) : cs.length ≤ bytes cs := by
  induction cs with
  | nil => exact Nat.le_refl 0
  | cons c cs ih =>
      have := c.utf8Size_pos
      simp only [List.length_cons, bytes_cons]
      omega

theorem utf8ByteSize_ofList (cs : List Char) : (String.ofList cs).utf8ByteSize = bytes cs := by
  induction cs with
  | nil => simp [String.ofList_nil]
  | cons c cs ih =>
      have split : String.ofList (c :: cs) = String.singleton c ++ String.ofList cs := by
        rw [String.singleton_eq_ofList, ← String.ofList_append]
        rfl
      rw [split, String.utf8ByteSize_append, String.utf8ByteSize_singleton, ih, bytes_cons]

theorem bytes_toList (s : String) : bytes s.toList = s.utf8ByteSize := by
  rw [← utf8ByteSize_ofList, String.ofList_toList]

/-- Boundaries are where a beginning of the text ends. -/
theorem isValid_iff {s : String} {i : Nat} :
    (⟨i⟩ : String.Pos.Raw).IsValid s ↔ ∃ before, before <+: s.toList ∧ bytes before = i := by
  rw [String.Pos.Raw.isValid_iff_exists_append]
  constructor
  · rintro ⟨front, back, rfl, same⟩
    refine ⟨front.toList, by simp, ?_⟩
    rw [bytes_toList]
    exact (congrArg String.Pos.Raw.byteIdx same).symm
  · rintro ⟨before, ⟨after, split⟩, rfl⟩
    refine ⟨String.ofList before, String.ofList after, ?_, ?_⟩
    · rw [← String.ofList_append, split, String.ofList_toList]
    · rw [String.rawEndPos, utf8ByteSize_ofList]

/-! What stands before an offset -/

theorem isPrefix_upTo (limit : Nat) (cs : List Char) : upTo limit cs <+: cs := by
  fun_induction upTo limit cs with
  | case1 => exact List.nil_prefix
  | case2 limit c rest fits ih => exact (List.prefix_cons_inj c).mpr ih
  | case3 => exact List.nil_prefix

theorem bytes_upTo_le (limit : Nat) (cs : List Char) : bytes (upTo limit cs) ≤ limit := by
  fun_induction upTo limit cs with
  | case1 => exact Nat.zero_le _
  | case2 limit c rest fits ih =>
      rw [bytes_cons]
      omega
  | case3 => exact Nat.zero_le _

theorem prefix_upTo {before cs : List Char} {limit : Nat} (begins : before <+: cs)
    (fits : bytes before ≤ limit) : before <+: upTo limit cs := by
  induction before generalizing cs limit with
  | nil => exact List.nil_prefix
  | cons c before ih =>
      obtain ⟨after, rfl⟩ := begins
      rw [bytes_cons] at fits
      rw [List.cons_append, upTo, if_pos (by omega), List.prefix_cons_inj]
      exact ih (List.prefix_append before after) (by omega)

theorem bytes_le_bytes {as bs : List Char} (begins : as <+: bs) : bytes as ≤ bytes bs := by
  obtain ⟨rest, rfl⟩ := begins
  rw [bytes_append]
  exact Nat.le_add_right _ _

theorem upTo_bytes {before cs : List Char} (begins : before <+: cs) :
    upTo (bytes before) cs = before := by
  have within := prefix_upTo begins (Nat.le_refl _)
  obtain ⟨rest, split⟩ := within
  have size := bytes_upTo_le (bytes before) cs
  rw [← split, bytes_append] at size
  have none : rest = [] := List.eq_nil_of_length_eq_zero (by have := length_le_bytes rest; omega)
  rw [← split, none, List.append_nil]

theorem upTo_min (limit : Nat) (cs : List Char) :
    upTo (min limit (bytes cs)) cs = upTo limit cs := by
  rcases Nat.le_total limit (bytes cs) with within | past
  · rw [Nat.min_eq_left within]
  · rw [Nat.min_eq_right past, upTo_bytes (List.prefix_refl cs)]
    have whole := prefix_upTo (List.prefix_refl cs) past
    exact whole.eq_of_length_le (isPrefix_upTo limit cs).length_le

/-- What stands before an offset ends at the greatest boundary that is not after it. -/
theorem isGreatest_upTo (source : String) (offset : Nat) :
    IsGreatest {i | (⟨i⟩ : String.Pos.Raw).IsValid source ∧ i ≤ min offset source.utf8ByteSize}
      (bytes (upTo offset source.toList)) := by
  have begins := isPrefix_upTo offset source.toList
  refine ⟨⟨isValid_iff.mpr ⟨_, begins, rfl⟩, ?_⟩, ?_⟩
  · rw [← bytes_toList]
    exact Nat.le_min.mpr ⟨bytes_upTo_le _ _, bytes_le_bytes begins⟩
  · rintro _ ⟨valid, bounded⟩
    obtain ⟨before, begins, rfl⟩ := isValid_iff.mp valid
    exact bytes_le_bytes (prefix_upTo begins (Nat.le_min.mp bounded).1)

/-! The last line -/

theorem lastLine_append (as bs : List Char) :
    lastLine (as ++ bs) = if '\n' ∈ bs then lastLine bs else lastLine as ++ bs := by
  rw [lastLine, List.reverse_append, List.takeWhile_append]
  by_cases feed : '\n' ∈ bs
  · rw [if_pos feed, if_neg, lastLine]
    intro whole
    have all := (List.takeWhile_prefix (· != '\n') (l := bs.reverse)).eq_of_length whole
    have passed := List.takeWhile_eq_self_iff.mp all '\n' (List.mem_reverse.mpr feed)
    simp at passed
  · have all : bs.reverse.takeWhile (· != '\n') = bs.reverse := by
      refine List.takeWhile_eq_self_iff.mpr fun c listed => ?_
      have other : c ≠ '\n' := fun same => feed (same ▸ List.mem_reverse.mp listed)
      simpa using other
    rw [if_neg feed, all, if_pos rfl, List.reverse_append, List.reverse_reverse, lastLine]

theorem lastLine_of_notMem {cs : List Char} (feedless : '\n' ∉ cs) : lastLine cs = cs := by
  have whole := lastLine_append [] cs
  rwa [if_neg feedless] at whole

theorem lastLine_feed (cs : List Char) : lastLine ('\n' :: cs) = lastLine cs := by
  have split := lastLine_append ['\n'] cs
  rw [List.singleton_append] at split
  by_cases feed : '\n' ∈ cs
  · rw [split, if_pos feed]
  · rw [split, if_neg feed, lastLine_of_notMem feed]
    rfl

theorem lastLine_cons {c : Char} (other : c ≠ '\n') (cs : List Char) :
    lastLine (c :: cs) = if '\n' ∈ cs then lastLine cs else c :: cs := by
  have feedless : '\n' ∉ [c] := by simpa using other.symm
  have split := lastLine_append [c] cs
  rwa [List.singleton_append, lastLine_of_notMem feedless, List.singleton_append] at split

theorem count_add_length_lastLine_le (cs : List Char) :
    cs.count '\n' + (lastLine cs).length ≤ cs.length := by
  induction cs with
  | nil => exact Nat.le_refl 0
  | cons c cs ih =>
      by_cases feed : c = '\n'
      · subst feed
        rw [List.count_cons_self, lastLine_feed, List.length_cons]
        omega
      · rw [List.count_cons_of_ne feed, lastLine_cons feed, List.length_cons]
        split
        · omega
        · next feedless =>
          rw [List.count_eq_zero.mpr feedless, List.length_cons]
          omega

/-! There and back -/

/-- The lines and columns of a beginning lead to its end, whatever follows. -/
theorem byteOf?_count (before after : List Char) :
    byteOf? (before.count '\n') (lastLine before).length (before ++ after) =
      some (bytes before) := by
  induction before with
  | nil => cases after <;> rfl
  | cons c before ih =>
      rw [List.cons_append]
      by_cases feed : c = '\n'
      · subst feed
        rw [List.count_cons_self, lastLine_feed, byteOf?, if_pos (by rfl), ih]
        rfl
      rw [List.count_cons_of_ne feed, lastLine_cons feed]
      have passes : (c == '\n') = false := beq_false_of_ne feed
      by_cases later : '\n' ∈ before
      · obtain ⟨feeds, counted⟩ := Nat.exists_eq_add_one_of_ne_zero
          (Nat.ne_of_gt (List.count_pos_iff.mpr later))
        rw [counted] at ih ⊢
        rw [if_pos later, byteOf?, passes, if_neg Bool.false_ne_true, ih]
        rfl
      · rw [List.count_eq_zero.mpr later, lastLine_of_notMem later] at ih
        rw [List.count_eq_zero.mpr later, if_neg later, List.length_cons, byteOf?, passes,
          if_neg Bool.false_ne_true, ih]
        rfl

/-- Where a line and column lead, a beginning of the text ends that has them. -/
theorem exists_prefix_of_byteOf? {feeds column byte : Nat} {cs : List Char}
    (found : byteOf? feeds column cs = some byte) :
    ∃ before, before <+: cs ∧ bytes before = byte ∧ before.count '\n' = feeds ∧
      (lastLine before).length = column := by
  fun_induction byteOf? feeds column cs generalizing byte with
  | case1 cs =>
      cases found
      exact ⟨[], List.nil_prefix, rfl, rfl, rfl⟩
  | case2 column c cs feed => cases found
  | case3 column c cs other ih =>
      obtain ⟨rest, reached, rfl⟩ := Option.map_eq_some_iff.mp found
      obtain ⟨before, begins, rfl, counted, width⟩ := ih reached
      have feedless : '\n' ∉ before := List.count_eq_zero.mp counted
      rw [beq_iff_eq] at other
      rw [lastLine_of_notMem feedless] at width
      refine ⟨c :: before, (List.prefix_cons_inj c).mpr begins, bytes_cons c before, ?_, ?_⟩
      · rw [List.count_cons_of_ne other, counted]
      · rw [lastLine_cons other, if_neg feedless, List.length_cons, width]
  | case4 feeds column c cs ih =>
      obtain ⟨rest, reached, rfl⟩ := Option.map_eq_some_iff.mp found
      obtain ⟨before, begins, rfl, counted, width⟩ := ih reached
      refine ⟨c :: before, (List.prefix_cons_inj c).mpr begins, bytes_cons c before, ?_, ?_⟩
      · by_cases feed : c = '\n'
        · subst feed
          rw [List.count_cons_self, counted]
          rfl
        · rw [List.count_cons_of_ne feed, counted, if_neg (by simpa using feed)]
      · by_cases feed : c = '\n'
        · rw [feed, lastLine_feed, width]
        · rw [if_neg (by simpa using feed)] at counted
          have later : '\n' ∈ before := List.count_pos_iff.mp (by omega)
          rw [lastLine_cons feed, if_pos later, width]
  | case5 => cases found

theorem spot_le_of_prefix {as bs : List Char} (begins : as <+: bs) :
    toLex (as.count '\n', (lastLine as).length) ≤
      toLex (bs.count '\n', (lastLine bs).length) := by
  obtain ⟨rest, rfl⟩ := begins
  rw [Prod.Lex.toLex_le_toLex, List.count_append, lastLine_append]
  by_cases feed : '\n' ∈ rest
  · have := List.count_pos_iff.mpr feed
    exact .inl (by simp only; omega)
  · rw [List.count_eq_zero.mpr feed, if_neg feed, List.length_append]
    exact .inr ⟨rfl, Nat.le_add_right _ _⟩

/-! Numbers of 32 bits -/

theorem count_add_length_lastLine_upTo_le (offset : Nat) (cs : List Char) :
    (upTo offset cs).count '\n' + (lastLine (upTo offset cs)).length ≤ bytes cs :=
  (count_add_length_lastLine_le _).trans <|
    (length_le_bytes _).trans (bytes_le_bytes (isPrefix_upTo offset cs))

section

variable {source : String} (short : source.utf8ByteSize < 2 ^ 32) (offset : Nat)

include short

theorem feeds_ofOffset :
    (ofOffset source offset).feeds = (upTo offset source.toList).count '\n' := by
  have bounded := count_add_length_lastLine_upTo_le offset source.toList
  rw [bytes_toList] at bounded
  rw [feeds, ofOffset, UInt32.add_sub_cancel, UInt32.toNat_ofNat']
  exact Nat.mod_eq_of_lt (by omega)

theorem column_ofOffset :
    (ofOffset source offset).column.toNat = (lastLine (upTo offset source.toList)).length := by
  have bounded := count_add_length_lastLine_upTo_le offset source.toList
  rw [bytes_toList] at bounded
  rw [ofOffset, UInt32.toNat_ofNat']
  exact Nat.mod_eq_of_lt (by omega)

end

/-- As many line feeds as there are bytes stand before an offset only in a text of line feeds. -/
theorem count_upTo_eq_iff {cs : List Char} {n : Nat} (offset : Nat) (short : bytes cs ≤ n) :
    (upTo offset cs).count '\n' = n ↔ cs = List.replicate n '\n' ∧ n ≤ offset := by
  have begins := isPrefix_upTo offset cs
  constructor
  · intro counted
    have counts : (upTo offset cs).count '\n' ≤ (upTo offset cs).length := List.count_le_length
    have within := length_le_bytes (upTo offset cs)
    have bounded := bytes_upTo_le offset cs
    have whole := bytes_le_bytes begins
    have size := length_le_bytes cs
    have same : upTo offset cs = cs := begins.eq_of_length_le (by omega)
    rw [same] at counted counts bounded
    refine ⟨List.eq_replicate_iff.mpr ⟨by omega, ?_⟩, by omega⟩
    intro c listed
    exact (List.count_eq_length.mp (counted.trans (by omega)) c listed).symm
  · rintro ⟨rfl, past⟩
    have size : bytes (List.replicate n '\n') = n := by simp [bytes, Char.utf8Size]
    rw [← upTo_min, size, Nat.min_eq_right past]
    nth_rewrite 1 [← size]
    rw [upTo_bytes (List.prefix_refl _), List.count_replicate_self]

section

variable {source : String} (short : source.utf8ByteSize < 2 ^ 32)

include short

theorem line_ofOffset_iff (offset : Nat) :
    (ofOffset source offset).line.toNat = (ofOffset source offset).feeds + 1 ↔
      ¬ Overflows source offset := by
  have bounded := count_add_length_lastLine_upTo_le offset source.toList
  rw [bytes_toList] at bounded
  have bytes : bytes source.toList ≤ 2 ^ 32 - 1 := by
    rw [bytes_toList]
    omega
  rw [Overflows, ← count_upTo_eq_iff offset bytes, feeds_ofOffset short]
  generalize feeds : (upTo offset source.toList).count '\n' = n at bounded
  have line : (ofOffset source offset).line.toNat = (n + 1) % 2 ^ 32 := by
    rw [ofOffset]
    simp only [feeds, UInt32.toNat_add, UInt32.toNat_ofNat']
    exact Nat.mod_add_mod n (2 ^ 32) 1
  rw [line]
  omega

theorem line_of_overflows {offset : Nat} (overflows : Overflows source offset) :
    (ofOffset source offset).line = 0 := by
  have counted : (upTo offset source.toList).count '\n' = 2 ^ 32 - 1 := by
    refine (count_upTo_eq_iff offset ?_).mpr overflows
    rw [bytes_toList]
    omega
  rw [ofOffset, counted]
  rfl

theorem monotone_spot : Monotone fun offset => (ofOffset source offset).spot := by
  intro offset offset' le
  have begins : upTo offset source.toList <+: upTo offset' source.toList :=
    prefix_upTo (isPrefix_upTo offset _) ((bytes_upTo_le offset _).trans le)
  simp only [spot, feeds_ofOffset short, column_ofOffset short]
  exact spot_le_of_prefix begins

theorem monotoneOn_place :
    MonotoneOn (fun offset => (ofOffset source offset).place)
      {offset | ¬ Overflows source offset} := by
  intro offset fits offset' fits' le
  have spots := monotone_spot short le
  simp only [spot, Prod.Lex.toLex_le_toLex] at spots
  simp only [place, (line_ofOffset_iff short _).mpr fits, (line_ofOffset_iff short _).mpr fits',
    Prod.Lex.toLex_le_toLex]
  omega

end

theorem place_min (source : String) (offset : Nat) :
    (ofOffset source (min offset source.utf8ByteSize)).place = (ofOffset source offset).place := by
  simp only [place, ofOffset, ← bytes_toList, upTo_min]

/-- The second byte of a letter stands for its first one. -/
example : ofOffset "a\né" 3 = ⟨3, 2, 0⟩ ∧ byteOf? 1 0 "a\né".toList = some 2 := by decide

end Position

end RouteWrap
