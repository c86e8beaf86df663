import Mathlib.Data.List.TakeDrop
import RouteWrap.Grammar.Reading
import RouteWrap.Layout.Quoted
import RouteWrap.Proofs.Reexports

/-!
String literals read back. In whichever quote a string is printed, the scanner reads the literal as
one token with the points of the string: each character stands for itself, or behind a backslash
for the point that it escapes, and none that is printed plainly ends the literal before its quote.
-/

namespace RouteWrap

namespace Scanner

/-- Where `text` is next, the reader takes it and answers `a`. -/
def Takes (x : Scan α) (text : List Char) (a : α) (rest : List Char) : Prop :=
  ∀ s : Scanner, s.rest = text ++ rest → ∃ offset, x.run s = (a, { s with rest, offset })

theorem run_bind {x : Scan α} {f : α → Scan β} {a : α} {s s' : Scanner}
    (first : x.run s = (a, s')) : (x >>= f).run s = (f a).run s' := by
  rw [StateT.run_bind, first]
  rfl

/-! Escapes -/

/-- Escapes that are printed, behind their backslash, and what they stand for. -/
def escapes : List (List Char × Nat) :=
  [("b".toList, 8), ("v".toList, 11), ("f".toList, 12), ("n".toList, 10), ("r".toList, 13),
    ("x00".toList, 0), ("x07".toList, 7), ("x1B".toList, 0x1b), ("xA0".toList, 0xa0),
    ("u2028".toList, 0x2028), ("u2029".toList, 0x2029), ("\\".toList, 0x5c),
    ("\"".toList, 0x22), ("'".toList, 0x27), ("\x60".toList, 0x60), ("$".toList, 0x24),
    ("/".toList, 0x2f)]

theorem takes_escapeSequence {text : List Char} {n : Nat} (escape : (text, n) ∈ escapes)
    (inTemplate : Bool) (rest : List Char) :
    Takes (escapeSequence inTemplate) text (some [n]) rest := by
  rintro ⟨_, offset, faults, trivia, script⟩ rfl
  simp only [escapes, List.mem_cons, List.not_mem_nil, or_false, Prod.mk.injEq] at escape
  rcases escape with ⟨rfl, rfl⟩ | ⟨rfl, rfl⟩ | ⟨rfl, rfl⟩ | ⟨rfl, rfl⟩ | ⟨rfl, rfl⟩ | ⟨rfl, rfl⟩ |
    ⟨rfl, rfl⟩ | ⟨rfl, rfl⟩ | ⟨rfl, rfl⟩ | ⟨rfl, rfl⟩ | ⟨rfl, rfl⟩ | ⟨rfl, rfl⟩ | ⟨rfl, rfl⟩ |
    ⟨rfl, rfl⟩ | ⟨rfl, rfl⟩ | ⟨rfl, rfl⟩ | ⟨rfl, rfl⟩ <;> cases inTemplate <;> exact ⟨_, rfl⟩

theorem takes_escapeSequence_zero {rest : List Char} (unnumbered : isDigit rest.head? = false)
    (inTemplate : Bool) : Takes (escapeSequence inTemplate) ['0'] (some [0]) rest := by
  rintro ⟨_, offset, faults, trivia, script⟩ rfl
  have isZero : Blank.isLineEnd '0' = false := rfl
  refine ⟨offset + '0'.utf8Size, ?_⟩
  simp [escapeSequence, peek, skip, unnumbered, isZero]
  rfl

/-! What is left of a literal behind its opening quote -/

def isTemplate (quote : Char) : Bool := quote == '\x60'

def IsQuote (quote : Char) : Prop := quote = '"' ∨ quote = '\'' ∨ quote = '\x60'

/-- Whether a character stands for itself between these quotes, in front of another one. -/
def standsPlain (quote c : Char) (next : Option Char) : Bool :=
  c != quote && c != '\\' && c != '\r' &&
    if isTemplate quote then c != '$' || next != some '\x7b' else c != '\n'

/-- A text up to its closing quote, and the points that it spells. -/
inductive Spells (quote : Char) : List Char → Points → Prop
  | close : Spells quote [quote] []
  | plain {c : Char} {text : List Char} {ps : Points} (plain : standsPlain quote c text.head?)
      (rest : Spells quote text ps) : Spells quote (c :: text) (c.toNat :: ps)
  | escape {escaped text : List Char} {n : Nat} {ps : Points} (isLong : escaped ≠ [])
      (takes : ∀ rest, Takes (escapeSequence (isTemplate quote)) escaped (some [n]) (text ++ rest))
      (rest : Spells quote text ps) : Spells quote ('\\' :: escaped ++ text) (n :: ps)

theorem Spells.ne_nil {quote : Char} {text : List Char} {ps : Points}
    (spells : Spells quote text ps) : text ≠ [] := by
  cases spells <;> exact List.cons_ne_nil _ _

section

variable {quote c : Char} {start fuel offset : Nat} {acc ps : Points} {escaped script : Bool}
  {faults : Array Diagnostic} {trivia : Trivia} {rest text : List Char}

theorem bytes_cons (c : Char) (cs : List Char) : bytes (c :: cs) = c.utf8Size + bytes cs := by
  have shifted (n : Nat) : cs.foldl (fun n c => n + c.utf8Size) n = n + bytes cs := by
    unfold bytes
    induction cs generalizing n with
    | nil => rfl
    | cons d ds ih => rw [List.foldl_cons, List.foldl_cons, ih, ih (0 + d.utf8Size)]; omega
  rw [bytes, List.foldl_cons, shifted, Nat.zero_add]

theorem run_takeWhile (p : Char → Bool) (s : Scanner) :
    (takeWhile p).run s =
      (s.rest.takeWhile p,
        { s with rest := s.rest.dropWhile p, offset := s.offset + bytes (s.rest.takeWhile p) }) := by
  have spans := List.span_eq_takeWhile_dropWhile p s.rest
  change ((s.rest.span p).1, { s with
    rest := (s.rest.span p).2, offset := s.offset + bytes (s.rest.span p).1 }) = _
  rw [spans]

/-- A reader goes on over a character that its first step takes. -/
theorem run_takeWhile_bind {p : Char → Bool} {f : List Char → Scan α} {g : List Char → Scan α}
    (taken : p c) (same : ∀ more, f (c :: more) = g more) :
    (takeWhile p >>= f).run ⟨c :: rest, offset, faults, trivia, script⟩ =
      (takeWhile p >>= g).run ⟨rest, offset + c.utf8Size, faults, trivia, script⟩ := by
  simp only [StateT.run_bind, run_takeWhile, List.takeWhile_cons, List.dropWhile_cons, taken,
    if_true, bytes_cons, ← Nat.add_assoc]
  exact congrArg (fun f => StateT.run f _) (same _)

theorem stringTail_plain (plain : c ≠ quote ∧ c ≠ '\\' ∧ c ≠ '\n' ∧ c ≠ '\r') :
    (stringTail quote start (fuel + 1) acc escaped).run
        ⟨c :: rest, offset, faults, trivia, script⟩ =
      (stringTail quote start (fuel + 1) (acc ++ [c.toNat]) escaped).run
        ⟨rest, offset + c.utf8Size, faults, trivia, script⟩ := by
  rw [stringTail, stringTail]
  refine run_takeWhile_bind (by simpa [and_assoc] using plain) fun more => ?_
  rw [List.map_cons, List.append_cons]

theorem stringTail_close (isQuote : quote = '"' ∨ quote = '\'') :
    (stringTail quote start (fuel + 1) acc escaped).run
        ⟨quote :: rest, offset, faults, trivia, script⟩ =
      ((.string, acc ++ [], escaped), ⟨rest, offset + quote.utf8Size, faults, trivia, script⟩) := by
  rcases isQuote with rfl | rfl <;> rfl

theorem stringTail_escape {n : Nat} (isQuote : quote = '"' ∨ quote = '\'')
    (takes : Takes (escapeSequence false) text (some [n]) rest) :
    ∃ offset', (stringTail quote start (fuel + 1) acc escaped).run
        ⟨'\\' :: text ++ rest, offset, faults, trivia, script⟩ =
      (stringTail quote start fuel (acc ++ [n]) true).run
        ⟨rest, offset', faults, trivia, script⟩ := by
  obtain ⟨offset', read⟩ := takes ⟨text ++ rest, offset + '\\'.utf8Size, faults, trivia, script⟩ rfl
  refine ⟨offset', ?_⟩
  have nothing : (takeWhile fun c => c != quote && c != '\\' && c != '\n' && c != '\r').run
      ⟨'\\' :: text ++ rest, offset, faults, trivia, script⟩ =
        ([], ⟨'\\' :: text ++ rest, offset, faults, trivia, script⟩) := by
    rcases isQuote with rfl | rfl <;> rfl
  rw [stringTail]
  refine (run_bind nothing).trans ?_
  rw [List.map_nil, List.append_nil]
  refine (run_bind (x := peek) rfl).trans ?_
  refine (run_bind (x := position) rfl).trans ?_
  refine (run_bind (x := skip) rfl).trans ?_
  exact run_bind read

theorem Spells.stringTail (isQuote : quote = '"' ∨ quote = '\'') (spells : Spells quote text ps)
    (enough : text.length ≤ fuel) :
    ∃ escaped' offset', (Scanner.stringTail quote start fuel acc escaped).run
        ⟨text ++ rest, offset, faults, trivia, script⟩ =
      ((.string, acc ++ ps, escaped'), ⟨rest, offset', faults, trivia, script⟩) := by
  have isPlain : isTemplate quote = false := by rcases isQuote with rfl | rfl <;> rfl
  induction spells generalizing fuel acc escaped offset with
  | close =>
      obtain ⟨fuel, rfl⟩ : ∃ k, fuel = k + 1 := Nat.exists_eq_add_of_le' enough
      exact ⟨_, _, stringTail_close isQuote⟩
  | @plain c text ps plain _ ih =>
      obtain ⟨fuel, rfl⟩ : ∃ k, fuel = k + 1 :=
        Nat.exists_eq_add_of_le' (Nat.le_trans (Nat.le_add_left 1 _) enough)
      simp only [standsPlain, isPlain, Bool.false_eq_true, if_false, Bool.and_eq_true,
        bne_iff_ne] at plain
      obtain ⟨⟨⟨notQuote, notEscape⟩, notReturn⟩, notLine⟩ := plain
      rw [List.cons_append, stringTail_plain ⟨notQuote, notEscape, notLine, notReturn⟩,
        List.append_cons acc _ ps]
      exact ih (Nat.le_of_succ_le enough)
  | @escape escape text n ps isLong takes _ ih =>
      obtain ⟨fuel, rfl⟩ : ∃ k, fuel = k + 1 :=
        Nat.exists_eq_add_of_le' (Nat.le_trans (by simp) enough)
      rw [isPlain] at takes
      obtain ⟨offset', step⟩ := stringTail_escape isQuote (takes rest)
      rw [List.append_assoc, step, List.append_cons acc _ ps]
      refine ih ?_
      simp only [List.length_append, List.length_cons] at enough
      omega

/-! Templates -/

section

variable {whole head : Kind} {raw : List Char}

theorem templateTail_plain (plain : c ≠ '\x60' ∧ c ≠ '\\' ∧ c ≠ '$' ∧ c ≠ '\r') :
    (templateTail whole head start (fuel + 1) raw (some acc)).run
        ⟨c :: rest, offset, faults, trivia, script⟩ =
      (templateTail whole head start (fuel + 1) (raw ++ [c]) (some (acc ++ [c.toNat]))).run
        ⟨rest, offset + c.utf8Size, faults, trivia, script⟩ := by
  rw [templateTail, templateTail]
  refine run_takeWhile_bind (by simpa [and_assoc] using plain) fun more => ?_
  simp only [Option.map_some, List.map_cons, List.append_assoc, List.singleton_append]

theorem templateTail_dollar (next : rest.head? ≠ some '\x7b') :
    (templateTail whole head start (fuel + 1) raw (some acc)).run
        ⟨'$' :: rest, offset, faults, trivia, script⟩ =
      (templateTail whole head start fuel (raw ++ ['$']) (some (acc ++ ['$'.toNat]))).run
        ⟨rest, offset + '$'.utf8Size, faults, trivia, script⟩ := by
  have step : (templateTail whole head start (fuel + 1) raw (some acc)).run
        ⟨'$' :: rest, offset, faults, trivia, script⟩ =
      (if rest.head? == some '\x7b' then
          (do skip; return ⟨head, raw ++ [], some (acc ++ [])⟩)
        else
          templateTail whole head start fuel (raw ++ [] ++ ['$'])
            (some (acc ++ [] ++ ['$'.toNat])) : Scan TemplateText).run
        ⟨rest, offset + '$'.utf8Size, faults, trivia, script⟩ := rfl
  rw [step, if_neg (by simpa using next), List.append_nil, List.append_nil]

theorem templateTail_close :
    (templateTail whole head start (fuel + 1) raw (some acc)).run
        ⟨'\x60' :: rest, offset, faults, trivia, script⟩ =
      (⟨whole, raw ++ [], some (acc ++ [])⟩,
        ⟨rest, offset + '\x60'.utf8Size, faults, trivia, script⟩) :=
  rfl

theorem templateTail_escape {n : Nat} (takes : Takes (escapeSequence true) text (some [n]) rest) :
    ∃ raw' offset', (templateTail whole head start (fuel + 1) raw (some acc)).run
        ⟨'\\' :: text ++ rest, offset, faults, trivia, script⟩ =
      (templateTail whole head start fuel raw' (some (acc ++ [n]))).run
        ⟨rest, offset', faults, trivia, script⟩ := by
  obtain ⟨offset', read⟩ := takes ⟨text ++ rest, offset + '\\'.utf8Size, faults, trivia, script⟩ rfl
  have nothing : (takeWhile fun c => c != '\x60' && c != '\\' && c != '$' && c != '\r').run
      ⟨'\\' :: text ++ rest, offset, faults, trivia, script⟩ =
        ([], ⟨'\\' :: text ++ rest, offset, faults, trivia, script⟩) := rfl
  rw [templateTail]
  refine ⟨raw ++ '\\' :: (text ++ rest).take ((text ++ rest).length - rest.length), offset', ?_⟩
  refine (run_bind nothing).trans ?_
  simp only [List.map_nil, List.append_nil, Option.map_some]
  refine (run_bind (x := peek) rfl).trans ?_
  refine (run_bind (x := skip) rfl).trans ?_
  refine (run_bind (x := get) rfl).trans ?_
  exact run_bind read

end

theorem Spells.templateTail {whole head : Kind} {raw : List Char} (spells : Spells '\x60' text ps)
    (enough : text.length ≤ fuel) :
    ∃ raw' offset', (Scanner.templateTail whole head start fuel raw (some acc)).run
        ⟨text ++ rest, offset, faults, trivia, script⟩ =
      (⟨whole, raw', some (acc ++ ps)⟩, ⟨rest, offset', faults, trivia, script⟩) := by
  induction spells generalizing fuel raw acc offset with
  | close =>
      obtain ⟨fuel, rfl⟩ : ∃ k, fuel = k + 1 := Nat.exists_eq_add_of_le' enough
      exact ⟨_, _, templateTail_close⟩
  | @plain c text ps plain spelled ih =>
      obtain ⟨fuel, rfl⟩ : ∃ k, fuel = k + 1 :=
        Nat.exists_eq_add_of_le' (Nat.le_trans (Nat.le_add_left 1 _) enough)
      simp only [standsPlain, isTemplate, beq_self_eq_true, if_true, Bool.and_eq_true,
        Bool.or_eq_true, bne_iff_ne] at plain
      obtain ⟨⟨⟨notQuote, notEscape⟩, notReturn⟩, unsubstituted⟩ := plain
      rw [List.cons_append]
      by_cases dollar : c = '$'
      · subst dollar
        have next : (text ++ rest).head? ≠ some '\x7b' := by
          rw [List.head?_append_of_ne_nil _ spelled.ne_nil]
          exact unsubstituted.resolve_left (· rfl)
        rw [templateTail_dollar next, List.append_cons acc _ ps]
        exact ih (Nat.le_of_succ_le_succ enough)
      · rw [templateTail_plain ⟨notQuote, notEscape, dollar, notReturn⟩, List.append_cons acc _ ps]
        exact ih (Nat.le_of_succ_le enough)
  | @escape escape text n ps isLong takes _ ih =>
      obtain ⟨fuel, rfl⟩ : ∃ k, fuel = k + 1 :=
        Nat.exists_eq_add_of_le' (Nat.le_trans (by simp) enough)
      obtain ⟨raw', offset', step⟩ := templateTail_escape (takes rest)
      rw [List.append_assoc, step, List.append_cons acc _ ps]
      refine ih ?_
      simp only [List.length_append, List.length_cons] at enough
      omega

end

end Scanner

/-! Strings as they are printed -/

namespace Layout.Quoted

open Scanner

variable {quote : Char}

theorem escaped_eq_some {n : Nat} {next : Option Nat} {text : List Char}
    (found : escaped n next = some text) (isWhole : isSurrogate n = false) :
    ∃ letters, text = '\\' :: letters ∧
      ((letters, n) ∈ escapes ∨
        letters = ['0'] ∧ n = 0 ∧ (next.any fun m => '0'.toNat ≤ m && m ≤ '9'.toNat) = false) := by
  unfold escaped at found
  split at found
  case h_1 =>
    obtain rfl := Option.some.inj found
    split
    · exact ⟨_, rfl, .inl (by decide)⟩
    · next numbered => exact ⟨_, rfl, .inr ⟨rfl, rfl, Bool.eq_false_iff.mpr numbered⟩⟩
  case h_12 =>
    rw [isSurrogate] at isWhole
    rw [isWhole] at found
    cases found
  all_goals
    obtain rfl := Option.some.inj found
    exact ⟨_, rfl, .inl (by decide)⟩

/-- How a character is printed, in front of the points `ps`. -/
inductive Writes (quote c : Char) (ps : Points) : List Char → Prop
  | escape (letters : List Char) (escape : (letters, c.toNat) ∈ escapes) :
      Writes quote c ps ('\\' :: letters ++ inner quote ps)
  | zero (isZero : c.toNat = 0)
      (unnumbered : (ps.head?.any fun m => '0'.toNat ≤ m && m ≤ '9'.toNat) = false) :
      Writes quote c ps ('\\' :: ['0'] ++ inner quote ps)
  | angle (isAngle : c = '<') (closing : isClosing ps) :
      Writes quote c ps (c :: '\\' :: inner quote ps)
  | plain (unescaped : c ≠ '\\' ∧ c ≠ '\r') (inLine : c = '\n' → quote = '\x60')
      (unquoted : c ≠ quote)
      (unopened : quote = '\x60' → c = '$' → ps.head? ≠ some '\x7b'.toNat) :
      Writes quote c ps (c :: inner quote ps)

theorem ne_of_escaped_eq_none {c : Char} {next : Option Nat}
    (unescaped : escaped c.toNat next = none) : c ≠ '\\' ∧ c ≠ '\r' := by
  constructor <;> rintro rfl <;> cases unescaped

theorem writes_inner (isQuote : IsQuote quote) (c : Char)
    (ps : Points) : Writes quote c ps (inner quote (c.toNat :: ps)) := by
  rw [inner]
  cases found : escaped c.toNat ps.head? with
  | some text =>
      obtain ⟨letters, rfl, escape | ⟨rfl, isZero, unnumbered⟩⟩ :=
        escaped_eq_some found (isSurrogate_toNat c)
      · exact .escape _ escape
      · exact .zero isZero unnumbered
  | none =>
      simp only [Char.ofNat_toNat]
      split_ifs with line closes opens angle
      · simp only [Bool.and_eq_true, beq_iff_eq] at line
        refine .escape ['n'] ?_
        rw [line.1]
        decide
      · rw [beq_iff_eq] at closes
        refine .escape [c] ?_
        rw [closes]
        rcases isQuote with rfl | rfl | rfl <;> decide
      · simp only [Bool.and_eq_true, beq_iff_eq] at opens
        refine .escape [c] ?_
        rw [opens.1.2]
        decide
      · simp only [Bool.and_eq_true, beq_iff_eq] at angle
        rw [← angle.1]
        exact .angle angle.1 angle.2
      · refine .plain (ne_of_escaped_eq_none found) ?_ ?_ ?_
        · simpa using line
        · simpa using closes
        · simpa using opens

theorem head?_of_head?_inner (isQuote : IsQuote quote)
    {cs : List Char} {d : Char}
    (starts : (inner quote (cs.map Char.toNat) ++ [quote]).head? = some d) (unquoted : d ≠ quote)
    (unescaped : d ≠ '\\') : cs.head? = some d := by
  cases cs with
  | nil => exact absurd (Option.some.inj starts).symm unquoted
  | cons c cs =>
      have writes := writes_inner isQuote c (cs.map Char.toNat)
      rw [List.map_cons] at starts
      generalize inner quote (c.toNat :: cs.map Char.toNat) = text at writes starts
      cases writes with
      | escape | zero => exact absurd (Option.some.inj starts).symm unescaped
      | angle | plain => exact starts

theorem inner_slash (isQuote : IsQuote quote) (ps : Points) :
    inner quote ('/'.toNat :: ps) = '/' :: inner quote ps := by
  rcases isQuote with rfl | rfl | rfl <;> rfl

/-- A digit stands first in what is printed only where it stands first in the string. -/
theorem isDigit_head?_inner (isQuote : IsQuote quote)
    {cs : List Char} (unnumbered :
      ((cs.map Char.toNat).head?.any fun m => '0'.toNat ≤ m && m ≤ '9'.toNat) = false) :
    isDigit (inner quote (cs.map Char.toNat) ++ [quote]).head? = false := by
  rw [isDigit, Option.any_eq_false]
  intro d starts
  by_contra digit
  rw [Bool.not_eq_false] at digit
  have unquoted : d ≠ quote := by
    rcases isQuote with rfl | rfl | rfl <;> rintro rfl <;> cases digit
  have unescaped : d ≠ '\\' := by
    rintro rfl
    cases digit
  rw [List.head?_map, head?_of_head?_inner isQuote starts unquoted unescaped] at unnumbered
  rw [Char.isDigit, Bool.and_eq_true, decide_eq_true_iff, decide_eq_true_iff] at digit
  have isNumber : '0'.toNat ≤ d.toNat ∧ d.toNat ≤ '9'.toNat := digit
  exact Bool.false_ne_true (unnumbered.symm.trans (by simpa using isNumber))

theorem standsPlain_inner (isQuote : IsQuote quote) {c : Char}
    {cs : List Char} (unescaped : c ≠ '\\' ∧ c ≠ '\r') (inLine : c = '\n' → quote = '\x60')
    (unquoted : c ≠ quote)
    (unopened : quote = '\x60' → c = '$' → (cs.map Char.toNat).head? ≠ some '\x7b'.toNat) :
    standsPlain quote c (inner quote (cs.map Char.toNat) ++ [quote]).head? = true := by
  have isTemplate_iff : isTemplate quote = true ↔ quote = '\x60' := beq_iff_eq
  simp only [standsPlain, isTemplate_iff, Bool.and_eq_true, bne_iff_ne]
  refine ⟨⟨⟨unquoted, unescaped.1⟩, unescaped.2⟩, ?_⟩
  by_cases template : quote = '\x60'
  · rw [if_pos template, Bool.or_eq_true, bne_iff_ne, bne_iff_ne]
    refine or_iff_not_imp_left.mpr fun dollar starts => ?_
    refine unopened template (not_not.mp dollar) ?_
    rw [List.head?_map, head?_of_head?_inner isQuote starts (by rw [template]; decide) (by decide)]
    rfl
  · rw [if_neg template, bne_iff_ne]
    exact fun line => template (inLine line)

theorem spells_escape (letters : List Char) {text : List Char} {n : Nat} {ps : Points}
    (escape : (letters, n) ∈ escapes) (spells : Spells quote text ps) :
    Spells quote ('\\' :: letters ++ text) (n :: ps) := by
  have isLong : ∀ e ∈ escapes, e.1 ≠ [] := by decide
  exact .escape (isLong _ escape) (fun rest => takes_escapeSequence escape _ _) spells

theorem spells_zero {text : List Char} {ps : Points} (unnumbered : isDigit text.head? = false)
    (spells : Spells quote text ps) : Spells quote ('\\' :: ['0'] ++ text) (0 :: ps) := by
  refine .escape (List.cons_ne_nil _ _) (fun rest => takes_escapeSequence_zero ?_ _) spells
  rwa [List.head?_append_of_ne_nil _ spells.ne_nil]

/-- In each quote, what is printed of a string spells it. What is printed of one that would close a
script spells it behind a backslash, too. -/
theorem spells_inner (isQuote : IsQuote quote) (cs : List Char) :
    Spells quote (inner quote (cs.map Char.toNat) ++ [quote]) (cs.map Char.toNat) ∧
      (isClosing (cs.map Char.toNat) = true →
        Spells quote ('\\' :: (inner quote (cs.map Char.toNat) ++ [quote]))
          (cs.map Char.toNat)) := by
  induction cs with
  | nil => exact ⟨.close, fun closing => by cases closing⟩
  | cons c cs ih =>
      obtain ⟨ih, ihClosing⟩ := ih
      refine ⟨?_, fun closing => ?_⟩
      · have writes := writes_inner isQuote c (cs.map Char.toNat)
        rw [List.map_cons]
        generalize inner quote (c.toNat :: cs.map Char.toNat) = text at writes
        cases writes with
        | escape letters escape =>
            rw [List.append_assoc]
            exact spells_escape letters escape ih
        | zero isZero unnumbered =>
            rw [List.append_assoc, isZero]
            exact spells_zero (isDigit_head?_inner isQuote unnumbered) ih
        | angle isAngle closing =>
            refine .plain ?_ (ihClosing closing)
            rcases isQuote with rfl | rfl | rfl <;> rw [isAngle] <;> rfl
        | plain unescaped inLine unquoted unopened =>
            exact .plain (standsPlain_inner isQuote unescaped inLine unquoted unopened) ih
      · have isSlash : c.toNat = '/'.toNat := by
          rw [List.map_cons, isClosing, Bool.and_eq_true, beq_iff_eq] at closing
          exact closing.1
        rw [List.map_cons, isSlash, inner_slash isQuote]
        exact spells_escape ['/'] (by decide) ih

end Layout.Quoted

/-! Literals as tokens -/

namespace Scanner

variable {quote : Char}

/-- Wherever the text is next, it is one token, a string or a template without substitutions, and
its value is `ps`. -/
def ReadsAs (text : List Char) (ps : Points) : Prop :=
  ∀ (s : Scanner) (rest : List Char), s.rest = text ++ rest →
    ∃ t s', next.run s = (t, s') ∧ (t.kind = .string ∨ t.kind = .templateWhole) ∧
      t.points = some ps ∧ s'.rest = rest ∧ s'.faults = s.faults

theorem run_gap_quote (isQuote : IsQuote quote) {s : Scanner}
    {rest : List Char} (starts : s.rest = quote :: rest) (fuel : Nat) :
    (gap (fuel + 1) noGap).run s = (noGap, s) := by
  have notSpace : Blank.isSpace quote = false := by rcases isQuote with rfl | rfl | rfl <;> rfl
  have notLineEnd : Blank.isLineEnd quote = false := by rcases isQuote with rfl | rfl | rfl <;> rfl
  rcases isQuote with rfl | rfl | rfl <;>
    simp [gap, starts, startsWith, position, notSpace, notLineEnd] <;> rfl

/-! A quote opens the rest of a literal, which is read as one lexeme -/

section

variable {text : List Char} {ps : Points}

theorem run_lexeme_string (rest : List Char) (isQuote : quote = '"' ∨ quote = '\'')
    (spells : Spells quote text ps) (start offset : Nat) (faults : Array Diagnostic)
    (trivia : Trivia) (script : Bool) :
    ∃ l offset', (lexeme start).run ⟨quote :: (text ++ rest), offset, faults, trivia, script⟩ =
        (l, ⟨rest, offset', faults, trivia, script⟩) ∧ l.kind = .string ∧ l.points = some ps := by
  have read : ∃ escaped offset', (stringTail quote start ((text ++ rest).length + 1) [] false).run
      ⟨text ++ rest, offset + quote.utf8Size, faults, trivia, script⟩ =
        ((.string, [] ++ ps, escaped), ⟨rest, offset', faults, trivia, script⟩) :=
    spells.stringTail isQuote (by rw [List.length_append]; omega)
  obtain ⟨escaped, offset', read⟩ := read
  have opened : (lexeme start).run ⟨quote :: (text ++ rest), offset, faults, trivia, script⟩ =
      (stringTail quote start ((text ++ rest).length + 1) [] false >>= fun x => do
        let raw ← spelling (text ++ rest)
        return (⟨x.1, String.ofList (raw.toList.dropLast), some x.2.1, x.2.2⟩ : Lexeme)).run
        ⟨text ++ rest, offset + quote.utf8Size, faults, trivia, script⟩ := by
    rcases isQuote with rfl | rfl <;> rfl
  rw [opened, StateT.run_bind, read]
  exact ⟨_, _, rfl, rfl, rfl⟩

theorem run_lexeme_template (rest : List Char) (spells : Spells '\x60' text ps)
    (start offset : Nat) (faults : Array Diagnostic) (trivia : Trivia) (script : Bool) :
    ∃ l offset', (lexeme start).run ⟨'\x60' :: (text ++ rest), offset, faults, trivia, script⟩ =
        (l, ⟨rest, offset', faults, trivia, script⟩) ∧
      l.kind = .templateWhole ∧ l.points = some ps := by
  have read : ∃ raw offset', (templateTail .templateWhole .templateHead start
      ((text ++ rest).length + 1) [] (some [])).run
        ⟨text ++ rest, offset + '\x60'.utf8Size, faults, trivia, script⟩ =
      (⟨.templateWhole, raw, some ([] ++ ps)⟩, ⟨rest, offset', faults, trivia, script⟩) :=
    spells.templateTail (by rw [List.length_append]; omega)
  obtain ⟨raw, offset', read⟩ := read
  have opened :
      (lexeme start).run ⟨'\x60' :: (text ++ rest), offset, faults, trivia, script⟩ =
      (templateTail .templateWhole .templateHead start ((text ++ rest).length + 1) [] (some []) >>=
        fun t => return (⟨t.kind, String.ofList t.raw, t.points, false⟩ : Lexeme)).run
        ⟨text ++ rest, offset + '\x60'.utf8Size, faults, trivia, script⟩ := rfl
  rw [opened, StateT.run_bind, read]
  exact ⟨_, _, rfl, rfl, rfl⟩

end

theorem run_next {s s' : Scanner} {rest : List Char} {g : Gap} (found : s.rest = rest)
    (gapless : (gap (rest.length + 1) noGap).run s = (g, s')) :
    next.run s = (lexeme s'.offset >>= finish s'.offset g).run s' := by
  subst found
  have gapped : (remaining >>= fun fuel => gap fuel noGap).run s = (g, s') := gapless
  rw [next, ← bind_assoc, StateT.run_bind, gapped]
  rfl

theorem Spells.readsAs (isQuote : IsQuote quote) {text : List Char}
    {ps : Points} (spells : Spells quote text ps) : ReadsAs (quote :: text) ps := by
  intro s rest found
  rw [List.cons_append] at found
  rw [run_next found (run_gap_quote isQuote found _), StateT.run_bind]
  obtain ⟨_, offset, faults, trivia, script⟩ := s
  obtain rfl : _ = _ := found
  have read : ∃ l offset',
      (lexeme offset).run ⟨quote :: (text ++ rest), offset, faults, trivia, script⟩ =
        (l, ⟨rest, offset', faults, trivia, script⟩) ∧
      (l.kind = .string ∨ l.kind = .templateWhole) ∧ l.points = some ps := by
    rcases or_assoc.mpr isQuote with plain | rfl
    · obtain ⟨l, offset', read, isString, value⟩ :=
        run_lexeme_string rest plain spells offset offset faults trivia script
      exact ⟨l, offset', read, .inl isString, value⟩
    · obtain ⟨l, offset', read, isTemplate, value⟩ :=
        run_lexeme_template rest spells offset offset faults trivia script
      exact ⟨l, offset', read, .inr isTemplate, value⟩
  obtain ⟨l, offset', read, kind, value⟩ := read
  rw [read]
  exact ⟨_, _, rfl, kind, value, rfl, rfl⟩

/-- A string printed as a literal in any quote is read back. -/
theorem readsAs_literal (isQuote : IsQuote quote) (s : String) :
    ReadsAs (Layout.Quoted.literal quote (.ofString s)) (.ofString s) :=
  (Layout.Quoted.spells_inner isQuote s.toList).1.readsAs isQuote

end Scanner

end RouteWrap
