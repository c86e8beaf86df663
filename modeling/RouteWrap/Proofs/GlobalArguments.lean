import Mathlib.Data.List.Pairwise
import Mathlib.Data.List.Perm.Basic
import RouteWrap.Proofs.Arguments

/-!
Arguments that may stand in front of the command or behind it. A line is accepted where each of its
two levels is, for itself: the level of the program does not see what is said behind the command.
So two arguments exclude each other where they stand in one level, and do not where the command is
between them.
-/

namespace RouteWrap

namespace Argument

/-- One option given twice, or the two that exclude each other. -/
def Clashes (a b : Argument) : Prop :=
  a.Repeats b ∨ a = .switch .verbose ∧ b = .switch .quiet ∨
    a = .switch .quiet ∧ b = .switch .verbose

/-- An argument that every level takes. -/
def Global (a : Argument) : Prop := ∃ o ∈ Level.shared, a.option? = some o.2.2

variable {a b g : Argument} {as bs : List Argument} {level : Level}

theorem Clashes.symm (clashes : a.Clashes b) : b.Clashes a := by
  obtain ⟨o, left, right⟩ | ⟨rfl, rfl⟩ | ⟨rfl, rfl⟩ := clashes
  · exact .inl ⟨o, right, left⟩
  · exact .inr (.inr ⟨rfl, rfl⟩)
  · exact .inr (.inl ⟨rfl, rfl⟩)

instance : Std.Symm fun a b : Argument => ¬ a.Clashes b :=
  ⟨fun _ _ apart clashes => apart clashes.symm⟩

theorem Global.cases (global : g.Global) :
    g = .switch .verbose ∨ g = .switch .quiet ∨ g = .switch .noColor ∨
      ∃ value, g = .slot .config value := by
  obtain ⟨o, listed, same⟩ := global
  simp only [Level.shared, List.mem_cons, List.not_mem_nil, or_false] at listed
  cases g <;> rcases listed with rfl | rfl | rfl | rfl | rfl <;> cases same
  · exact .inl rfl
  · exact .inr (.inl rfl)
  · exact .inr (.inr (.inl rfl))
  · exact .inr (.inr (.inr ⟨_, rfl⟩))

theorem Global.file? (global : g.Global) : g.file? = none := by
  obtain rfl | rfl | rfl | ⟨_, rfl⟩ := global.cases <;> rfl

end Argument

namespace Level

open Argument Given

/-- Nothing clashes, every value fits and there is room for the files. -/
structure Accepts (level : Level) (as : List Argument) : Prop where
  peace : as.Pairwise fun a b => ¬ a.Clashes b
  fits : ∀ a ∈ as, a.Fits
  room : Room level as

variable {level : Level} {g : Argument} {as bs : List Argument}

theorem accepts_iff : level.Accepts as ↔ Sound as ∧ Room level as ∧
    ¬ (.switch .verbose ∈ as ∧ .switch .quiet ∈ as) := by
  constructor
  · rintro ⟨peace, fits, room⟩
    refine ⟨⟨peace.imp fun apart repeats => apart (.inl repeats), fits⟩, room, fun both => ?_⟩
    exact peace.forall both.1 both.2 nofun (.inr (.inl ⟨rfl, rfl⟩))
  · rintro ⟨sound, room, apart⟩
    refine ⟨sound.once.imp_of_mem fun {a b} left right fresh clashes => ?_, sound.fits, room⟩
    obtain repeats | ⟨rfl, rfl⟩ | ⟨rfl, rfl⟩ := clashes
    · exact fresh repeats
    · exact apart ⟨left, right⟩
    · exact apart ⟨right, left⟩

/-- One more argument is accepted where it fits and clashes with none of the others. -/
theorem accepts_insert (option : g.file? = none) : level.Accepts (as ++ g :: bs) ↔
    level.Accepts (as ++ bs) ∧ g.Fits ∧ ∀ a ∈ as ++ bs, ¬ a.Clashes g := by
  have shuffled : (as ++ g :: bs).Perm (g :: (as ++ bs)) := List.perm_middle
  have peace : (as ++ g :: bs).Pairwise (fun a b => ¬ a.Clashes b) ↔
      (∀ a ∈ as ++ bs, ¬ g.Clashes a) ∧ (as ++ bs).Pairwise fun a b => ¬ a.Clashes b :=
    (shuffled.pairwise_iff fun apart clashes => apart clashes.symm).trans List.pairwise_cons
  have room : Room level (as ++ g :: bs) ↔ Room level (as ++ bs) := by
    rw [Room, Room, List.filterMap_append, List.filterMap_cons_none option, List.filterMap_append]
  have fits : (∀ a ∈ as ++ g :: bs, a.Fits) ↔ g.Fits ∧ ∀ a ∈ as ++ bs, a.Fits := by
    simp only [shuffled.mem_iff, List.forall_mem_cons]
  constructor
  · rintro ⟨peace', fits', room'⟩
    obtain ⟨fresh, rest⟩ := peace.mp peace'
    obtain ⟨fit, others⟩ := fits.mp fits'
    exact ⟨⟨rest, others, room.mp room'⟩, fit, fun a listed clashes => fresh a listed clashes.symm⟩
  · rintro ⟨⟨rest, others, room'⟩, fit, fresh⟩
    exact ⟨peace.mpr ⟨fun a listed clashes => fresh a listed clashes.symm, rest⟩,
      fits.mpr ⟨fit, others⟩, room.mpr room'⟩

theorem checkConflict_holding : (holding as none).checkConflict = .ok () ↔
    ¬ (.switch .verbose ∈ as ∧ .switch .quiet ∈ as) := by
  have given (s : Switch) : (holding as none).has s ↔ .switch s ∈ as := has_holding
  rw [checkConflict, ← given, ← given, ← Bool.and_eq_true]
  split
  · exact iff_of_false nofun (not_not_intro ‹_›)
  · exact iff_of_true rfl ‹_›

end Level

namespace CommandLine

open Argument Given Level

/-- What a line says, in front of its command and behind it. -/
structure Said where
  outer : List Argument
  level : Level
  inner : List Argument

def said? (words : List String) : Option Said := do
  let (outer, some (level, rest)) ← Level.program.spoken none words | none
  let (inner, none) ← level.spoken none rest | none
  return ⟨outer, level, inner⟩

/-- The command that the arguments of its level make. -/
def commandOf (level : Level) (inner : Given) : Command :=
  match level with
  | .instrument => .instrument (inner.instrument (inner.files.headD ""))
  | _ => .inspect inner.inspect

namespace Said

structure Accepted (said : Said) : Prop where
  outer : Level.program.Accepts said.outer
  inner : said.level.Accepts said.inner
  file : ∃ name, .file name ∈ said.inner

/-- The line that is read. Of two values for one slot the one behind the command counts. -/
def line (said : Said) : CommandLine :=
  let outer := holding said.outer none
  let inner := holding said.inner none
  { verbose := outer.has .verbose || inner.has .verbose
    quiet := outer.has .quiet || inner.has .quiet
    noColor := outer.has .noColor || inner.has .noColor
    config := (inner.value? .config).orElse fun _ => outer.value? .config
    command := commandOf said.level inner }

end Said

theorem reading_empty {level : Level} {ws : List String} {q : Given}
    {stop : Option (Level × List String)} : level.reading false .empty ws = .ok (q, stop) ↔
      ∃ as, level.spoken none ws = some (as, stop) ∧ Sound as ∧ Room level as ∧
        q = holding as none := by
  have room : Room level ([] ++ Pending.held none) := nofun
  change level.reading false (holding [] none) ws = _ ↔ _
  refine (readsAsSaid sound_nil room).trans ?_
  constructor
  · rintro ⟨as, _, said, sound, room, ⟨⟩⟩
    exact ⟨as, said, sound, room, rfl⟩
  · rintro ⟨as, said, sound, room, rfl⟩
    exact ⟨as, stop, said, sound, room, rfl⟩

theorem finish_eq_ended_iff {reached : Reached} {q : Given} :
    finish reached = .ok (q, none) ↔ ∃ p, reached = .ended p ∧ p.settle = .ok q := by
  cases reached with
  | ended p =>
      refine bind_eq_ok_iff.trans ⟨?_, ?_⟩
      · rintro ⟨q, settled, ⟨⟩⟩
        exact ⟨p, rfl, settled⟩
      · rintro ⟨_, ⟨⟩, settled⟩
        exact ⟨q, settled, rfl⟩
  | command level p rest =>
      refine bind_eq_ok_iff.trans ⟨?_, ?_⟩
      · rintro ⟨q, settled, ⟨⟩⟩
      · rintro ⟨_, ⟨⟩, -⟩

theorem finish_eq_command_iff {reached : Reached} {q : Given} {level : Level} {rest : List String} :
    finish reached = .ok (q, some (level, rest)) ↔
      ∃ p, reached = .command level p rest ∧ p.settle = .ok q := by
  cases reached with
  | ended p =>
      refine bind_eq_ok_iff.trans ⟨?_, ?_⟩
      · rintro ⟨q, settled, ⟨⟩⟩
      · rintro ⟨_, ⟨⟩, -⟩
  | command level p rest =>
      refine bind_eq_ok_iff.trans ⟨?_, ?_⟩
      · rintro ⟨q, settled, ⟨⟩⟩
        exact ⟨p, rfl, settled⟩
      · rintro ⟨_, ⟨⟩, settled⟩
        exact ⟨q, settled, rfl⟩

theorem files_holding_ne_nil_iff {as : List Argument} {pending : Option Pending} :
    (holding as pending).files ≠ [] ↔ ∃ name, .file name ∈ as := by
  constructor
  · intro given
    obtain ⟨name, found⟩ := List.exists_mem_of_ne_nil _ given
    obtain ⟨_ | _ | _, listed, ⟨⟩⟩ := List.mem_filterMap.mp found
    exact ⟨name, listed⟩
  · exact fun ⟨name, listed⟩ => List.ne_nil_of_mem (List.mem_filterMap.mpr ⟨_, listed, rfl⟩)

theorem readCommand_eq_ok_iff {level : Level} {ws : List String} {r : Given × Command} :
    readCommand level ws = .ok r ↔ ∃ as, level.spoken none ws = some (as, none) ∧
      level.Accepts as ∧ (∃ name, .file name ∈ as) ∧
      r = (holding as none, commandOf level (holding as none)) := by
  have body : readCommand level ws = .ok r ↔ ∃ q, level.reading false .empty ws = .ok (q, none) ∧
      q.checkConflict = .ok () ∧ q.files ≠ [] ∧ r = (q, commandOf level q) := by
    simp only [reading, bind_eq_ok_iff, finish_eq_ended_iff, readCommand]
    constructor
    · rintro ⟨_ | p, read, next⟩
      · obtain ⟨q, settled, next⟩ := bind_eq_ok_iff.mp next
        obtain ⟨⟨⟩, free, next⟩ := bind_eq_ok_iff.mp next
        refine ⟨q, ⟨_, read, _, rfl, settled⟩, free, ?_⟩
        split at next
        · cases next
        · rename_i file files listed
          refine ⟨listed ▸ List.cons_ne_nil file files, ?_⟩
          cases level <;> simp only [commandOf, listed] <;> exact (Except.ok.inj next).symm
      · cases next
    · rintro ⟨q, ⟨_, read, p, rfl, settled⟩, free, given, rfl⟩
      refine ⟨_, read, bind_eq_ok_iff.mpr ⟨q, settled, bind_eq_ok_iff.mpr ⟨(), free, ?_⟩⟩⟩
      obtain ⟨file, files, listed⟩ := List.exists_cons_of_ne_nil given
      simp only [commandOf, listed]
      cases level <;> rfl
  rw [body]
  simp only [reading_empty, accepts_iff]
  constructor
  · rintro ⟨_, ⟨as, said, sound, room, rfl⟩, free, file, rfl⟩
    exact ⟨as, said, ⟨sound, room, checkConflict_holding.mp free⟩,
      files_holding_ne_nil_iff.mp file, rfl⟩
  · rintro ⟨as, said, ⟨sound, room, apart⟩, file, rfl⟩
    exact ⟨_, ⟨as, said, sound, room, rfl⟩, checkConflict_holding.mpr apart,
      files_holding_ne_nil_iff.mpr file, rfl⟩

theorem said?_eq_some_iff {words : List String} {said : Said} : said? words = some said ↔
    ∃ rest, Level.program.spoken none words = some (said.outer, some (said.level, rest)) ∧
      said.level.spoken none rest = some (said.inner, none) := by
  simp only [said?, Option.bind_eq_bind, Option.bind_eq_some_iff]
  constructor
  · rintro ⟨⟨outer, _ | ⟨level, rest⟩⟩, front, behind⟩
    · cases behind
    · obtain ⟨⟨inner, _ | stop⟩, behind', last⟩ := Option.bind_eq_some_iff.mp behind
      · cases last
        exact ⟨rest, front, behind'⟩
      · cases last
  · rintro ⟨rest, front, behind⟩
    exact ⟨_, front, Option.bind_eq_some_iff.mpr ⟨_, behind, rfl⟩⟩

/-- A line is accepted where both levels of what it says are. -/
theorem parse_eq_ok_iff {words : List String} {l : CommandLine} :
    parse words = .ok l ↔ ∃ said, said? words = some said ∧ said.Accepted ∧ l = said.line := by
  have body : parse words = .ok l ↔ ∃ outer level rest inner command,
      Level.program.reading false .empty words = .ok (outer, some (level, rest)) ∧
        readCommand level rest = .ok (inner, command) ∧ outer.checkConflict = .ok () ∧
        l = { verbose := outer.has .verbose || inner.has .verbose
              quiet := outer.has .quiet || inner.has .quiet
              noColor := outer.has .noColor || inner.has .noColor
              config := (inner.value? .config).orElse fun _ => outer.value? .config
              command } := by
    simp only [reading, bind_eq_ok_iff, finish_eq_command_iff, parse]
    constructor
    · rintro ⟨_ | ⟨level, p, rest⟩, read, next⟩
      · obtain ⟨q, -, next⟩ := bind_eq_ok_iff.mp next
        split at next <;> cases next
      · obtain ⟨⟨inner, command⟩, readInner, next⟩ := bind_eq_ok_iff.mp next
        obtain ⟨q, settled, next⟩ := bind_eq_ok_iff.mp next
        obtain ⟨⟨⟩, free, next⟩ := bind_eq_ok_iff.mp next
        exact ⟨q, level, rest, inner, command, ⟨_, read, p, rfl, settled⟩, readInner, free,
          (Except.ok.inj next).symm⟩
    · rintro ⟨q, level, rest, inner, command, ⟨_, read, p, rfl, settled⟩, readInner, free, rfl⟩
      exact ⟨_, read, bind_eq_ok_iff.mpr ⟨_, readInner, bind_eq_ok_iff.mpr ⟨q, settled,
        bind_eq_ok_iff.mpr ⟨(), free, rfl⟩⟩⟩⟩
  rw [body]
  simp only [reading_empty, readCommand_eq_ok_iff, said?_eq_some_iff]
  constructor
  · rintro ⟨_, level, rest, _, _, ⟨outer, front, sound, room, rfl⟩,
      ⟨inner, behind, accepts, file, ⟨⟩⟩, free, rfl⟩
    have accepts' : Level.program.Accepts outer :=
      accepts_iff.mpr ⟨sound, room, checkConflict_holding.mp free⟩
    exact ⟨⟨outer, level, inner⟩, ⟨rest, front, behind⟩, ⟨accepts', accepts, file⟩, rfl⟩
  · rintro ⟨⟨outer, level, inner⟩, ⟨rest, front, behind⟩, ⟨accepts, accepts', file⟩, rfl⟩
    obtain ⟨sound, room, apart⟩ := accepts_iff.mp accepts
    exact ⟨_, level, rest, _, _, ⟨outer, front, sound, room, rfl⟩,
      ⟨inner, behind, accepts', file, rfl⟩, checkConflict_holding.mpr apart, rfl⟩

/-- Each of the two is given, with the command between them. -/
def Said.Splits (said : Said) : Prop :=
  .switch .verbose ∈ said.outer ∧ .switch .quiet ∈ said.inner ∨
    .switch .quiet ∈ said.outer ∧ .switch .verbose ∈ said.inner

theorem verbose_and_quiet_iff {said : Said} (accepted : said.Accepted) :
    said.line.verbose ∧ said.line.quiet ↔ said.Splits := by
  obtain ⟨-, -, apart⟩ := accepts_iff.mp accepted.outer
  obtain ⟨-, -, apart'⟩ := accepts_iff.mp accepted.inner
  simp only [Said.line, Bool.or_eq_true, has_holding]
  constructor
  · rintro ⟨verbose | verbose, quiet | quiet⟩
    · exact absurd ⟨verbose, quiet⟩ apart
    · exact .inl ⟨verbose, quiet⟩
    · exact .inr ⟨quiet, verbose⟩
    · exact absurd ⟨verbose, quiet⟩ apart'
  · rintro (⟨verbose, quiet⟩ | ⟨quiet, verbose⟩)
    · exact ⟨.inl verbose, .inr quiet⟩
    · exact ⟨.inr verbose, .inl quiet⟩

end CommandLine

/-! Words that give their arguments wherever they stand -/

namespace Level

/-- The words give the arguments, whatever is said behind them. -/
def Gives (level : Level) (ws : List String) (as : List Argument) : Prop :=
  ∀ rest, level.spoken none (ws ++ rest) =
    (level.spoken none rest).map fun r => (as ++ r.1, r.2)

variable {level command : Level} {ws vs : List String} {as bs : List Argument} {w value : String}

theorem Gives.append (left : level.Gives ws as) (right : level.Gives vs bs) :
    level.Gives (ws ++ vs) (as ++ bs) := by
  intro rest
  rw [List.append_assoc, left, right, Option.map_map]
  simp only [Function.comp_def, List.append_assoc]

theorem isOption_of_ofOption {said : List Argument × Option Slot}
    (found : level.ofOption (Word.ofText w) = some said) : IsOption w := by
  constructor
  · intro stop
    rw [stop] at found
    cases found
  · intro text plain
    rw [plain] at found
    cases found

theorem IsOption.ofCommand? (option : IsOption w) : ofCommand? w = none := by
  unfold Level.ofCommand?
  split
  · exact absurd (by decide) (option.2 "instrument")
  · exact absurd (by decide) (option.2 "inspect")
  · rfl

theorem spoken_option (option : IsOption w) : level.spoken none (w :: ws) =
    (level.ofOption (Word.ofText w)).bind fun a =>
      (level.spoken a.2 ws).map fun r => (a.1 ++ r.1, r.2) := by
  rw [spoken, option.ofCommand?, ite_self]
  dsimp only
  split
  · exact absurd ‹_› option.1
  · exact absurd ‹_› (option.2 _)
  · rfl

theorem gives_option (found : level.ofOption (Word.ofText w) = some (as, none)) :
    level.Gives [w] as := by
  intro rest
  rw [List.singleton_append, spoken_option (isOption_of_ofOption found), found, Option.bind_some]

theorem gives_file {text : String} (other : level = .program → ofCommand? w = none)
    (plain : Word.ofText w = .plain text) : level.Gives [w] [.file w] := by
  intro rest
  have stays : (if level == .program then ofCommand? w else none) = none := by
    split
    · exact other (beq_iff_eq.mp ‹_›)
    · rfl
  rw [List.singleton_append, spoken, stays, plain]
  rfl

end Level

namespace Given

open Argument

variable {g : Argument} {as bs : List Argument} {pending : Option Pending}

theorem has_insert {s : Switch} (other : g ≠ .switch s) :
    (holding (as ++ g :: bs) pending).has s = (holding (as ++ bs) pending).has s := by
  rw [Bool.eq_iff_iff, has_holding, has_holding, List.perm_middle.mem_iff, List.mem_cons,
    or_iff_right other.symm]

theorem value?_append {s : Slot} : (holding (as ++ bs) pending).value? s =
    ((holding as pending).value? s).or ((holding bs pending).value? s) := by
  simp only [value?, holding, List.filterMap_append, List.find?_append, Option.map_or]

theorem value?_cons_slot {s s' : Slot} {value : String} :
    (holding (.slot s' value :: as) pending).value? s =
      if s' == s then some value else (holding as pending).value? s := by
  simp only [value?, holding, List.filterMap_cons, slot?, List.find?_cons]
  cases s' == s <;> rfl

theorem value?_insert {s : Slot} (other : ∀ value, g ≠ .slot s value) :
    (holding (as ++ g :: bs) pending).value? s = (holding (as ++ bs) pending).value? s := by
  rw [value?_append, value?_append]
  cases g with
  | switch | file => rfl
  | slot s' value =>
      have apart : ¬ (s' == s) = true := fun same => other value (beq_iff_eq.mp same ▸ rfl)
      rw [value?_cons_slot, if_neg apart]

theorem value?_insert_self {s : Slot} {value : String}
    (fresh : (holding (as ++ bs) pending).value? s = none) :
    (holding (as ++ .slot s value :: bs) pending).value? s = some value := by
  rw [value?_append, Option.or_eq_none_iff] at fresh
  rw [value?_append, fresh.1, Option.none_or, value?_cons_slot, if_pos (beq_self_eq_true s)]

theorem files_insert (option : g.file? = none) :
    (holding (as ++ g :: bs) pending).files = (holding (as ++ bs) pending).files := by
  simp only [holding, List.filterMap_append, List.filterMap_cons_none option]

end Given

namespace CommandLine

open Argument Given Level

variable {level : Level} {before after : List String} {as bs : List Argument} {name : String}

theorem said?_of_gives (tail : List String) (named : ofCommand? name = some level)
    (front : Level.program.Gives before as) (behind : level.Gives after bs) :
    said? (before ++ name :: (after ++ tail)) = match level.spoken none tail with
      | some (cs, none) => some ⟨as, level, bs ++ cs⟩
      | _ => none := by
  have outer : Level.program.spoken none (before ++ name :: (after ++ tail)) =
      some (as, some (level, after ++ tail)) := by
    have stops : Level.program.spoken none (name :: (after ++ tail)) =
        some ([], some (level, after ++ tail)) := by
      have enters : (if program == program then ofCommand? name else none) = some level := named
      rw [spoken, enters]
    rw [front, stops, Option.map_some, List.append_nil]
  simp only [said?, outer, Option.bind_eq_bind, Option.bind_some, behind tail]
  rcases level.spoken none tail with _ | ⟨cs, _ | stop⟩ <;> rfl

/-- One argument is given in front of the command in one line, behind it in the other and not at all
in the third; whatever else is given is the same in all three. -/
inductive Moves (g : Argument) : List String → List String → List String → Prop
  | intro {level : Level} {name : String} {ahead before after behind tail : List String}
      {as bs cs ds : List Argument} (global : g.Global) (named : ofCommand? name = some level)
      (ahead_gives : Level.program.Gives ahead (as ++ g :: bs))
      (before_gives : Level.program.Gives before (as ++ bs))
      (after_gives : level.Gives after (cs ++ ds))
      (behind_gives : level.Gives behind (cs ++ g :: ds)) :
      Moves g (before ++ name :: (after ++ tail)) (ahead ++ name :: (after ++ tail))
        (before ++ name :: (behind ++ tail))

namespace Said

variable {g : Argument} {as bs cs ds : List Argument}

theorem commandOf_insert (global : g.Global) :
    commandOf level (holding (cs ++ g :: ds) none) = commandOf level (holding (cs ++ ds) none) := by
  have slots (s : Slot) (other : s ≠ .config) :
      (holding (cs ++ g :: ds) none).value? s = (holding (cs ++ ds) none).value? s := by
    refine value?_insert fun value same => ?_
    obtain rfl | rfl | rfl | ⟨_, rfl⟩ := global.cases <;> cases same
    exact other rfl
  have switches (s : Switch) (other : s ≠ .verbose ∧ s ≠ .quiet ∧ s ≠ .noColor) :
      (holding (cs ++ g :: ds) none).has s = (holding (cs ++ ds) none).has s := by
    refine has_insert fun same => ?_
    obtain rfl | rfl | rfl | ⟨_, rfl⟩ := global.cases <;> cases same
    · exact other.1 rfl
    · exact other.2.1 rfl
    · exact other.2.2 rfl
  have instrument (file : String) : (holding (cs ++ g :: ds) none).instrument file =
      (holding (cs ++ ds) none).instrument file := by
    simp only [Given.instrument, preset?, slots .routeId nofun, slots .preset nofun,
      slots .out nofun, switches .singleQuote ⟨nofun, nofun, nofun⟩,
      switches .minify ⟨nofun, nofun, nofun⟩]
  have inspect :
      (holding (cs ++ g :: ds) none).inspect = (holding (cs ++ ds) none).inspect := by
    simp only [Given.inspect, preset?, files_insert global.file?, slots .preset nofun,
      switches .json ⟨nofun, nofun, nofun⟩]
  cases level <;> simp only [commandOf, files_insert global.file?, instrument, inspect]

/-- Where the argument may stand on both sides of the command, the same line is read. -/
theorem line_move (global : g.Global) (front : ∀ a ∈ as ++ bs, ¬ a.Clashes g)
    (behind : ∀ a ∈ cs ++ ds, ¬ a.Clashes g) :
    line ⟨as ++ g :: bs, level, cs ++ ds⟩ = line ⟨as ++ bs, level, cs ++ g :: ds⟩ := by
  have switches (s : Switch) :
      ((holding (as ++ g :: bs) none).has s || (holding (cs ++ ds) none).has s) =
        ((holding (as ++ bs) none).has s || (holding (cs ++ g :: ds) none).has s) := by
    rw [Bool.eq_iff_iff, Bool.or_eq_true, Bool.or_eq_true]
    simp only [has_holding, List.perm_middle.mem_iff, List.mem_cons]
    rw [or_assoc, or_left_comm]
  have config :
      ((holding (cs ++ ds) none).value? .config).orElse
          (fun _ => (holding (as ++ g :: bs) none).value? .config) =
        ((holding (cs ++ g :: ds) none).value? .config).orElse
          (fun _ => (holding (as ++ bs) none).value? .config) := by
    by_cases given : ∃ value, g = .slot .config value
    · obtain ⟨value, rfl⟩ := given
      have fresh {xs : List Argument} (apart : ∀ a ∈ xs, ¬ a.Clashes (.slot .config value)) :
          (holding xs none).value? .config = none :=
        not_repeats_slot_iff.mp fun a listed repeats => apart a listed (.inl repeats)
      rw [value?_insert_self (fresh front), value?_insert_self (fresh behind), fresh behind]
      rfl
    · have other : ∀ value, g ≠ .slot .config value := not_exists.mp given
      rw [value?_insert other, value?_insert other]
  simp only [line, switches, config, commandOf_insert global]

theorem accepted_front (global : g.Global) : Accepted ⟨as ++ g :: bs, level, cs⟩ ↔
    Accepted ⟨as ++ bs, level, cs⟩ ∧ g.Fits ∧ ∀ a ∈ as ++ bs, ¬ a.Clashes g := by
  constructor
  · rintro ⟨outer, inner, file⟩
    obtain ⟨outer', fresh⟩ := (accepts_insert global.file?).mp outer
    exact ⟨⟨outer', inner, file⟩, fresh⟩
  · rintro ⟨⟨outer, inner, file⟩, fresh⟩
    exact ⟨(accepts_insert global.file?).mpr ⟨outer, fresh⟩, inner, file⟩

theorem accepted_behind (global : g.Global) : Accepted ⟨as, level, cs ++ g :: ds⟩ ↔
    Accepted ⟨as, level, cs ++ ds⟩ ∧ g.Fits ∧ ∀ a ∈ cs ++ ds, ¬ a.Clashes g := by
  have given (xs : List Argument) : (∃ name, .file name ∈ xs) ↔ (holding xs none).files ≠ [] :=
    files_holding_ne_nil_iff.symm
  have files : (∃ name, .file name ∈ cs ++ g :: ds) ↔ ∃ name, .file name ∈ cs ++ ds := by
    rw [given, given, files_insert global.file?]
  constructor
  · rintro ⟨outer, inner, file⟩
    obtain ⟨inner', fresh⟩ := (accepts_insert global.file?).mp inner
    exact ⟨⟨outer, inner', files.mp file⟩, fresh⟩
  · rintro ⟨⟨outer, inner, file⟩, fresh⟩
    exact ⟨outer, (accepts_insert global.file?).mpr ⟨inner, fresh⟩, files.mpr file⟩

end Said

theorem toOption_parse_of_accepted {words : List String} {said : Said}
    (found : said? words = some said) (accepted : said.Accepted) :
    (parse words).toOption = some said.line := by
  rw [parse_eq_ok_iff.mpr ⟨said, found, accepted, rfl⟩]
  rfl

theorem toOption_parse_eq_none {words : List String}
    (refused : ∀ said, said? words = some said → ¬ said.Accepted) :
    (parse words).toOption = none := by
  cases parsed : parse words with
  | error => rfl
  | ok l =>
      obtain ⟨said, found, accepted, -⟩ := parse_eq_ok_iff.mp parsed
      exact absurd accepted (refused said found)

theorem toOption_parse_eq_iff {front back : List String} {said said' : Said}
    (found : said? front = some said) (found' : said? back = some said')
    (same : said.Accepted → said'.Accepted → said.line = said'.line) :
    (parse front).toOption = (parse back).toOption ↔ (said.Accepted ↔ said'.Accepted) := by
  have refused {words : List String} {said : Said} (found : said? words = some said)
      (refused : ¬ said.Accepted) : (parse words).toOption = none :=
    toOption_parse_eq_none fun _ found' => Option.some.inj (found.symm.trans found') ▸ refused
  by_cases accepted : said.Accepted <;> by_cases accepted' : said'.Accepted
  · rw [toOption_parse_of_accepted found accepted, toOption_parse_of_accepted found' accepted',
      same accepted accepted']
    exact iff_of_true rfl (iff_of_true accepted accepted')
  · rw [toOption_parse_of_accepted found accepted, refused found' accepted']
    exact iff_of_false nofun fun same => accepted' (same.mp accepted)
  · rw [refused found accepted, toOption_parse_of_accepted found' accepted']
    exact iff_of_false nofun fun same => accepted (same.mpr accepted')
  · rw [refused found accepted, refused found' accepted']
    exact iff_of_true rfl (iff_of_false accepted accepted')

/-- A line is read or refused as it was before one argument moved, where that clashes with something
on both sides of the command or on none. -/
theorem toOption_parse_move {g : Argument} {rest front back : List String}
    (moves : Moves g rest front back) : (parse front).toOption = (parse back).toOption ↔
      ∀ said, said? rest = some said → said.Accepted → g.Fits →
        ((∃ a ∈ said.outer, a.Clashes g) ↔ ∃ a ∈ said.inner, a.Clashes g) := by
  obtain ⟨global, named, ahead, before, after, behind⟩ := moves
  rename_i level name _ _ _ _ tail as bs cs ds
  have saidRest := said?_of_gives tail named before after
  have saidFront := said?_of_gives tail named ahead after
  have saidBack := said?_of_gives tail named before behind
  have apart {xs : List Argument} : (∀ a ∈ xs, ¬ a.Clashes g) ↔ ¬ ∃ a ∈ xs, a.Clashes g := by
    simp only [not_exists, not_and]
  rcases spokenTail : level.spoken none tail with _ | ⟨es, _ | stop⟩ <;>
    simp only [spokenTail, List.append_assoc, List.cons_append] at saidRest saidFront saidBack
  case some.none =>
    rw [toOption_parse_eq_iff saidFront saidBack fun accepted accepted' => Said.line_move global
        ((Said.accepted_front global).mp accepted).2.2
        ((Said.accepted_behind global).mp accepted').2.2,
      Said.accepted_front global, Said.accepted_behind global, apart, apart, and_congr_right_iff,
      and_congr_right_iff, not_iff_not, saidRest]
    simp only [Option.some.injEq, forall_eq']
  all_goals
    have refused {words : List String} (none : said? words = none) :
        (parse words).toOption = .none :=
      toOption_parse_eq_none fun _ found => nomatch none.symm.trans found
    rw [refused saidFront, refused saidBack]
    exact iff_of_true rfl fun _ found => nomatch saidRest.symm.trans found

/-- What excludes what is seen for each level alone. A line that is read is verbose and quiet where
the two stand on different sides of the command, and only there; and an argument besides those of
the line may be moved across the command where it clashes with something on both sides or on none,
and only there. -/
theorem clashes_by_level (words : List String) :
    (∀ l, parse words = .ok l →
      (l.verbose ∧ l.quiet ↔ ∃ said, said? words = some said ∧ said.Splits)) ∧
    ∀ g front back, Moves g words front back →
      ((parse front).toOption = (parse back).toOption ↔
        ∀ said, said? words = some said → said.Accepted → g.Fits →
          ((∃ a ∈ said.outer, a.Clashes g) ↔ ∃ a ∈ said.inner, a.Clashes g)) := by
  refine ⟨fun l parsed => ?_, fun g front back => toOption_parse_move⟩
  obtain ⟨said, found, accepted, rfl⟩ := parse_eq_ok_iff.mp parsed
  rw [verbose_and_quiet_iff accepted, found]
  simp only [Option.some.injEq, exists_eq_left']

/-- A line with its two exclusive switches on different sides of the command. -/
def quietlyVerbose : CommandLine :=
  { verbose := true, quiet := true, noColor := false, config := none
    command := .inspect { files := ["a"], preset := none, json := false } }

theorem parse_quietlyVerbose :
    parse ["-q", "inspect", "a", "-v"] = .ok quietlyVerbose := by decide +kernel

theorem moves_verbose : Moves (.switch .verbose) ["-q", "inspect", "a"] ["-q", "-v", "inspect", "a"]
    ["-q", "inspect", "a", "-v"] := by
  have quiet : Level.program.Gives ["-q"] ([.switch .quiet] ++ []) := gives_option (by decide)
  have verbose {level : Level} (known : level.short? 'v' = some (.switch .verbose)) :
      level.Gives ["-v"] [.switch .verbose] := by
    refine gives_option ?_
    rw [show Word.ofText "-v" = .short ['v'] by decide, ofOption, ofCluster, known]
    rfl
  have file : Level.inspect.Gives ["a"] ([.file "a"] ++ []) :=
    gives_file (by simp) (show _ = Word.plain "a" by decide)
  exact .intro ⟨_, .head _, rfl⟩ rfl (quiet.append (verbose rfl)) quiet file
    (file.append (verbose rfl))

theorem quietlyVerbose_splits :
    parse ["-q", "inspect", "a", "-v"] = .ok quietlyVerbose ∧
      (quietlyVerbose.verbose ∧ quietlyVerbose.quiet ↔
        ∃ said, said? ["-q", "inspect", "a", "-v"] = some said ∧ said.Splits) ∧
      ((parse ["-q", "-v", "inspect", "a"]).toOption =
          (parse ["-q", "inspect", "a", "-v"]).toOption ↔
        ∀ said, said? ["-q", "inspect", "a"] = some said → said.Accepted →
          (Argument.switch .verbose).Fits →
            ((∃ a ∈ said.outer, a.Clashes (.switch .verbose)) ↔
              ∃ a ∈ said.inner, a.Clashes (.switch .verbose))) :=
  ⟨parse_quietlyVerbose, (clashes_by_level _).1 _ parse_quietlyVerbose,
    (clashes_by_level _).2 _ _ _ moves_verbose⟩

/-- The line is read as quiet and verbose, and is refused with its last word in front. -/
theorem quietlyVerbose_accepted :
    parse ["-q", "inspect", "a", "-v"] = .ok quietlyVerbose ∧ quietlyVerbose.verbose ∧
      quietlyVerbose.quiet ∧ parse ["-q", "-v", "inspect", "a"] = .error .conflict :=
  ⟨parse_quietlyVerbose, rfl, rfl, by decide +kernel⟩

end CommandLine

end RouteWrap
