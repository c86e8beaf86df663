import Mathlib.Data.List.Perm.Basic
import RouteWrap.CommandLine.Reading
import RouteWrap.Proofs.Answers

/-!
What the words of a command line say, apart from whether it is accepted. The words of a level give
arguments, each a switch, a slot with its value or a file. The reader accepts them just where no
option is given twice, each value fits and there is room for the files, and then it holds what they
give.
-/

namespace RouteWrap

inductive Argument
  | switch (s : Switch)
  | slot (s : Slot) (value : String)
  | file (name : String)
deriving DecidableEq, Repr

namespace Argument

def switch? : Argument → Option Switch
  | switch s => some s
  | _ => none

def slot? : Argument → Option (Slot × String)
  | slot s value => some (s, value)
  | _ => none

def file? : Argument → Option String
  | file name => some name
  | _ => none

/-- The option that an argument gives. -/
def option? : Argument → Option Known
  | switch s => some (.switch s)
  | slot s _ => some (.slot s)
  | file _ => none

/-- The value, or the name of the file, may be given. -/
def Fits : Argument → Prop
  | switch _ => True
  | slot s value => s.accepts value
  | file name => name ≠ ""

def Repeats (a b : Argument) : Prop := ∃ o, a.option? = some o ∧ b.option? = some o

/-- No option is given twice, and what is given fits. -/
structure Sound (as : List Argument) : Prop where
  once : as.Pairwise fun a b => ¬ a.Repeats b
  fits : ∀ a ∈ as, a.Fits

/-- The level takes each of the files. -/
def Room (level : Level) (as : List Argument) : Prop :=
  ∀ n < (as.filterMap file?).length, level.takesFile n

end Argument

/-! What words say -/

namespace Level

/-- What options in a row give, and the slot that awaits its value behind them. -/
def ofCluster (level : Level) : List Char → Option (List Argument × Option Slot)
  | [] => some ([], none)
  | c :: cs =>
      match level.short? c with
      | some (.switch s) => (level.ofCluster cs).map fun r => (.switch s :: r.1, r.2)
      | some (.slot s) =>
          match cs with
          | [] => some ([], some s)
          | '=' :: value => some ([.slot s (String.ofList value)], none)
          | value => some ([.slot s (String.ofList value)], none)
      | _ => none

def ofOption (level : Level) : Word → Option (List Argument × Option Slot)
  | .long name value =>
      match level.long? name, value with
      | some (.switch s), none => some ([.switch s], none)
      | some (.slot s), none => some ([], some s)
      | some (.slot s), some v => some ([.slot s v], none)
      | _, _ => none
  | .short names => level.ofCluster names
  | .stop | .plain _ => none

/-- What the words of a level give, up to the command if one comes. A slot that awaits its value
takes the next word. -/
def spoken (level : Level) :
    Option Slot → List String → Option (List Argument × Option (Level × List String))
  | none, [] => some ([], none)
  | some _, [] => none
  | some s, w :: ws =>
      match Word.ofText w with
      | .plain _ => (level.spoken none ws).map fun r => (.slot s w :: r.1, r.2)
      | _ => none
  | none, w :: ws =>
      match if level == .program then ofCommand? w else none with
      | some command => some ([], some (command, ws))
      | none =>
          match Word.ofText w with
          | .stop => some (ws.map .file, none)
          | .plain _ => (level.spoken none ws).map fun r => (.file w :: r.1, r.2)
          | word => (level.ofOption word).bind fun a =>
              (level.spoken a.2 ws).map fun r => (a.1 ++ r.1, r.2)

end Level

namespace Argument

variable {as bs : List Argument} {level : Level}

theorem sound_nil : Sound [] := ⟨.nil, nofun⟩

theorem sound_append :
    Sound (as ++ bs) ↔ Sound as ∧ Sound bs ∧ ∀ a ∈ as, ∀ b ∈ bs, ¬ a.Repeats b := by
  constructor
  · rintro ⟨once, fits⟩
    obtain ⟨left, right, apart⟩ := List.pairwise_append.mp once
    exact ⟨⟨left, fun a listed => fits a (List.mem_append_left _ listed)⟩,
      ⟨right, fun b listed => fits b (List.mem_append_right _ listed)⟩, apart⟩
  · rintro ⟨left, right, apart⟩
    refine ⟨List.pairwise_append.mpr ⟨left.once, right.once, apart⟩, fun a listed => ?_⟩
    exact (List.mem_append.mp listed).elim (left.fits a) (right.fits a)

theorem Sound.left (sound : Sound (as ++ bs)) : Sound as := (sound_append.mp sound).1

theorem sound_concat {a : Argument} :
    Sound (as ++ [a]) ↔ Sound as ∧ a.Fits ∧ ∀ b ∈ as, ¬ b.Repeats a := by
  have single : Sound [a] ↔ a.Fits :=
    ⟨fun sound => sound.fits a (.head _),
      fun fits => ⟨List.pairwise_singleton _ _, List.forall_mem_singleton.mpr fits⟩⟩
  simp only [sound_append, single, List.forall_mem_singleton]

theorem not_repeats_file {a : Argument} {name : String} : ¬ a.Repeats (.file name) := by
  rintro ⟨o, -, ⟨⟩⟩

theorem room_append_files {names : List String} : Room level (as ++ names.map file) ↔
    ∀ n < (as.filterMap file?).length + names.length, level.takesFile n := by
  have count : (names.map file).filterMap file? = names := by
    rw [List.filterMap_map]
    exact List.filterMap_some
  rw [Room, List.filterMap_append, count, List.length_append]

theorem room_concat {name : String} : Room level (as ++ [.file name]) ↔
    Room level as ∧ level.takesFile (as.filterMap file?).length := by
  rw [show [file name] = [name].map file from rfl, room_append_files]
  exact Nat.forall_lt_succ_right

theorem Room.left (room : Room level (as ++ bs)) : Room level as := by
  intro n below
  refine room n (Nat.lt_of_lt_of_le below ?_)
  rw [List.filterMap_append, List.length_append]
  exact Nat.le_add_right ..

/-- An argument that is no file needs no room. -/
theorem room_append_of_forall (options : ∀ b ∈ bs, b.file? = none) :
    Room level (as ++ bs) ↔ Room level as := by
  rw [Room, Room, List.filterMap_append, List.filterMap_eq_nil_iff.mpr options, List.append_nil]

end Argument

/-! What a reader holds -/

namespace Pending

/-- The slot that still awaits its value. -/
def awaited : Option Pending → Option Slot
  | some (.slot s none) => some s
  | _ => none

/-- What has been said but not looked at. -/
def held : Option Pending → List Argument
  | some (.slot s (some value)) => [.slot s value]
  | some (.files names) => names.map .file
  | _ => []

@[simp] theorem held_none : held none = [] := rfl

theorem held_awaiting {s : Slot} : held (some (.slot s none)) = [] := rfl

theorem eq_of_awaited {pending : Option Pending} {s : Slot} (came : awaited pending = some s) :
    pending = some (.slot s none) := by
  unfold awaited at came
  split at came
  · cases came
    rfl
  · cases came

end Pending

namespace Given

open Argument Pending

/-- What a reader holds that has looked at the arguments. -/
def holding (as : List Argument) (pending : Option Pending) : Given :=
  ⟨as.filterMap switch?, as.filterMap slot?, as.filterMap file?, pending⟩

variable {as bs : List Argument} {pending : Option Pending} {q : Given} {level : Level}

theorem has_holding {s : Switch} : (holding as pending).has s ↔ .switch s ∈ as := by
  simp only [has, holding, List.contains_iff_mem, List.mem_filterMap]
  constructor
  · rintro ⟨_ | _ | _, listed, ⟨⟩⟩
    exact listed
  · exact fun listed => ⟨_, listed, rfl⟩

theorem value?_holding_eq_none_iff {s : Slot} :
    (holding as pending).value? s = none ↔ ∀ value, .slot s value ∉ as := by
  simp only [value?, holding, Option.map_eq_none_iff, List.find?_eq_none, List.mem_filterMap,
    beq_iff_eq]
  constructor
  · intro none value listed
    exact none (s, value) ⟨_, listed, rfl⟩ rfl
  · rintro none ⟨_, value⟩ ⟨_ | ⟨_, _⟩ | _, listed, ⟨⟩⟩ rfl
    exact none _ listed

theorem not_repeats_switch_iff {s : Switch} :
    (∀ b ∈ as, ¬ b.Repeats (.switch s)) ↔ ¬ (holding as pending).has s := by
  rw [has_holding]
  constructor
  · exact fun apart listed => apart _ listed ⟨_, rfl, rfl⟩
  · rintro fresh (_ | _ | _) listed ⟨_, ⟨⟩, ⟨⟩⟩
    exact fresh listed

theorem not_repeats_slot_iff {s : Slot} {value : String} :
    (∀ b ∈ as, ¬ b.Repeats (.slot s value)) ↔ (holding as pending).value? s = none := by
  rw [value?_holding_eq_none_iff]
  constructor
  · exact fun apart v listed => apart _ listed ⟨_, rfl, rfl⟩
  · rintro fresh (_ | _ | _) listed ⟨_, ⟨⟩, ⟨⟩⟩
    exact fresh _ listed

theorem holding_concat_switch {s : Switch} :
    { holding as pending with switches := (holding as pending).switches ++ [s] } =
      holding (as ++ [.switch s]) pending := by
  simp only [holding, List.filterMap_append]
  simp [switch?, slot?, file?]

theorem holding_concat_slot {s : Slot} {value : String} :
    { holding as pending with values := (holding as pending).values ++ [(s, value)] } =
      holding (as ++ [.slot s value]) pending := by
  simp only [holding, List.filterMap_append]
  simp [switch?, slot?, file?]

theorem holding_append_files {names : List String} :
    { holding as pending with files := (holding as pending).files ++ names } =
      holding (as ++ names.map .file) pending := by
  simp only [holding, List.filterMap_append, List.filterMap_map]
  simp [Function.comp_def, switch?, slot?, file?]

theorem setValue_eq_ok_iff {s : Slot} {value : String} (sound : Sound as) :
    (holding as pending).setValue s value = .ok q ↔
      Sound (as ++ [.slot s value]) ∧ q = holding (as ++ [.slot s value]) pending := by
  rw [setValue, sound_concat, not_repeats_slot_iff, ← Option.not_isSome_iff_eq_none,
    ← holding_concat_slot]
  split
  · exact ⟨nofun, fun next => absurd ‹_› next.1.2.2⟩
  · split
    · exact ⟨fun next => ⟨⟨sound, ‹_›, ‹_›⟩, (Except.ok.inj next).symm⟩,
        fun next => congrArg Except.ok next.2.symm⟩
    · exact ⟨nofun, fun next => absurd next.1.2.1 ‹_›⟩

theorem sound_append_files {names : List String} (sound : Sound as) :
    Sound (as ++ names.map .file) ↔ "" ∉ names := by
  have pairs : (names.map Argument.file).Pairwise fun a b => ¬ a.Repeats b :=
    List.pairwise_map.mpr (List.pairwise_of_forall fun _ _ => not_repeats_file)
  have fits : (∀ a ∈ names.map Argument.file, a.Fits) ↔ "" ∉ names := by
    rw [List.forall_mem_map]
    exact ⟨fun all listed => all _ listed rfl,
      fun none name listed empty => none (empty ▸ listed)⟩
  rw [sound_append]
  constructor
  · exact fun sounds => fits.mp sounds.2.1.fits
  · refine fun none => ⟨sound, ⟨pairs, fits.mpr none⟩, fun a _ b listed => ?_⟩
    obtain ⟨name, -, rfl⟩ := List.mem_map.mp listed
    exact not_repeats_file

theorem settle_eq_ok_iff (sound : Sound as) :
    (holding as pending).settle = .ok q ↔ awaited pending = none ∧ Sound (as ++ held pending) ∧
      q = holding (as ++ held pending) none := by
  match pending with
  | none =>
      rw [held_none, List.append_nil]
      exact ⟨fun settled => ⟨rfl, sound, (Except.ok.inj settled).symm⟩,
        fun next => congrArg Except.ok next.2.2.symm⟩
  | some (.slot s none) => exact ⟨nofun, nofun⟩
  | some (.slot s (some value)) =>
      rw [held, ← setValue_eq_ok_iff sound]
      exact ⟨fun settled => ⟨rfl, settled⟩, fun next => next.2⟩
  | some (.files names) =>
      rw [held, sound_append_files sound, ← holding_append_files]
      have empties : names.any String.isEmpty ↔ "" ∈ names := by
        simp [List.any_eq_true, String.isEmpty_iff]
      rw [← empties]
      simp only [settle, holding]
      split
      · exact ⟨nofun, fun next => absurd ‹_› next.2.1⟩
      · exact ⟨fun settled => ⟨rfl, ‹_›, (Except.ok.inj settled).symm⟩,
          fun next => congrArg Except.ok next.2.2.symm⟩

theorem addSwitch_eq_ok_iff {s : Switch} (sound : Sound as) :
    (holding as pending).addSwitch s = .ok q ↔ awaited pending = none ∧
      Sound (as ++ held pending ++ [.switch s]) ∧
      q = holding (as ++ held pending ++ [.switch s]) none := by
  rw [addSwitch, bind_eq_ok_iff, sound_concat, ← holding_concat_switch]
  simp only [settle_eq_ok_iff sound]
  constructor
  · rintro ⟨_, ⟨settled, sound', rfl⟩, next⟩
    split at next
    · cases next
    · exact ⟨settled, ⟨sound', trivial, not_repeats_switch_iff.mpr ‹_›⟩, (Except.ok.inj next).symm⟩
  · rintro ⟨settled, ⟨sound', -, fresh⟩, rfl⟩
    exact ⟨_, ⟨settled, sound', rfl⟩, if_neg (not_repeats_switch_iff.mp fresh)⟩

theorem addSlot_some_eq_ok_iff {s : Slot} {value : String} (sound : Sound as) :
    (holding as pending).addSlot s (some value) = .ok q ↔ awaited pending = none ∧
      Sound (as ++ held pending ++ [.slot s value]) ∧
      q = holding (as ++ held pending ++ [.slot s value]) none := by
  simp only [addSlot, bind_eq_ok_iff, settle_eq_ok_iff sound]
  constructor
  · rintro ⟨_, ⟨settled, sound', rfl⟩, next⟩
    exact ⟨settled, (setValue_eq_ok_iff sound').mp next⟩
  · rintro ⟨settled, sound', rfl⟩
    exact ⟨_, ⟨settled, sound'.left, rfl⟩, (setValue_eq_ok_iff sound'.left).mpr ⟨sound', rfl⟩⟩

theorem addSlot_none_eq_ok_iff {s : Slot} (sound : Sound as) :
    (holding as pending).addSlot s none = .ok q ↔ awaited pending = none ∧
      Sound (as ++ held pending) ∧ q = holding (as ++ held pending) (some (.slot s none)) := by
  simp only [addSlot, bind_eq_ok_iff, settle_eq_ok_iff sound]
  constructor
  · rintro ⟨_, ⟨settled, sound', rfl⟩, next⟩
    exact ⟨settled, sound', (Except.ok.inj next).symm⟩
  · rintro ⟨settled, sound', rfl⟩
    exact ⟨_, ⟨settled, sound', rfl⟩, rfl⟩

/-- What an option leaves: what it gives is held, and its slot awaits a value. -/
def Follows (as : List Argument) (said : Option (List Argument × Option Slot)) (q : Given) : Prop :=
  ∃ bs next, said = some (bs, next) ∧ Sound (as ++ bs) ∧
    q = holding (as ++ bs) (next.map fun s => .slot s none)

theorem follows_some {next : Option Slot} : Follows as (some (bs, next)) q ↔
    Sound (as ++ bs) ∧ q = holding (as ++ bs) (next.map fun s => .slot s none) := by
  constructor
  · rintro ⟨_, _, ⟨⟩, rest⟩
    exact rest
  · exact fun rest => ⟨_, _, rfl, rest⟩

theorem not_follows_none : ¬ Follows as none q := by rintro ⟨_, _, ⟨⟩, -⟩

theorem follows_map_cons {a : Argument} {said : Option (List Argument × Option Slot)} :
    Follows as (said.map fun r => (a :: r.1, r.2)) q ↔ Follows (as ++ [a]) said q := by
  cases said with
  | none => exact iff_of_false not_follows_none not_follows_none
  | some r => rw [Option.map_some, follows_some, follows_some, List.append_cons]

theorem settle_bind_error_ne {p : Given} {e : UsageFault} :
    (p.settle.bind fun _ => (.error e : Except UsageFault Given)) ≠ .ok q := by
  intro next
  obtain ⟨_, -, ⟨⟩⟩ := bind_eq_ok_iff.mp next

theorem addLong_eq_ok_iff {name : String} {value : Option String} (sound : Sound as) :
    (holding as pending).addLong level name value = .ok q ↔ awaited pending = none ∧
      Follows (as ++ held pending) (level.ofOption (.long name value)) q := by
  cases found : level.long? name with
  | none => simp only [addLong, Level.ofOption, found, not_follows_none, and_false, reduceCtorEq]
  | some known =>
      cases known with
      | switch s =>
          cases value with
          | none =>
              simp only [addLong, Level.ofOption, found, addSwitch_eq_ok_iff sound, follows_some,
                Option.map_none]
          | some v =>
              simp only [addLong, Level.ofOption, found, not_follows_none, and_false, reduceCtorEq]
      | slot s =>
          cases value with
          | none =>
              simp only [addLong, Level.ofOption, found, addSlot_none_eq_ok_iff sound,
                follows_some, Option.map_some, List.append_nil]
          | some v =>
              simp only [addLong, Level.ofOption, found, addSlot_some_eq_ok_iff sound,
                follows_some, Option.map_none]
      | help | version =>
          cases value <;>
            simp only [addLong, Level.ofOption, found, not_follows_none, settle_bind_error_ne,
              and_false, reduceCtorEq]

theorem addShort_eq_ok_iff {names : List Char} (sound : Sound as)
    (begun : names ≠ [] ∨ pending = none) :
    addShort level (holding as pending) names = .ok q ↔ awaited pending = none ∧
      Follows (as ++ held pending) (level.ofCluster names) q := by
  induction names generalizing as pending with
  | nil =>
      obtain rfl := begun.resolve_left fun given => given rfl
      rw [held_none, Level.ofCluster, follows_some, List.append_nil, List.append_nil]
      exact ⟨fun same => ⟨rfl, sound, (Except.ok.inj same).symm⟩,
        fun next => congrArg Except.ok next.2.2.symm⟩
  | cons c cs ih =>
      rw [addShort, Level.ofCluster]
      cases level.short? c with
      | none => simp only [not_follows_none, and_false, reduceCtorEq]
      | some known =>
          cases known with
          | help | version => simp only [not_follows_none, settle_bind_error_ne, and_false]
          | switch s =>
              refine bind_eq_ok_iff.trans ?_
              simp only [addSwitch_eq_ok_iff sound, follows_map_cons]
              constructor
              · rintro ⟨_, ⟨settled, sound', rfl⟩, next⟩
                have follows := ((ih sound' (.inr rfl)).mp next).2
                rw [held_none, List.append_nil] at follows
                exact ⟨settled, follows⟩
              · rintro ⟨settled, follows⟩
                have sound' : Sound (as ++ held pending ++ [.switch s]) := by
                  obtain ⟨_, _, -, sound', -⟩ := follows
                  exact sound'.left
                refine ⟨_, ⟨settled, sound', rfl⟩, (ih sound' (.inr rfl)).mpr ⟨rfl, ?_⟩⟩
                rwa [held_none, List.append_nil]
          | slot s =>
              dsimp only
              split
              · simp only [addSlot_none_eq_ok_iff sound, follows_some, Option.map_some,
                  List.append_nil]
              · simp only [addSlot_some_eq_ok_iff sound, follows_some, Option.map_none]
              · simp only [addSlot_some_eq_ok_iff sound, follows_some, Option.map_none]

theorem fileCount_holding :
    (holding as pending).fileCount = ((as ++ held pending).filterMap file?).length := by
  rw [List.filterMap_append, List.length_append, fileCount]
  match pending with
  | none => rfl
  | some (.slot s none) => rfl
  | some (.slot s (some value)) => rfl
  | some (.files names) =>
      simp [holding, held, List.filterMap_map, Function.comp_def, file?]

/-- A file is held behind what was said before, and nothing is left to await. -/
structure Keeps (as : List Argument) (name : String) (before : List Argument)
    (pending : Option Pending) : Prop where
  sound : Sound before
  awaited : awaited pending = none
  held : before ++ held pending = as ++ [.file name]

theorem addFile_cases {name : String} (sound : Sound as) :
    (¬ (awaited pending = none ∧ Sound (as ++ held pending)) ∧
        ∃ e, (holding as pending).addFile name = .error e) ∨
      awaited pending = none ∧
        ∃ before later, (holding as pending).addFile name = .ok (holding before later) ∧
          Keeps (as ++ held pending) name before later := by
  by_cases files : ∃ names, pending = some (.files names)
  · obtain ⟨names, rfl⟩ := files
    refine .inr ⟨rfl, as, some (.files (names ++ [name])), rfl, sound, rfl, ?_⟩
    simp only [held, List.map_append, List.map_cons, List.map_nil, List.append_assoc]
  · have added : (holding as pending).addFile name =
        ((holding as pending).settle >>= fun p =>
          .ok { p with pending := some (.files [name]) }) := by
      rw [addFile]
      split
      · exact absurd ⟨_, ‹_›⟩ files
      · rfl
    rw [added]
    cases settled : (holding as pending).settle with
    | error e =>
        refine .inl ⟨fun ready => ?_, e, rfl⟩
        have ok := (settle_eq_ok_iff sound).mpr ⟨ready.1, ready.2, rfl⟩
        cases settled.symm.trans ok
    | ok p =>
        obtain ⟨came, sound', rfl⟩ := (settle_eq_ok_iff sound).mp settled
        exact .inr ⟨came, _, _, rfl, sound', rfl, rfl⟩

end Given

namespace Level

open Argument Pending Given

variable {level : Level} {as : List Argument} {pending : Option Pending}
  {answer : Given × Option (Level × List String)}

/-- What a level gives that was read to its end, or to the command in it. -/
def finish : Reached → Except UsageFault (Given × Option (Level × List String))
  | .ended p => do return (← p.settle, none)
  | .command level p rest => do return (← p.settle, some (level, rest))

def reading (level : Level) (after : Bool) (p : Given) (ws : List String) :
    Except UsageFault (Given × Option (Level × List String)) :=
  level.read after p ws >>= finish

/-- The answer is what a level holds that takes the arguments. -/
def Answers (level : Level) (as : List Argument) (stop : Option (Level × List String))
    (answer : Given × Option (Level × List String)) : Prop :=
  Sound as ∧ Room level as ∧ answer = (holding as none, stop)

theorem settle_answers {stop : Option (Level × List String)} (sound : Sound as)
    (room : Room level (as ++ held pending)) :
    ((holding as pending).settle >>= fun p => .ok (p, stop)) = .ok answer ↔
      awaited pending = none ∧ level.Answers (as ++ held pending) stop answer := by
  simp only [bind_eq_ok_iff, settle_eq_ok_iff sound]
  constructor
  · rintro ⟨_, ⟨settled, sound', rfl⟩, ⟨⟩⟩
    exact ⟨settled, sound', room, rfl⟩
  · rintro ⟨settled, sound', -, rfl⟩
    exact ⟨_, ⟨settled, sound', rfl⟩, rfl⟩

theorem readFile_cases {name : String} (after : Bool) (sound : Sound as)
    (room : Room level (as ++ held pending)) :
    (¬ (awaited pending = none ∧ Sound (as ++ held pending) ∧
          Room level (as ++ held pending ++ [.file name])) ∧
        ∃ e, level.readFile after (holding as pending) name = .error e) ∨
      awaited pending = none ∧ Room level (as ++ held pending ++ [.file name]) ∧
        ∃ before later, level.readFile after (holding as pending) name =
            .ok (holding before later) ∧
          Keeps (as ++ held pending) name before later := by
  rw [readFile, fileCount_holding, room_concat]
  by_cases takes : level.takesFile ((as ++ held pending).filterMap file?).length
  · rw [if_pos takes]
    obtain ⟨unready, error⟩ | ⟨came, added⟩ := @addFile_cases as pending name sound
    · exact .inl ⟨fun ready => unready ⟨ready.1, ready.2.1⟩, error⟩
    · exact .inr ⟨came, ⟨room, takes⟩, added⟩
  · rw [if_neg takes]
    exact .inl ⟨fun ready => takes ready.2.2.2, _, rfl⟩

/-- Where no word is an option any more, each of them is a file. -/
theorem reading_true_eq_ok_iff {ws : List String} (sound : Sound as)
    (room : Room level (as ++ held pending)) :
    level.reading true (holding as pending) ws = .ok answer ↔
      awaited pending = none ∧
        level.Answers (as ++ held pending ++ ws.map .file) none answer := by
  induction ws generalizing as pending with
  | nil =>
      rw [List.map_nil, List.append_nil]
      exact settle_answers sound room
  | cons w ws ih =>
      have step : level.reading true (holding as pending) (w :: ws) =
          level.readFile true (holding as pending) w >>= fun p => level.reading true p ws :=
        bind_assoc ..
      rw [step, List.map_cons, List.append_cons]
      obtain ⟨unready, _, error⟩ | ⟨came, room', before, later, read, keeps⟩ :=
        readFile_cases true sound room
      · rw [error]
        refine iff_of_false nofun fun answers => unready ⟨answers.1, ?_, answers.2.2.1.left⟩
        exact answers.2.1.left.left
      · rw [← keeps.held] at room' ⊢
        rw [read]
        refine (ih keeps.sound room').trans ?_
        simp only [keeps.awaited, came]

theorem awaitsValue_holding : (holding as pending).awaitsValue = (awaited pending).isSome := by
  match pending with
  | none => rfl
  | some (.slot s none) => rfl
  | some (.slot s (some value)) => rfl
  | some (.files names) => rfl

/-- Read a word that is no command. -/
def readingWord (level : Level) (p : Given) (w : String) (ws : List String) :
    Except UsageFault (Given × Option (Level × List String)) :=
  if Word.ofText w == .stop then level.reading true p ws
  else level.readWord p w >>= fun p => level.reading false p ws

theorem reading_cons_of_awaiting {w : String} {ws : List String} {p : Given}
    (awaits : p.awaitsValue = true) :
    level.reading false p (w :: ws) = level.readingWord p w ws := by
  rw [reading, read, readingWord]
  simp only [awaits, Bool.not_true, Bool.and_false, Bool.false_and, Bool.false_eq_true, if_false]
  split
  · rfl
  · exact bind_assoc ..

theorem reading_cons {w : String} {ws : List String} {p : Given} (ready : p.awaitsValue = false)
    (other : ¬ (level = .program ∧ w = "help")) : level.reading false p (w :: ws) =
      match if level == .program then ofCommand? w else none with
      | some command => p.settle >>= fun p => .ok (p, some (command, ws))
      | none => level.readingWord p w ws := by
  have answered : (level == .program && w == "help") = false := by
    simpa only [Bool.and_eq_false_iff, beq_eq_false_iff_ne, not_and_or] using other
  rw [reading, read, readingWord]
  simp only [ready, Bool.not_false, Bool.and_true, answered, Bool.false_eq_true, if_false]
  cases if level == program then ofCommand? w else none with
  | some command => rfl
  | none =>
      dsimp only
      split
      · rfl
      · exact bind_assoc ..

/-- The answer is what a level holds that takes the arguments and what is said behind them. -/
def Continues (level : Level) (as : List Argument)
    (said : Option (List Argument × Option (Level × List String)))
    (answer : Given × Option (Level × List String)) : Prop :=
  ∃ bs stop, said = some (bs, stop) ∧ level.Answers (as ++ bs) stop answer

theorem continues_some {bs : List Argument} {stop : Option (Level × List String)} :
    level.Continues as (some (bs, stop)) answer ↔ level.Answers (as ++ bs) stop answer := by
  constructor
  · rintro ⟨_, _, ⟨⟩, answers⟩
    exact answers
  · exact fun answers => ⟨_, _, rfl, answers⟩

theorem not_continues_none : ¬ level.Continues as none answer := by rintro ⟨_, _, ⟨⟩, -⟩

theorem continues_map_append {bs : List Argument}
    {said : Option (List Argument × Option (Level × List String))} :
    level.Continues as (said.map fun r => (bs ++ r.1, r.2)) answer ↔
      level.Continues (as ++ bs) said answer := by
  cases said with
  | none => exact iff_of_false not_continues_none not_continues_none
  | some r => rw [Option.map_some, continues_some, continues_some, List.append_assoc]

theorem continues_map_cons {a : Argument}
    {said : Option (List Argument × Option (Level × List String))} :
    level.Continues as (said.map fun r => (a :: r.1, r.2)) answer ↔
      level.Continues (as ++ [a]) said answer := by
  cases said with
  | none => exact iff_of_false not_continues_none not_continues_none
  | some r => rw [Option.map_some, continues_some, continues_some, List.append_cons]

theorem file?_of_ofCluster {names : List Char} {bs : List Argument} {next : Option Slot}
    (said : level.ofCluster names = some (bs, next)) : ∀ b ∈ bs, b.file? = none := by
  induction names generalizing bs with
  | nil =>
      cases said
      exact nofun
  | cons c cs ih =>
      rw [ofCluster] at said
      split at said
      · obtain ⟨r, rest, same⟩ := Option.map_eq_some_iff.mp said
        cases same
        exact List.forall_mem_cons.mpr ⟨rfl, ih rest⟩
      · split at said
        · cases said
          exact nofun
        · cases said
          exact List.forall_mem_singleton.mpr rfl
        · cases said
          exact List.forall_mem_singleton.mpr rfl
      · cases said

theorem file?_of_ofOption {word : Word} {bs : List Argument} {next : Option Slot}
    (said : level.ofOption word = some (bs, next)) : ∀ b ∈ bs, b.file? = none := by
  unfold ofOption at said
  split at said
  · split at said
    · cases said
      exact List.forall_mem_singleton.mpr rfl
    · cases said
      exact nofun
    · cases said
      exact List.forall_mem_singleton.mpr rfl
    · cases said
  · exact file?_of_ofCluster said
  · cases said
  · cases said

theorem ofText_ne_short_nil {w : String} : Word.ofText w ≠ .short [] := by
  unfold Word.ofText
  split
  · exact nofun
  · dsimp only
    split <;> exact nofun
  · exact nofun
  · exact nofun

/-- A word that is an option. -/
def IsOption (w : String) : Prop := Word.ofText w ≠ .stop ∧ ∀ text, Word.ofText w ≠ .plain text

theorem readWord_eq_ok_iff {w : String} {q : Given} (sound : Sound as) (option : IsOption w) :
    level.readWord (holding as pending) w = .ok q ↔ awaited pending = none ∧
      Follows (as ++ held pending) (level.ofOption (Word.ofText w)) q := by
  rw [readWord]
  cases is : Word.ofText w with
  | stop => exact absurd is option.1
  | plain text => exact absurd is (option.2 text)
  | long name value => exact addLong_eq_ok_iff sound
  | short names =>
      exact addShort_eq_ok_iff sound (.inl fun none => ofText_ne_short_nil (none ▸ is))

theorem readWord_plain {w text : String} {p : Given} (plain : Word.ofText w = .plain text) :
    level.readWord p w =
      if p.awaitsValue then .ok (p.giveValue w) else level.readFile false p w := by
  rw [readWord, plain]

theorem readingWord_of_ne_stop {p : Given} {w : String} {ws : List String}
    (word : Word.ofText w ≠ .stop) : level.readingWord p w ws =
      level.readWord p w >>= fun p => level.reading false p ws :=
  if_neg fun same => word (beq_iff_eq.mp same)

/-- The reader takes what the words of a level say, where that is sound and there is room. -/
def ReadsAsSaid (level : Level) (ws : List String) : Prop :=
  ∀ {as : List Argument} {pending : Option Pending}
    {answer : Given × Option (Level × List String)}, Sound as → Room level (as ++ held pending) →
      (level.reading false (holding as pending) ws = .ok answer ↔
        level.Continues (as ++ held pending) (level.spoken (awaited pending) ws) answer)

variable {w : String} {ws : List String}

theorem readsAsSaid_nil : level.ReadsAsSaid [] := by
  intro as pending answer sound room
  refine (settle_answers sound room).trans ?_
  cases came : awaited pending with
  | none => simp only [spoken, continues_some, List.append_nil, true_and]
  | some s => simp only [spoken, not_continues_none, reduceCtorEq, false_and]

theorem ReadsAsSaid.option (behind : level.ReadsAsSaid ws) (sound : Sound as)
    (room : Room level (as ++ held pending)) (option : IsOption w) :
    level.readingWord (holding as pending) w ws = .ok answer ↔ awaited pending = none ∧
      level.Continues (as ++ held pending) ((level.ofOption (Word.ofText w)).bind fun a =>
        (level.spoken a.2 ws).map fun r => (a.1 ++ r.1, r.2)) answer := by
  rw [readingWord_of_ne_stop option.1, bind_eq_ok_iff]
  simp only [readWord_eq_ok_iff sound option]
  cases said : level.ofOption (Word.ofText w) with
  | none => simp only [not_follows_none, and_false, false_and, exists_false, Option.bind_none,
      not_continues_none]
  | some a =>
      obtain ⟨bs, next⟩ := a
      have awaits : awaited (next.map fun s => .slot s none) = next := by cases next <;> rfl
      have holds : held (next.map fun s => .slot s none) = [] := by cases next <;> rfl
      have room' : Room level (as ++ held pending ++ bs ++
          held (next.map fun s => .slot s none)) := by
        rw [holds, List.append_nil, room_append_of_forall (file?_of_ofOption said)]
        exact room
      simp only [follows_some, Option.bind_some, continues_map_append]
      constructor
      · rintro ⟨_, ⟨came, sound', rfl⟩, next⟩
        have continues := (behind sound' room').mp next
        rw [awaits, holds, List.append_nil] at continues
        exact ⟨came, continues⟩
      · rintro ⟨came, continues⟩
        have sound' : Sound (as ++ held pending ++ bs) := by
          obtain ⟨_, _, -, sound', -⟩ := continues
          exact sound'.left
        refine ⟨_, ⟨came, sound', rfl⟩, (behind sound' room').mpr ?_⟩
        rwa [awaits, holds, List.append_nil]

theorem ReadsAsSaid.value {s : Slot} {text : String} (behind : level.ReadsAsSaid ws)
    (sound : Sound as) (room : Room level as) (plain : Word.ofText w = .plain text) :
    level.readingWord (holding as (some (.slot s none))) w ws = .ok answer ↔
      level.Continues (as ++ [.slot s w]) (level.spoken none ws) answer := by
  have room' : Room level (as ++ held (some (.slot s (some w)))) :=
    (room_append_of_forall (List.forall_mem_singleton.mpr rfl)).mpr room
  rw [readingWord_of_ne_stop (by rw [plain]; exact nofun), readWord_plain plain]
  exact behind sound room'

theorem ReadsAsSaid.file {text : String} (behind : level.ReadsAsSaid ws)
    (sound : Sound as) (room : Room level (as ++ held pending)) (came : awaited pending = none)
    (plain : Word.ofText w = .plain text) :
    level.readingWord (holding as pending) w ws = .ok answer ↔
      level.Continues (as ++ held pending ++ [.file w]) (level.spoken none ws) answer := by
  have ready : (holding as pending).awaitsValue = false := by rw [awaitsValue_holding, came]; rfl
  rw [readingWord_of_ne_stop (by rw [plain]; exact nofun), readWord_plain plain, ready]
  obtain ⟨unready, _, error⟩ | ⟨-, room', before, later, read, keeps⟩ :=
    readFile_cases false sound room
  · refine iff_of_false ?_ ?_
    · rw [if_neg Bool.false_ne_true, error]
      exact nofun
    · rintro ⟨_, _, -, sound', room', -⟩
      exact unready ⟨came, sound'.left.left, room'.left⟩
  · rw [if_neg Bool.false_ne_true, read]
    rw [← keeps.held] at room' ⊢
    refine (behind keeps.sound room').trans ?_
    rw [keeps.awaited]

/-- No file is accepted in front of the command, not even the word that asks for help. -/
theorem not_continues_program_file {name : String}
    {said : Option (List Argument × Option (Level × List String))} :
    ¬ program.Continues (as ++ [.file name]) said answer := by
  rintro ⟨_, _, -, -, room, -⟩
  cases (room_concat.mp room.left).2

theorem reading_help (ready : (holding as pending).awaitsValue = false) :
    program.reading false (holding as pending) ("help" :: ws) = .error (helpFault ws) := by
  rw [reading, read, ready]
  rfl

theorem spoken_help :
    program.spoken none ("help" :: ws) =
      (program.spoken none ws).map fun r => (.file "help" :: r.1, r.2) := by
  have plain : Word.ofText "help" = .plain "help" := by decide
  rw [spoken, plain]
  rfl

theorem ReadsAsSaid.cons (behind : level.ReadsAsSaid ws) : level.ReadsAsSaid (w :: ws) := by
  intro as pending answer sound room
  have awaits : (holding as pending).awaitsValue = (awaited pending).isSome := awaitsValue_holding
  cases came : awaited pending with
  | some s =>
      rw [came] at awaits
      rw [reading_cons_of_awaiting awaits, spoken]
      split
      · rename_i text plain
        obtain rfl := eq_of_awaited came
        rw [held_awaiting, List.append_nil] at room ⊢
        rw [continues_map_cons]
        exact behind.value sound room plain
      · rename_i other
        rw [iff_false_right not_continues_none]
        by_cases stop : Word.ofText w = .stop
        · rw [readingWord, if_pos (beq_iff_eq.mpr stop), reading_true_eq_ok_iff sound room, came]
          exact fun read => nomatch read.1
        · rw [behind.option sound room ⟨stop, other⟩, came]
          exact fun read => nomatch read.1
  | none =>
      rw [came] at awaits
      by_cases help : level = .program ∧ w = "help"
      · obtain ⟨rfl, rfl⟩ := help
        rw [reading_help awaits, spoken_help, continues_map_cons]
        exact iff_of_false nofun not_continues_program_file
      · rw [reading_cons awaits help, spoken]
        cases if level == program then ofCommand? w else none with
        | some command =>
            dsimp only
            rw [settle_answers sound room, continues_some, came, List.append_nil]
            exact ⟨And.right, fun answers => ⟨rfl, answers⟩⟩
        | none =>
            dsimp only
            split
            · rename_i stop
              rw [readingWord, if_pos (beq_iff_eq.mpr stop), reading_true_eq_ok_iff sound room,
                came, continues_some]
              exact ⟨And.right, fun answers => ⟨rfl, answers⟩⟩
            · rename_i text plain
              rw [continues_map_cons]
              exact behind.file sound room came plain
            · rename_i stop plain
              rw [behind.option sound room ⟨stop, plain⟩, came]
              exact ⟨And.right, fun answers => ⟨rfl, answers⟩⟩

theorem readsAsSaid : level.ReadsAsSaid ws := by
  induction ws with
  | nil => exact readsAsSaid_nil
  | cons w ws ih => exact ih.cons

end Level

end RouteWrap
