import Mathlib.Data.List.Basic
import RouteWrap.Proofs.Answers
import RouteWrap.Proofs.DiskRuns

/-!
The file of a project. A root that is not absolute stands for its place in the working directory,
but the search for its file goes on in the directories above. What is loaded depends on the file of
the root alone if that file is there, or if no directory above can lead to a file instead.
-/

namespace RouteWrap

/-! Paths inside a directory -/

namespace Path

/-- One name of a file or a directory. -/
structure IsName (n : String) : Prop where
  nonempty : n ≠ ""
  proper : n ≠ "."
  plain : ∀ c ∈ n.toList, c ≠ '/' ∧ c ≠ '\x00'

theorem names_append_slash (p q : String) : names (p ++ "/" ++ q) = names p ++ names q := by
  have slash : "/".toList = ['/'] := rfl
  simp only [names, String.toList_append, slash, List.append_assoc, List.cons_append,
    List.nil_append, List.splitOn_append_cons_self, List.map_append, List.filter_append]

theorem names_of_getLast? {p : String} (slash : p.toList.getLast? = some '/') :
    ∃ q, p = q ++ "/" ∧ names q = names p := by
  obtain ⟨q, ends⟩ := List.getLast?_eq_some_iff.mp slash
  have split : p = String.ofList q ++ "/" := by
    rw [← String.toList_inj, ends, String.toList_append, String.toList_ofList]
    rfl
  refine ⟨String.ofList q, split, ?_⟩
  have none : names "" = [] := rfl
  have whole := names_append_slash (String.ofList q) ""
  rw [String.append_empty, ← split, none, List.append_nil] at whole
  exact whole.symm

theorem names_join {p : String} (relative : isAbsolute p = false) (directory : String) :
    names (join directory p) = names directory ++ names p := by
  rw [join, relative, Bool.false_or]
  split
  · next empty =>
      rw [String.isEmpty_iff.mp empty]
      rfl
  split
  · next slash =>
      obtain ⟨q, rfl, same⟩ := names_of_getLast? (eq_of_beq slash)
      rw [names_append_slash, same]
  · exact names_append_slash directory p

variable {working : List String}

theorem names_ofSteps (named : ∀ n ∈ working, IsName n) : names (ofSteps working) = working := by
  have root : names "" = [] := rfl
  have slash : "/".toList = ['/'] := rfl
  have below := names_append_slash "" ("/".intercalate working)
  rw [String.empty_append, root, List.nil_append] at below
  rw [ofSteps, below]
  cases working with
  | nil => rfl
  | cons n ns =>
      have single : ∀ l ∈ (n :: ns).map String.toList, '/' ∉ l := by
        intro l member there
        obtain ⟨n', listed, rfl⟩ := List.mem_map.mp member
        exact ((named n' listed).plain '/' there).1 rfl
      rw [names, String.toList_intercalate, slash,
        List.splitOn_intercalate _ single (List.cons_ne_nil _ _), List.map_map]
      simp only [Function.comp_def, String.ofList_toList, List.map_id']
      refine List.filter_eq_self.mpr fun n' listed => ?_
      simpa using (named n' listed).nonempty

theorem ancestors_ofSteps (named : ∀ n ∈ working, IsName n) :
    ∃ above, ancestors (ofSteps working) = ofSteps working :: above := by
  have proper : steps (ofSteps working) = working := by
    rw [steps, names_ofSteps named]
    refine List.filter_eq_self.mpr fun n listed => ?_
    simpa using (named n listed).proper
  simp only [ancestors, proper, List.range_succ_eq_map, List.map_cons, Nat.sub_zero,
    List.take_length, List.cons.injEq, true_and, exists_eq']

theorem isAbsolute_ofSteps (working : List String) : isAbsolute (ofSteps working) = true := by
  rw [isAbsolute, ofSteps, String.toList_append]
  rfl

theorem zero_not_mem_ofSteps (named : ∀ n ∈ working, IsName n) :
    '\x00' ∉ (ofSteps working).toList := by
  have slash : "/".toList = ['/'] := rfl
  have apart : '\x00' ∉ ['/'].intercalate (working.map String.toList) := by
    induction working with
    | nil => exact List.not_mem_nil
    | cons n ns ih =>
        have first := fun there => ((named n List.mem_cons_self).plain '\x00' there).2 rfl
        have later := ih fun n' listed => named n' (List.mem_cons_of_mem n listed)
        cases ns with
        | nil => simpa using first
        | cons n' ns =>
            simp only [List.map_cons, List.intercalate_cons_cons, List.mem_append,
              List.mem_singleton] at later ⊢
            rintro ((there | there) | there)
            · exact first there
            · exact absurd there (by decide)
            · exact later there
  rw [ofSteps, String.toList_append, String.toList_intercalate, slash, List.mem_append]
  rintro (first | later)
  · exact absurd first (by decide)
  · exact apart later

theorem isAbsolute_join (directory p : String) :
    isAbsolute (join directory p) = (isAbsolute directory || isAbsolute p) := by
  rw [join]
  cases absolute : isAbsolute p with
  | true => simpa using absolute
  | false =>
      rw [Bool.false_or, Bool.or_false]
      cases letters : directory.toList with
      | nil =>
          rw [String.toList_eq_nil_iff.mp letters, if_pos (String.isEmpty_iff.mpr rfl)]
          exact absolute
      | cons c cs =>
          have first (q : String) : isAbsolute (directory ++ q) = isAbsolute directory := by
            rw [isAbsolute, isAbsolute, String.toList_append, letters]
            rfl
          have filled : ¬ directory.isEmpty = true := fun empty => by
            rw [String.isEmpty_iff.mp empty] at letters
            cases letters
          rw [if_neg filled, String.append_assoc]
          split
          · exact first p
          · exact first ("/" ++ p)

/-- How a path is written that begins in a directory given by its names. -/
theorem join_ofSteps {p : String} (relative : isAbsolute p = false) :
    ∃ between, join (ofSteps working) p = ofSteps working ++ between ++ p ∧
      (between = "" ∨ between = "/") := by
  have filled : (ofSteps working).isEmpty = false := by
    rw [ofSteps]
    simp
  rw [join, relative, filled, Bool.or_false, if_neg Bool.false_ne_true]
  split
  · exact ⟨"", by rw [String.append_empty], .inl rfl⟩
  · exact ⟨"/", rfl, .inr rfl⟩

theorem any_zero_join_ofSteps {p : String} (named : ∀ n ∈ working, IsName n)
    (relative : isAbsolute p = false) :
    (join (ofSteps working) p).toList.any (· == '\x00') = p.toList.any (· == '\x00') := by
  obtain ⟨between, written, plain⟩ := @join_ofSteps working p relative
  have before : (ofSteps working).toList.any (· == '\x00') = false :=
    List.any_eq_false.mpr fun c there zero =>
      zero_not_mem_ofSteps named (eq_of_beq zero ▸ there)
  have after : between.toList.any (· == '\x00') = false := by
    obtain rfl | rfl := plain <;> rfl
  rw [written, String.toList_append, String.toList_append, List.any_append, List.any_append,
    before, after, Bool.false_or, Bool.false_or]

theorem getLast?_join_ofSteps {p : String} (relative : isAbsolute p = false) (filled : p ≠ "") :
    (join (ofSteps working) p).toList.getLast? = p.toList.getLast? := by
  obtain ⟨between, written, -⟩ := @join_ofSteps working p relative
  rw [written, String.toList_append, List.getLast?_append_of_ne_nil _ (by simpa using filled)]

end Path

/-! Disks that differ in the content of files -/

namespace Disk

variable {d d' : Disk} {working : List String} {path : String}

theorem walk_named {n : String} (here : n ≠ ".") (above : n ≠ "..") (place names : List String) :
    d.walk place (n :: names) =
      if 255 < n.utf8ByteSize then .error .longName
      else
        match d.item? (place ++ [n]) with
        | some .directory => d.walk (place ++ [n]) names
        | some (.file _) => .error .notDirectory
        | none => .error .notFound :=
  walk.eq_4 d place n names here above

theorem walk_append (place names names' : List String) :
    d.walk place (names ++ names') = d.walk place names >>= (d.walk · names') := by
  fun_induction d.walk place names with
  | case1 place => rfl
  | case2 place names ih => rw [List.cons_append, walk, ih]
  | case3 place names ih => rw [List.cons_append, walk, ih]
  | case4 place n names here above long =>
      rw [List.cons_append, walk_named here above, if_pos long]
      rfl
  | case5 place n names here above short found ih =>
      rw [List.cons_append, walk_named here above, if_neg short, found]
      exact ih
  | case6 place n names here above short content found =>
      rw [List.cons_append, walk_named here above, if_neg short, found]
      rfl
  | case7 place n names here above short found =>
      rw [List.cons_append, walk_named here above, if_neg short, found]
      rfl

/-- The same directories, and files at the same places. -/
def Alike (d d' : Disk) : Prop :=
  ∀ place, d'.item? place = d.item? place ∨
    ∃ c c', d.item? place = some (.file c) ∧ d'.item? place = some (.file c')

theorem Alike.walk_eq (alike : d.Alike d') (place names : List String) :
    d'.walk place names = d.walk place names := by
  induction names generalizing place with
  | nil => rfl
  | cons n names ih =>
      by_cases here : n = "."
      · rw [here, walk, walk, ih]
      by_cases above : n = ".."
      · rw [above, walk, walk, ih]
      rw [walk_named here above, walk_named here above, ih]
      obtain same | ⟨c, c', before, after⟩ := alike (place ++ [n])
      · rw [same]
      · rw [before, after]

theorem Alike.target_eq (alike : d.Alike d') (working : List String) (path : String) :
    d'.target working path = d.target working path := by
  simp only [target, alike.walk_eq]

theorem Alike.isFile_eq (alike : d.Alike d') (working : List String) (path : String) :
    d'.isFile working path = d.isFile working path := by
  rw [isFile, isFile, readBytes, readBytes, alike.target_eq]
  cases d.target working path with
  | error e => rfl
  | ok t =>
      cases t with
      | directory place => rfl
      | name parent n asDirectory =>
          obtain same | ⟨c, c', before, after⟩ := alike (parent ++ [n])
          · simp only [same, bind, Except.bind]
          · cases asDirectory <;> simp [before, after, bind, Except.bind]

theorem item?_put {place : List String} (named : place ≠ []) (i : Stored) (place' : List String) :
    (d.put place i).item? place' = if place' = place then some i else d.item? place' := by
  by_cases root : place' = []
  · have apart : place' ≠ place := fun same => named (same ▸ root)
    rw [if_neg apart, root]
    rfl
  have below : ¬ place'.isEmpty = true := by simpa using root
  rw [item?, if_neg below, item?, if_neg below, put]
  cases there : d.items.any (·.1 == place) with
  | true =>
      have keys : (fun old : List String × Stored => old.1 == place') ∘
          (fun old => if old.1 == place then (place, i) else old) = fun old => old.1 == place' := by
        funext old
        by_cases same : old.1 = place <;> simp [same]
      rw [if_pos rfl, List.find?_map, keys]
      split
      · next same =>
          subst same
          obtain ⟨old, listed, named⟩ := List.any_eq_true.mp there
          cases found : d.items.find? (fun old => old.1 == place') with
          | none => exact absurd named (List.find?_eq_none.mp found old listed)
          | some old' =>
              have key : old'.1 = place' := by simpa using List.find?_some found
              simp [key]
      · next apart =>
          cases found : d.items.find? (fun old => old.1 == place') with
          | none => rfl
          | some old' =>
              have key : old'.1 = place' := by simpa using List.find?_some found
              simp [key, apart]
  | false =>
      have absent : d.items.find? (fun old => old.1 == place) = none :=
        List.find?_eq_none.mpr fun old listed => by simpa using List.any_eq_false.mp there old listed
      rw [if_neg Bool.false_ne_true, List.find?_append]
      split
      · next same => simp [same, absent]
      · next apart => simp [Ne.symm apart]

/-- A file on a disk can have any other content. -/
theorem exists_alike_of_isFile (there : d.isFile working path = true) (content : ByteArray) :
    ∃ d', d.Alike d' ∧ d'.readBytes working path = .ok content := by
  rw [isFile, readBytes] at there
  cases target : d.target working path with
  | error e => simp [target, bind, Except.bind] at there
  | ok t =>
      cases t with
      | directory place => simp [target, bind, Except.bind] at there
      | name parent n asDirectory =>
          simp only [target, bind, Except.bind] at there
          have named : parent ++ [n] ≠ [] := by simp
          match found : d.item? (parent ++ [n]), asDirectory with
          | none, _ => simp [found] at there
          | some .directory, _ => simp [found] at there
          | some (.file before), true => simp [found] at there
          | some (.file before), false =>
              have alike : d.Alike (d.put (parent ++ [n]) (.file content)) := by
                intro place
                rw [item?_put named]
                split
                · next same => exact .inr ⟨before, content, same ▸ found, rfl⟩
                · exact .inl rfl
              refine ⟨_, alike, ?_⟩
              rw [readBytes, alike.target_eq, target]
              simp only [bind, Except.bind, item?_put named, if_true]
              rfl

/-! The file of a root -/

/-- The content of the file at a path, if there is a file. -/
def content? (d : Disk) (working : List String) (path : String) : Option ByteArray :=
  (d.readBytes working path).toOption

theorem isFile_eq_isSome : d.isFile working path = (d.content? working path).isSome := by
  rw [isFile, content?]
  cases d.readBytes working path <;> rfl

/-- Programs can run in the directory that the names lead to. -/
structure WorksIn (d : Disk) (working : List String) : Prop where
  named : ∀ n ∈ working, Path.IsName n
  there : d.walk [] working = .ok working

theorem Alike.worksIn (alike : d.Alike d') (works : d.WorksIn working) : d'.WorksIn working :=
  ⟨works.named, (alike.walk_eq [] working).trans works.there⟩

theorem WorksIn.target_join (works : d.WorksIn working) (relative : Path.isAbsolute path = false)
    (named : Path.names path ≠ []) :
    d.target working (Path.join (Path.ofSteps working) path) = d.target working path := by
  have filled : path ≠ "" := by
    rintro rfl
    exact named rfl
  have absolute : Path.isAbsolute (Path.join (Path.ofSteps working) path) = true := by
    rw [Path.isAbsolute_join, Path.isAbsolute_ofSteps, Bool.true_or]
  have names : Path.names (Path.join (Path.ofSteps working) path) =
      working ++ Path.names path := by
    rw [Path.names_join relative, Path.names_ofSteps works.named]
  have walks (names' : List String) : d.walk [] (working ++ names') = d.walk working names' := by
    rw [walk_append, works.there]
    rfl
  have zero := Path.any_zero_join_ofSteps works.named relative
  have ends := @Path.getLast?_join_ofSteps working path relative filled
  have unfilled : path.isEmpty = false :=
    Bool.eq_false_iff.mpr fun empty => filled (String.isEmpty_iff.mp empty)
  have unfilled' : (Path.join (Path.ofSteps working) path).isEmpty = false := by
    refine Bool.eq_false_iff.mpr fun empty => ?_
    rw [String.isEmpty_iff.mp empty] at absolute
    cases absolute
  have last : (Path.names path).getLast? = some ((Path.names path).getLast named) :=
    List.getLast?_eq_some_getLast named
  simp only [target, zero, unfilled, unfilled', names, absolute, relative, ends, last, walks,
    List.getLast?_append_of_ne_nil _ named, List.dropLast_append_of_ne_nil named,
    Bool.false_eq_true, if_true, if_false]

/-- A path leads from the root, begun in the working directory, where it leads from there. -/
theorem WorksIn.readBytes_join (works : d.WorksIn working) (named : Path.names path ≠ []) :
    d.readBytes working (Path.join (Path.ofSteps working) path) = d.readBytes working path := by
  cases absolute : Path.isAbsolute path with
  | true =>
      rw [Path.join, absolute, Bool.true_or, if_pos rfl]
  | false => rw [readBytes, readBytes, works.target_join absolute named]

/-- A directory above the working directory can lead to a file where the working directory leads to
none. -/
def Strays (working : List String) (path : String) : Prop :=
  ∃ d : Disk, d.WorksIn working ∧ d.content? working path = none ∧
    ∃ above ∈ (Path.ancestors (Path.ofSteps working)).tail,
      d.isFile working (Path.join above path) = true

/-- What is loaded for a root. -/
def loadedFor (d : Disk) (working : List String) (env : Environment) (root : String) :
    Except ConfigFault Config :=
  ((Config.load (host working) env root).run d).1

/-- What is loaded for a root is the same on every disk that has the same file in the root, and
comes from the variables alone where there is none. -/
structure LoadsOwn (d : Disk) (working : List String) (env : Environment) (root : String) :
    Prop where
  same : ∀ d' : Disk, d'.WorksIn working →
    d'.content? working (Path.join root Config.fileName) =
      d.content? working (Path.join root Config.fileName) →
    d'.loadedFor working env root = d.loadedFor working env root
  absent : d.content? working (Path.join root Config.fileName) = none →
    d.loadedFor working env root = Config.layered [] env

theorem loadedFor_eq (env : Environment) (root : String) :
    d.loadedFor working env root =
      d.foundSettings working (Path.join root Config.fileName) >>= (Config.layered · env) :=
  congrArg Prod.fst (d.run_loadFound working env (Path.join root Config.fileName))

/-- What a file of some content sets. -/
def settingsOfBytes (shown : String) (content : ByteArray) : Except ConfigFault Settings :=
  match String.fromUTF8? content with
  | some text => Config.settingsOfText shown text
  | none => .error (.ofKind (.unreadable FileError.notText.text))

theorem settingsOfBytes_toUTF8 (shown text : String) :
    settingsOfBytes shown text.toUTF8 = Config.settingsOfText shown text := by
  have valid : text.toUTF8.IsValidUTF8 := text.isValidUTF8
  rw [settingsOfBytes, String.fromUTF8?, dif_pos valid]
  rfl

theorem foundSettings_of_found? {file : String} {content : ByteArray}
    (found : d.found? working path = some file) (holds : d.readBytes working file = .ok content) :
    d.foundSettings working path =
      settingsOfBytes (Path.relative file (Path.ofSteps working)) content := by
  rw [foundSettings, found, settingsOfBytes]
  simp only [read, holds, Except.bind, decode]
  cases String.fromUTF8? content <;> rfl

theorem WorksIn.found?_of_isFile (works : d.WorksIn working) (named : Path.names path ≠ [])
    (there : d.isFile working path = true) :
    d.found? working path = some (Path.join (Path.ofSteps working) path) := by
  rw [found?]
  split
  · next absolute => rw [Path.join, absolute, Bool.true_or, if_pos rfl, List.find?_singleton, there]
                     rfl
  · obtain ⟨above, nearest⟩ := Path.ancestors_ofSteps works.named
    have own : d.isFile working (Path.join (Path.ofSteps working) path) = true := by
      rw [isFile, works.readBytes_join named, ← isFile, there]
    rw [nearest, List.map_cons, List.find?_cons_of_pos own]

theorem found?_eq_none_iff (works : d.WorksIn working) (named : Path.names path ≠ [])
    (absent : d.isFile working path = false) :
    d.found? working path = none ↔
      Path.isAbsolute path = true ∨
        ∀ above ∈ (Path.ancestors (Path.ofSteps working)).tail,
          d.isFile working (Path.join above path) = false := by
  rw [found?]
  split
  · next absolute => simp [absolute, absent]
  · next relative =>
      obtain ⟨above, nearest⟩ := Path.ancestors_ofSteps works.named
      have own : d.isFile working (Path.join (Path.ofSteps working) path) = false := by
        rw [isFile, works.readBytes_join named, ← isFile, absent]
      simp [nearest, own, relative]

theorem Alike.found?_eq (alike : d.Alike d') (working : List String) (path : String) :
    d'.found? working path = d.found? working path := by
  simp only [found?, funext (alike.isFile_eq working)]

theorem names_join_fileName (root : String) : Path.names (Path.join root Config.fileName) ≠ [] := by
  have last : Path.names Config.fileName ≠ [] := by decide
  rw [Path.names_join (by decide)]
  exact List.append_ne_nil_of_right_ne_nil _ last

theorem isAbsolute_join_fileName (root : String) :
    Path.isAbsolute (Path.join root Config.fileName) = Path.isAbsolute root := by
  have relative : Path.isAbsolute Config.fileName = false := by decide
  rw [Path.isAbsolute_join, relative, Bool.or_false]

/-- The content of a file that is found makes a difference. -/
theorem exists_loadedFor_ne {env : Environment} {root file : String}
    (found : d.found? working (Path.join root Config.fileName) = some file)
    (r : Except ConfigFault Config) :
    ∃ d', d.Alike d' ∧ d'.loadedFor working env root ≠ r := by
  have there : d.isFile working file = true := by
    rw [found?] at found
    split at found <;> exact List.find?_some found
  have fails (text : String) (e : ConfigFault)
      (malformed : ∀ shown, Config.settingsOfText shown text = .error e) :
      ∃ d', d.Alike d' ∧ d'.loadedFor working env root = .error e := by
    obtain ⟨d', alike, holds⟩ := exists_alike_of_isFile there text.toUTF8
    refine ⟨d', alike, ?_⟩
    rw [loadedFor_eq, foundSettings_of_found? ((alike.found?_eq working _).trans found) holds,
      settingsOfBytes_toUTF8, malformed]
    rfl
  obtain ⟨d₁, alike₁, first⟩ := fails "=" (.ofKind (.malformed 1 1)) fun _ => rfl
  obtain ⟨d₂, alike₂, second⟩ := fails "\n=" (.ofKind (.malformed 2 1)) fun _ => rfl
  by_cases same : r = .error (.ofKind (.malformed 1 1))
  · refine ⟨d₂, alike₂, fun loaded => ?_⟩
    cases second.symm.trans (loaded.trans same)
  · exact ⟨d₁, alike₁, fun loaded => same (loaded.symm.trans first)⟩

theorem content?_eq_none_iff : d.content? working path = none ↔ d.isFile working path = false := by
  rw [isFile_eq_isSome, Option.isSome_eq_false_iff, Option.isNone_iff_eq_none]

theorem loadedFor_of_absent (works : d.WorksIn working) {env : Environment} {root : String}
    (absent : d.content? working (Path.join root Config.fileName) = none)
    (near : Path.isAbsolute root = true ∨ ¬ Strays working (Path.join root Config.fileName)) :
    d.loadedFor working env root = Config.layered [] env := by
  have unfound : d.found? working (Path.join root Config.fileName) = none := by
    rw [found?_eq_none_iff works (names_join_fileName root) (content?_eq_none_iff.mp absent),
      isAbsolute_join_fileName]
    refine near.imp_right fun stays above listed => ?_
    rw [← Bool.not_eq_true]
    exact fun there => stays ⟨d, works, absent, above, listed, there⟩
  rw [loadedFor_eq, foundSettings, unfound]
  rfl

theorem loadedFor_of_content? (works : d.WorksIn working) {env : Environment} {root : String}
    {content : ByteArray}
    (holds : d.content? working (Path.join root Config.fileName) = some content) :
    d.loadedFor working env root =
      settingsOfBytes (Path.relative (Path.join (Path.ofSteps working)
        (Path.join root Config.fileName)) (Path.ofSteps working)) content >>=
          (Config.layered · env) := by
  have named := names_join_fileName root
  have there : d.isFile working (Path.join root Config.fileName) = true := by
    rw [isFile_eq_isSome, holds]
    rfl
  have bytes := works.readBytes_join named
  rw [content?] at holds
  rw [eq_ok_of_toOption holds] at bytes
  rw [loadedFor_eq, foundSettings_of_found? (works.found?_of_isFile named there) bytes]

/-- What is loaded for a root comes from its own file exactly if the root is absolute, if its file
is there, or if no directory above the working directory can lead to one instead. -/
theorem loadsOwn_iff (works : d.WorksIn working) (env : Environment) (root : String) :
    d.LoadsOwn working env root ↔
      Path.isAbsolute root = true ∨
        (d.content? working (Path.join root Config.fileName)).isSome = true ∨
          ¬ Strays working (Path.join root Config.fileName) := by
  cases own : d.content? working (Path.join root Config.fileName) with
  | some content =>
      refine iff_of_true ⟨fun d' works' same => ?_, fun absent => ?_⟩ (.inr (.inl rfl))
      · rw [loadedFor_of_content? works own, loadedFor_of_content? works' (same.trans own)]
      · cases own.symm.trans absent
  | none =>
      rw [Option.isSome_none, or_iff_right Bool.false_ne_true]
      constructor
      · intro loads
        refine or_iff_not_imp_left.mpr fun relative strays => ?_
        obtain ⟨stray, worksThere, absent, above, listed, there⟩ := strays
        have strayed := found?_eq_none_iff worksThere (names_join_fileName root)
          (content?_eq_none_iff.mp absent)
        cases found : stray.found? working (Path.join root Config.fileName) with
        | none =>
            rw [isAbsolute_join_fileName] at strayed
            obtain absolute | none := strayed.mp found
            · exact relative absolute
            · rw [none above listed] at there
              cases there
        | some file =>
            obtain ⟨d', alike, differs⟩ := exists_loadedFor_ne found (d.loadedFor working env root)
            have absent' : d'.content? working (Path.join root Config.fileName) = none :=
              content?_eq_none_iff.mpr
                ((alike.isFile_eq working _).trans (content?_eq_none_iff.mp absent))
            exact differs (loads.same d' (alike.worksIn worksThere) (absent'.trans own.symm))
      · intro near
        refine ⟨fun d' works' same => ?_, fun _ => loadedFor_of_absent works own near⟩
        rw [loadedFor_of_absent works own near, loadedFor_of_absent works' (same.trans own) near]

/-- A project in a directory, with a directory for an application in it. -/
def project : Disk := ⟨[(["p"], .directory), (["p", "app"], .directory)]⟩

/-- The project has a file, and its application has none. -/
def contextProject : Disk :=
  project.put ["p", "rdt.toml"] (.file "preset = \"context\"\n".toUTF8)

theorem contextProject_loadsOwn :
    contextProject.WorksIn ["p"] ∧ contextProject.LoadsOwn ["p"] [] "." := by
  have named : Path.IsName "p" := ⟨by decide, by decide, List.forall_mem_singleton.mpr (by decide)⟩
  have works : contextProject.WorksIn ["p"] := ⟨List.forall_mem_singleton.mpr named, rfl⟩
  exact ⟨works, (loadsOwn_iff works [] ".").mpr (.inr (.inl (by decide +kernel)))⟩

/-- The application has no file of its own and works with the one of the project above it. -/
theorem contextProject_strays :
    contextProject.content? ["p", "app"] (Path.join "." Config.fileName) = none ∧
      project.content? ["p", "app"] (Path.join "." Config.fileName) = none ∧
      contextProject.loadedFor ["p", "app"] [] "." =
        .ok { Config.standard with preset := .context } ∧
      project.loadedFor ["p", "app"] [] "." = .ok Config.standard := by
  have strayed : (contextProject.loadedFor ["p", "app"] [] ".").toOption =
      some { Config.standard with preset := .context } := by decide +kernel
  have plain : (project.loadedFor ["p", "app"] [] ".").toOption = some Config.standard := by
    decide +kernel
  exact ⟨by decide +kernel, by decide +kernel, eq_ok_of_toOption strayed, eq_ok_of_toOption plain⟩

end Disk

end RouteWrap
