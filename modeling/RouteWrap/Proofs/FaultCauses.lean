import RouteWrap.Proofs.DiskRuns

/-!
Why commands fail, on whatever host. A run comes to a cause, which tells what was asked for when it
went wrong, and its fault is all that is kept of the cause: of a file that is not there it is not
told whether it should have been read or written. So a fault names its cause unless there is no
place for the output.
-/

namespace RouteWrap

variable {N : Type} [FileName N] {σ : Type}

namespace Command

variable (command : Command N) (host : Host N (StateM σ)) (s : σ) (env : Environment)
  (file : Option N)

/-- The cause is what goes wrong first. -/
inductive Arises : Cause N → Prop
  | configuration {f : ConfigFault} (refused : host.loads s env file = .error f) :
      Arises (.configuration f)
  | presets {c : Config} {f : PresetFault} (loaded : host.loads s env file = .ok c)
      (refused : (command.configured c).instrumenter = .error f) : Arises (.presets f)
  | unread {i : Instrumenter} {before after : List N} {path : N} {e : FileError}
      (prepared : command.prepares host s env file = .ok i)
      (files : command.files = before ++ path :: after)
      (earlier : ∀ p ∈ before, ∃ t, command.transforms host s i p = .ok t)
      (refused : host.reads s path = .error e) : Arises (.unread path e)
  | untransformed {i : Instrumenter} {before after : List N} {path : N} {source : String}
      {e : ParseError} (prepared : command.prepares host s env file = .ok i)
      (files : command.files = before ++ path :: after)
      (earlier : ∀ p ∈ before, ∃ t, command.transforms host s i p = .ok t)
      (read : host.reads s path = .ok source)
      (refused : i.transform source (command.routeOf path)
        ⟨Dialect.ofPath (FileName.shown path), false⟩ = .error e) :
      Arises (.untransformed path source e)
  | unspelled {a : InspectArguments N} {ts : List Transformed} {before after : List N} {path : N}
      {noText : FileName.text? path = none} (inspects : command = .inspect a) (json : a.json = true)
      (transformed : command.prepared host s env file = .ok ts)
      (files : command.files = before ++ path :: after)
      (earlier : ∀ p ∈ before, FileName.text? p ≠ none) : Arises (.unspelled path noText)
  | unwritten {i : Instrumenter} {a : InstrumentArguments N} {out : N} {t : Transformed}
      {e : FileError} (prepared : command.prepares host s env file = .ok i)
      (instruments : command = .instrument a) (named : a.out = some out)
      (transformed : command.transforms host s i a.file = .ok t)
      (refused : host.writes s out t.code = .error e) : Arises (.unwritten out e)
  | unprinted {i : Instrumenter} {a : InstrumentArguments N} {t : Transformed} {e : FileError}
      (prepared : command.prepares host s env file = .ok i)
      (instruments : command = .instrument a) (unnamed : a.out = none)
      (transformed : command.transforms host s i a.file = .ok t)
      (refused : host.prints s t.code = .error e) : Arises (.unprinted e)

/-- The fault tells the cause: a file is missing only if it is an input that is not there, and any
other failure to read or write is one of the file, or of the standard output. A module is at fault
just where it was read and not transformed, the settings are just where they could not be loaded or
make no presets, and JSON is just where it has no text for a name. -/
structure Tells (f : CommandFault N) (cause : Cause N) : Prop where
  missing : ∀ path, f = .missingFile path →
    path ∈ command.files ∧ host.reads s path = .error .notFound
  file : ∀ path e, (cause = .unread path e ∧ e ≠ .notFound) ∨ cause = .unwritten path e →
    f = .file path e
  console : ∀ e, cause = .unprinted e → f = .file Process.stdoutName e
  module : (∃ path source e, f = .module path source e) ↔
    ∃ path source e, cause = .untransformed path source e
  settings : ((∃ g, f = .config g) ∨ ∃ g, f = .preset g) ↔
    (∃ g, cause = .configuration g) ∨ ∃ g, cause = .presets g
  json : (∃ path noText, f = .json path noText) ↔ ∃ path noText, cause = .unspelled path noText

variable {command host s env file} {cause : Cause N}

theorem prepares_eq_error_iff :
    command.prepares host s env file = .error cause ↔
      (∃ f, host.loads s env file = .error f ∧ .configuration f = cause) ∨
        ∃ c, host.loads s env file = .ok c ∧
          ∃ f, (command.configured c).instrumenter = .error f ∧ .presets f = cause := by
  simp only [prepares, bind_eq_error_iff, mapError_eq_error_iff, mapError_eq_ok_iff]

theorem transforms_eq_error_iff {i : Instrumenter} {path : N} :
    command.transforms host s i path = .error cause ↔
      (∃ e, host.reads s path = .error e ∧ .unread path e = cause) ∨
        ∃ source, host.reads s path = .ok source ∧
          ∃ e, i.transform source (command.routeOf path)
            ⟨Dialect.ofPath (FileName.shown path), false⟩ = .error e ∧
              .untransformed path source e = cause := by
  simp only [transforms, bind_eq_error_iff, mapError_eq_error_iff, mapError_eq_ok_iff]

/-- What goes wrong before anything is delivered is what goes wrong first. -/
theorem arises_of_prepared (failed : command.prepared host s env file = .error cause) :
    command.Arises host s env file cause := by
  obtain failed | ⟨i, prepared, failed⟩ := bind_eq_error_iff.mp failed
  · obtain ⟨f, refused, rfl⟩ | ⟨c, loaded, f, refused, rfl⟩ := prepares_eq_error_iff.mp failed
    · exact .configuration refused
    · exact .presets loaded refused
  · obtain ⟨before, path, after, files, earlier, failed⟩ := mapM_eq_error_iff.mp failed
    obtain ⟨e, refused, rfl⟩ | ⟨source, read, e, refused, rfl⟩ :=
      transforms_eq_error_iff.mp failed
    · exact .unread prepared files earlier refused
    · exact .untransformed prepared files earlier read refused

theorem prepared_eq_error {i : Instrumenter} {before after : List N} {path : N}
    (prepared : command.prepares host s env file = .ok i)
    (files : command.files = before ++ path :: after)
    (earlier : ∀ p ∈ before, ∃ t, command.transforms host s i p = .ok t)
    (failed : command.transforms host s i path = .error cause) :
    command.prepared host s env file = .error cause :=
  bind_eq_error_iff.mpr <| .inr
    ⟨i, prepared, mapM_eq_error_iff.mpr ⟨before, path, after, files, earlier, failed⟩⟩

end Command

/-! Names in reports -/

theorem FileReport.json_eq_error_iff {r : FileReport N} {n : UnspelledName N} :
    r.json = .error n ↔ r.file = n.name := by
  obtain ⟨name, noText⟩ := n
  unfold json
  split
  · next spelled =>
      refine ⟨nofun, fun same => ?_⟩
      rw [same, noText] at spelled
      cases spelled
  · simp only [Except.error.injEq, UnspelledName.mk.injEq]

theorem FileReport.exists_json_eq_ok_iff {r : FileReport N} :
    (∃ v, r.json = .ok v) ↔ FileName.text? r.file ≠ none := by
  constructor
  · rintro ⟨v, made⟩ noText
    have fails : r.json = .error ⟨r.file, noText⟩ := json_eq_error_iff.mpr rfl
    cases fails.symm.trans made
  · intro spelled
    cases made : r.json with
    | ok v => exact ⟨v, rfl⟩
    | error n => exact absurd (json_eq_error_iff.mp made ▸ n.unspelled) spelled

theorem FileReport.files_ofTransformed {holds : N → Transformed → Prop} {paths : List N}
    {ts : List Transformed} (each : List.Forall₂ holds paths ts) :
    (paths.zipWith ofTransformed ts).map file = paths := by
  induction each with
  | nil => rfl
  | @cons path _ _ _ _ _ ih => exact congrArg (path :: ·) ih

namespace InspectArguments

variable {a : InspectArguments N} {host : Host N (StateM σ)} {s : σ} {env : Environment}
  {color : Bool} {file : Option N} {cause : Cause N}

theorem files_of_reported {rs : List (FileReport N)}
    (reported : a.reported host s env file = .ok rs) : rs.map FileReport.file = a.files := by
  obtain ⟨ts, prepared, rfl⟩ := map_eq_ok_iff.mp reported
  obtain ⟨i, -, transformed⟩ := bind_eq_ok_iff.mp prepared
  exact FileReport.files_ofTransformed (mapM_eq_ok_iff.mp transformed)

/-- The reports are not put in JSON if the name of a file is no text, and the first such name is
told. -/
theorem text_eq_error_iff {rs : List (FileReport N)} {n : UnspelledName N} :
    a.text color rs = .error n ↔ a.json = true ∧
      ∃ before after, rs.map FileReport.file = before ++ n.name :: after ∧
        ∀ p ∈ before, FileName.text? p ≠ none := by
  cases json : a.json with
  | false => simp [text, json]
  | true =>
      have fails : a.text color rs = .error n ↔ rs.mapM FileReport.json = .error n := by
        rw [text, json, if_pos rfl]
        exact map_eq_error_iff
      rw [fails, mapM_eq_error_iff]
      constructor
      · rintro ⟨before, r, after, rfl, earlier, failed⟩
        refine ⟨rfl, before.map FileReport.file, after.map FileReport.file, ?_, ?_⟩
        · rw [List.map_append, List.map_cons, FileReport.json_eq_error_iff.mp failed]
        · rintro _ named
          obtain ⟨b, listed, rfl⟩ := List.mem_map.mp named
          exact FileReport.exists_json_eq_ok_iff.mp (earlier b listed)
      · rintro ⟨-, before, after, files, earlier⟩
        obtain ⟨first, rest, rfl, rfl, split⟩ := List.map_eq_append_iff.mp files
        obtain ⟨r, after, rfl, same, rfl⟩ := List.map_eq_cons_iff.mp split
        refine ⟨first, r, after, rfl, fun b listed => ?_, FileReport.json_eq_error_iff.mpr same⟩
        exact FileReport.exists_json_eq_ok_iff.mpr (earlier _ (List.mem_map_of_mem listed))

theorem rendered_eq_error_iff :
    a.rendered host s env color file = .error cause ↔
      (Command.inspect a).prepared host s env file = .error cause ∨
        ∃ rs, a.reported host s env file = .ok rs ∧
          ∃ n, a.text color rs = .error n ∧ .unspelled n.name n.unspelled = cause := by
  rw [rendered, bind_eq_error_iff, reported, map_eq_error_iff]
  simp only [mapError_eq_error_iff]

end InspectArguments

namespace InstrumentArguments

variable {a : InstrumentArguments N} {host : Host N (StateM σ)} {s : σ} {env : Environment}
  {color : Bool} {file : Option N} {cause : Cause N}

theorem made_eq_error_iff :
    a.made host s env file = .error cause ↔
      (Command.instrument a).prepared host s env file = .error cause := by
  rw [prepared_eq, map_eq_error_iff]

theorem made_eq_ok_iff {t : Transformed} :
    a.made host s env file = .ok t ↔
      ∃ i, (Command.instrument a).prepares host s env file = .ok i ∧
        (Command.instrument a).transforms host s i a.file = .ok t := by
  rw [made, bind_eq_ok_iff]

theorem delivered_eq_error_iff {t : Transformed} :
    (a.delivered host s color t).1 = .error cause ↔
      (∃ out, a.out = some out ∧
        ∃ e, host.writes s out t.code = .error e ∧ .unwritten out e = cause) ∨
      a.out = none ∧ ∃ e, host.prints s t.code = .error e ∧ .unprinted e = cause := by
  rw [delivered]
  cases a.out with
  | some out =>
      refine (map_eq_error_iff.trans mapError_eq_error_iff).trans ?_
      simp
  | none =>
      refine (map_eq_error_iff.trans mapError_eq_error_iff).trans ?_
      simp

theorem course_eq_error_iff :
    (a.course host s env color file).1 = .error cause ↔
      (Command.instrument a).prepared host s env file = .error cause ∨
        ∃ t, a.made host s env file = .ok t ∧ (a.delivered host s color t).1 = .error cause := by
  rw [course, ← made_eq_error_iff]
  cases a.made host s env file with
  | error other => simp
  | ok t => simp

end InstrumentArguments

/-! What faults tell of causes -/

namespace Command

variable {command : Command N} {host : Host N (StateM σ)} {s : σ} {env : Environment}
  {color : Bool} {file : Option N} {cause : Cause N}

theorem course_eq_error_iff :
    (command.course host s env color file).1 = .error cause ↔
      command.Arises host s env file cause := by
  constructor
  · intro failed
    cases command with
    | inspect a =>
        obtain failed | ⟨rs, reported, ⟨path, noText⟩, unwritable, rfl⟩ :=
          InspectArguments.rendered_eq_error_iff.mp (Host.ends_eq_error_iff.mp failed)
        · exact arises_of_prepared failed
        · obtain ⟨json, before, after, files, earlier⟩ :=
            InspectArguments.text_eq_error_iff.mp unwritable
          obtain ⟨ts, prepared, -⟩ := map_eq_ok_iff.mp reported
          rw [InspectArguments.files_of_reported reported] at files
          exact .unspelled rfl json prepared files earlier
    | instrument a =>
        obtain failed | ⟨t, made, failed⟩ := InstrumentArguments.course_eq_error_iff.mp failed
        · exact arises_of_prepared failed
        · obtain ⟨i, prepared, transformed⟩ := InstrumentArguments.made_eq_ok_iff.mp made
          obtain ⟨out, named, e, refused, rfl⟩ | ⟨unnamed, e, refused, rfl⟩ :=
            InstrumentArguments.delivered_eq_error_iff.mp failed
          · exact .unwritten prepared rfl named transformed refused
          · exact .unprinted prepared rfl unnamed transformed refused
  · have early (failed : command.prepared host s env file = .error cause) :
        (command.course host s env color file).1 = .error cause := by
      cases command with
      | inspect a =>
          exact Host.ends_eq_error_iff.mpr
            (InspectArguments.rendered_eq_error_iff.mpr (.inl failed))
      | instrument a => exact InstrumentArguments.course_eq_error_iff.mpr (.inl failed)
    intro arises
    cases arises with
    | configuration refused =>
        refine early (bind_eq_error_iff.mpr (.inl ?_))
        exact prepares_eq_error_iff.mpr (.inl ⟨_, refused, rfl⟩)
    | presets loaded refused =>
        refine early (bind_eq_error_iff.mpr (.inl ?_))
        exact prepares_eq_error_iff.mpr (.inr ⟨_, loaded, _, refused, rfl⟩)
    | unread prepared files earlier refused =>
        refine early (prepared_eq_error prepared files earlier ?_)
        exact transforms_eq_error_iff.mpr (.inl ⟨_, refused, rfl⟩)
    | untransformed prepared files earlier read refused =>
        refine early (prepared_eq_error prepared files earlier ?_)
        exact transforms_eq_error_iff.mpr (.inr ⟨_, read, _, refused, rfl⟩)
    | @unspelled a ts before after path noText inspects json transformed files earlier =>
        subst inspects
        have reported : a.reported host s env file = .ok (a.files.zipWith .ofTransformed ts) :=
          map_eq_ok_iff.mpr ⟨ts, transformed, rfl⟩
        refine Host.ends_eq_error_iff.mpr (InspectArguments.rendered_eq_error_iff.mpr
          (.inr ⟨_, reported, ⟨path, noText⟩, ?_, rfl⟩))
        rw [InspectArguments.text_eq_error_iff, InspectArguments.files_of_reported reported]
        exact ⟨json, before, after, files, earlier⟩
    | @unwritten i a out t e prepared instruments named transformed refused =>
        subst instruments
        refine InstrumentArguments.course_eq_error_iff.mpr (.inr ⟨t, ?_, ?_⟩)
        · exact InstrumentArguments.made_eq_ok_iff.mpr ⟨_, prepared, transformed⟩
        · exact InstrumentArguments.delivered_eq_error_iff.mpr (.inl ⟨_, named, _, refused, rfl⟩)
    | @unprinted i a t e prepared instruments unnamed transformed refused =>
        subst instruments
        refine InstrumentArguments.course_eq_error_iff.mpr (.inr ⟨t, ?_, ?_⟩)
        · exact InstrumentArguments.made_eq_ok_iff.mpr ⟨_, prepared, transformed⟩
        · exact InstrumentArguments.delivered_eq_error_iff.mpr (.inr ⟨unnamed, _, refused, rfl⟩)

theorem Arises.unique {other : Cause N} (arises : command.Arises host s env file cause)
    (again : command.Arises host s env file other) : cause = other := by
  have failed : (command.course host s env false file).1 = .error cause :=
    course_eq_error_iff.mpr arises
  exact Except.error.inj (failed.symm.trans (course_eq_error_iff.mpr again))

/-- What is reported of a cause tells it unless it is that there is no place for the output. -/
theorem Arises.tells_iff (arises : command.Arises host s env file cause) :
    command.Tells host s cause.fault cause ↔
      (∀ out, cause ≠ .unwritten out .notFound) ∧ cause ≠ .unprinted .notFound := by
  constructor
  · intro tells
    constructor
    · rintro out rfl
      cases tells.file out .notFound (.inr rfl)
    · rintro rfl
      cases tells.console .notFound rfl
  intro told
  cases arises with
  | configuration refused =>
      exact ⟨nofun, by simp, by simp, by simp [Cause.fault], by simp [Cause.fault],
        by simp [Cause.fault]⟩
  | presets loaded refused =>
      exact ⟨nofun, by simp, by simp, by simp [Cause.fault], by simp [Cause.fault],
        by simp [Cause.fault]⟩
  | @unread i before after path e prepared files earlier refused =>
      have input : path ∈ command.files := files ▸ List.mem_append_right before List.mem_cons_self
      simp only [Cause.fault]
      obtain ⟨rfl, fault⟩ | ⟨other, fault⟩ := CommandFault.ofFileError_cases path e
      · rw [fault]
        refine ⟨fun p same => ?_, by simp, by simp, by simp, by simp, by simp⟩
        cases same
        exact ⟨input, refused⟩
      · rw [fault]
        exact ⟨nofun, by simp, by simp, by simp, by simp, by simp⟩
  | untransformed prepared files earlier read refused =>
      exact ⟨nofun, by simp, by simp, by simp [Cause.fault], by simp [Cause.fault],
        by simp [Cause.fault]⟩
  | unspelled inspects json transformed files earlier =>
      exact ⟨nofun, by simp, by simp, by simp [Cause.fault], by simp [Cause.fault],
        by simp [Cause.fault]⟩
  | @unwritten i a out t e prepared instruments named transformed refused =>
      have other : e ≠ .notFound := fun same => told.1 out (same ▸ rfl)
      obtain ⟨same, -⟩ | ⟨-, fault⟩ := CommandFault.ofFileError_cases out e
      · exact absurd same other
      · rw [Cause.fault, fault]
        exact ⟨nofun, by simp, by simp, by simp, by simp, by simp⟩
  | @unprinted i a t e prepared instruments unnamed transformed refused =>
      have other : e ≠ .notFound := fun same => told.2 (same ▸ rfl)
      obtain ⟨same, -⟩ | ⟨-, fault⟩ :=
        CommandFault.ofFileError_cases (Process.stdoutName : N) e
      · exact absurd same other
      · rw [Cause.fault, fault]
        exact ⟨nofun, by simp, by simp, by simp, by simp, by simp⟩

end Command

namespace CommandLine

/-- A run that fails has one cause, and its fault tells it just where the cause is not that there is
no place for the output. -/
theorem faults_tell_iff {l : CommandLine N} {host : Host N (StateM σ)} {s : σ} {env : Environment}
    {terminal : Bool} {f : CommandFault N} (steady : host.Steady)
    (failed : ((l.run host env terminal).run s).1 = .error f) :
    ∃ cause, (∀ other, l.command.Arises host s env l.config other ↔ other = cause) ∧
      (l.command.Tells host s f cause ↔
        (∀ out, cause ≠ .unwritten out .notFound) ∧ cause ≠ .unprinted .notFound) := by
  have ran := congrArg Prod.fst (l.runOn_eq host s env terminal steady)
  obtain ⟨cause, course, same⟩ := mapError_eq_error_iff.mp (ran.symm.trans failed)
  have arises := Command.course_eq_error_iff.mp course
  refine ⟨cause, fun other => ⟨fun again => again.unique arises, fun same => same ▸ arises⟩, ?_⟩
  rw [← same]
  exact arises.tells_iff

/-- `rdt instrument a.js -o gone/a.js` -/
def writingAway : CommandLine :=
  ⟨false, false, false, none, .instrument ⟨"a.js", none, none, some "gone/a.js", false, false⟩⟩

def holdingInput : Disk := Disk.empty.addFile ["a.js"] "".toUTF8

theorem run_writingAway :
    ((writingAway.run (Disk.host []) [] false).run holdingInput).1 =
      .error (.missingFile "gone/a.js") := by
  rfl

theorem writingAway_untold :
    (Disk.host []).Steady ∧
      ((writingAway.run (Disk.host []) [] false).run holdingInput).1 =
        .error (.missingFile "gone/a.js") ∧
      ∃ cause, writingAway.command.Arises (Disk.host []) holdingInput [] none cause ∧
        ¬ writingAway.command.Tells (Disk.host []) holdingInput (.missingFile "gone/a.js")
          cause := by
  have steady := Disk.steady_host []
  obtain ⟨cause, unique, tells⟩ := faults_tell_iff steady run_writingAway
  have arises : writingAway.command.Arises (Disk.host []) holdingInput [] none
      (.unwritten "gone/a.js" .notFound) := .unwritten rfl rfl rfl rfl rfl
  obtain rfl := (unique _).mp arises
  refine ⟨steady, run_writingAway, _, arises, fun told => ?_⟩
  exact (tells.mp told).1 "gone/a.js" rfl

/-- The line is accepted and its input is there, and the output is reported as a missing file. -/
theorem writingAway_misnamed :
    parse ["instrument", "a.js", "-o", "gone/a.js"] = .ok writingAway ∧
      (∀ path ∈ writingAway.command.files,
        (Disk.host []).reads holdingInput path = .ok "") ∧
      ((writingAway.run (Disk.host []) [] false).run holdingInput).1 =
        .error (.missingFile "gone/a.js") ∧
      "gone/a.js" ∉ writingAway.command.files :=
  ⟨by decide +kernel, List.forall_mem_singleton.mpr rfl, run_writingAway, by decide⟩

end CommandLine

end RouteWrap
