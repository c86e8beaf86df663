import RouteWrap.Command.Run
import RouteWrap.Proofs.Answers

/-!
What commands come to on a host. Loading the configuration and reading modules leave the state of a
steady host as it is, so a command has three stages that change nothing, the configuration, the
presets and the input files in their order, and then delivers what they come to: a report or code
goes to the standard output, which may refuse it, or code goes to a file.
-/

namespace RouteWrap

variable {N : Type} [FileName N] {σ φ : Type}

/-! What a host answers -/

namespace Host

/-- Asking for what there is changes nothing. -/
structure Steady (host : Host N (StateM σ)) : Prop where
  read : ∀ path s, ((host.read path).run s).2 = s
  isFile : ∀ path s, ((host.isFile path).run s).2 = s
  workingDirectory : ∀ s, (host.workingDirectory.run s).2 = s

variable (host : Host N (StateM σ)) (s : σ)

/-- The bytes of a file. -/
def holds (path : N) : Except FileError ByteArray := ((host.read path).run s).1

/-- The text of a file. -/
def reads (path : N) : Except FileError String := (host.holds s path).bind decode

def writes (path : N) (content : String) : Except FileError Unit :=
  ((host.write path content).run s).1

/-- The state that a write leaves, whatever it answers. -/
def wrote (path : N) (content : String) : σ := ((host.write path content).run s).2

def prints (text : String) : Except FileError Unit := ((host.print text).run s).1

/-- The state with what the standard output took of a text. -/
def printed (text : String) : σ := ((host.print text).run s).2

/-- What a run says that has printed a report. -/
def presented (text : String) : Printed :=
  match host.prints s text with
  | .ok () => { stdout := text, stderr := "" }
  | .error e => { stdout := "", stderr := "", refused := some e }

/-- How a run ends that prints a report if there is one. -/
def ends (r : Except ε String) : Except ε Printed × σ :=
  match r with
  | .error e => (.error e, s)
  | .ok text => (.ok (host.presented s text), host.printed s text)

omit [FileName N] in
theorem ends_mapError (r : Except ε String) (f : ε → ε') :
    host.ends s (r.mapError f) = ((host.ends s r).1.mapError f, (host.ends s r).2) := by
  cases r <;> rfl

omit [FileName N] in
theorem ends_eq_error_iff {host : Host N (StateM σ)} {s : σ} {r : Except ε String} {e : ε} :
    (host.ends s r).1 = .error e ↔ r = .error e := by
  cases r with
  | error => simp [ends]
  | ok => simp [ends]

omit [FileName N] in
theorem exists_of_ends_eq_ok {host : Host N (StateM σ)} {s : σ} {r : Except ε String} {p : Printed}
    (ended : (host.ends s r).1 = .ok p) :
    ∃ text, r = .ok text ∧ p = host.presented s text ∧
      (host.ends s r).2 = host.printed s text := by
  cases r with
  | error => cases ended
  | ok text =>
      cases ended
      exact ⟨text, rfl, rfl, rfl⟩

/-- The configuration of a given file, or of the working directory. -/
def loads (env : Environment) (file : Option N) : Except ConfigFault Config :=
  ((match file with
    | some path => Config.loadFile host env path
    | none => Config.load host env ".").run s).1

/-- A write that is refused changes nothing, and printing leaves the files as they are. -/
structure Orderly (host : Host N (StateM σ)) (files : σ → φ) : Prop extends host.Steady where
  refused : ∀ {s path content e}, host.writes s path content = .error e →
    host.wrote s path content = s
  printed : ∀ s text, files (host.printed s text) = files s

end Host

/-! Steps that keep the state -/

/-- The program leaves every state as it is. -/
def Keeps (x : StateM σ α) : Prop := ∀ s, (x.run s).2 = s

namespace Keeps

theorem pure (a : α) : Keeps (Pure.pure a : StateM σ α) := fun _ => rfl

theorem bind {x : StateM σ α} {f : α → StateM σ β} (first : Keeps x) (next : ∀ a, Keeps (f a)) :
    Keeps (x >>= f) := fun s => (next _ _).trans (first s)

theorem run_eq {x : StateM σ α} (keeps : Keeps x) (s : σ) : x.run s = ((x.run s).1, s) :=
  Prod.ext rfl (keeps s)

end Keeps

namespace Host.Steady

variable {host : Host N (StateM σ)} (steady : host.Steady)

include steady

omit [FileName N] in
theorem keeps_readText (path : N) : Keeps (host.readText path) :=
  .bind (steady.read path) fun _ => .pure _

omit [FileName N] in
theorem keeps_firstFile (paths : List N) : Keeps (Config.firstFile host paths) := by
  induction paths with
  | nil => exact .pure none
  | cons path paths ih =>
      refine .bind (steady.isFile path) fun there => ?_
      split
      · exact .pure _
      · exact ih

theorem keeps_findFile (path : N) : Keeps (Config.findFile host path) := by
  unfold Config.findFile
  split
  · exact steady.keeps_firstFile _
  · exact .bind steady.workingDirectory fun _ => steady.keeps_firstFile _

theorem keeps_loadFound (env : Environment) (path : N) :
    Keeps (Config.loadFound host env path) := by
  refine .bind (steady.keeps_findFile path) fun found => ?_
  split
  · exact .pure _
  · refine .bind steady.workingDirectory fun _ => .bind (steady.keeps_readText _) fun text => ?_
    split <;> exact .pure _

theorem run_loads (s : σ) (env : Environment) (file : Option N) :
    (match file with
      | some path => Config.loadFile host env path
      | none => Config.load host env "." : StateM σ _).run s = (host.loads s env file, s) := by
  refine Keeps.run_eq ?_ s
  cases file with
  | none => exact steady.keeps_loadFound env _
  | some path =>
      refine .bind (steady.isFile path) fun there => ?_
      split
      · exact steady.keeps_loadFound env path
      · exact .pure _

end Host.Steady

/-! Causes -/

/-- What goes wrong first in a run that fails. -/
inductive Cause (N : Type) [FileName N]
  | configuration (f : ConfigFault)
  | presets (f : PresetFault)
  | unread (path : N) (e : FileError)
  | untransformed (path : N) (source : String) (e : ParseError)
  /-- The name of an inspected file cannot be put in JSON. -/
  | unspelled (path : N) (noText : FileName.text? path = none)
  | unwritten (path : N) (e : FileError)
  /-- The standard output refuses the code of a module. -/
  | unprinted (e : FileError)

/-- What is reported of a cause. -/
def Cause.fault : Cause N → CommandFault N
  | configuration f => .config f
  | presets f => .preset f
  | unread path e | unwritten path e => .ofFileError path e
  | untransformed path source e => .module path source e
  | unspelled path noText => .json path noText
  | unprinted e => .ofFileError Process.stdoutName e

theorem CommandFault.ofFileError_cases (path : N) (e : FileError) :
    e = .notFound ∧ ofFileError path e = .missingFile path ∨
      e ≠ .notFound ∧ ofFileError path e = .file path e := by
  cases e with
  | notFound => exact .inl ⟨rfl, rfl⟩
  | _ => exact .inr ⟨nofun, rfl⟩

/-! Commands step by step -/

namespace CommandM

variable {s s' : σ}

theorem run_lift {x : StateM σ α} {a : α} (ran : x.run s = (a, s')) :
    (liftM x : CommandM N (StateM σ) α).run.run s = (.ok a, s') := by
  change (do let (a, s) ← x.run s; pure (Except.ok a, s) : Id (Except (CommandFault N) α × σ)) = _
  rw [ran]
  rfl

variable {x : CommandM N (StateM σ) α} {f : α → CommandM N (StateM σ) β}

theorem run_bind_of_ok {a : α} (ran : x.run.run s = (.ok a, s')) :
    (x >>= f).run.run s = (f a).run.run s' := by
  rw [ExceptT.run_bind, StateT.run_bind, ran]
  rfl

theorem run_bind_of_error {e : CommandFault N} (ran : x.run.run s = (.error e, s')) :
    (x >>= f).run.run s = (.error e, s') := by
  rw [ExceptT.run_bind, StateT.run_bind, ran]
  rfl

/-- The program comes to what is given, or to the fault of the cause, and keeps the state. -/
def ComesTo (x : CommandM N (StateM σ) α) (s : σ) (r : Except (Cause N) α) : Prop :=
  x.run.run s = (r.mapError Cause.fault, s)

theorem ComesTo.pure (a : α) : ComesTo (Pure.pure a : CommandM N (StateM σ) α) s (.ok a) := rfl

/-- Steps that keep the state are put together like what they come to. -/
theorem ComesTo.bind {r : Except (Cause N) α} {g : α → Except (Cause N) β}
    (first : ComesTo x s r) (next : ∀ a, ComesTo (f a) s (g a)) :
    ComesTo (x >>= f) s (r >>= g) := by
  cases r with
  | error cause => exact run_bind_of_error first
  | ok a => exact (run_bind_of_ok first).trans (next a)

theorem ComesTo.of_eq {r r' : Except (Cause N) α} (comes : ComesTo x s r) (same : r = r') :
    ComesTo x s r' := same ▸ comes

end CommandM

open CommandM

namespace Command

def preset : Command N → Option PresetChoice
  | instrument a => a.preset
  | inspect a => a.preset

def files : Command N → List N
  | instrument a => [a.file]
  | inspect a => a.files

/-- The route of an input file. -/
def routeOf : Command N → N → String
  | instrument a, path => a.routeId.getD (Process.defaultRouteId path)
  | inspect _, path => Process.defaultRouteId path

def adjust : Command N → Config → Config
  | instrument a, c => a.adjust c
  | inspect _, c => c

variable (command : Command N) (host : Host N (StateM σ)) (s : σ) (env : Environment)
  (file : Option N)

/-- The configuration with what the command sets over it. -/
def configured (c : Config) : Config :=
  command.adjust { c with preset := (command.preset.map PresetChoice.kind).getD c.preset }

/-- The instrumenter that the configuration makes. -/
def prepares : Except (Cause N) Instrumenter := do
  let c ← (host.loads s env file).mapError .configuration
  (command.configured c).instrumenter.mapError .presets

/-- What becomes of the module in an input file. -/
def transforms (i : Instrumenter) (path : N) : Except (Cause N) Transformed := do
  let source ← (host.reads s path).mapError (.unread path)
  (i.transform source (command.routeOf path) ⟨Dialect.ofPath (FileName.shown path), false⟩).mapError
    (.untransformed path source)

/-- The configuration, the presets and then the input files, one after the other. -/
def prepared : Except (Cause N) (List Transformed) := do
  let i ← command.prepares host s env file
  command.files.mapM (command.transforms host s i)

end Command

namespace Host.Steady

variable {host : Host N (StateM σ)} (steady : host.Steady) (s : σ) (env : Environment)
  (color : Bool) (command : Command N)

include steady

theorem comesTo_transformFile (i : Instrumenter) (path : N) :
    ComesTo (Process.transformFile ⟨host, env, color⟩ i path (command.routeOf path)) s
      (command.transforms host s i path) := by
  have ran : (host.readText path).run s = (host.reads s path, s) :=
    Keeps.run_eq (steady.keeps_readText path) s
  refine (run_bind_of_ok (run_lift ran)).trans ?_
  rw [Command.transforms]
  cases host.reads s path with
  | error e => rfl
  | ok source =>
      change _ = (((i.transform source (command.routeOf path)
        ⟨Dialect.ofPath (FileName.shown path), false⟩).mapError
          (.untransformed path source)).mapError Cause.fault, s)
      dsimp only
      cases i.transform source (command.routeOf path)
        ⟨Dialect.ofPath (FileName.shown path), false⟩ <;> rfl

theorem comesTo_loadConfig (file : Option N) (preset : Option PresetChoice) :
    ComesTo (Process.loadConfig ⟨host, env, color⟩ file preset) s
      (((host.loads s env file).mapError Cause.configuration).map fun c =>
        { c with preset := (preset.map PresetChoice.kind).getD c.preset }) := by
  refine (run_bind_of_ok (run_lift (steady.run_loads s env file))).trans ?_
  cases host.loads s env file <;> rfl

theorem comesTo_prepares (file : Option N) :
    ComesTo (Process.loadConfig ⟨host, env, color⟩ file command.preset >>= fun c =>
      Process.instrumenter (command.adjust c)) s (command.prepares host s env file) := by
  have makes (c : Config) : ComesTo (N := N) (Process.instrumenter c) s
      (c.instrumenter.mapError Cause.presets) := by
    rw [ComesTo, Process.instrumenter]
    cases c.instrumenter <;> rfl
  refine (ComesTo.bind (steady.comesTo_loadConfig s env color file command.preset)
    fun c => makes (command.adjust c)).of_eq ?_
  rw [Command.prepares]
  cases host.loads s env file <;> rfl

end Host.Steady

/-! Inspecting -/

/-- What is reported of a module. -/
def FileReport.ofTransformed (path : N) (t : Transformed) : FileReport N :=
  ⟨path, Process.defaultRouteId path, t.report⟩

namespace InspectArguments

variable (a : InspectArguments N) (host : Host N (StateM σ)) (s : σ) (env : Environment)
  (color : Bool) (file : Option N)

/-- The reports on the input files, in their order. -/
def reported : Except (Cause N) (List (FileReport N)) :=
  (a.files.zipWith FileReport.ofTransformed ·) <$> (Command.inspect a).prepared host s env file

/-- What is to be printed of the input files. -/
def rendered : Except (Cause N) String := do
  let rs ← a.reported host s env file
  (a.text color rs).mapError fun n => .unspelled n.name n.unspelled

/-- The course of a run, and the state it leaves. -/
def course : Except (Cause N) Printed × σ := host.ends s (a.rendered host s env color file)

theorem run_present (rs : List (FileReport N)) :
    (a.present ⟨host, env, color⟩ rs).run.run s =
      host.ends s ((a.text color rs).mapError fun n => .json n.name n.unspelled) := by
  rw [present]
  dsimp only
  cases a.text color rs with
  | error n => rfl
  | ok text =>
      have ran : (host.print text).run s = (host.prints s text, host.printed s text) := rfl
      refine (run_bind_of_ok (run_lift ran)).trans ?_
      rw [Except.mapError, Host.ends, Host.presented]
      cases host.prints s text <;> rfl

variable {host} (steady : host.Steady)

include steady

theorem comesTo_reports (i : Instrumenter) (paths : List N) :
    ComesTo (reports ⟨host, env, color⟩ i paths) s
      ((List.zipWith FileReport.ofTransformed paths ·) <$>
        paths.mapM ((Command.inspect a).transforms host s i)) := by
  induction paths with
  | nil => rfl
  | cons path paths ih =>
      have first : ComesTo (inspectFile ⟨host, env, color⟩ i path) s
          ((Command.inspect a).transforms host s i path >>= fun t =>
            .ok (FileReport.ofTransformed path t)) :=
        .bind (steady.comesTo_transformFile s env color (.inspect a) i path) fun _ => .pure _
      refine (first.bind fun r => ih.bind fun rs => .pure (r :: rs)).of_eq ?_
      rw [List.mapM_cons]
      cases (Command.inspect a).transforms host s i path with
      | error cause => rfl
      | ok t => cases paths.mapM ((Command.inspect a).transforms host s i) <;> rfl

theorem comesTo_reported :
    ComesTo (do
      let c ← Process.loadConfig ⟨host, env, color⟩ file a.preset
      let i ← Process.instrumenter c
      reports ⟨host, env, color⟩ i a.files) s (a.reported host s env file) := by
  have stages := (steady.comesTo_prepares s env color (.inspect a) file).bind fun i =>
    a.comesTo_reports s env color steady i a.files
  rw [bind_assoc] at stages
  refine stages.of_eq ?_
  rw [reported, Command.prepared]
  cases (Command.inspect a).prepares host s env file <;> rfl

theorem run_eq :
    (a.run ⟨host, env, color⟩ file).run.run s =
      ((a.course host s env color file).1.mapError Cause.fault,
        (a.course host s env color file).2) := by
  have stages : a.run ⟨host, env, color⟩ file = (do
      let c ← Process.loadConfig ⟨host, env, color⟩ file a.preset
      let i ← Process.instrumenter c
      reports ⟨host, env, color⟩ i a.files) >>= a.present ⟨host, env, color⟩ := by
    simp only [bind_assoc]
    rfl
  have reads := a.comesTo_reported s env color file steady
  rw [stages, course, ← Host.ends_mapError, rendered]
  cases made : a.reported host s env file with
  | error cause =>
      rw [made] at reads
      exact run_bind_of_error reads
  | ok rs =>
      rw [made] at reads
      rw [run_bind_of_ok reads, run_present]
      refine congrArg (host.ends s) ?_
      change _ = ((a.text color rs).mapError _).mapError Cause.fault
      cases a.text color rs <;> rfl

end InspectArguments

/-! Instrumenting -/

namespace InstrumentArguments

variable (a : InstrumentArguments N) (host : Host N (StateM σ)) (s : σ) (env : Environment)
  (color : Bool) (file : Option N)

/-- What becomes of the module that the arguments name. -/
def made : Except (Cause N) Transformed := do
  let i ← (Command.instrument a).prepares host s env file
  (Command.instrument a).transforms host s i a.file

theorem prepared_eq : (Command.instrument a).prepared host s env file =
    ([·]) <$> a.made host s env file := by
  simp only [Command.prepared, made, map_bind, Command.files, List.mapM_cons, List.mapM_nil,
    bind_pure_comp]
  rfl

/-- The code of a module goes to its place, a file or the standard output. -/
def delivered (t : Transformed) : Except (Cause N) Printed × σ :=
  match a.out with
  | some out =>
      (((host.writes s out t.code).mapError (.unwritten out)).map fun _ =>
        { stdout := "", stderr := status color out t }, host.wrote s out t.code)
  | none =>
      (((host.prints s t.code).mapError .unprinted).map fun _ =>
        { stdout := t.code, stderr := "" }, host.printed s t.code)

/-- The course of a run, and the state it leaves. -/
def course : Except (Cause N) Printed × σ :=
  match a.made host s env file with
  | .error cause => (.error cause, s)
  | .ok t => a.delivered host s color t

theorem run_deliver (t : Transformed) :
    (a.deliver ⟨host, env, color⟩ t).run.run s =
      ((a.delivered host s color t).1.mapError Cause.fault, (a.delivered host s color t).2) := by
  rw [deliver, delivered]
  cases a.out with
  | some out =>
      have ran : (host.write out t.code).run s =
          (host.writes s out t.code, host.wrote s out t.code) := rfl
      dsimp only [Process.writeFile]
      rw [bind_assoc]
      refine (run_bind_of_ok (run_lift ran)).trans ?_
      cases host.writes s out t.code <;> rfl
  | none =>
      have ran : (host.print t.code).run s = (host.prints s t.code, host.printed s t.code) := rfl
      dsimp only [Process.print]
      rw [bind_assoc]
      refine (run_bind_of_ok (run_lift ran)).trans ?_
      cases host.prints s t.code <;> rfl

theorem run_eq {host : Host N (StateM σ)} (steady : host.Steady) :
    (a.run ⟨host, env, color⟩ file).run.run s =
      ((a.course host s env color file).1.mapError Cause.fault,
        (a.course host s env color file).2) := by
  have stages : a.run ⟨host, env, color⟩ file =
      ((Process.loadConfig ⟨host, env, color⟩ file a.preset >>= fun c =>
        Process.instrumenter (a.adjust c)) >>= fun i =>
          Process.transformFile ⟨host, env, color⟩ i a.file
            ((Command.instrument a).routeOf a.file)) >>= a.deliver ⟨host, env, color⟩ := by
    simp only [bind_assoc]
    rfl
  have makes : ComesTo _ s (a.made host s env file) :=
    (steady.comesTo_prepares s env color (.instrument a) file).bind fun i =>
      steady.comesTo_transformFile s env color (.instrument a) i a.file
  rw [stages, course]
  cases made : a.made host s env file with
  | error cause =>
      rw [made] at makes
      exact run_bind_of_error makes
  | ok t =>
      rw [made] at makes
      exact (run_bind_of_ok makes).trans (a.run_deliver host s env color t)

end InstrumentArguments

namespace Command

/-- The course of a run, and the state it leaves. -/
def course (command : Command N) (host : Host N (StateM σ)) (s : σ) (env : Environment)
    (color : Bool) (file : Option N) : Except (Cause N) Printed × σ :=
  match command with
  | inspect a => a.course host s env color file
  | instrument a => a.course host s env color file

end Command

namespace CommandLine

variable (l : CommandLine N) (host : Host N (StateM σ)) (s : σ) (env : Environment)
  (terminal : Bool)

def color : Bool := !l.noColor && Console.wantsColor env terminal

/-- What a run of the line comes to, and the state that it leaves. -/
def runOn : Except (CommandFault N) Printed × σ := (l.run host env terminal).run s

/-- A run goes its course. -/
theorem runOn_eq (steady : host.Steady) :
    l.runOn host s env terminal =
      ((l.command.course host s env (l.color env terminal) l.config).1.mapError Cause.fault,
        (l.command.course host s env (l.color env terminal) l.config).2) := by
  rw [runOn, run]
  cases l.command with
  | inspect a => exact a.run_eq s env _ l.config steady
  | instrument a => exact a.run_eq s env _ l.config steady

end CommandLine

end RouteWrap
