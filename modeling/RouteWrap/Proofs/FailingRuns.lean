import RouteWrap.Proofs.FaultCauses

/-!
Runs that fail, on whatever host. The stages of a command come one after the other, the
configuration, the presets, the input files in their order and then the output, and the first one to
fail ends the run. Nothing is written or printed before the last of them, so only a standard output
that breaks off can have taken something of a run that fails.
-/

namespace RouteWrap

variable {N : Type} [FileName N] {σ φ : Type}

theorem FileReport.each_ofTransformed {holds : N → Transformed → Prop} {paths : List N}
    {ts : List Transformed} (each : List.Forall₂ holds paths ts) :
    List.Forall₂ (fun path r => ∃ t, holds path t ∧ r = ofTransformed path t) paths
      (paths.zipWith ofTransformed ts) := by
  induction each with
  | nil => exact .nil
  | cons first _ ih => exact .cons ⟨_, first, rfl⟩ ih

namespace InspectArguments

variable {a : InspectArguments N} {host : Host N (StateM σ)} {s : σ} {env : Environment}
  {color : Bool} {file : Option N}

theorem rendered_eq_ok_iff {text : String} :
    a.rendered host s env color file = .ok text ↔
      ∃ rs, a.reported host s env file = .ok rs ∧ a.text color rs = .ok text := by
  simp only [rendered, bind_eq_ok_iff, mapError_eq_ok_iff]

/-- There is one report for each file, in the order of the files. -/
theorem each_of_reported {rs : List (FileReport N)}
    (reported : a.reported host s env file = .ok rs) :
    ∃ i, (Command.inspect a).prepares host s env file = .ok i ∧
      List.Forall₂ (fun path r => ∃ t, (Command.inspect a).transforms host s i path = .ok t ∧
        r = .ofTransformed path t) a.files rs := by
  obtain ⟨ts, prepared, rfl⟩ := map_eq_ok_iff.mp reported
  obtain ⟨i, prepares, transformed⟩ := bind_eq_ok_iff.mp prepared
  exact ⟨i, prepares, FileReport.each_ofTransformed (mapM_eq_ok_iff.mp transformed)⟩

end InspectArguments

namespace Command

variable {command : Command N} {host : Host N (StateM σ)} {s : σ} {env : Environment}
  {color : Bool} {file : Option N} {cause : Cause N}

/-- A run that fails leaves the state, unless the standard output took something of a text that it
refused. -/
theorem state_of_course {files : σ → φ} (orderly : host.Orderly files)
    (failed : (command.course host s env color file).1 = .error cause)
    (untaken : ∀ text e, cause = .unprinted e → host.prints s text = .error e →
      host.printed s text = s) : (command.course host s env color file).2 = s := by
  cases command with
  | inspect a =>
      have rendered := Host.ends_eq_error_iff.mp failed
      rw [course, InspectArguments.course, rendered]
      rfl
  | instrument a =>
      rw [course, InstrumentArguments.course] at failed ⊢
      cases made : a.made host s env file with
      | error other => rfl
      | ok t =>
          rw [made] at failed
          obtain ⟨out, named, e, refused, -⟩ | ⟨unnamed, e, refused, rfl⟩ :=
            InstrumentArguments.delivered_eq_error_iff.mp failed
          · simp only [InstrumentArguments.delivered, named]
            exact orderly.refused refused
          · simp only [InstrumentArguments.delivered, unnamed]
            exact untaken t.code e rfl refused

theorem files_of_course {files : σ → φ} (orderly : host.Orderly files)
    (failed : (command.course host s env color file).1 = .error cause) :
    files (command.course host s env color file).2 = files s := by
  by_cases taken : ∀ e, cause ≠ .unprinted e
  · rw [state_of_course orderly failed fun _ e same => absurd same (taken e)]
  · simp only [ne_eq, not_forall, not_not] at taken
    obtain ⟨e, rfl⟩ := taken
    cases course_eq_error_iff.mp failed with
    | @unprinted i a t e prepared instruments unnamed transformed refused =>
        subst instruments
        have made : a.made host s env file = .ok t :=
          InstrumentArguments.made_eq_ok_iff.mpr ⟨i, prepared, transformed⟩
        rw [course, InstrumentArguments.course, made]
        simp only [InstrumentArguments.delivered, unnamed]
        exact orderly.printed s t.code

end Command

namespace CommandLine

/-- A run fails with the first fault in the order of its stages, and then it leaves all files as
they were; it has printed nothing either, unless the standard output took something of a text that
it refused. One that only inspects leaves the files in any case, and where it does not fail it
prints what it reports on each file in turn. -/
theorem runs_fail_first (l : CommandLine N) {host : Host N (StateM σ)} {files : σ → φ}
    (orderly : host.Orderly files) (s : σ) (env : Environment) (terminal : Bool) :
    (∀ f, (l.runOn host s env terminal).1 = .error f ↔
      ∃ cause, l.command.Arises host s env l.config cause ∧ cause.fault = f) ∧
      (∀ cause, l.command.Arises host s env l.config cause →
        (∀ other, l.command.Arises host s env l.config other → other = cause) ∧
          Ending.ofRun (l.runOn host s env terminal).1 = ⟨1, cause.fault.report.text⟩ ∧
          files (l.runOn host s env terminal).2 = files s ∧
          ((∀ text e, cause = .unprinted e → host.prints s text = .error e →
              host.printed s text = s) →
            (l.runOn host s env terminal).2 = s)) ∧
      ∀ a p, l.command = .inspect a → (l.runOn host s env terminal).1 = .ok p →
        ∃ i rs text, l.command.prepares host s env l.config = .ok i ∧
          List.Forall₂ (fun path (r : FileReport N) =>
            r.file = path ∧ r.routeId = Process.defaultRouteId path ∧
              ∃ t, l.command.transforms host s i path = .ok t ∧ r.report = t.report) a.files rs ∧
          a.text (l.color env terminal) rs = .ok text ∧
          p = host.presented s text ∧
          (l.runOn host s env terminal).2 = host.printed s text ∧
          files (l.runOn host s env terminal).2 = files s := by
  rw [l.runOn_eq host s env terminal orderly.toSteady]
  refine ⟨fun f => ?_, fun cause arises => ?_, fun a p command printed => ?_⟩
  · rw [mapError_eq_error_iff]
    simp only [Command.course_eq_error_iff]
  · have failed : (l.command.course host s env (l.color env terminal) l.config).1 = .error cause :=
      Command.course_eq_error_iff.mpr arises
    refine ⟨fun other again => again.unique arises, ?_,
      Command.files_of_course orderly failed, Command.state_of_course orderly failed⟩
    rw [failed]
    rfl
  · rw [command] at printed ⊢
    obtain ⟨text, rendered, rfl, left⟩ :=
      Host.exists_of_ends_eq_ok (mapError_eq_ok_iff.mp printed)
    obtain ⟨rs, reported, written⟩ := InspectArguments.rendered_eq_ok_iff.mp rendered
    obtain ⟨i, prepares, each⟩ := InspectArguments.each_of_reported reported
    refine ⟨i, rs, text, prepares, each.imp ?_, written, rfl, left, ?_⟩
    · rintro path r ⟨t, transformed, rfl⟩
      exact ⟨rfl, rfl, t, transformed, rfl⟩
    · exact (congrArg files left).trans (orderly.printed s text)

/-- `rdt inspect absent.js gone.js` -/
def inspectingAbsent : CommandLine :=
  ⟨false, false, true, none, .inspect ⟨["absent.js", "gone.js"], none, false⟩⟩

/-- Of two files that are not there, the run fails with the first, and leaves the disk. -/
theorem inspectingAbsent_fails :
    (Disk.host []).Orderly id ∧
      (inspectingAbsent.runOn (Disk.host []) .empty [] false).1 =
        .error (.missingFile "absent.js") ∧
      (inspectingAbsent.runOn (Disk.host []) .empty [] false).2 = .empty := by
  have orderly := Disk.orderly_host []
  obtain ⟨fails, leaves, -⟩ := runs_fail_first inspectingAbsent orderly .empty [] false
  have named : inspectingAbsent.command.files = [] ++ "absent.js" :: ["gone.js"] := rfl
  have arises : inspectingAbsent.command.Arises (Disk.host []) .empty [] none
      (.unread "absent.js" .notFound) := .unread rfl named nofun rfl
  exact ⟨orderly, (fails _).mpr ⟨_, arises, rfl⟩, (leaves _ arises).2.2.2 fun _ _ => nofun⟩

end CommandLine

end RouteWrap
