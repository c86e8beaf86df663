import RouteWrap.Proofs.DiskRuns
import RouteWrap.Proofs.RouteIds

/-!
Inspecting a module tells what wrapping its exports would do, on whatever host. The two commands
have different route ids and formats, on which neither the faults nor the report depend.
-/

namespace RouteWrap

variable {N : Type} [FileName N] {σ : Type}

theorem Module.report_instrument (m : Module) (presets : List Preset) (routeId routeId' : String) :
    (m.instrument presets routeId).2 = (m.instrument presets routeId').2 := by
  obtain ⟨parts, report, -, same⟩ := m.wrapped_items.instrument presets
  have whole (route : Points) : m.ofParts (m.items.map .plain) route = m := by
    simp only [Module.ofParts, List.map_map, Function.comp_def, Part.item, List.map_id']
  simp only [whole] at same
  rw [same, same]

namespace Instrumenter

variable {i i' : Instrumenter}

theorem report_transform (presets : i.presets = i'.presets) (source routeId routeId' : String)
    (options : ReadOptions) :
    Transformed.report <$> i.transform source routeId options =
      Transformed.report <$> i'.transform source routeId' options := by
  rw [transform, transform]
  cases Module.ofSource source options with
  | error e => rfl
  | ok read =>
      refine congrArg Except.ok ?_
      rw [← presets]
      exact read.1.report_instrument i.presets routeId routeId'

theorem code_transform {source routeId : String} {options : ReadOptions} {t : Transformed}
    (transformed : i.transform source routeId options = .ok t) (unmodified : t.modified = false) :
    t.code = source := by
  rw [transform] at transformed
  cases read : Module.ofSource source options with
  | error e => simp [read] at transformed
  | ok read' =>
      simp only [read, Except.ok.injEq] at transformed
      subst transformed
      exact if_neg (by rw [Bool.not_eq_true]; exact unmodified)

end Instrumenter

theorem Config.presets_instrumenter {c c' : Config} (presets : c.presets = c'.presets) :
    Instrumenter.presets <$> c.instrumenter = Instrumenter.presets <$> c'.instrumenter := by
  rw [instrumenter, instrumenter, ← presets]
  cases c.presets with
  | error f => rfl
  | ok ps =>
      change _ <$> Instrumenter.ofPresets ps _ = _ <$> Instrumenter.ofPresets ps _
      rw [Instrumenter.ofPresets, Instrumenter.ofPresets]
      cases ps.findSome? Preset.fault? <;> rfl

omit [FileName N] in
theorem Host.holds_of_reads {host : Host N (StateM σ)} {s : σ} {path : N} {source : String}
    (reads : host.reads s path = .ok source) : host.holds s path = .ok source.toUTF8 := by
  obtain ⟨content, holds, decoded⟩ := bind_eq_ok_iff.mp reads
  rw [holds, decode_eq_ok decoded]

namespace Command

theorem report_transforms {command command' : Command N} (host : Host N (StateM σ)) (s : σ)
    {i i' : Instrumenter} (presets : i.presets = i'.presets) (path : N) :
    Transformed.report <$> command.transforms host s i path =
      Transformed.report <$> command'.transforms host s i' path := by
  refine map_bind_congr fun source => ?_
  rw [map_mapError, map_mapError]
  exact congrArg (Except.mapError _) (Instrumenter.report_transform presets source _ _ _)

end Command

namespace InstrumentArguments

omit [FileName N] in
theorem presets_adjust (a : InstrumentArguments N) (c : Config) :
    (a.adjust c).presets = c.presets := by
  simp only [Config.presets, Config.toPreset, adjust]
  rfl

variable (a : InstrumentArguments N) {a' : InstrumentArguments N} (host : Host N (StateM σ)) (s : σ)
  (env : Environment) (file : Option N)

omit [FileName N] in
theorem presets_configured (chosen : a.preset = a'.preset) (c : Config) :
    ((Command.instrument a).configured c).presets =
      ((Command.instrument a').configured c).presets := by
  simp only [Command.configured, Command.adjust, Command.preset, chosen, presets_adjust]

/-- Arguments that choose one preset have the same presets. -/
theorem presets_prepares (chosen : a.preset = a'.preset) :
    Instrumenter.presets <$> (Command.instrument a).prepares host s env file =
      Instrumenter.presets <$> (Command.instrument a').prepares host s env file := by
  refine map_bind_congr fun c => ?_
  rw [map_mapError, map_mapError, Config.presets_instrumenter (a.presets_configured chosen c)]

theorem report_made (files : a.file = a'.file) (chosen : a.preset = a'.preset) :
    Transformed.report <$> a.made host s env file =
      Transformed.report <$> a'.made host s env file := by
  refine map_bind_of_map (presets_prepares a host s env file chosen) fun i i' same => ?_
  rw [← files]
  exact Command.report_transforms host s same a.file

theorem prepared_inspect (json : Bool) :
    (Command.inspect ⟨[a.file], a.preset, json⟩).prepared host s env file =
      ([·]) <$> made ⟨a.file, none, a.preset, none, false, false⟩ host s env file :=
  prepared_eq ⟨a.file, none, a.preset, none, false, false⟩ host s env file

theorem made_out (out : Option N) :
    made { a with out } host s env file = a.made host s env file := rfl

/-- What is printed of a module that is inspected; it has an entry in JSON if the name of the file
is a text. -/
def inspection (a : InstrumentArguments N) (json color : Bool) (t : Transformed) :
    Except (CommandFault N) String :=
  if json then
    match spelled : FileName.text? a.file with
    | some file => .ok <| (PrettyJson.list [.object [
        ("file", .text file), ("route_id", .text (Process.defaultRouteId a.file)),
        ("modified", .truth t.modified),
        ("wrapped", .list (t.report.wrapped.map FileReport.wrappedJson)),
        ("skipped", .list (t.report.skipped.map FileReport.skippedJson))]]).render ++ "
"
    | none => .error (.json a.file spelled)
  else .ok (FileReport.text color ⟨a.file, Process.defaultRouteId a.file, t.report⟩)

theorem exists_inspection_eq_ok {json : Bool} (color : Bool) (t : Transformed)
    (spelled : json = true → FileName.text? a.file ≠ none) :
    ∃ text, a.inspection json color t = .ok text := by
  cases json with
  | false => exact ⟨_, rfl⟩
  | true =>
      simp only [inspection, if_true]
      split
      · exact ⟨_, rfl⟩
      · next noText => exact absurd noText (spelled rfl)

/-- What the console says of a module with so many exports wrapped. -/
def told (color : Bool) (out : N) : Nat → String
  | 0 => Console.paint color [.blue, .bold] "ℹ" ++ " No data-function exports, copied to "
      ++ FileName.shown out ++ "
"
  | n + 1 => Console.paint color [.green, .bold] "✓" ++ " Wrapped " ++ toString (n + 1)
      ++ " export(s), wrote " ++ FileName.shown out ++ "
"

theorem status_eq (color : Bool) (out : N) (t : Transformed) :
    status color out t = told color out t.report.wrapped.length := by
  rw [status, Transformed.modified, Report.modified]
  cases t.report.wrapped with
  | nil => rfl
  | cons w ws => rfl

theorem text_eq_inspection (json color : Bool) {t t' : Transformed} (same : t'.report = t.report) :
    (InspectArguments.text ⟨[a.file], a.preset, json⟩ color
      [FileReport.ofTransformed a.file t']).mapError (fun n => .json n.name n.unspelled) =
        a.inspection json color t := by
  cases json with
  | false =>
      simp only [InspectArguments.text, inspection, List.map_cons, List.map_nil, String.join_cons,
        String.join_nil, String.append_empty, FileReport.ofTransformed, same]
      rfl
  | true =>
      simp only [InspectArguments.text, inspection, if_true, List.mapM_cons, List.mapM_nil,
        FileReport.ofTransformed, same]
      unfold FileReport.json
      split
      · next file spelled =>
          split
          · next file' again =>
              cases spelled.symm.trans again
              rfl
          · next noText => cases spelled.symm.trans noText
      · next noText =>
          split
          · next file spelled => cases noText.symm.trans spelled
          · rfl

/-- An inspection makes the same module as the arguments, for another route and another format. -/
theorem rendered_inspect (json color : Bool) :
    ((InspectArguments.rendered ⟨[a.file], a.preset, json⟩ host s env color file).mapError
      Cause.fault) = (a.made host s env file).mapError Cause.fault >>= a.inspection json color := by
  have reports : Transformed.report <$> made ⟨a.file, none, a.preset, none, false, false⟩ host s env
      file = Transformed.report <$> a.made host s env file := report_made _ host s env file rfl rfl
  rw [InspectArguments.rendered, InspectArguments.reported, prepared_inspect]
  obtain ⟨cause, first, second⟩ | ⟨t', t, first, second, same⟩ := map_eq_map_cases reports
  · rw [first, second]
    rfl
  · rw [first, second]
    refine Eq.trans ?_ (a.text_eq_inspection json color same)
    change (((InspectArguments.text _ color [FileReport.ofTransformed a.file t']).mapError
      fun n => Cause.unspelled n.name n.unspelled).mapError Cause.fault) = _
    cases InspectArguments.text _ color [FileReport.ofTransformed a.file t'] <;> rfl

end InstrumentArguments

namespace CommandLine

variable (l : CommandLine N) (a : InstrumentArguments N)

/-- The line that inspects the file of the arguments, with their preset. -/
def inspecting (json : Bool) : CommandLine N :=
  { l with command := .inspect ⟨[a.file], a.preset, json⟩ }

def instrumenting (out : Option N) : CommandLine N :=
  { l with command := .instrument { a with out } }

variable {host : Host N (StateM σ)} (steady : host.Steady) (s : σ) (env : Environment)
  (terminal : Bool)

include steady

theorem runOn_inspecting (json : Bool) :
    (l.inspecting a json).runOn host s env terminal =
      host.ends s ((a.made host s env l.config).mapError Cause.fault >>=
        a.inspection json (l.color env terminal)) := by
  rw [← a.rendered_inspect host s env l.config json, Host.ends_mapError]
  exact (l.inspecting a json).runOn_eq host s env terminal steady

theorem runOn_instrumenting (out : Option N) :
    (l.instrumenting a out).runOn host s env terminal =
      match a.made host s env l.config with
      | .error cause => (.error cause.fault, s)
      | .ok t =>
          ((InstrumentArguments.delivered { a with out } host s (l.color env terminal) t).1.mapError
            Cause.fault,
          (InstrumentArguments.delivered { a with out } host s (l.color env terminal) t).2) := by
  refine ((l.instrumenting a out).runOn_eq host s env terminal steady).trans ?_
  change ((InstrumentArguments.course { a with out } host s env (l.color env terminal)
      l.config).1.mapError _,
    (InstrumentArguments.course { a with out } host s env (l.color env terminal) l.config).2) = _
  rw [InstrumentArguments.course, a.made_out]
  cases a.made host s env l.config <;> rfl

omit steady

/-- `rdt instrument absent.js` -/
def wrappingAbsent : InstrumentArguments := ⟨"absent.js", none, none, none, false, false⟩

end CommandLine

end RouteWrap
