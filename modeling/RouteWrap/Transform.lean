import RouteWrap.Grammar.Reading
import RouteWrap.Layout.Printed
import RouteWrap.Rewrite.Exports
import RouteWrap.Text.Position

/-!
From a source text to the text with its exports wrapped. The presets are applied in their order,
each to what the one before it left; a module in which nothing was wrapped keeps its own text.
-/

namespace RouteWrap

/-- Why a text is not read as a module: all that is wrong with it, and where that begins. -/
structure ParseError where
  message : String
  position : Option Position
deriving DecidableEq, Repr, Inhabited

def ParseError.text (e : ParseError) : String :=
  let place := match e.position with
    | some p => " at " ++ p.text
    | none => ""
  "Parse error" ++ place ++ ": " ++ e.message

/-- How a text is read; with `allowFaults`, a module with faults is read if there is one. -/
structure ReadOptions where
  dialect : Dialect
  allowFaults : Bool
deriving DecidableEq, Repr, Inhabited

namespace Reading

def error (r : Reading) (source : String) : ParseError :=
  { message := ", ".intercalate (r.faults.map Diagnostic.message)
    position := r.faults.head?.map fun d => Position.ofOffset source d.offset }

end Reading

/-- The module that a text is read as, and the faults it was read in spite of. -/
def Module.ofSource (source : String) (options : ReadOptions) :
    Except ParseError (Module × List Diagnostic) :=
  let r := Reading.ofSource source options.dialect
  match r.module? with
  | some m =>
      if r.faults.isEmpty || options.allowFaults then .ok (m, r.faults)
      else .error (r.error source)
  | none => .error (r.error source)

/-- The text of a module; an unchanged one keeps the text it was read from. -/
def Module.emit (m : Module) (source : String) (modified : Bool) (format : PrintFormat) : String :=
  if modified then m.printed format else source

def Module.instrument (m : Module) : List Preset → String → Module × Report
  | [], _ => (m, .empty)
  | p :: ps, routeId =>
      let first := m.rewriteExports p routeId
      let rest := first.1.instrument ps routeId
      (rest.1, first.2 ++ rest.2)

structure Transformed where
  code : String
  report : Report
deriving Repr, Inhabited

def Transformed.modified (t : Transformed) : Bool := t.report.modified

structure Instrumenter where
  presets : List Preset
  format : PrintFormat
deriving Repr, Inhabited

namespace Instrumenter

/-- An instrumenter for presets without faults; the first fault is reported. -/
def ofPresets (presets : List Preset) (format : PrintFormat) : Except PresetFault Instrumenter :=
  match presets.findSome? Preset.fault? with
  | some f => .error f
  | none => .ok ⟨presets, format⟩

def standard : Instrumenter := ⟨[.dataFunctions], .standard⟩

def transform (i : Instrumenter) (source routeId : String) (options : ReadOptions) :
    Except ParseError Transformed :=
  match Module.ofSource source options with
  | .error e => .error e
  | .ok (m, _) =>
      let (after, report) := m.instrument i.presets routeId
      .ok { code := after.emit source report.modified i.format, report }

end Instrumenter

end RouteWrap
