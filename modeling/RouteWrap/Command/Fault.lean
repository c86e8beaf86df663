import RouteWrap.Config
import RouteWrap.Files.Host

/-!
Why a command fails, and how that is reported.
-/

namespace RouteWrap

inductive CommandFault (N : Type := String) [FileName N]
  | config (f : ConfigFault)
  | preset (f : PresetFault)
  /-- A file that cannot be read or written because it, or the directory for it, is not there. -/
  | missingFile (path : N)
  | file (path : N) (e : FileError)
  | module (path : N) (source : String) (e : ParseError)
  /-- A report in JSON on a file whose name is no text. -/
  | json (path : N) (unspelled : FileName.text? path = none)
deriving Repr

structure FaultReport where
  message : String
  /-- The kind of fault, where kinds have names. -/
  code : Option String
  help : Option String
  mark : Option Nat
deriving DecidableEq, Repr, Inhabited

/-- The lines that tell of a fault. -/
def FaultReport.text (r : FaultReport) : String :=
  let help := match r.help with
    | some help => "  help: " ++ help ++ "\n"
    | none => ""
  "Error: " ++ r.message ++ "\n" ++ help

namespace CommandFault

variable {N : Type} [FileName N]

def ofFileError (path : N) : FileError → CommandFault N
  | .notFound => .missingFile path
  | e => .file path e

def message : CommandFault N → String
  | config f => f.message
  | preset f => f.message
  | missingFile path => "File not found: " ++ FileName.shown path
  | file path e => "I/O error on " ++ FileName.shown path ++ ": " ++ e.text
  | module path _ e => "Failed to instrument " ++ FileName.shown path ++ ": " ++ e.text
  | json _ _ => "JSON error: path contains invalid UTF-8 characters"

def parseCode : String := "rdt::instrument::parse_failed"

def report (f : CommandFault N) : FaultReport :=
  match f with
  | config _ => ⟨f.message, some "rdt::instrument::config", none, none⟩
  | preset p =>
      let code := if p.isIdentifier then "invalid_identifier" else "invalid_preset"
      ⟨f.message, some ("rdt::instrument::" ++ code), none, none⟩
  | missingFile _ | file _ _ | json _ _ => ⟨f.message, none, none, none⟩
  | module path source e =>
      let help := "the module was not instrumented; fix the syntax error and "
      match e.position with
      | some p =>
          ⟨FileName.shown path ++ ": " ++ e.text, some parseCode, some (help ++ "rerun"),
            some (min p.offset source.utf8ByteSize)⟩
      | none =>
          ⟨"Failed to instrument " ++ FileName.shown path, some parseCode,
            some (help ++ "rebuild"), none⟩

end CommandFault

end RouteWrap
