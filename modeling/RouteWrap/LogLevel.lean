import RouteWrap.Config.Variable
import RouteWrap.Text.Identifier

/-!
How much is logged. A filter is a list of directives, each a level, a target, or a target with a
level; a target may name a span and its fields. `LogLevel.chosen` is the most that a run may log.
-/

namespace RouteWrap

inductive LogLevel
  | off
  | error
  | warn
  | info
  | debug
  | trace
deriving DecidableEq, Repr, Inhabited

namespace LogLevel

def all : List LogLevel := [off, error, warn, info, debug, trace]

def name : LogLevel → String
  | off => "off"
  | error => "error"
  | warn => "warn"
  | info => "info"
  | debug => "debug"
  | trace => "trace"

def rank : LogLevel → Nat
  | off => 0
  | error => 1
  | warn => 2
  | info => 3
  | debug => 4
  | trace => 5

def max (a b : LogLevel) : LogLevel := if a.rank < b.rank then b else a

def ofText? (cs : List Char) : Option LogLevel :=
  match Variable.natural? cs with
  | some n => all[n]?
  | none => all.find? fun l => l.name.toList == Variable.lower cs

def ofLevelOrTarget (cs : List Char) : LogLevel := (ofText? cs).getD trace

def ofLevel? (cs : List Char) : Option LogLevel :=
  if cs.isEmpty then some trace else ofText? cs

def afterSpan? (cs : List Char) : Option LogLevel :=
  match cs with
  | [] => some trace
  | '=' :: level => ofLevel? level
  | _ => none

/-- The rest of a directive inside the brackets of a span. Where a field is compared with a value,
everything may be logged. -/
def inSpan? (cs : List Char) : Option LogLevel :=
  match cs.dropWhile fun c => c != ']' && c != '\x7b' with
  | ']' :: rest => afterSpan? rest
  | '\x7b' :: rest =>
      let field := rest.takeWhile (· != '\x7d')
      match rest.dropWhile (· != '\x7d') with
      | '\x7d' :: ']' :: rest =>
          if field.isEmpty then none
          else
            (afterSpan? rest).map fun l => if field.contains '=' then trace else l
      | _ => none
  | _ => none

/-- A directive. Its parts are found without the blanks around it, but are cut out of the text with
them. -/
def ofDirective? (text : List Char) : Option LogLevel :=
  let cs := Blank.trim text
  match cs with
  | [] => none
  | '[' :: rest => inSpan? rest
  | c :: _ =>
      if !(c == '-' || c == ':' || c == '_' || Identifier.isLetterOrNumber c) then none
      else
        let target := cs.takeWhile fun c => c != '=' && c != '['
        match cs.dropWhile fun c => c != '=' && c != '[' with
        | '=' :: _ => ofLevel? (text.drop (target.length + 1))
        | '[' :: rest => inSpan? rest
        | _ => some (ofLevelOrTarget text)

def splitCommas : List Char → List (List Char)
  | [] => [[]]
  | c :: cs =>
      match splitCommas cs with
      | first :: rest => if c == ',' then [] :: first :: rest else (c :: first) :: rest
      | [] => [[c]]

/-- The most that any directive of a filter asks for; one bad directive spoils the filter. -/
def ofFilter? (text : String) : Option LogLevel :=
  let directives := (splitCommas text.toList).filter fun d => !d.isEmpty
  (directives.mapM ofDirective?).map fun levels => levels.foldl max off

/-- The level of a run: `--verbose` goes before `--quiet`, and both before the environment. -/
def chosen (verbose quiet : Bool) (env : Environment) : LogLevel :=
  if verbose then debug
  else if quiet then error
  else
    match env.get? "RUST_LOG" with
    | none => info
    | some text => (ofFilter? text).getD info

end LogLevel

end RouteWrap
