/-!
What a command line can say: the options of the program and of its two commands, the result of
reading a line, and why a line is refused. A line that is read from texts names files by texts; a
system may pass on other names.
-/

namespace RouteWrap

inductive PresetChoice
  | dataFunctions
  | context
deriving DecidableEq, Repr, Inhabited

def PresetChoice.name : PresetChoice → String
  | dataFunctions => "data-functions"
  | context => "context"

def PresetChoice.ofName? (s : String) : Option PresetChoice :=
  [dataFunctions, context].find? fun p => p.name == s

/-- Print one module with its exports wrapped, or write it to a file. -/
structure InstrumentArguments (N : Type := String) where
  file : N
  routeId : Option String
  preset : Option PresetChoice
  out : Option N
  singleQuote : Bool
  minify : Bool
deriving DecidableEq, Repr, Inhabited

structure InspectArguments (N : Type := String) where
  files : List N
  preset : Option PresetChoice
  json : Bool
deriving DecidableEq, Repr, Inhabited

inductive Command (N : Type := String)
  | instrument (arguments : InstrumentArguments N)
  | inspect (arguments : InspectArguments N)
deriving DecidableEq, Repr, Inhabited

structure CommandLine (N : Type := String) where
  verbose : Bool
  quiet : Bool
  noColor : Bool
  config : Option N
  command : Command N
deriving DecidableEq, Repr, Inhabited

/-- Why a command line is refused; help and the version are answered in this way too. -/
inductive UsageFault
  | help
  | version
  /-- Nothing was given at all. -/
  | helpForNothing
  | missingCommand
  | missingArgument
  | unknownCommand
  | unknownArgument
  | invalidValue
  | unwantedValue
  /-- Arguments that exclude each other, or one given twice. -/
  | conflict
deriving DecidableEq, Repr, Inhabited

def UsageFault.exitCode : UsageFault → Nat
  | help | version => 0
  | _ => 2

inductive Switch
  | verbose
  | quiet
  | noColor
  | singleQuote
  | minify
  | json
deriving DecidableEq, Repr, Inhabited

inductive Slot
  | config
  | routeId
  | preset
  | out
deriving DecidableEq, Repr, Inhabited

/-- Any text names a route; a path is not empty, and a preset is one of the known names. -/
def Slot.accepts (s : Slot) (value : String) : Bool :=
  match s with
  | config | out => !value.isEmpty
  | routeId => true
  | preset => (PresetChoice.ofName? value).isSome

inductive Known
  | switch (s : Switch)
  | slot (s : Slot)
  | help
  | version
deriving DecidableEq, Repr, Inhabited

inductive Level
  | program
  | instrument
  | inspect
deriving DecidableEq, Repr, Inhabited

namespace Level

/-- Options of every level, by their names of one character and their long names. -/
def shared : List (Option Char × String × Known) :=
  [(some 'v', "verbose", .switch .verbose), (some 'q', "quiet", .switch .quiet),
   (none, "no-color", .switch .noColor), (some 'c', "config", .slot .config),
   (some 'h', "help", .help)]

def own : Level → List (Option Char × String × Known)
  | program => [(some 'V', "version", .version)]
  | instrument =>
      [(none, "route-id", .slot .routeId), (some 'p', "preset", .slot .preset),
       (some 'o', "out", .slot .out), (none, "single-quote", .switch .singleQuote),
       (none, "minify", .switch .minify)]
  | inspect => [(some 'p', "preset", .slot .preset), (none, "json", .switch .json)]

def options (l : Level) : List (Option Char × String × Known) := shared ++ l.own

def long? (l : Level) (name : String) : Option Known :=
  (l.options.find? fun o => o.2.1 == name).map fun o => o.2.2

def short? (l : Level) (c : Char) : Option Known :=
  (l.options.find? fun o => o.1 == some c).map fun o => o.2.2

/-- Whether a level with `n` file names takes one more. -/
def takesFile (l : Level) (n : Nat) : Bool :=
  match l with
  | program => false
  | instrument => n == 0
  | inspect => true

def ofCommand? : String → Option Level
  | "instrument" => some instrument
  | "inspect" => some inspect
  | _ => none

end Level

end RouteWrap
