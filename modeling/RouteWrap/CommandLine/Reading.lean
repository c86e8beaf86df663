import RouteWrap.CommandLine.Arguments

/-!
Reading a command line from left to right. A value or a file name is only looked at when the next
option comes or the level ends, so a word that no option has is reported before a bad value in
front of it. The level of a command is checked before the level of the program, and each level for
itself.
-/

namespace RouteWrap

inductive Pending
  /-- An option, and its value if that has come. -/
  | slot (s : Slot) (value : Option String)
  | files (names : List String)
deriving DecidableEq, Repr, Inhabited

structure Given where
  switches : List Switch
  values : List (Slot × String)
  files : List String
  pending : Option Pending
deriving DecidableEq, Repr, Inhabited

namespace Given

def empty : Given := ⟨[], [], [], none⟩

def value? (p : Given) (s : Slot) : Option String :=
  (p.values.find? fun v => v.1 == s).map Prod.snd

def has (p : Given) (s : Switch) : Bool := p.switches.contains s

/-- The file names, also those that have not been looked at. -/
def fileCount (p : Given) : Nat :=
  p.files.length + match p.pending with
    | some (.files names) => names.length
    | _ => 0

def awaitsValue (p : Given) : Bool :=
  match p.pending with
  | some (.slot _ none) => true
  | _ => false

def setValue (p : Given) (s : Slot) (value : String) : Except UsageFault Given :=
  if (p.value? s).isSome then .error .conflict
  else if s.accepts value then .ok { p with values := p.values ++ [(s, value)] }
  else .error .invalidValue

def settle (p : Given) : Except UsageFault Given :=
  let rest := { p with pending := none }
  match p.pending with
  | none => .ok p
  | some (.slot _ none) => .error .invalidValue
  | some (.slot s (some value)) => rest.setValue s value
  | some (.files names) =>
      if names.any String.isEmpty then .error .invalidValue
      else .ok { rest with files := p.files ++ names }

def addSwitch (p : Given) (s : Switch) : Except UsageFault Given := do
  let p ← p.settle
  if p.has s then .error .conflict else return { p with switches := p.switches ++ [s] }

/-- An option with the value that is attached to it, or without one yet. -/
def addSlot (p : Given) (s : Slot) (value : Option String) : Except UsageFault Given := do
  let p ← p.settle
  match value with
  | some v => p.setValue s v
  | none => return { p with pending := some (.slot s none) }

def giveValue (p : Given) (value : String) : Given :=
  match p.pending with
  | some (.slot s none) => { p with pending := some (.slot s (some value)) }
  | _ => p

def addFile (p : Given) (name : String) : Except UsageFault Given :=
  match p.pending with
  | some (.files names) => .ok { p with pending := some (.files (names ++ [name])) }
  | _ => do return { ← p.settle with pending := some (.files [name]) }

def addLong (p : Given) (level : Level) (name : String) (value : Option String) :
    Except UsageFault Given :=
  match level.long? name, value with
  | none, _ => .error .unknownArgument
  | some (.slot s), v => p.addSlot s v
  | some _, some _ => .error .unwantedValue
  | some (.switch s), none => p.addSwitch s
  | some .help, none => p.settle.bind fun _ => .error .help
  | some .version, none => p.settle.bind fun _ => .error .version

/-- Options of one character in a row; the first that takes a value takes what is left. -/
def addShort (level : Level) : Given → List Char → Except UsageFault Given
  | p, [] => .ok p
  | p, c :: cs =>
      match level.short? c with
      | none => .error .unknownArgument
      | some (.switch s) => (p.addSwitch s).bind fun p => addShort level p cs
      | some .help => p.settle.bind fun _ => .error .help
      | some .version => p.settle.bind fun _ => .error .version
      | some (.slot s) =>
          match cs with
          | [] => p.addSlot s none
          | '=' :: value => p.addSlot s (some (String.ofList value))
          | value => p.addSlot s (some (String.ofList value))

end Given

inductive Word
  /-- Two hyphens, after which no word is an option. -/
  | stop
  | long (name : String) (value : Option String)
  | short (names : List Char)
  | plain (text : String)
deriving DecidableEq, Repr, Inhabited

def Word.ofText (s : String) : Word :=
  match s.toList with
  | ['-', '-'] => .stop
  | '-' :: '-' :: rest =>
      let name := String.ofList (rest.takeWhile (· != '='))
      match rest.dropWhile (· != '=') with
      | '=' :: value => .long name (some (String.ofList value))
      | _ => .long name none
  | '-' :: c :: rest => .short (c :: rest)
  | _ => .plain s

/-- How far a level has been read: to the end of the line, or to a command. -/
inductive Reached
  | ended (given : Given)
  | command (level : Level) (given : Given) (rest : List String)
deriving DecidableEq, Repr, Inhabited

namespace Level

/-- The answer to `help` with further words. -/
def helpFault : List String → UsageFault
  | [] => .help
  | [w] => if w == "help" || (ofCommand? w).isSome then .help else .unknownCommand
  | _ => .unknownCommand

def strayFault (level : Level) (afterStop : Bool) (word : String) : UsageFault :=
  if level == .program then
    if afterStop && (word == "help" || (ofCommand? word).isSome) then .unknownArgument
    else .unknownCommand
  else .unknownArgument

def readFile (level : Level) (afterStop : Bool) (p : Given) (word : String) :
    Except UsageFault Given :=
  if level.takesFile p.fileCount then p.addFile word
  else .error (level.strayFault afterStop word)

def readWord (level : Level) (p : Given) (word : String) : Except UsageFault Given :=
  match Word.ofText word with
  | .long name value => p.addLong level name value
  | .short names => Given.addShort level p names
  | .stop | .plain _ =>
      if p.awaitsValue then .ok (p.giveValue word) else level.readFile false p word

def read (level : Level) : Bool → Given → List String → Except UsageFault Reached
  | _, p, [] => .ok (.ended p)
  | true, p, w :: rest => do level.read true (← level.readFile true p w) rest
  | false, p, w :: rest =>
      if level == .program && !p.awaitsValue && w == "help" then .error (helpFault rest)
      else
        match if level == .program && !p.awaitsValue then ofCommand? w else none with
        | some command => .ok (.command command p rest)
        | none =>
            if Word.ofText w == .stop then level.read true p rest
            else do level.read false (← level.readWord p w) rest

end Level

namespace Given

def checkConflict (p : Given) : Except UsageFault Unit :=
  if p.has .verbose && p.has .quiet then .error .conflict else .ok ()

def preset? (p : Given) : Option PresetChoice :=
  (p.value? .preset).bind PresetChoice.ofName?

def instrument (p : Given) (file : String) : InstrumentArguments :=
  { file, routeId := p.value? .routeId, preset := p.preset?, out := p.value? .out
    singleQuote := p.has .singleQuote, minify := p.has .minify }

def inspect (p : Given) : InspectArguments :=
  { files := p.files, preset := p.preset?, json := p.has .json }

end Given

namespace CommandLine

def readCommand (level : Level) (words : List String) : Except UsageFault (Given × Command) := do
  match ← level.read false .empty words with
  | .command _ _ _ => .error .unknownArgument
  | .ended p =>
      let p ← p.settle
      p.checkConflict
      match p.files with
      | [] => .error .missingArgument
      | file :: _ =>
          match level with
          | .instrument => return (p, .instrument (p.instrument file))
          | _ => return (p, .inspect p.inspect)

/-- Read the words of a line. What is said after the command goes before what is said in front of
it. -/
def parse (words : List String) : Except UsageFault CommandLine := do
  match ← Level.program.read false .empty words with
  | .ended p =>
      let p ← p.settle
      if p.switches.isEmpty && p.values.isEmpty then .error .helpForNothing
      else .error .missingCommand
  | .command level outer rest =>
      let (inner, command) ← readCommand level rest
      let outer ← outer.settle
      outer.checkConflict
      let given (s : Switch) : Bool := outer.has s || inner.has s
      return {
        verbose := given .verbose
        quiet := given .quiet
        noColor := given .noColor
        config := (inner.value? .config).orElse fun _ => outer.value? .config
        command }

end CommandLine

end RouteWrap
