import RouteWrap.Syntax.Module
import RouteWrap.Syntax.Scanner

/-!
The state of reading a module: the current token, the scanner behind it, the faults met, and the
context that decides what the next phrase may hold. A fault that ends the reading is kept apart:
the first one counts, the scanner moves to the end of the text, and the readers under way return
whatever trees they have.
-/

namespace RouteWrap

structure Context where
  /-- `in` is an operator. -/
  allowIn : Bool
  inGenerator : Bool
  inAsync : Bool
  inFunction : Bool
  ambient : Bool
  inDecorator : Bool
  noConditionalType : Bool
deriving DecidableEq, Repr, Inhabited

structure Cursor where
  dialect : Dialect
  scanner : Scanner
  token : Token
  /-- Where the token before the current one stops. -/
  stopped : Nat
  faults : Array Diagnostic
  /-- The fault that ended the reading, and how many faults came before it. -/
  fatal : Option (Diagnostic × Nat)
  context : Context
  /-- Starts of shorthand properties with a value, which only a target may hold. -/
  covers : List Nat
  /-- Starts of array literals that end with a comma, and where the comma is. -/
  trailingCommas : List (Nat × Nat)
deriving Inhabited

abbrev P := StateM Cursor

namespace P

def token : P Token := return (← get).token
def kind : P Kind := return (← get).token.kind
def context : P Context := return (← get).context
def typed : P Bool := return (← get).dialect.typed
def tags : P Bool := return (← get).dialect.tags
def start : P Nat := return (← get).token.span.start
def stopped : P Nat := return (← get).stopped

def since (start : Nat) : P Span := return ⟨start, (← get).stopped⟩

def fault (f : Fault) (offset : Nat) : P Unit :=
  modify fun c => { c with faults := c.faults.push ⟨f, offset⟩ }

def scan {α : Type} (s : Scan α) : P α :=
  modifyGet fun c =>
    let (a, scanner) := s.run c.scanner
    (a, { c with scanner })

def stop (d : Diagnostic) : P Unit :=
  modify fun c =>
    if c.fatal.isSome then c
    else
      let s := c.scanner
      { c with
        fatal := some (d, c.faults.size)
        scanner := { s with rest := [], offset := s.offset + Scanner.bytes s.rest } }

def fatal (f : Fault) (offset : Nat) : P Unit := stop ⟨f, offset⟩

def hasFatal : P Bool := return (← get).fatal.isSome

def ended : P Bool := do
  let c ← get
  return c.fatal.isSome || c.token.kind == .eof || c.token.kind == .unknown

/-- The current token cannot stand here; if the scanner knows why, that is the fault. -/
def unexpected : P Unit := do
  let c ← get
  let d : Diagnostic := ⟨.unexpected, c.token.span.start⟩
  if c.token.kind == .eof || c.token.kind == .unknown then
    match c.scanner.faults.back? with
    | some known =>
        set { c with scanner := { c.scanner with faults := c.scanner.faults.pop } }
        stop known
    | none => stop d
  else stop d

/-- Put the token that `lex` reads in place of the current one. -/
def rescan (lex : Token → Scan Token) : P Unit := do
  let t ← scan (lex (← token))
  modify fun c => { c with token := t }

def moveWith (lex : Scan Token) : P Unit := do
  let t ← scan lex
  modify fun c => { c with stopped := c.token.span.stop, token := t }

def move : P Unit := moveWith Scanner.next

/-- Move over a word that means what it spells; then it must be spelled without escapes. -/
def moveOver : P Unit := do
  let t ← token
  match t.kind with
  | .word _ => if t.escaped then fault .escapedKeyword t.start
  | _ => pure ()
  move

def at? (k : Kind) : P Bool := return (← kind) == k
def atMark (m : String) : P Bool := at? (.mark m)
def atWord (w : String) : P Bool := at? (.word w)
def newline : P Bool := return (← token).newlineBefore

def eat (k : Kind) : P Bool := do
  if ← at? k then
    moveOver
    return true
  else return false

def eatMark (m : String) : P Bool := eat (.mark m)
def eatWord (w : String) : P Bool := eat (.word w)

def require (k : Kind) : P Unit := do
  let t ← token
  if t.kind != k then fatal (.expected k t.kind) t.start

def expect (k : Kind) : P Unit := do
  require k
  moveOver

def expectMark (m : String) : P Unit := expect (.mark m)
def expectWord (w : String) : P Unit := expect (.word w)

/-- The end of the statement may be left to the line or block. -/
def statementEnds : P Bool := do
  let t ← token
  return t.kind == .mark ";" || t.kind == .mark "\x7d" || t.kind == .eof || t.newlineBefore

def semicolon : P Unit := do
  unless (← eatMark ";") || (← statementEnds) do
    fatal .semicolon (← stopped)

/-! Looking ahead and trying -/

/-- The answer of `p`, with everything it did undone. -/
def ahead {α : Type} (p : P α) : P α := do
  let c ← get
  let a ← p
  set c
  return a

/-- The answer of `p`, unless it ends in a fault; then everything it did is undone. -/
def tryRead {α : Type} (p : P α) : P (Option α) := do
  let c ← get
  let a ← p
  if ← hasFatal then
    set c
    return none
  else return some a

/-- The answer of `p` if it has one; else everything it did is undone. -/
def attempt {α : Type} (p : P (Option α)) : P (Option α) := do
  let c ← get
  match ← p with
  | some a => return some a
  | none =>
      set c
      return none

def within {α : Type} (change : Context → Context) (p : P α) : P α := do
  let before ← context
  modify fun c => { c with context := change c.context }
  let a ← p
  modify fun c => { c with context := before }
  return a

def allowIn (c : Context) : Context := { c with allowIn := true }
def refuseIn (c : Context) : Context := { c with allowIn := false }

def follows (p : P Bool) : P Bool := ahead do
  move
  p

/-- A bound for loops that move at least once a round. -/
def bound : P Nat := return (← get).scanner.rest.length + 4

def repeatWith {σ : Type} (step : σ → P (σ × Bool)) : Nat → σ → P σ
  | 0, s => return s
  | fuel + 1, s => do
      let (s, more) ← step s
      if more then repeatWith step fuel s else return s

/-- Run `step` on its own result until it says that it is done. -/
def iterate {σ : Type} (step : σ → P (σ × Bool)) (s : σ) : P σ := do
  repeatWith step (← bound) s

/-! Lists -/

/-- Elements up to `close`, not separated. -/
def many {α : Type} (close : Kind) (element : P α) : P (List α) := do
  let found ← iterate (fun (acc : Array α) => do
    if (← at? close) || (← ended) then return (acc, false)
    else return (acc.push (← element), true)) #[]
  return found.toList

/-- Elements up to `close` with commas between them, and where a comma before `close` is. -/
def separated {α : Type} (close : Kind) (element : P α) : P (List α × Option Nat) := do
  let (found, _, comma) ← iterate (fun ((acc, first, _) : Array α × Bool × Option Nat) => do
    let k ← kind
    if k == close || (← ended) then return ((acc, first, none), false)
    else if first then return ((acc.push (← element), false, none), true)
    else if k != .mark "," then
      fatal (.expectedEither (.mark ",") close k) (← start)
      return ((acc, first, none), false)
    else
      let comma ← start
      move
      if (← kind) == close then return ((acc, first, some comma), false)
      else return ((acc.push (← element), false, none), true)) (#[], true, none)
  return (found.toList, comma)

/-- As `separated`, where one element after dots may come last. -/
def separatedWithRest {α : Type} (close : Kind) (element : P α) (rest : P (α × Nat))
    (misplaced : Fault) : P (List α) := do
  let one := fun (acc : Array α × Option Nat) => do
    match acc.2 with
    | some offset => fault misplaced offset
    | none => pure ()
    if ← atMark "..." then
      let (r, offset) ← rest
      return (acc.1.push r, some offset)
    else return (acc.1.push (← element), acc.2)
  let (found, _) ← iterate (fun ((acc, first) : (Array α × Option Nat) × Bool) => do
    let k ← kind
    if k == close || (← ended) then return ((acc, first), false)
    else if first then return ((← one acc, false), true)
    else if k != .mark "," then
      fatal (.expectedEither (.mark ",") close k) (← start)
      return ((acc, first), false)
    else
      let comma ← start
      move
      if (← kind) == close then
        if acc.2.isSome && !(← context).ambient then fault .trailingRestComma comma
        return ((acc, first), false)
      else return ((← one acc, false), true)) ((#[], none), true)
  return found.1.toList

/-! Names -/

/-- Whether a token of kind `k` can be a name that is bound or referred to. -/
def checkName (k : Kind) (offset : Nat) (c : Context) : P Unit := do
  if k == .word "await" && c.inAsync then fault (.asyncName "await") offset
  if k == .word "yield" && c.inGenerator then fault (.generatorName "yield") offset

def takeName : P Name := do
  let t ← token
  move
  return ⟨t.span, t.text⟩

def anyName : P Name := do
  let t ← token
  unless t.kind.isNameLike do unexpected
  takeName

def bindingName : P Name := do
  let t ← token
  if t.kind.isName then
    checkName t.kind t.start (← context)
  else if t.kind.isReserved then
    fatal (.reservedName t.kind.shown) t.start
  else unexpected
  takeName

def reference : P Tree := do
  let t ← token
  if t.kind.isName then
    checkName t.kind t.start (← context)
  else unexpected
  move
  return .ref t.span .value t.text

end P

end RouteWrap
