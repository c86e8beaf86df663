import RouteWrap.Syntax.Kind
import RouteWrap.Syntax.Tree

/-!
Comments and the token each is attached to. A comment leads the next token unless it trails the
last one on its line; only leading comments are printed again. Annotations that mark a call or a
function as pure are kept apart from the others.
-/

namespace RouteWrap

inductive CommentContent
  | plain | legal | pureCall | pureFunction
deriving DecidableEq, Repr, Inhabited

structure Comment where
  span : Span
  isLine : Bool
  text : String
  content : CommentContent
  afterNewline : Bool
  beforeNewline : Bool
  /-- The start of the token that the comment leads. -/
  leads : Option Nat
deriving Repr, Inhabited

/-- Comments seen so far. `settled` of them lead a token or trail one; the others wait for the
next token. -/
structure Trivia where
  comments : Array Comment
  settled : Nat
  newline : Bool
  previous : Kind
deriving Repr, Inhabited

namespace Trivia

def empty : Trivia := ⟨#[], 0, true, .unknown⟩

def afterLineEnd (t : Trivia) : Trivia :=
  let n := t.comments.size
  if t.settled < n then
    { t with
      comments := t.comments.modify (n - 1) fun c => { c with beforeNewline := true }
      settled := if t.newline then t.settled else n
      newline := true }
  else
    { t with newline := true }

/-- All waiting comments lead a token that starts at `start`. -/
def afterToken (t : Trivia) (kind : Kind) (start : Nat) : Trivia :=
  let n := t.comments.size
  let comments :=
    if t.settled < n then
      (List.range (n - t.settled)).foldl
        (fun cs i => cs.modify (t.settled + i) fun c => { c with leads := some start }) t.comments
    else t.comments
  { comments, settled := n, newline := false, previous := kind }

/-- A line comment trails the last token unless that token opens a value. -/
def trails (t : Trivia) : Bool :=
  !t.newline && t.previous != .mark "=" && t.previous != .mark "("

def addLine (t : Trivia) (c : Comment) : Trivia :=
  let c := { c with afterNewline := t.newline, beforeNewline := true }
  let comments := t.comments.push c
  { t with
    comments
    settled := if t.trails then comments.size else t.settled
    newline := true }

def addBlock (t : Trivia) (c : Comment) : Trivia :=
  { t with comments := t.comments.push { c with afterNewline := t.newline } }

end Trivia

end RouteWrap
