import RouteWrap.Grammar.Basic

/-!
Targets of assignments. A target is read as an expression first; what the expression holds decides
whether it is a target and how its parts nest.
-/

namespace RouteWrap.Grammar

open P

def invalidTarget (t : Tree) : P Tree := do
  fatal .invalidTarget t.span.start
  return t

/-- A name, a member or a typed form of these, without the parentheses around it. -/
def simpleTarget : Tree → P Tree
  | t@(.ref ..) => return t
  | t@(.expr _ (.member ..) _) => return t
  | t@(.expr _ (.privateMember ..) _) => return t
  | t@(.expr _ (.computedMember _) _) => return t
  | t@(.expr _ .asType _) => return t
  | t@(.expr _ .satisfies _) => return t
  | t@(.expr _ .nonNull _) => return t
  | t@(.expr _ .assertion _) => return t
  | t@(.expr s .parenthesized [inner]) =>
      match inner with
      | .expr _ .object _ | .expr _ .array _ => do
          fatal .invalidTarget s.start
          return t
      | inner => simpleTarget inner
  | t => invalidTarget t

/-- The assignment that a shorthand property with a value stands for is a target now. -/
def uncover (start : Nat) : P Unit :=
  modify fun c => { c with covers := c.covers.filter (· != start) }

/-- Elements before the last are not spread. -/
def targetElements (element : Tree → P Tree) (commaAfter : Option Nat) :
    List Tree → P (List Tree)
  | [] => return []
  | [.expr s .spread [t]] => do
      match commaAfter with
      | some offset => fault .trailingRestComma offset
      | none => pure ()
      let t ← element t
      return [.expr s .targetRest [t]]
  | t@(.expr s .spread _) :: _ => do
      fatal .lastSpread s.start
      return [t]
  | .absent :: ts => do
      let rest ← targetElements element commaAfter ts
      return .absent :: rest
  | t :: ts => do
      let first ← element t
      let rest ← targetElements element commaAfter ts
      return first :: rest

mutual

/-- The target that an expression is read as; `depth` bounds its nesting. -/
def target : Nat → Tree → P Tree
  | depth + 1, .expr s .array es => do
      let comma := ((← get).trailingCommas.find? (·.1 == s.start)).map (·.2)
      let es ← targetElements (targetMaybeDefault depth) comma es
      return .expr s .arrayTarget es
  | depth + 1, .expr s .object ps => do
      let ps ← targetElements (targetProperty depth) none ps
      return .expr s .objectTarget ps
  | _, t => simpleTarget t

def targetMaybeDefault : Nat → Tree → P Tree
  | depth + 1, .expr s (.assignment .plain) [left, value] => do
      let _ := depth
      return .expr s .targetDefault [left, value]
  | depth + 1, t => target depth t
  | 0, t => simpleTarget t

def targetProperty : Nat → Tree → P Tree
  | _ + 1, .expr s (.property true _) [_, .ref r u n] => do
      return .expr s .targetShorthand [.ref r u n, .absent]
  | _ + 1, .expr s (.property true _) [_, .ref r u n, value] => do
      uncover s.start
      return .expr s .targetShorthand [.ref r u n, value]
  | depth + 1, .expr s (.property _ computed) [key, value] => do
      let value ← targetMaybeDefault depth value
      return .expr s (.targetProperty computed) [key, value]
  | depth + 1, t => target depth t
  | 0, t => simpleTarget t

end

/-- The target on the left of an assignment; only plain assignment takes patterns. -/
def assignmentTarget (patterns : Bool) (t : Tree) : P Tree :=
  match t with
  | .expr _ .array _ | .expr _ .object _ =>
      if patterns then target (2 * t.depth + 2) t else simpleTarget t
  | t => simpleTarget t

end RouteWrap.Grammar
