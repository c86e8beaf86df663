/-!
Operators and how tightly they bind. `Precedence` orders the contexts an expression can stand in;
a binary operator reads its operands at the levels `leftLevel` and `rightLevel`.
-/

namespace RouteWrap

inductive Precedence
  | lowest | comma | spread | yield | assign | conditional | coalesce | logicalOr | logicalAnd
  | bitOr | bitXor | bitAnd | equals | compare | shift | add | multiply | power
  | unary | update | construct | call | member
deriving DecidableEq, Repr, Inhabited

namespace Precedence

def rank : Precedence → Nat
  | lowest => 0 | comma => 1 | spread => 2 | yield => 3 | assign => 4 | conditional => 5
  | coalesce => 6 | logicalOr => 7 | logicalAnd => 8 | bitOr => 9 | bitXor => 10 | bitAnd => 11
  | equals => 12 | compare => 13 | shift => 14 | add => 15 | multiply => 16 | power => 17
  | unary => 18 | update => 19 | construct => 20 | call => 21 | member => 22

instance : LE Precedence := ⟨fun p q => p.rank ≤ q.rank⟩
instance : LT Precedence := ⟨fun p q => p.rank < q.rank⟩
instance (p q : Precedence) : Decidable (p ≤ q) := inferInstanceAs (Decidable (p.rank ≤ q.rank))
instance (p q : Precedence) : Decidable (p < q) := inferInstanceAs (Decidable (p.rank < q.rank))

/-- The level just below; nothing lies below the lowest. -/
def below : Precedence → Precedence
  | lowest => lowest | comma => lowest | spread => comma | yield => spread | assign => yield
  | conditional => assign | coalesce => conditional | logicalOr => coalesce
  | logicalAnd => logicalOr | bitOr => logicalAnd | bitXor => bitOr | bitAnd => bitXor
  | equals => bitAnd | compare => equals | shift => compare | add => shift | multiply => add
  | power => multiply | unary => power | update => unary | construct => update
  | call => construct | member => call

end Precedence

inductive BinaryOperator
  | equal | notEqual | identical | notIdentical | less | lessEqual | greater | greaterEqual
  | shiftLeft | shiftRight | shiftRightZero | plus | minus | times | dividedBy | remainder | power
  | bitOr | bitXor | bitAnd | isIn | instanceOf | or | and | coalesce
deriving DecidableEq, Repr, Inhabited

namespace BinaryOperator

def text : BinaryOperator → String
  | equal => "==" | notEqual => "!=" | identical => "===" | notIdentical => "!=="
  | less => "<" | lessEqual => "<=" | greater => ">" | greaterEqual => ">="
  | shiftLeft => "<<" | shiftRight => ">>" | shiftRightZero => ">>>"
  | plus => "+" | minus => "-" | times => "*" | dividedBy => "/" | remainder => "%" | power => "**"
  | bitOr => "|" | bitXor => "^" | bitAnd => "&" | isIn => "in" | instanceOf => "instanceof"
  | or => "||" | and => "&&" | coalesce => "??"

def all : List BinaryOperator :=
  [equal, notEqual, identical, notIdentical, less, lessEqual, greater, greaterEqual, shiftLeft,
   shiftRight, shiftRightZero, plus, minus, times, dividedBy, remainder, power, bitOr, bitXor, bitAnd,
   isIn, instanceOf, or, and, coalesce]

def ofText? (s : String) : Option BinaryOperator :=
  all.find? fun op => op.text == s

def precedence : BinaryOperator → Precedence
  | equal | notEqual | identical | notIdentical => .equals
  | less | lessEqual | greater | greaterEqual | isIn | instanceOf => .compare
  | shiftLeft | shiftRight | shiftRightZero => .shift
  | plus | minus => .add
  | times | dividedBy | remainder => .multiply
  | power => .power
  | bitOr => .bitOr
  | bitXor => .bitXor
  | bitAnd => .bitAnd
  | or => .logicalOr
  | and => .logicalAnd
  | coalesce => .coalesce

def isLogical : BinaryOperator → Bool
  | or | and | coalesce => true
  | _ => false

def isWord : BinaryOperator → Bool
  | isIn | instanceOf => true
  | _ => false

def assigns : BinaryOperator → Bool
  | shiftLeft | shiftRight | shiftRightZero | plus | minus | times | dividedBy | remainder | power
  | bitOr | bitXor | bitAnd | or | and | coalesce => true
  | _ => false

theorem ofText?_text (op : BinaryOperator) : ofText? op.text = some op := by
  cases op <;> decide

end BinaryOperator

/-- Plain assignment, or assignment of an operator's result. -/
inductive AssignOperator
  | plain
  | compound (op : BinaryOperator)
deriving DecidableEq, Repr, Inhabited

namespace AssignOperator

def text : AssignOperator → String
  | plain => "="
  | compound op => op.text ++ "="

def ofText? (s : String) : Option AssignOperator :=
  if s == "=" then some plain
  else (BinaryOperator.all.find? fun op => op.assigns && op.text ++ "=" == s).map compound

end AssignOperator

inductive UnaryOperator
  | plus | minus | not | complement | typeOf | void | delete
deriving DecidableEq, Repr, Inhabited

namespace UnaryOperator

def text : UnaryOperator → String
  | plus => "+" | minus => "-" | not => "!" | complement => "~"
  | typeOf => "typeof" | void => "void" | delete => "delete"

def all : List UnaryOperator := [plus, minus, not, complement, typeOf, void, delete]

def ofText? (s : String) : Option UnaryOperator :=
  all.find? fun op => op.text == s

def isWord : UnaryOperator → Bool
  | typeOf | void | delete => true
  | _ => false

end UnaryOperator

inductive UpdateOperator
  | increment | decrement
deriving DecidableEq, Repr, Inhabited

def UpdateOperator.text : UpdateOperator → String
  | .increment => "++"
  | .decrement => "--"

end RouteWrap
