/-!
# Pattern expressions

The written form of a pattern as a tree. Sets of characters have operators of
their own. Reading one is the work of `Pattern.Reader`, and what it matches is
said in `Pattern.Meaning`.
-/

set_option autoImplicit false

namespace PageConfig

inductive LetterClass where
  | digit
  | space
  | word
  deriving DecidableEq

inductive SetOperator where
  | intersection
  | difference
  | symmetricDifference
  deriving DecidableEq

inductive SetExpression where
  | nothing
  | range (first last : Char)
  | letter (negated : Bool) (k : LetterClass)
  | property (negated : Bool) (name : String)
  | ascii (negated : Bool) (name : String)
  | bracketed (negated : Bool) (s : SetExpression)
  | union (a b : SetExpression)
  | operator (o : SetOperator) (a b : SetExpression)

inductive Flag where
  | ignoreCase
  | multiLine
  | dotAll
  | swapGreed
  | unicode
  | verbose
  | carriageReturns
  deriving DecidableEq

inductive Assertion where
  | textStart
  | textEnd
  | lineStart
  | lineEnd
  | wordEdge
  | noWordEdge
  | wordStart
  | wordEnd
  | wordStartHalf
  | wordEndHalf
  deriving DecidableEq

inductive Expression where
  | empty
  | flags (changes : List (Flag × Bool))
  | literal (c : Char)
  | dot
  | assertion (a : Assertion)
  | set (s : SetExpression)
  | repetition (least : Nat) (most : Option Nat) (greedy : Bool) (e : Expression)
  | group (changes : List (Flag × Bool)) (e : Expression)
  | concat (es : List Expression)
  | alternatives (es : List Expression)

namespace SetExpression

def depth : SetExpression → Nat
  | bracketed _ s => s.depth + 1
  | union a b => max a.depth b.depth
  | operator _ a b => max a.depth b.depth + 1
  | _ => 0

def size : SetExpression → Nat
  | nothing => 0
  | range _ last => if last.toNat < 0x80 then 32 else 96
  | letter _ .digit => 4096
  | letter _ .space => 640
  | letter _ .word => 49152
  | property _ _ => 40960
  | ascii _ _ => 64
  | bracketed negated s => if negated then max s.size 384 else s.size
  | union a b => max a.size b.size
  | operator _ a b => max a.size b.size

end SetExpression

namespace Expression

mutual

def depth : Expression → Nat
  | set s => s.depth
  | repetition _ _ _ e => e.depth + 1
  | group _ e => e.depth + 1
  | concat es => depthAll es + 1
  | alternatives es => depthAll es + 1
  | _ => 0

def depthAll : List Expression → Nat
  | [] => 0
  | e :: es => max e.depth (depthAll es)

end

mutual

/-- The room that an expression takes with its counted repetitions written
out, a character taking 32 units. -/
def size : Expression → Nat
  | literal _ => 32
  | assertion _ => 32
  | dot => 352
  | set s => s.size
  | repetition least most _ e => max 1 (max least (most.getD (least + 1))) * e.size
  | group _ e => e.size + 64
  | concat es => sizeAll es
  | alternatives es => sizeAll es + 32
  | _ => 0

def sizeAll : List Expression → Nat
  | [] => 0
  | e :: es => e.size + sizeAll es

end

def ofItems : List Expression → Expression
  | [] => empty
  | [e] => e
  | es => concat es

def ofBranches : List Expression → Expression
  | [e] => e
  | es => alternatives es

end Expression

end PageConfig
