import PageConfig.Pattern.Expression
import PageConfig.Text.Blank
import PageConfig.Text.Class

/-!
# Reading patterns

The grammar of pattern texts. There is no look-around and there are no back
references; a text that uses them is malformed. Each step of the reader takes
a character, so the length of the text is fuel enough.
-/

set_option autoImplicit false

namespace PageConfig.Pattern

structure Input where
  rest : List Char
  verbose : Bool := false
  names : List String := []

abbrev Reader := StateT Input Option

namespace Reader

def peek? : Reader (Option Char) := return (← get).rest.head?

def peekSecond? : Reader (Option Char) := return (← get).rest[1]?

def advance : Reader Unit := modify fun i => { i with rest := i.rest.drop 1 }

def skipNotes : Nat → List Char → List Char
  | 0, s => s
  | _ + 1, [] => []
  | fuel + 1, c :: s =>
    if isBlank c then skipNotes fuel s
    else if c = '#' then skipNotes fuel (s.dropWhile (· ≠ '\n'))
    else c :: s

def skip : Reader Unit := modify fun i =>
  if i.verbose then { i with rest := skipNotes (i.rest.length + 1) i.rest } else i

def step : Reader Unit := do
  advance
  skip

def take : Reader Char := do
  let some c ← peek? | failure
  advance
  return c

def expect (c : Char) : Reader Unit := do
  let d ← take
  if c ≠ d then failure

def takeText (s : String) : Reader Bool := do
  let i ← get
  if s.toList.isPrefixOf i.rest then
    set { i with rest := i.rest.drop s.toList.length }
    return true
  else return false

def takeKind (p : Char → Bool) : Nat → Reader (List Char)
  | 0 => return []
  | fuel + 1 => do
    match ← peek? with
    | some c =>
      if p c then
        step
        return c :: (← takeKind p fuel)
      else return []
    | none => return []

def takeWhile (p : Char → Bool) : Reader (List Char) := do takeKind p (← get).rest.length

def isHex (c : Char) : Bool :=
  c.isDigit || ('a' ≤ c && c ≤ 'f') || ('A' ≤ c && c ≤ 'F')

def hexNumber (cs : List Char) : Nat :=
  cs.foldl (fun n c =>
    16 * n + (if c.isDigit then c.toNat - '0'.toNat else c.toLower.toNat - 'a'.toNat + 10)) 0

def charOf (n : Nat) : Reader Char :=
  if n.isValidChar then return Char.ofNat n else failure

def hexEscape (length : Nat) : Reader Char := do
  skip
  match ← peek? with
  | some '\x7b' =>
    step
    let ds ← takeWhile isHex
    expect '\x7d'
    if ds.isEmpty then failure
    charOf (hexNumber ds)
  | _ =>
    let ds ← fixed length
    charOf (hexNumber ds)
where
  fixed : Nat → Reader (List Char)
    | 0 => return []
    | n + 1 => do
      let some c ← peek? | failure
      if !isHex c then failure
      if n = 0 then advance else step
      return c :: (← fixed n)

def propertyName : Reader String := do
  skip
  match ← peek? with
  | some '\x7b' =>
    step
    let cs ← takeWhile (· ≠ '\x7d')
    expect '\x7d'
    return String.ofList cs
  | some '\\' => failure
  | _ => return (← take).toString

def isMeta (c : Char) : Bool := "\\.+*?()|[]\x7b\x7d^$#&-~".toList.contains c

def edgeNames : List (String × Assertion) :=
  [("start", .wordStart), ("end", .wordEnd), ("start-half", .wordStartHalf),
    ("end-half", .wordEndHalf)]

/-- The assertion after `\b`. A brace with anything but a letter or a hyphen
after it belongs to a repetition. -/
def wordEdge : Reader Assertion := do
  if (← peek?) ≠ some '\x7b' then return .wordEdge
  let here ← get
  step
  let isEdgeChar (c : Char) : Bool := c.isAlpha || c = '-'
  match ← peek? with
  | none => failure
  | some c =>
    if isEdgeChar c then
      let name ← takeWhile isEdgeChar
      expect '\x7d'
      match edgeNames.lookup (String.ofList name) with
      | some a => return a
      | none => failure
    else
      set here
      return .wordEdge

def escape : Reader Expression := do
  let c ← take
  match c with
  | 'd' => return .set (.letter false .digit)
  | 'D' => return .set (.letter true .digit)
  | 's' => return .set (.letter false .space)
  | 'S' => return .set (.letter true .space)
  | 'w' => return .set (.letter false .word)
  | 'W' => return .set (.letter true .word)
  | 'p' => return .set (.property false (← propertyName))
  | 'P' => return .set (.property true (← propertyName))
  | 'x' => return .literal (← hexEscape 2)
  | 'u' => return .literal (← hexEscape 4)
  | 'U' => return .literal (← hexEscape 8)
  | 'a' => return .literal '\x07'
  | 'f' => return .literal '\x0c'
  | 't' => return .literal '\t'
  | 'n' => return .literal '\n'
  | 'r' => return .literal '\r'
  | 'v' => return .literal '\x0b'
  | 'A' => return .assertion .textStart
  | 'z' => return .assertion .textEnd
  | 'b' => return .assertion (← wordEdge)
  | 'B' => return .assertion .noWordEdge
  | '<' => return .assertion .wordStart
  | '>' => return .assertion .wordEnd
  | c =>
    if isMeta c || (c.toNat < 0x80 && !c.isAlphanum) then return .literal c
    else failure

def asciiNames : List String :=
  ["alnum", "alpha", "ascii", "blank", "cntrl", "digit", "graph", "lower", "print", "punct",
    "space", "upper", "word", "xdigit"]

def asciiClass? : Reader (Option SetExpression) := do
  let here ← get
  if !(← takeText "[:") then return none
  let negated ← takeText "^"
  let cs := (← get).rest.takeWhile (· ≠ ':')
  modify fun i => { i with rest := i.rest.drop cs.length }
  let name := String.ofList cs
  if (← takeText ":]") && asciiNames.contains name then return some (.ascii negated name)
  set here
  return none

def setItem : Reader SetExpression := do
  match ← take with
  | '\\' =>
    match ← escape with
    | .set s => return s
    | .literal c => return .range c c
    | _ => failure
  | c => return .range c c

def setRange : Reader SetExpression := do
  let first ← setItem
  skip
  let some c ← peek? | failure
  let after ← do
    let here ← get
    step
    let next ← peek?
    set here
    pure next
  if c ≠ '-' || after = some ']' || after = some '-' then return first
  step
  let last ← setItem
  match first, last with
  | .range a _, .range b _ => if a ≤ b then return .range a b else failure
  | _, _ => failure

/-- A set under construction: the union so far, and an operator that waits for
its right side. -/
structure Partial where
  negated : Bool
  pending : Option (SetOperator × SetExpression) := none
  items : SetExpression := .nothing

namespace Partial

def add (p : Partial) (s : SetExpression) : Partial := { p with items := .union p.items s }

def close (p : Partial) : SetExpression :=
  match p.pending with
  | none => p.items
  | some (o, a) => .operator o a p.items

/-- Operators have one precedence and group to the left. -/
def await (p : Partial) (o : SetOperator) : Partial :=
  { p with pending := some (o, p.close), items := .nothing }

end Partial

def setStart : Reader Partial := do
  step
  let negated ← do
    if (← peek?) = some '^' then
      step
      pure true
    else pure false
  let hyphens ← takeWhile (· = '-')
  let p : Partial := hyphens.foldl (fun p c => p.add (.range c c)) { negated }
  if hyphens.isEmpty && (← peek?) = some ']' then
    step
    return p.add (.range ']' ']')
  else return p

/-- The items of a set up to its bracket. Open sets around it wait in `outer`. -/
def setRest : Nat → Partial → List Partial → Reader SetExpression
  | 0, _, _ => failure
  | fuel + 1, p, outer => do
    skip
    let some c ← peek? | failure
    let twice := (← peekSecond?) = some c
    match c with
    | '[' =>
      match ← asciiClass? with
      | some s => setRest fuel (p.add s) outer
      | none => setRest fuel (← setStart) (p :: outer)
    | ']' =>
      let s := SetExpression.bracketed p.negated p.close
      match outer with
      | [] =>
        advance
        return s
      | q :: outer =>
        step
        setRest fuel (q.add s) outer
    | _ =>
      if twice && (c = '&' || c = '-' || c = '~') then
        advance
        advance
        let o := if c = '&' then SetOperator.intersection
          else if c = '-' then .difference else .symmetricDifference
        setRest fuel (p.await o) outer
      else
        let s ← setRange
        setRest fuel (p.add s) outer

def count? : Reader (Option Nat) := do
  modify fun i => { i with rest := i.rest.dropWhile isBlank }
  let ds ← takeWhile Char.isDigit
  modify fun i => { i with rest := i.rest.dropWhile isBlank }
  skip
  if ds.isEmpty then return none
  let n := ds.foldl (fun n c => 10 * n + (c.toNat - '0'.toNat)) 0
  if n < Nat.pow 2 32 then return some n else failure

def bounds : Reader (Nat × Option Nat) := do
  step
  let some least ← count? | failure
  match ← peek? with
  | some ',' =>
    step
    if (← peek?) = some '\x7d' then return (least, none)
    let some most ← count? | failure
    if (← peek?) ≠ some '\x7d' then failure
    if most < least then failure
    return (least, some most)
  | some '\x7d' => return (least, some least)
  | _ => failure

def repetition (items : List Expression) (least : Nat) (most : Option Nat) :
    Reader (List Expression) := do
  match items with
  | [] | .empty :: _ | .flags _ :: _ => failure
  | e :: items =>
    step
    let greedy ← do
      if (← peek?) = some '?' then
        advance
        pure false
      else pure true
    return .repetition least most greedy e :: items

def flagOf : Char → Option Flag
  | 'i' => some .ignoreCase
  | 'm' => some .multiLine
  | 's' => some .dotAll
  | 'U' => some .swapGreed
  | 'u' => some .unicode
  | 'R' => some .carriageReturns
  | 'x' => some .verbose
  | _ => none

/-- Flags up to the character that ends them, each named once; those after a
hyphen are switched off. -/
def flagList : Nat → Bool → List (Flag × Bool) → Reader (List (Flag × Bool))
  | 0, _, _ => failure
  | fuel + 1, on, done => do
    let some c ← peek? | failure
    match c with
    | ':' | ')' =>
      return done.reverse
    | '-' =>
      if !on then failure
      step
      match ← peek? with
      | none | some ':' | some ')' => failure
      | _ => flagList fuel false done
    | c =>
      match flagOf c with
      | none => failure
      | some f =>
        if done.any (·.1 = f) then failure
        step
        flagList fuel on ((f, on) :: done)

def groupName : Reader Unit := do
  let cs := (← get).rest.takeWhile (· ≠ '>')
  modify fun i => { i with rest := i.rest.drop cs.length }
  expect '>'
  let isNext (c : Char) : Bool :=
    c = '_' || c = '.' || c = '[' || c = ']' || isLetter c || "N".isPrefixOf (category c)
  let name := String.ofList cs
  match cs with
  | [] => failure
  | c :: cs => if !(c = '_' || isLetter c) || !cs.all isNext then failure
  let i ← get
  if i.names.contains name then failure
  set { i with names := name :: i.names }

/-- What a parenthesis opens: flags for the rest, or a group with flags of its own. -/
inductive Opening where
  | flags (changes : List (Flag × Bool))
  | group (changes : List (Flag × Bool))

def applyVerbose (changes : List (Flag × Bool)) : Reader Unit := modify fun i =>
  { i with verbose := (changes.lookup .verbose).getD i.verbose }

def opening : Reader Opening := do
  step
  if (← takeText "?=") || (← takeText "?!") || (← takeText "?<=") || (← takeText "?<!") then failure
  if (← takeText "?P<") || (← takeText "?<") then
    groupName
    return .group []
  else if ← takeText "?" then
    let changes ← flagList ((← get).rest.length + 1) true []
    let last ← take
    applyVerbose changes
    if last = ')' then
      if changes.isEmpty then failure
      return .flags changes
    else return .group changes
  else return .group []

/-- Alternatives up to a closing parenthesis or the end of the text. The items
of the branch and the branches before it come last first. -/
def branches : Nat → List Expression → List Expression → Reader Expression
  | 0, _, _ => failure
  | fuel + 1, items, earlier => do
    skip
    let finish := Expression.ofBranches (Expression.ofItems items.reverse :: earlier).reverse
    match ← peek? with
    | none => return finish
    | some ')' => return finish
    | some '|' =>
      advance
      branches fuel [] (Expression.ofItems items.reverse :: earlier)
    | some '(' =>
      let outer := (← get).verbose
      match ← opening with
      | .flags changes => branches fuel (.flags changes :: items) earlier
      | .group changes =>
        let e ← branches fuel [] []
        expect ')'
        modify fun i => { i with verbose := outer }
        branches fuel (.group changes e :: items) earlier
    | some '[' =>
      let p ← setStart
      let s ← setRest ((← get).rest.length + 1) p []
      branches fuel (.set s :: items) earlier
    | some '*' => branches fuel (← repetition items 0 none) earlier
    | some '+' => branches fuel (← repetition items 1 none) earlier
    | some '?' => branches fuel (← repetition items 0 (some 1)) earlier
    | some '\x7b' =>
      if items.isEmpty then failure
      let (least, most) ← bounds
      branches fuel (← repetition items least most) earlier
    | some '\\' =>
      advance
      branches fuel ((← escape) :: items) earlier
    | some '.' =>
      advance
      branches fuel (.dot :: items) earlier
    | some '^' =>
      advance
      branches fuel (.assertion .lineStart :: items) earlier
    | some '$' =>
      advance
      branches fuel (.assertion .lineEnd :: items) earlier
    | some c =>
      advance
      branches fuel (.literal c :: items) earlier

end Reader

def depthLimit : Nat := 250

def sizeLimit : Nat := 10 * Nat.pow 2 20

def expression? (s : String) : Option Expression := do
  let cs := s.toList
  let (e, i) ← (Reader.branches (2 * cs.length + 2) [] []).run { rest := cs }
  if i.rest.isEmpty && e.depth ≤ depthLimit && e.size ≤ sizeLimit then some e else none

end PageConfig.Pattern
