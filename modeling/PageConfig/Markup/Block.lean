import PageConfig.Markup.Place

/-!
# Block scalars

A block scalar is a run of lines below its header, each without the indentation
of the block. The literal style keeps the breaks; the folded style joins lines
that do not start with a space. The header says what becomes of the breaks at
the end.
-/

set_option autoImplicit false

namespace PageConfig.Markup

inductive Chomp where
  | strip
  | clip
  | keep
  deriving DecidableEq, Repr

def chomp? : List Char → Option (Chomp × List Char)
  | '+' :: r => some (.keep, r)
  | '-' :: r => some (.strip, r)
  | _ => none

def increment? : List Char → Option (Option Nat × List Char)
  | [] => some (none, [])
  | c :: r =>
    if c = '0' then none
    else if c.isDigit then some (some (c.toNat - '0'.toNat), r)
    else some (none, c :: r)

def blockHeader? (cs : List Char) : Option (Chomp × Option Nat × List Char) :=
  match chomp? cs with
  | some (chomp, r) => (increment? r).map fun (n, r) => (chomp, n, r)
  | none => do
    let (n, r) ← increment? cs
    match n, chomp? r with
    | some n, some (chomp, r) => return (chomp, some n, r)
    | n, _ => return (.clip, n, r)

structure EmptyLines where
  breaks : List Char
  column : Nat
  widest : Nat
  rest : List Char

/-- Passes empty lines and the indentation of the line after them, which is
`limit` spaces wide or, without a limit, as wide as it goes. -/
def emptyLines? (limit : Option Nat) : Nat → EmptyLines → Option EmptyLines
  | 0, _ => none
  | fuel + 1, e =>
    let spaces := (e.rest.takeWhile (· = ' ')).length
    let column := (limit.map (min spaces ·)).getD spaces
    let widest := max e.widest column
    match e.rest.drop column with
    | [] => some { e with column, widest, rest := [] }
    | c :: r =>
      if c = '\t' && limit.all (column < ·) then none
      else if isBreak c then
        emptyLines? limit fuel { breaks := e.breaks ++ [c], column := 0, widest, rest := r }
      else some { e with column, widest, rest := c :: r }

def emptyLinesAt? (limit : Option Nat) (cs : List Char) : Option EmptyLines :=
  emptyLines? limit (cs.length + 1) { breaks := [], column := 0, widest := 0, rest := cs }

structure BlockLines where
  text : List Char := []
  lastBreak : List Char := []
  breaks : List Char := []
  spaced : Bool := false

def BlockLines.joined (b : BlockLines) (literal spaced : Bool) : List Char :=
  let first :=
    if !literal && b.lastBreak = ['\n'] && !b.spaced && !spaced then
      if b.breaks.isEmpty then [' '] else []
    else b.lastBreak
  b.text ++ first ++ b.breaks

def blockLines? (literal : Bool) (indent : Nat) :
    Nat → BlockLines → Nat → List Char → Option (BlockLines × List Char)
  | 0, _, _, _ => none
  | _ + 1, b, _, [] => some (b, [])
  | fuel + 1, b, column, c :: r =>
    if column ≠ indent then some (b, c :: r)
    else do
      let spaced := isSpace c
      let text := b.joined literal spaced ++ (c :: r).takeWhile (!isBreak ·)
      let tail := (c :: r).dropWhile (!isBreak ·)
      let next ← emptyLinesAt? (some indent) (tail.drop 1)
      blockLines? literal indent fuel
        { text, lastBreak := tail.take 1, breaks := next.breaks, spaced } next.column next.rest

def blockScalar? (literal : Bool) (outer : Int) (cs : List Char) : Option (String × List Char) := do
  let (chomp, increment, cs) ← blockHeader? cs
  let cs ← lineEnd? cs
  let given := increment.map fun n => (max outer 0).toNat + n
  let start ← emptyLinesAt? given cs
  let indent := given.getD (max start.widest (max (outer + 1) 1).toNat)
  let (b, rest) ← blockLines? literal indent (cs.length + 1) { breaks := start.breaks }
    start.column start.rest
  let text := match chomp with
    | .strip => b.text
    | .clip => b.text ++ b.lastBreak
    | .keep => b.text ++ b.lastBreak ++ b.breaks
  return (String.ofList text, rest)

end PageConfig.Markup
