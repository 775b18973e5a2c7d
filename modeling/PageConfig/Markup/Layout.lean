import PageConfig.Markup.Block
import PageConfig.Markup.Folding
import PageConfig.Markup.Token

/-!
# The layout of markup

Outside of brackets, indentation opens and closes blocks. Whether a scalar is a
key shows only at the colon after it, so each place where a key may have begun
is kept in mind, and the tokens of the key are put in there afterwards.
-/

set_option autoImplicit false

namespace PageConfig.Markup

/-- A place where a key may have begun, with the number of tokens before it. -/
structure KeyStart where
  before : Nat
  place : Place
  required : Bool

structure Layout where
  place : Place
  /-- The tokens so far, the latest first. -/
  tokens : List Token := []
  indent : Int := -1
  outer : List Int := []
  /-- The place of a possible key for each open bracket, innermost first, and
  at the end the one for the blocks. -/
  keys : List (Option KeyStart) := [none]
  keyAllowed : Bool := true

abbrev Step := StateT Layout Option

namespace Layout

def inFlow (s : Layout) : Bool := 1 < s.keys.length

end Layout

namespace Step

def guard (b : Bool) : Step Unit := if b then pure () else failure

def emit (t : Token) : Step Unit := modify fun s => { s with tokens := t :: s.tokens }

def emitAt (before : Nat) (t : Token) : Step Unit := modify fun s =>
  let later := s.tokens.length - before
  { s with tokens := s.tokens.take later ++ t :: s.tokens.drop later }

def allowKey (b : Bool) : Step Unit := modify fun s => { s with keyAllowed := b }

def goTo (rest : List Char) : Step Unit :=
  modify fun s => { s with place := s.place.atRest rest }

def dropKey : Step Unit := do
  let s ← get
  match s.keys with
  | some k :: keys =>
    guard !k.required
    set { s with keys := none :: keys }
  | _ => pure ()

def keepKey : Step Unit := do
  let s ← get
  if s.keyAllowed then
    dropKey
    let k : KeyStart := {
      before := s.tokens.length
      place := s.place
      required := !s.inFlow && s.indent = s.place.column }
    modify fun s => { s with keys := some k :: s.keys.drop 1 }

/-- A key stands on one line and has at most 1024 characters. -/
def expireKeys : Step Unit := do
  let s ← get
  let isLost (k : KeyStart) : Bool :=
    k.place.line < s.place.line || k.place.index + 1024 < s.place.index
  guard (s.keys.all fun k => k.all fun k => !(isLost k && k.required))
  set { s with keys := s.keys.map (Option.filter (!isLost ·)) }

def openBlock (column : Nat) (t : Token) (put : Token → Step Unit) : Step Unit := do
  let s ← get
  if !s.inFlow && s.indent < column then
    set { s with indent := column, outer := s.indent :: s.outer }
    put t

def unwind (column : Int) : Int → List Int → Nat × Int × List Int
  | indent, [] => (0, indent, [])
  | indent, i :: outer =>
    if indent ≤ column then (0, indent, i :: outer)
    else
      let (n, left) := unwind column i outer
      (n + 1, left)

def closeBlocks (column : Int) : Step Unit := do
  let s ← get
  if !s.inFlow then
    let (n, indent, outer) := unwind column s.indent s.outer
    set { s with indent, outer, tokens := List.replicate n Token.blockEnd ++ s.tokens }

/-- The next token's text after spaces, comments and breaks. A line outside of
brackets may start with a key, and then not with a tab. -/
def gapEnd (flow : Bool) (comment keyAllowed : Bool) : List Char → Bool × List Char
  | [] => (keyAllowed, [])
  | c :: r =>
    if isBreak c then gapEnd flow false (keyAllowed || !flow) r
    else if comment || c = ' ' || (c = '\t' && (flow || !keyAllowed)) then
      gapEnd flow comment keyAllowed r
    else if c = '#' then gapEnd flow true keyAllowed r
    else (keyAllowed, c :: r)

def skipGap : Step Unit := do
  let s ← get
  let (keyAllowed, rest) := gapEnd s.inFlow false s.keyAllowed s.place.rest
  allowKey keyAllowed
  goTo rest

def directive (r : List Char) : Step Unit := do
  closeBlocks (-1)
  dropKey
  allowKey false
  let (t, rest) ← directive? r
  emit t
  goTo rest

def marker (t : Token) (r : List Char) : Step Unit := do
  closeBlocks (-1)
  dropKey
  allowKey false
  emit t
  goTo (r.drop 2)

def openFlow (t : Token) (r : List Char) : Step Unit := do
  keepKey
  modify fun s => { s with keys := none :: s.keys }
  allowKey true
  emit t
  goTo r

def closeFlow (t : Token) (r : List Char) : Step Unit := do
  dropKey
  modify fun s => if s.inFlow then { s with keys := s.keys.drop 1 } else s
  allowKey false
  emit t
  goTo r

def flowEntry (r : List Char) : Step Unit := do
  dropKey
  allowKey true
  emit .flowEntry
  goTo r

def startBlock (t : Token) : Step Unit := do
  let s ← get
  guard (s.inFlow || s.keyAllowed)
  openBlock s.place.column t emit

def entry (r : List Char) : Step Unit := do
  startBlock .blockSequence
  dropKey
  allowKey true
  emit .entry
  goTo r

def key (r : List Char) : Step Unit := do
  startBlock .blockMapping
  dropKey
  allowKey !(← get).inFlow
  emit .key
  goTo r

def value (r : List Char) : Step Unit := do
  match (← get).keys with
  | some k :: keys =>
    emitAt k.before .key
    openBlock k.place.column .blockMapping (emitAt k.before)
    modify fun s => { s with keys := none :: keys }
    allowKey false
  | _ =>
    startBlock .blockMapping
    allowKey !(← get).inFlow
  emit .value
  goTo r

def word (result : Option (Token × List Char)) : Step Unit := do
  keepKey
  allowKey false
  let (t, rest) ← result
  emit t
  goTo rest

def blockScalar (literal : Bool) (r : List Char) : Step Unit := do
  dropKey
  allowKey true
  let (text, rest) ← blockScalar? literal (← get).indent r
  emit (.scalar false text)
  goTo rest

def quoted (double : Bool) (r : List Char) : Step Unit :=
  word ((quotedRun? double (r.length + 1) {} [] r).map fun (text, rest) => (.scalar false text, rest))

def plain (cs : List Char) : Step Unit := do
  let s ← get
  let run := plainRun? s.inFlow (s.indent + 1) {} [] cs
  word (run.map fun run => (.scalar true (String.ofList run.text.reverse), run.rest))
  if run.any (·.broken) then allowKey true

def isMark (c : Char) : Bool := "-?:,[]\x7b\x7d#&*!|>'\"%@`".toList.contains c

def startsPlain (flow : Bool) (c : Char) (r : List Char) : Bool :=
  !(isSpace c || isMark c) || (c = '-' && !r.head?.any isSpace) ||
    (!flow && (c = '?' || c = ':') && !atGap r)

def token (c : Char) (r : List Char) : Step Unit := do
  let s ← get
  let flow := s.inFlow
  let start := s.place.column = 0
  if start && c = '%' then directive r
  else if start && atMarker (c :: r) then
    marker (if c = '-' then .documentStart else .documentEnd) r
  else if c = '[' then openFlow .flowSequence r
  else if c = '{' then openFlow .flowMapping r
  else if c = ']' then closeFlow .flowSequenceEnd r
  else if c = '}' then closeFlow .flowMappingEnd r
  else if c = ',' then flowEntry r
  else if c = '-' && atGap r then entry r
  else if c = '?' && (flow || atGap r) then key r
  else if c = ':' && (flow || atGap r) then value r
  else if c = '*' then word ((anchorName? r).map fun (name, rest) => (.reference name, rest))
  else if c = '&' then word ((anchorName? r).map fun (name, rest) => (.anchor name, rest))
  else if c = '!' then word (tag? flow r)
  else if (c = '|' || c = '>') && !flow then blockScalar (c = '|') r
  else if c = '\'' || c = '"' then quoted (c = '"') r
  else if startsPlain flow c r then plain (c :: r)
  else failure

/-- All tokens of the text. Each step takes a character at least, which bounds
the fuel. -/
def tokens : Nat → Step Unit
  | 0 => failure
  | fuel + 1 => do
    skipGap
    expireKeys
    closeBlocks (← get).place.column
    match (← get).place.rest with
    | [] =>
      closeBlocks (-1)
      dropKey
    | c :: r =>
      token c r
      tokens fuel

end Step

def tokens? (s : String) : Option (List Token) := do
  let cs ← readable? s
  let ((), layout) ← (Step.tokens (cs.length + 1)).run { place := { rest := cs } }
  return layout.tokens.reverse

end PageConfig.Markup
