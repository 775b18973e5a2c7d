import PageConfig.Markup.Place
import PageConfig.Value.Parser

/-!
# Scalars on several lines

Plain and quoted scalars may go on over lines. The gap between two words that
holds breaks is folded: one break is a space, of more the first is dropped.
-/

set_option autoImplicit false

namespace PageConfig.Markup

structure Gap where
  spaces : List Char := []
  /-- The first break, if there is one; empty if an escape took its meaning away. -/
  first : Option (List Char) := none
  more : List Char := []
  column : Nat := 0

namespace Gap

def isBroken (g : Gap) : Bool := g.first.isSome

def isEmpty (g : Gap) : Bool := g.spaces.isEmpty && !g.isBroken

def push (g : Gap) (c : Char) : Gap :=
  match g.first with
  | none => if isBreak c then { first := some [c] } else { g with spaces := g.spaces ++ [c] }
  | some _ =>
    if isBreak c then { g with more := g.more ++ [c], column := 0 }
    else { g with column := g.column + 1 }

def text (g : Gap) : List Char :=
  match g.first with
  | none => g.spaces
  | some ['\n'] => if g.more.isEmpty then [' '] else g.more
  | some first => first ++ g.more

def meetsMarker (g : Gap) (rest : List Char) : Bool :=
  g.isBroken && g.column = 0 && atMarker rest

end Gap

structure PlainRun where
  text : List Char
  broken : Bool
  rest : List Char

def endsPlain (flow : Bool) (c : Char) (rest : List Char) : Bool :=
  (c = ':' && atGap rest) || (flow && (c = ',' || c = '[' || c = ']' || c = '{' || c = '}'))

/-- Inside brackets a colon must not touch a mark of the brackets. -/
def isTightColon (flow : Bool) (c : Char) (rest : List Char) : Bool :=
  flow && c = ':' && rest.head?.any fun d =>
    d = ',' || d = '?' || d = '[' || d = ']' || d = '{' || d = '}'

/-- A plain scalar. Outside of brackets the lines after the first have to reach
the column; tabs must not stand in for the spaces in front of it. -/
def plainRun? (flow : Bool) (indent : Int) : Gap → List Char → List Char → Option PlainRun
  | gap, done, [] => some ⟨done, gap.isBroken, []⟩
  | gap, done, c :: r =>
    if isSpace c || isBreak c then
      if c = '\t' && gap.isBroken && gap.column < indent then none
      else plainRun? flow indent (gap.push c) done r
    else if !gap.isEmpty && ((!flow && gap.isBroken && gap.column < indent) ||
        gap.meetsMarker (c :: r) || c = '#') then
      some ⟨done, gap.isBroken, c :: r⟩
    else if isTightColon flow c r then none
    else if endsPlain flow c r then some ⟨done, gap.isBroken, c :: r⟩
    else plainRun? flow indent {} (c :: (gap.text.reverse ++ done)) r

def coded? (digits : Nat) (cs : List Char) : Option (Char × List Char) := do
  let ds := cs.take digits
  if ds.length < digits then none
  let n ← Value.Reader.hexRun? ds
  if h : n.isValidChar then some (Char.ofNatAux n h, cs.drop digits) else none

def escape? : List Char → Option (Char × List Char)
  | '0' :: r => some ('\x00', r)
  | 'a' :: r => some ('\x07', r)
  | 'b' :: r => some ('\x08', r)
  | 't' :: r => some ('\t', r)
  | '\t' :: r => some ('\t', r)
  | 'n' :: r => some ('\n', r)
  | 'v' :: r => some ('\x0b', r)
  | 'f' :: r => some ('\x0c', r)
  | 'r' :: r => some ('\r', r)
  | 'e' :: r => some ('\x1b', r)
  | ' ' :: r => some (' ', r)
  | '"' :: r => some ('"', r)
  | '/' :: r => some ('/', r)
  | '\\' :: r => some ('\\', r)
  | 'N' :: r => some ('\u0085', r)
  | '_' :: r => some ('\u00a0', r)
  | 'L' :: r => some ('\u2028', r)
  | 'P' :: r => some ('\u2029', r)
  | 'x' :: r => coded? 2 r
  | 'u' :: r => coded? 4 r
  | 'U' :: r => coded? 8 r
  | _ => none

/-- What a backslash stands for together with what follows it: an escaped
break only opens a gap. -/
def escapeOrBreak? : List Char → Option (Gap × List Char × List Char)
  | [] => none
  | c :: r =>
    if isBreak c then some ({ first := some [] }, [], r)
    else (escape? (c :: r)).map fun (e, r) => ({}, [e], r)

/-- The rest of a quoted scalar after its opening quote. The fuel is the
length of what is left, of which every step takes a character. -/
def quotedRun? (double : Bool) : Nat → Gap → List Char → List Char → Option (String × List Char)
  | 0, _, _, _ => none
  | _ + 1, _, _, [] => none
  | fuel + 1, gap, done, c :: r =>
    if isSpace c || isBreak c then quotedRun? double fuel (gap.push c) done r
    else if gap.meetsMarker (c :: r) then none
    else
      let done := gap.text.reverse ++ done
      if double then
        if c = '"' then some (String.ofList done.reverse, r)
        else if c = '\\' then
          match escapeOrBreak? r with
          | some (gap, e, r) => quotedRun? double fuel gap (e ++ done) r
          | none => none
        else quotedRun? double fuel {} (c :: done) r
      else if c = '\'' then
        match r with
        | '\'' :: r => quotedRun? double fuel {} ('\'' :: done) r
        | r => some (String.ofList done.reverse, r)
      else quotedRun? double fuel {} (c :: done) r

end PageConfig.Markup
