/-!
# Places in markup

Markup is the indented notation for values: line breaks and columns count. A
place is a position in a text together with the text that follows it.
-/

set_option autoImplicit false

namespace PageConfig.Markup

def isSpace (c : Char) : Bool := c = ' ' || c = '\t'

/-- The ends of lines, once `readable?` has made one of most of them. -/
def isBreak (c : Char) : Bool := c = '\n' || c = '\u2028' || c = '\u2029'

def isName (c : Char) : Bool := c.isAlphanum || c = '_' || c = '-'

def isReadable (c : Char) : Bool :=
  let n := c.toNat
  c = '\t' || c = '\n' || c = '\r' || (0x20 ≤ n && n ≤ 0x7e) || n = 0x85 ||
    (0xa0 ≤ n && n ≤ 0xfffd) || 0x10000 ≤ n

/-- A line feed for each carriage return, with or without a line feed after
it, and for each next-line character. -/
def unifyBreaks : List Char → List Char
  | '\r' :: '\n' :: cs => '\n' :: unifyBreaks cs
  | '\r' :: cs => '\n' :: unifyBreaks cs
  | '\u0085' :: cs => '\n' :: unifyBreaks cs
  | c :: cs => c :: unifyBreaks cs
  | [] => []

def readable? (s : String) : Option (List Char) :=
  let cs := match s.toList with
    | '\ufeff' :: cs => cs
    | cs => cs
  if cs.all isReadable then some (unifyBreaks cs) else none

def atBreak : List Char → Bool
  | [] => true
  | c :: _ => isBreak c

def atGap : List Char → Bool
  | [] => true
  | c :: _ => isSpace c || isBreak c

def atMarker : List Char → Bool
  | '-' :: '-' :: '-' :: cs => atGap cs
  | '.' :: '.' :: '.' :: cs => atGap cs
  | _ => false

def lineEnd? (cs : List Char) : Option (List Char) :=
  let cs := match cs.dropWhile isSpace with
    | '#' :: cs => cs.dropWhile (!isBreak ·)
    | cs => cs
  if atBreak cs then some (cs.drop 1) else none

structure Place where
  rest : List Char
  index : Nat := 0
  line : Nat := 0
  column : Nat := 0

namespace Place

def step : Place → Place
  | { rest := [], index, line, column } => { rest := [], index, line, column }
  | { rest := c :: rest, index, line, column } =>
    if isBreak c then { rest, index := index + 1, line := line + 1 }
    else { rest, index := index + 1, line, column := column + 1 }

def advance : Nat → Place → Place
  | 0, p => p
  | n + 1, p => advance n p.step

def atRest (p : Place) (rest : List Char) : Place := p.advance (p.rest.length - rest.length)

end Place

end PageConfig.Markup
