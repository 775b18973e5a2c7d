import PageConfig.Pattern.Basic
import PageConfig.Pattern.Reader
import PageConfig.Text.CaseFold
import PageConfig.Text.Property
import PageConfig.Text.Script

/-!
# What expressions match

Flags are in force from where they stand to the end of their group. Sets
ignore case before they are negated. Without the Unicode flag a set holds
ASCII characters only, and an expression that would match more is malformed.
-/

set_option autoImplicit false

namespace PageConfig

structure Flags where
  ignoreCase : Bool := false
  multiLine : Bool := false
  dotAll : Bool := false
  swapGreed : Bool := false
  carriageReturns : Bool := false
  unicode : Bool := true

namespace Flags

def put (f : Flags) : Flag × Bool → Flags
  | (.ignoreCase, on) => { f with ignoreCase := on }
  | (.multiLine, on) => { f with multiLine := on }
  | (.dotAll, on) => { f with dotAll := on }
  | (.swapGreed, on) => { f with swapGreed := on }
  | (.carriageReturns, on) => { f with carriageReturns := on }
  | (.unicode, on) => { f with unicode := on }
  | (.verbose, _) => f

def putAll (f : Flags) (changes : List (Flag × Bool)) : Flags := changes.foldl put f

def variants (f : Flags) (c : Char) : List Char :=
  if !f.ignoreCase then [c]
  else if f.unicode then caseVariants c
  else [c.toLower, c.toUpper]

def close (f : Flags) (set : Char → Bool) : Char → Bool :=
  if f.ignoreCase then fun c => (f.variants c).any set else set

end Flags

def categoryAliases : List (String × List String) :=
  [("other", ["C"]), ("control", ["Cc"]), ("cntrl", ["Cc"]), ("format", ["Cf"]),
    ("unassigned", ["Cn"]), ("privateuse", ["Co"]), ("surrogate", ["Cs"]), ("letter", ["L"]),
    ("casedletter", ["Lu", "Ll", "Lt"]), ("lc", ["Lu", "Ll", "Lt"]), ("lowercaseletter", ["Ll"]),
    ("modifierletter", ["Lm"]), ("otherletter", ["Lo"]), ("titlecaseletter", ["Lt"]),
    ("uppercaseletter", ["Lu"]), ("mark", ["M"]), ("combiningmark", ["M"]),
    ("spacingmark", ["Mc"]), ("enclosingmark", ["Me"]), ("nonspacingmark", ["Mn"]),
    ("number", ["N"]), ("decimalnumber", ["Nd"]), ("digit", ["Nd"]), ("letternumber", ["Nl"]),
    ("othernumber", ["No"]), ("punctuation", ["P"]), ("punct", ["P"]),
    ("connectorpunctuation", ["Pc"]), ("dashpunctuation", ["Pd"]), ("closepunctuation", ["Pe"]),
    ("finalpunctuation", ["Pf"]), ("initialpunctuation", ["Pi"]), ("otherpunctuation", ["Po"]),
    ("openpunctuation", ["Ps"]), ("symbol", ["S"]), ("currencysymbol", ["Sc"]),
    ("modifiersymbol", ["Sk"]), ("mathsymbol", ["Sm"]), ("othersymbol", ["So"]),
    ("separator", ["Z"]), ("lineseparator", ["Zl"]), ("paragraphseparator", ["Zp"]),
    ("spaceseparator", ["Zs"])]

def plainName (s : String) : String :=
  let cs := s.toList.filterMap fun c =>
    if isBlank c || c = '-' || c = '_' then none else some c.toLower
  match cs with
  | 'i' :: 's' :: rest => if rest = ['c'] then "isc" else String.ofList rest
  | cs => String.ofList cs

def categoriesNamed (name : String) : List String :=
  match categoryAliases.lookup name with
  | some heads => categoryNames.filter fun k => heads.any (·.isPrefixOf k)
  | none =>
    categoryNames.filter fun k =>
      let letters := k.toList.map Char.toLower
      name.toList = letters || name.toList = letters.take 1

def categorySet? (name : String) : Option (Char → Bool) :=
  match name with
  | "any" => some fun _ => true
  | "ascii" => some fun c => c.toNat < 0x80
  | "assigned" => some fun c => category c ≠ "Cn"
  | name =>
    match categoriesNamed name with
    | [] => none
    | ks => some fun c => ks.contains (category c)

def scriptSet? (name : String) : Option (Char → Bool) := (scriptRanges? name).map inRanges

/-- The name and, if one is written, the value of a property, with the mark
between them: `!=` asks for the characters without it. -/
def propertyParts (s : String) : String × Option (Bool × String) :=
  let cs := s.toList.map fun c => if c = ':' then '=' else c
  let key := cs.takeWhile (· ≠ '=')
  match cs.dropWhile (· ≠ '=') with
  | [] => (plainName s, none)
  | _ :: value =>
    let negated := key.getLast? = some '!'
    (plainName (String.ofList (if negated then key.dropLast else key)),
      some (negated, plainName (String.ofList value)))

def property? (s : String) : Option (Char → Bool) :=
  match propertyParts s with
  | (name, none) => characterProperty? name <|> categorySet? name <|> scriptSet? name
  | (name, some (negated, value)) => do
    let set ←
      if name = "gc" || name = "generalcategory" then categorySet? value
      else if name = "sc" || name = "script" then scriptSet? value
      else none
    return if negated then fun c => !set c else set

def asciiClass (name : String) (c : Char) : Bool :=
  match name with
  | "alnum" => c.isAlphanum
  | "alpha" => c.isAlpha
  | "ascii" => c.toNat < 0x80
  | "blank" => c = ' ' || c = '\t'
  | "cntrl" => c.toNat < 0x20 || c.toNat = 0x7f
  | "digit" => c.isDigit
  | "graph" => '!' ≤ c && c ≤ '~'
  | "lower" => c.isLower
  | "print" => ' ' ≤ c && c ≤ '~'
  | "punct" => '!' ≤ c && c ≤ '~' && !c.isAlphanum
  | "space" => c = ' ' || (0x09 ≤ c.toNat && c.toNat ≤ 0x0d)
  | "upper" => c.isUpper
  | "word" => isAsciiWord c
  | "xdigit" => c.isDigit || ('a' ≤ c && c ≤ 'f') || ('A' ≤ c && c ≤ 'F')
  | _ => false

namespace LetterClass

def holds (unicode : Bool) (k : LetterClass) (c : Char) : Bool :=
  match k, unicode with
  | digit, true => isDecimalDigit c
  | digit, false => c.isDigit
  | space, true => isBlank c
  | space, false => asciiClass "space" c
  | word, true => isWord c
  | word, false => isAsciiWord c

end LetterClass

namespace SetOperator

def apply : SetOperator → Bool → Bool → Bool
  | intersection, a, b => a && b
  | difference, a, b => a && !b
  | symmetricDifference, a, b => a != b

end SetOperator

namespace SetExpression

def negate (negated : Bool) (set : Char → Bool) : Char → Bool :=
  if negated then fun c => !set c else set

def meaning? (f : Flags) : SetExpression → Option (Char → Bool)
  | nothing => some fun _ => false
  | range first last =>
    if f.unicode || last.toNat < 0x80 then some fun c => first ≤ c && c ≤ last else none
  | letter negated k => some (negate negated (k.holds f.unicode))
  | property negated name =>
    if f.unicode then (property? name).map fun set => negate negated (f.close set) else none
  | ascii negated name => some (negate negated (asciiClass name))
  | bracketed negated s => (s.meaning? f).map fun set => negate negated (f.close set)
  | union a b => do
    let a ← a.meaning? f
    let b ← b.meaning? f
    return fun c => a c || b c
  | operator o a b => do
    let a ← a.meaning? f
    let b ← b.meaning? f
    return fun c => o.apply (f.close a c) (f.close b c)

end SetExpression

namespace Assertion

def holds (f : Flags) (a : Assertion) (before after : Option Char) : Bool :=
  let inWord (c : Option Char) : Bool := c.any (LetterClass.holds f.unicode .word)
  match a with
  | textStart => before.isNone
  | textEnd => after.isNone
  | lineStart =>
    before.isNone || f.multiLine && (before = some '\n' ||
      f.carriageReturns && before = some '\r' && after ≠ some '\n')
  | lineEnd =>
    after.isNone || f.multiLine && (if f.carriageReturns then
      after = some '\r' || (after = some '\n' && before ≠ some '\r')
      else after = some '\n')
  | wordEdge => inWord before != inWord after
  | noWordEdge => inWord before == inWord after
  | wordStart => !inWord before && inWord after
  | wordEnd => inWord before && !inWord after
  | wordStartHalf => !inWord before
  | wordEndHalf => !inWord after

end Assertion

namespace Expression

open Pattern in
mutual

/-- What an expression matches, with the flags in force after it. -/
def meaning? (f : Flags) : Expression → Option (Pattern × Flags)
  | empty => some (.empty, f)
  | flags changes => some (.empty, f.putAll changes)
  | literal c =>
    if f.unicode || c.toNat < 0x80 then some (oneOf (f.variants c), f) else none
  | dot =>
    if !f.unicode then none
    else if f.dotAll then some (.one fun _ => true, f)
    else if f.carriageReturns then some (.one fun c => c ≠ '\n' && c ≠ '\r', f)
    else some (.one fun c => c ≠ '\n', f)
  | assertion a => some (.look (a.holds f), f)
  | set s => do
    let set ← s.meaning? f
    if f.unicode || !set '\x80' then return (.one set, f) else none
  | repetition least most greedy e => do
    let (p, _) ← e.meaning? f
    return (.rep least most (greedy != f.swapGreed) p, f)
  | group changes e => do
    let (p, _) ← e.meaning? (f.putAll changes)
    return (p, f)
  | concat es => meaningOfItems? f .empty es
  | alternatives es => meaningOfBranches? f es

def meaningOfItems? (f : Flags) (done : Pattern) : List Expression → Option (Pattern × Flags)
  | [] => some (done, f)
  | e :: es => do
    let (p, f) ← e.meaning? f
    meaningOfItems? f (.cat done p) es

def meaningOfBranches? (f : Flags) : List Expression → Option (Pattern × Flags)
  | [] => none
  | [e] => e.meaning? f
  | e :: es => do
    let (p, f) ← e.meaning? f
    let (q, f) ← meaningOfBranches? f es
    return (.alt p q, f)

end

end Expression

namespace Pattern

def ofText? (s : String) : Option Pattern :=
  (expression? s).bind fun e => (e.meaning? {}).map Prod.fst

end Pattern

end PageConfig
