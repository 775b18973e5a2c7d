import PageConfig.Markup.Place
import PageConfig.Value.Parser

/-!
# Tokens of markup

The tokens, and the reading of those that are words of their own: directives,
anchors and tags. Where blocks open and close is the matter of the layout.
-/

set_option autoImplicit false

namespace PageConfig.Markup

/-- A tag as written: a handle that a directive explains, and what follows it.
Without a handle the tag stands for itself. -/
structure TagName where
  handle : String
  suffix : String
  deriving DecidableEq, Repr

inductive Token where
  | version (major minor : Nat)
  | handle (name stem : String)
  | documentStart
  | documentEnd
  | blockSequence
  | blockMapping
  | blockEnd
  | flowSequence
  | flowSequenceEnd
  | flowMapping
  | flowMappingEnd
  | entry
  | flowEntry
  | key
  | value
  | reference (name : String)
  | anchor (name : String)
  | tag (name : TagName)
  | scalar (plain : Bool) (text : String)
  deriving DecidableEq, Repr

def isTagChar (angled : Bool) (c : Char) : Bool :=
  isName c || ";/?:@&=+$.%!~*'()".toList.contains c || (angled && (c = ',' || c = '[' || c = ']'))

/-- The bytes of a run of tag characters, of which some are written as a
percent sign and two hexadecimal digits. -/
def tagBytes? : List Char → Option (List UInt8)
  | [] => some []
  | '%' :: a :: b :: cs => do
    let n ← Value.Reader.hexRun? [a, b]
    return n.toUInt8 :: (← tagBytes? cs)
  | '%' :: _ => none
  | c :: cs => (tagBytes? cs).map (c.toNat.toUInt8 :: ·)

def tagRun? (angled : Bool) (cs : List Char) : Option (String × List Char) := do
  let bytes ← tagBytes? (cs.takeWhile (isTagChar angled))
  let s ← String.fromUTF8? ⟨bytes.toArray⟩
  return (s, cs.dropWhile (isTagChar angled))

def tagName? (cs : List Char) : Option (TagName × List Char) :=
  match cs with
  | '<' :: cs => do
    let (suffix, cs) ← tagRun? true cs
    if suffix.isEmpty then none
    match cs with
    | '>' :: cs => return (⟨"", suffix⟩, cs)
    | _ => none
  | cs => do
    let word := cs.takeWhile isName
    match cs.dropWhile isName with
    | '!' :: cs =>
      let (suffix, cs) ← tagRun? false cs
      if suffix.isEmpty then none
      return (⟨String.ofList ('!' :: word ++ ['!']), suffix⟩, cs)
    | _ =>
      let (suffix, cs) ← tagRun? false cs
      return (if suffix.isEmpty then ⟨"", "!"⟩ else ⟨"!", suffix⟩, cs)

def tag? (flow : Bool) (cs : List Char) : Option (Token × List Char) := do
  let (name, cs) ← tagName? cs
  if atGap cs || (flow && cs.head? = some ',') then return (.tag name, cs) else none

def anchorName? (cs : List Char) : Option (String × List Char) :=
  let name := cs.takeWhile isName
  let cs := cs.dropWhile isName
  if !name.isEmpty && (atGap cs || cs.head?.any "?:,]\x7d%@`".toList.contains) then
    some (String.ofList name, cs)
  else none

def versionPart? (cs : List Char) : Option (Nat × List Char) :=
  let ds := cs.takeWhile Char.isDigit
  if ds.isEmpty || 9 < ds.length then none
  else some (digitsValue ds, cs.dropWhile Char.isDigit)

def version? (cs : List Char) : Option (Token × List Char) := do
  let (major, cs) ← versionPart? (cs.dropWhile isSpace)
  match cs with
  | '.' :: cs =>
    let (minor, cs) ← versionPart? cs
    return (.version major minor, cs)
  | _ => none

def handle? (cs : List Char) : Option (Token × List Char) :=
  match cs.dropWhile isSpace with
  | '!' :: cs => do
    let word := cs.takeWhile isName
    let (name, cs) ← match cs.dropWhile isName with
      | '!' :: cs => some ('!' :: word ++ ['!'], cs)
      | cs => if word.isEmpty then some (['!'], cs) else none
    if !cs.head?.any isSpace then none
    let (stem, cs) ← tagRun? true (cs.dropWhile isSpace)
    if stem.isEmpty || !atGap cs then none
    return (.handle (String.ofList name) stem, cs)
  | _ => none

def directive? (cs : List Char) : Option (Token × List Char) := do
  let name := String.ofList (cs.takeWhile isName)
  let cs := cs.dropWhile isName
  if !atGap cs then none
  let (token, cs) ←
    if name = "YAML" then version? cs
    else if name = "TAG" then handle? cs
    else none
  return (token, ← lineEnd? cs)

end PageConfig.Markup
