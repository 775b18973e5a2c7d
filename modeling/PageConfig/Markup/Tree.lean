import PageConfig.Markup.Token
import PageConfig.Value.Basic

/-!
# Trees of markup

The nodes of a document as the tokens nest them. An anchor is a number, that of
the distinct anchor names met before it, and an alias stands for the last node
with its number.
-/

set_option autoImplicit false

namespace PageConfig.Markup

structure Marks where
  anchor : Option Nat := none
  tag : Option String := none

inductive Tree where
  | reference (anchor : Nat)
  | scalar (marks : Marks) (plain : Bool) (text : String)
  | sequence (marks : Marks) (items : List Tree)
  | mapping (marks : Marks) (entries : List (Tree × Tree))

def Tree.empty (marks : Marks) : Tree := .scalar marks true ""

structure Source where
  tokens : List Token
  handles : Table String
  anchors : Table Nat := []

abbrev Reading := StateT Source Option

namespace Reading

def next? : Reading (Option Token) := return (← get).tokens.head?

def skip : Reading Unit := modify fun s => { s with tokens := s.tokens.drop 1 }

def expect (t : Token) : Reading Unit := do
  if (← next?) = some t then skip else failure

def anchorNumber (name : String) : Reading Nat := do
  let s ← get
  let n := s.anchors.length
  set { s with anchors := s.anchors.insert name n }
  return n

def aliased (name : String) : Reading Nat := do (← get).anchors.get? name

def tagText (name : TagName) : Reading String := do
  if name.handle.isEmpty then return name.suffix
  else return (← (← get).handles.get? name.handle) ++ name.suffix

def marks : Reading Marks := do
  match ← next? with
  | some (.anchor a) =>
    skip
    match ← next? with
    | some (.tag t) =>
      skip
      let tag ← tagText t
      return { anchor := ← anchorNumber a, tag }
    | _ => return { anchor := ← anchorNumber a }
  | some (.tag t) =>
    skip
    match ← next? with
    | some (.anchor a) =>
      skip
      let tag ← tagText t
      return { anchor := ← anchorNumber a, tag }
    | _ => return { tag := ← tagText t }
  | _ => return {}

/-- A scalar with the tag of no meaning is as one without a tag. -/
def scalar (marks : Marks) (plain : Bool) (text : String) : Tree :=
  .scalar { marks with tag := marks.tag.filter (· ≠ "!") } plain text

def orEmpty (stops : List Token) (node : Reading Tree) : Reading Tree := do
  if (← next?).any stops.contains then return .empty {} else node

def bare (marks : Marks) : Reading Tree :=
  if marks.anchor.isSome || marks.tag.isSome then return .empty marks else failure

mutual

/-- A node. Blocks start only in block positions; in some of them an entry
starts a list that is not indented. -/
def node (block loose : Bool) : Nat → Reading Tree
  | 0 => failure
  | fuel + 1 => do
    if let some (.reference name) ← next? then
      skip
      return .reference (← aliased name)
    let m ← marks
    match ← next? with
    | some (.scalar plain text) =>
      skip
      return scalar m plain text
    | some .flowSequence =>
      skip
      return .sequence m (← items true fuel)
    | some .flowMapping =>
      skip
      return .mapping m (← flowPairs true fuel)
    | some .entry => if loose then return .sequence m (← looseEntries fuel) else bare m
    | some .blockSequence =>
      if block then
        skip
        return .sequence m (← entries fuel)
      else bare m
    | some .blockMapping =>
      if block then
        skip
        return .mapping m (← pairs fuel)
      else bare m
    | _ => bare m

def entries : Nat → Reading (List Tree)
  | 0 => failure
  | fuel + 1 => do
    match ← next? with
    | some .entry =>
      skip
      let item ← orEmpty [.entry, .blockEnd] (node true false fuel)
      return item :: (← entries fuel)
    | _ =>
      expect .blockEnd
      return []

/-- Entries that are not indented; whatever else comes ends them. -/
def looseEntries : Nat → Reading (List Tree)
  | 0 => failure
  | fuel + 1 => do
    match ← next? with
    | some .entry =>
      skip
      let item ← orEmpty [.entry, .key, .value, .blockEnd] (node true false fuel)
      return item :: (← looseEntries fuel)
    | _ => return []

def pairs : Nat → Reading (List (Tree × Tree))
  | 0 => failure
  | fuel + 1 => do
    match ← next? with
    | some .key =>
      skip
      let k ← orEmpty [.key, .value, .blockEnd] (node true true fuel)
      match ← next? with
      | some .value =>
        skip
        let v ← orEmpty [.key, .value, .blockEnd] (node true true fuel)
        return (k, v) :: (← pairs fuel)
      | _ => return (k, .empty {}) :: (← pairs fuel)
    | _ =>
      expect .blockEnd
      return []

def items (first : Bool) : Nat → Reading (List Tree)
  | 0 => failure
  | fuel + 1 => do
    if !first && (← next?) ≠ some .flowSequenceEnd then expect .flowEntry
    match ← next? with
    | some .flowSequenceEnd =>
      skip
      return []
    | some .key =>
      skip
      let item ← pair fuel
      return .mapping {} [item] :: (← items false fuel)
    | _ =>
      let item ← node false false fuel
      return item :: (← items false fuel)

/-- A key and its value as an item. A key that is left out takes the mark
after it along. -/
def pair : Nat → Reading (Tree × Tree)
  | 0 => failure
  | fuel + 1 => do
    let k ← match ← next? with
      | some .value | some .flowEntry | some .flowSequenceEnd =>
        skip
        pure (.empty {})
      | _ => node false false fuel
    match ← next? with
    | some .value =>
      skip
      return (k, ← orEmpty [.flowEntry, .flowSequenceEnd] (node false false fuel))
    | _ => return (k, .empty {})

def flowPairs (first : Bool) : Nat → Reading (List (Tree × Tree))
  | 0 => failure
  | fuel + 1 => do
    if !first && (← next?) ≠ some .flowMappingEnd then expect .flowEntry
    match ← next? with
    | some .flowMappingEnd =>
      skip
      return []
    | some .key =>
      skip
      let k ← orEmpty [.value, .flowEntry, .flowMappingEnd] (node false false fuel)
      match ← next? with
      | some .value =>
        skip
        let v ← orEmpty [.flowEntry, .flowMappingEnd] (node false false fuel)
        return (k, v) :: (← flowPairs false fuel)
      | _ => return (k, .empty {}) :: (← flowPairs false fuel)
    | _ =>
      let k ← node false false fuel
      return (k, .empty {}) :: (← flowPairs false fuel)

end

def directives (versioned : Bool) : List Token → Table String → Option (Table String × List Token)
  | .version major minor :: ts, handles =>
    if versioned || major ≠ 1 || (minor ≠ 1 && minor ≠ 2) then none
    else directives true ts handles
  | .handle name stem :: ts, handles =>
    if handles.has name then none else directives versioned ts (handles.insert name stem)
  | ts, handles => some (handles, ts)

def standardHandles : Table String := Table.ofList [("!", "!"), ("!!", "tag:yaml.org,2002:")]

def withStandard (handles : Table String) : Table String :=
  standardHandles.foldl (fun t e => if t.has e.1 then t else t.insert e.1 e.2) handles

/-- The root node of a document after its directives. The recursion enters at
most two parts of the grammar for each token. -/
def root (start : List Token) : Reading Tree := node true false (2 * start.length + 2)

end Reading

def content? (handles : Table String) (started : Bool) (ts : List Token) :
    Option (Tree × List Token) :=
  let isEmpty := match ts.head? with
    | none | some (.version ..) | some (.handle ..) | some .documentStart | some .documentEnd =>
      started
    | _ => false
  if isEmpty then some (.empty {}, ts)
  else ((Reading.root ts).run { tokens := ts, handles := Reading.withStandard handles }).map
    fun (t, s) => (t, s.tokens)

def tree? (ts : List Token) : Option (Option Tree) :=
  match ts with
  | [] => some none
  | ts => do
    let (handles, rest) ← Reading.directives false ts []
    let started := rest.head? = some .documentStart
    if !started && rest.length ≠ ts.length then none
    let (t, rest) ← content? handles started (if started then rest.drop 1 else rest)
    if rest.all (· = .documentEnd) then some (some t) else none

end PageConfig.Markup
