import PageConfig.Markup.Layout
import PageConfig.Markup.Scalar
import PageConfig.Markup.Tree

/-!
# Values from markup

`Value.parseMarkup?` is the value of a markup text. An alias is read as a copy
of the node it stands for; how deep nodes nest and how often aliases are
followed is limited, so that no text can name itself forever.
-/

set_option autoImplicit false

namespace PageConfig.Markup.Tree

def depthLimit : Nat := 128

mutual

def size : Tree → Nat
  | reference _ | scalar .. => 1
  | sequence _ items => 2 + sizeAll items
  | mapping _ entries => 2 + sizePairs entries

def sizeAll : List Tree → Nat
  | [] => 0
  | t :: ts => t.size + sizeAll ts

def sizePairs : List (Tree × Tree) → Nat
  | [] => 0
  | (k, v) :: ts => k.size + v.size + sizePairs ts

end

mutual

def anchored : Tree → List (Nat × Tree)
  | reference _ => []
  | t@(scalar marks ..) => marks.anchor.toList.map (·, t)
  | t@(sequence marks items) => marks.anchor.toList.map (·, t) ++ anchoredAll items
  | t@(mapping marks entries) => marks.anchor.toList.map (·, t) ++ anchoredPairs entries

def anchoredAll : List Tree → List (Nat × Tree)
  | [] => []
  | t :: ts => t.anchored ++ anchoredAll ts

def anchoredPairs : List (Tree × Tree) → List (Nat × Tree)
  | [] => []
  | (k, v) :: ts => k.anchored ++ v.anchored ++ anchoredPairs ts

end

/-- A reading with the number of aliases that may still be followed. -/
abbrev Following := StateT Nat Option

def target (anchors : List (Nat × Tree)) : Tree → Following Tree
  | reference n => do
    match ← get with
    | 0 => failure
    | left + 1 =>
      set left
      (anchors.reverse.lookup n).getM
  | t => return t

def keyText (anchors : List (Nat × Tree)) (t : Tree) : Following String := do
  match ← t.target anchors with
  | scalar _ _ text => return text
  | _ => failure

def plainMarks (m : Marks) : Following Unit :=
  if m.tag.any (·.startsWith "!") then failure else pure ()

/-- The value of a tree, which nests at most so deep. Of equal keys the last
counts. -/
def value (anchors : List (Nat × Tree)) : Nat → Tree → Following Value
  | 0, t => do
    match ← t.target anchors with
    | scalar m plain text => scalarValue? m.tag plain text
    | _ => failure
  | depth + 1, t => do
    match ← t.target anchors with
    | reference _ => failure
    | scalar m plain text => scalarValue? m.tag plain text
    | sequence m items =>
      plainMarks m
      return .list (← items.mapM (value anchors depth))
    | mapping m entries =>
      plainMarks m
      let fields ← entries.foldlM (fun fields e => do
        let key ← keyText anchors e.1
        return Table.insert fields key (← value anchors depth e.2)) []
      return .object fields

/-- The value of a whole document, in which aliases are followed at most a
hundred times for each of its marks. -/
def value? (t : Tree) : Option Value :=
  (t.value t.anchored depthLimit).run' (100 * t.size)

end Markup.Tree

def Value.parseMarkup? (s : String) : Option Value := do
  match ← Markup.tree? (← Markup.tokens? s) with
  | none => return .null
  | some t => t.value?

end PageConfig
