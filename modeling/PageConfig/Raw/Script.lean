import PageConfig.Pattern.Suffix
import PageConfig.Raw.Shape
import PageConfig.Text.Blank
import PageConfig.Text.CaseFold
import PageConfig.Text.Class

/-!
# Script-free documents

Four patterns mark the text that can run as a script. Taking a match out can
join its surroundings to a new one, so the removal is repeated until nothing
changes; each round that changes the text makes it shorter.
-/

set_option autoImplicit false

namespace PageConfig

namespace Script

open Pattern

def word (s : String) : Pattern := sequence (s.toList.map fun c => oneOf (caseVariants c))

def blanks : Pattern := many (one isBlank)

def wordEdge : Pattern := look fun before after => before.any isWord != after.any isWord

def others (c : Char) : Pattern := one (· ≠ c)

def block : Pattern :=
  sequence [oneOf ['<'], blanks, word "script", wordEdge, many (others '>'), oneOf ['>'],
    rep 0 none false (one fun _ => true), oneOf ['<'], blanks, oneOf ['/'], blanks, word "script",
    blanks, oneOf ['>']]

def tag : Pattern :=
  sequence [oneOf ['<'], blanks, maybe (oneOf ['/']), blanks, word "script", wordEdge,
    many (others '>'), maybe (oneOf ['>'])]

def address : Pattern := sequence [word "javascript", blanks, oneOf [':']]

def handler : Pattern :=
  sequence [word "on", atLeastOne (one isWord), blanks, oneOf ['=']]

def patterns : List Pattern := [block, tag, address, handler]

def round (s : List Char) : List Char := patterns.foldl (fun s p => p.remove s) s

theorem foldl_remove_sublist (ps : List Pattern) (s : List Char) :
    (ps.foldl (fun s p => p.remove s) s).Sublist s := by
  induction ps generalizing s with
  | nil => exact List.Sublist.refl s
  | cons p ps ih => exact (ih (p.remove s)).trans (remove_sublist p s)

theorem round_sublist (s : List Char) : (round s).Sublist s := foldl_remove_sublist patterns s

theorem round_length_lt {s : List Char} (h : round s ≠ s) : (round s).length < s.length := by
  have hs := round_sublist s
  rcases Nat.lt_or_ge (round s).length s.length with hlt | hge
  · exact hlt
  · exact absurd (hs.eq_of_length_le hge) h

def clean (s : List Char) : List Char := if round s = s then s else clean (round s)
termination_by s.length
decreasing_by exact round_length_lt (by assumption)

end Script

def sanitizeText (s : String) : String := String.ofList (Script.clean s.toList)

namespace Value

mutual

def cleanTexts : Value → Value
  | .text s => .text (sanitizeText s)
  | .list items => .list (cleanItems items)
  | .object fields => .object (cleanFields fields)
  | v => v

def cleanItems : List Value → List Value
  | [] => []
  | v :: items => v.cleanTexts :: cleanItems items

def cleanFields : List (String × Value) → Table Value
  | [] => []
  | (k, v) :: fields => (k, v.cleanTexts) :: cleanFields fields

end

def sanitize (v : Value) : Value := v.repair.cleanTexts

end Value

end PageConfig
