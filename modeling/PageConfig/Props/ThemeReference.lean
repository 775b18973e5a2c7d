import PageConfig.Value.Coercion
import PageConfig.Value.Path

/-!
# Theme references

A reference `theme(path)` inside a text stands for a token of the theme.
Tokens are put in once and not scanned again.
-/

set_option autoImplicit false

namespace PageConfig

/-- The path of a reference at the start of a text, and the text after it. The
path is not empty and ends at the first closing parenthesis. -/
def themeReference? : List Char → Option (List Char × List Char)
  | 't' :: 'h' :: 'e' :: 'm' :: 'e' :: '(' :: rest =>
    match rest.takeWhile (· ≠ ')'), rest.dropWhile (· ≠ ')') with
    | c :: path, _ :: after => some (c :: path, after)
    | _, _ => none
  | _ => none

theorem themeReference?_length {s path rest : List Char}
    (h : themeReference? s = some (path, rest)) : rest.length < s.length := by
  unfold themeReference? at h
  split at h
  · rename_i tail
    split at h
    · rename_i ht hd
      simp only [Option.some.injEq, Prod.mk.injEq] at h
      have := (List.dropWhile_suffix (l := tail) (· ≠ ')')).length_le
      simp only [hd, List.length_cons, h.2] at this ⊢
      omega
    · simp at h
  · simp at h

/-- The text of a token. Lists, objects and absent paths give none. -/
def themeToken? (theme : Value) (path : String) : Option String :=
  match theme.present? path with
  | some (.list _) | some (.object _) | none => none
  | some v => some v.plainText

def fillReferences (theme : Value) (s : List Char) : List Char :=
  match _h : themeReference? s with
  | some (path, rest) =>
    match themeToken? theme (String.ofList path) with
    | some token => token.toList ++ fillReferences theme rest
    | none => "theme(".toList ++ path ++ ')' :: fillReferences theme rest
  | none =>
    match s with
    | [] => []
    | c :: cs => c :: fillReferences theme cs
termination_by s.length
decreasing_by
  · exact themeReference?_length _h
  · exact themeReference?_length _h
  · simp

def resolveTheme (s : String) (theme : Value) : String :=
  String.ofList (fillReferences theme s.toList)

namespace Props

mutual

def themeValue (theme : Value) : Value → Value
  | .text s => .text (resolveTheme s theme)
  | .object fields => .object (themeFields theme fields)
  | v => v

def themeFields (theme : Value) : List (String × Value) → Table Value
  | [] => []
  | (k, v) :: fields => (k, themeValue theme v) :: themeFields theme fields

end

def fillTheme (props : Props) (theme : Value) : Props := themeFields theme props

end Props

end PageConfig
