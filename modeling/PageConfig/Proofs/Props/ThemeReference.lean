import PageConfig.Proofs.Value.Induction
import PageConfig.Proofs.Value.Path
import PageConfig.Props.ThemeReference
import Mathlib.Data.List.TakeWhile

/-!
# What theme references write

A reference is read up to its closing parenthesis. It is replaced by its token, or stays as
it is written where the theme has none.
-/

set_option autoImplicit false

namespace PageConfig

def reference (path : List Char) : List Char :=
  't' :: 'h' :: 'e' :: 'm' :: 'e' :: '(' :: (path ++ [')'])

theorem themeReference?_eq_some {s path rest : List Char}
    (h : themeReference? s = some (path, rest)) : s = reference path ++ rest := by
  unfold themeReference? at h
  split at h
  · rename_i tail
    split at h
    · rename_i c inner close after htake hdrop
      cases h
      have hclose : close = ')' := by
        have hhead := List.head?_dropWhile_not (· ≠ ')') tail
        rw [hdrop] at hhead
        simpa using hhead
      have htail := List.takeWhile_append_dropWhile (p := (· ≠ ')')) (l := tail)
      rw [htake, hdrop, hclose] at htail
      simp [reference, ← htail]
    · cases h
  · cases h

theorem themeReference?_reference {path : List Char} (hne : path ≠ []) (hpath : ')' ∉ path)
    (rest : List Char) : themeReference? (reference path ++ rest) = some (path, rest) := by
  have hopen : ∀ c ∈ path, decide (c ≠ ')') = true := fun c hc => by
    simpa using fun h : c = ')' => hpath (h ▸ hc)
  have htake : (path ++ ')' :: rest).takeWhile (· ≠ ')') = path := by
    rw [List.takeWhile_append_of_pos hopen, List.takeWhile_cons_of_neg (by simp), List.append_nil]
  have hdrop : (path ++ ')' :: rest).dropWhile (· ≠ ')') = ')' :: rest := by
    rw [List.dropWhile_append_of_pos hopen, List.dropWhile_cons_of_neg (by simp)]
  have hs : reference path ++ rest =
      't' :: 'h' :: 'e' :: 'm' :: 'e' :: '(' :: (path ++ ')' :: rest) := by
    simp [reference]
  obtain ⟨c, inner, rfl⟩ := List.exists_cons_of_ne_nil hne
  rw [hs, themeReference?, htake, hdrop]

theorem themeToken?_of_scalar {theme x : Value} {path : String} (hx : x.isScalar)
    (h : theme.present? path = some x) : themeToken? theme path = some x.plainText := by
  rw [themeToken?, h]
  cases x with
  | null | list | object => cases hx
  | _ => rfl

section Fill

variable {theme : Value}

theorem fillReferences_nil : fillReferences theme [] = [] := by
  rw [fillReferences]
  rfl

theorem fillReferences_reference {path : List Char} (hne : path ≠ []) (hpath : ')' ∉ path)
    (rest : List Char) : fillReferences theme (reference path ++ rest) =
      ((themeToken? theme (String.ofList path)).map String.toList).getD (reference path) ++
        fillReferences theme rest := by
  have href := themeReference?_reference hne hpath rest
  rw [fillReferences]
  split
  · rename_i p r h
    rw [href] at h
    cases h
    cases htoken : themeToken? theme (String.ofList path) with
    | none => simp [reference]
    | some token => simp
  · rename_i h
    rw [href] at h
    cases h

theorem resolveTheme_reference {path : String} (hne : path ≠ "") (hpath : ')' ∉ path.toList)
    {token : String} (h : themeToken? theme path = some token) :
    resolveTheme (String.ofList (reference path.toList)) theme = token := by
  have hlist : path.toList ≠ [] := fun hnil => hne (String.toList_eq_nil_iff.1 hnil)
  have hfill : fillReferences theme (reference path.toList ++ []) = _ :=
    fillReferences_reference hlist hpath []
  rw [List.append_nil, String.ofList_toList, h, fillReferences_nil, List.append_nil] at hfill
  rw [resolveTheme, String.toList_ofList, hfill]
  exact String.ofList_toList

theorem fillReferences_of_no_token (h : ∀ path, themeToken? theme path = none) (s : List Char) :
    fillReferences theme s = s := by
  fun_induction fillReferences theme s with
  | case1 s path rest href token htoken ih => simp [h] at htoken
  | case2 s path rest href htoken ih =>
    rw [ih, themeReference?_eq_some href]
    simp [reference]
  | case3 => rfl
  | case4 c cs href ih => rw [ih]

theorem resolveTheme_of_no_token (h : ∀ path, themeToken? theme path = none) (s : String) :
    resolveTheme s theme = s := by
  rw [resolveTheme, fillReferences_of_no_token h, String.ofList_toList]

theorem fillReferences_of_no_paren {s : List Char} (h : '(' ∉ s) : fillReferences theme s = s := by
  have hsome : ∀ {t path rest : List Char}, themeReference? t = some (path, rest) → '(' ∈ t := by
    intro t path rest ht
    simp [themeReference?_eq_some ht, reference]
  fun_induction fillReferences theme s with
  | case1 s path rest href token htoken ih => exact absurd (hsome href) h
  | case2 s path rest href htoken ih => exact absurd (hsome href) h
  | case3 => rfl
  | case4 c cs href ih => rw [ih fun hc => h (List.mem_cons_of_mem c hc)]

end Fill

theorem themeToken?_nothing (path : String) : themeToken? (.object []) path = none := by
  have hlookup : Value.lookup? (.object []) path = none := by
    unfold Value.lookup?
    cases segments path <;> rfl
  rw [themeToken?, Value.present?, hlookup]
  rfl

namespace Props

variable {theme : Value}

theorem fillTheme_eq_mapValues (props : Props) (theme : Value) :
    props.fillTheme theme = props.mapValues (themeValue theme) := by
  unfold fillTheme
  induction props with
  | nil => rfl
  | cons e props ih => rw [themeFields, ih, Table.mapValues, Table.mapValues, List.map_cons]

theorem themeValue_object (fields : Props) :
    themeValue theme (.object fields) = .object (fields.mapValues (themeValue theme)) := by
  rw [themeValue, ← fillTheme_eq_mapValues]
  rfl

theorem themeValue_eq_null_iff {v : Value} : themeValue theme v = .null ↔ v = .null := by
  cases v <;> simp [themeValue]

theorem themeValue_of_no_token (h : ∀ path, themeToken? theme path = none) (v : Value) :
    themeValue theme v = v := by
  induction v using Value.induct with
  | text s => rw [themeValue, resolveTheme_of_no_token h]
  | object fields ih =>
    rw [themeValue_object, Table.mapValues]
    refine congrArg _ ((List.map_congr_left fun e he => ?_).trans (List.map_id fields))
    rw [ih e he]
    rfl
  | _ => rw [themeValue] <;> simp

end Props

end PageConfig
