import PageConfig.Proofs.Props.ThemeReference
import Mathlib.Data.List.DropRight

/-!
# Texts in pieces

A text of plain pieces and references in turn is filled piece by piece: every reference gives
way to its token, or stays, and nothing else changes. No match begins in a plain piece or goes
over its end, and what was put in is not looked at again.
-/

set_option autoImplicit false

namespace PageConfig

section Trim

theorem trimBlanks_trimBlanks (cs : List Char) : trimBlanks (trimBlanks cs) = trimBlanks cs := by
  have htrim : ∀ ds, trimBlanks ds = (ds.dropWhile isBlank).rdropWhile isBlank := fun _ => rfl
  -- what is left at the front is the front of what was left there the first time
  have hfront : (trimBlanks cs).dropWhile isBlank = trimBlanks cs := by
    cases h : trimBlanks cs with
    | nil => rfl
    | cons c rest =>
      have hprefix : c :: rest <+: cs.dropWhile isBlank := by
        rw [← h, htrim]
        exact List.rdropWhile_prefix isBlank _
      obtain ⟨more, hmore⟩ := hprefix
      have hhead := List.head?_dropWhile_not isBlank cs
      rw [← hmore] at hhead
      exact List.dropWhile_cons_of_neg (by simpa using hhead)
  rw [htrim (trimBlanks cs), hfront, htrim cs]
  exact List.rdropWhile_idempotent isBlank _

theorem segments_trim (path : String) : segments (trim path) = segments path := by
  rw [segments, trim, String.toList_ofList, trimBlanks_trimBlanks, segments]

theorem Value.present?_trim (v : Value) (path : String) :
    v.present? (trim path) = v.present? path := by
  rw [present?, present?, lookup?, lookup?, segments_trim]

end Trim

def opening : List Char := ['t', 'h', 'e', 'm', 'e', '(']

/-- No reference begins in a plain text. -/
def Plain (t : List Char) : Prop := ¬ opening <:+: t

instance (t : List Char) : Decidable (Plain t) := inferInstanceAs (Decidable (¬ opening <:+: t))

/-- A reference, with the plain text that follows it. A path may hold an opening of its own. -/
structure Piece where
  path : List Char
  after : List Char
  path_ne_nil : path ≠ []
  path_closed : ')' ∉ path
  after_plain : Plain after

structure PiecedText where
  start : List Char
  pieces : List Piece
  start_plain : Plain start

def Piece.token? (theme : Value) (p : Piece) : Option Value :=
  (theme.present? (trim (String.ofList p.path))).filter Value.isScalar

namespace PiecedText

def fill (t : PiecedText) (content : Piece → List Char) : List Char :=
  t.start ++ t.pieces.flatMap fun p => content p ++ p.after

def written (t : PiecedText) : List Char := t.fill fun p => reference p.path

def filled (t : PiecedText) (theme : Value) : List Char :=
  t.fill fun p => ((p.token? theme).map fun x => x.plainText.toList).getD (reference p.path)

end PiecedText

section Fill

variable {theme : Value}

theorem themeToken?_eq (p : Piece) :
    themeToken? theme (String.ofList p.path) = (p.token? theme).map Value.plainText := by
  have hpresent : theme.present? (String.ofList p.path) ≠ some .null := fun h => by
    simp [Value.present?, Option.filter_eq_some_iff, Value.isNull] at h
  rw [themeToken?, Piece.token?, Value.present?_trim]
  cases h : theme.present? (String.ofList p.path) with
  | none => rfl
  | some x =>
    cases x with
    | null => exact absurd h hpresent
    | _ => rfl

theorem opening_prefix_of_themeReference? {s path rest : List Char}
    (h : themeReference? s = some (path, rest)) : opening <+: s :=
  ⟨path ++ ')' :: rest, by simp [themeReference?_eq_some h, reference, opening]⟩

/-- The first letter of an opening does not come again in it, so that a match that begins in
a plain text cannot end in a reference. -/
theorem themeReference?_plain {c : Char} {t rest : List Char} (ht : Plain (c :: t))
    (hrest : rest = [] ∨ rest.head? = some 't') : themeReference? (c :: t ++ rest) = none := by
  cases h : themeReference? (c :: t ++ rest) with
  | none => rfl
  | some found =>
    obtain ⟨more, hmore⟩ := opening_prefix_of_themeReference? h
    rcases List.append_eq_append_iff.1 hmore with ⟨u, hu, -⟩ | ⟨u, hu, hmore⟩
    · exact absurd ⟨[], u, hu.symm⟩ ht
    cases u with
    | nil => exact absurd ⟨[], [], by simpa using hu⟩ ht
    | cons d u =>
      have hd : d = 't' := by
        rcases hrest with rfl | hhead
        · simp at hmore
        · simpa [hmore] using hhead
      have htail : 't' ∈ opening.tail := by
        rw [hu, List.cons_append, List.tail_cons, hd]
        simp
      simp [opening] at htail

theorem fillReferences_plain {t rest : List Char} (ht : Plain t)
    (hrest : rest = [] ∨ rest.head? = some 't') :
    fillReferences theme (t ++ rest) = t ++ fillReferences theme rest := by
  induction t with
  | nil => rfl
  | cons c t ih =>
    have hnone := themeReference?_plain ht hrest
    have htail : Plain t := fun h => ht (List.infix_cons h)
    rw [fillReferences]
    split
    · rename_i path more h
      rw [hnone] at h
      cases h
    · exact congrArg _ (ih htail)

theorem head?_pieces (pieces : List Piece) :
    (pieces.flatMap fun p => reference p.path ++ p.after) = [] ∨
      (pieces.flatMap fun p => reference p.path ++ p.after).head? = some 't' := by
  cases pieces with
  | nil => exact .inl rfl
  | cons p pieces => exact .inr rfl

theorem fillReferences_pieces (pieces : List Piece) :
    fillReferences theme (pieces.flatMap fun p => reference p.path ++ p.after) =
      pieces.flatMap fun p =>
        ((p.token? theme).map fun x => x.plainText.toList).getD (reference p.path) ++ p.after := by
  induction pieces with
  | nil => exact fillReferences_nil
  | cons p pieces ih =>
    rw [List.flatMap_cons, List.flatMap_cons, List.append_assoc,
      fillReferences_reference p.path_ne_nil p.path_closed,
      fillReferences_plain p.after_plain (head?_pieces pieces), ih, themeToken?_eq,
      Option.map_map, List.append_assoc]
    rfl

end Fill

namespace PiecedText

theorem fillReferences_written (t : PiecedText) (theme : Value) :
    fillReferences theme t.written = t.filled theme := by
  rw [written, fill, fillReferences_plain t.start_plain (head?_pieces t.pieces),
    fillReferences_pieces]
  rfl

theorem filled_of_no_token {t : PiecedText} {theme : Value}
    (h : ∀ p ∈ t.pieces, p.token? theme = none) : t.filled theme = t.written := by
  refine congrArg (t.start ++ ·) (List.flatMap_congr fun p hp => ?_)
  simp only [h p hp, Option.map_none, Option.getD_none]

end PiecedText

/-- Every reference is replaced by its token, once, and all else stays. A text of which no
reference has a token stays as a whole. -/
theorem resolveTheme_written (t : PiecedText) (theme : Value) :
    resolveTheme (String.ofList t.written) theme = String.ofList (t.filled theme) ∧
      ((∀ p ∈ t.pieces, p.token? theme = none) →
        resolveTheme (String.ofList t.written) theme = String.ofList t.written) := by
  have hfilled : resolveTheme (String.ofList t.written) theme = String.ofList (t.filled theme) := by
    rw [resolveTheme, String.toList_ofList, t.fillReferences_written]
  refine ⟨hfilled, fun h => ?_⟩
  rw [hfilled, PiecedText.filled_of_no_token h]

def borderText : PiecedText where
  start := "1px ".toList
  pieces := [
    { path := "style theme(thin".toList
      after := " the ".toList
      path_ne_nil := by decide
      path_closed := by decide
      after_plain := by decide },
    { path := " ink ".toList
      after := ";".toList
      path_ne_nil := by decide
      path_closed := by decide
      after_plain := by decide }]
  start_plain := by decide

theorem borderText_resolved :
    resolveTheme "1px theme(style theme(thin) the theme( ink );"
        (.object [("ink", .text "theme(style)"), ("style", .text "solid")]) =
      "1px theme(style theme(thin) the theme(style);" ∧
    resolveTheme "1px theme(style theme(thin) the theme( ink );" (.object [("ink", .object [])]) =
      "1px theme(style theme(thin) the theme( ink );" := by
  constructor
  · exact (resolveTheme_written borderText _).1
  · exact (resolveTheme_written borderText _).2 (by decide)

end PageConfig
