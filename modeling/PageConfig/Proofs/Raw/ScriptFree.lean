import Mathlib.Logic.Function.Iterate
import PageConfig.Proofs.Pattern.Removal
import PageConfig.Raw.Script

/-!
# Clean texts are free of script

A round leaves a text as it is exactly when no script pattern occurs in it, so the
rounds end in a text where none does. What a round takes out may join its surroundings
to a new match; each such round makes the text shorter, which bounds their number.
-/

set_option autoImplicit false

namespace PageConfig

namespace Script

open Pattern

def Free (s : List Char) : Prop := ∀ p ∈ patterns, ¬ p.Occurs s

theorem word_consuming {c : Char} {cs : List Char} :
    (word (String.ofList (c :: cs))).Consuming := by
  rw [word, String.toList_ofList]
  exact sequence_consuming (one_consuming _) _

theorem patterns_consuming : ∀ p ∈ patterns, p.Consuming := by
  intro p hp
  simp only [patterns, List.mem_cons, List.not_mem_nil, or_false] at hp
  rcases hp with rfl | rfl | rfl | rfl
  · exact sequence_consuming (one_consuming _) _
  · exact sequence_consuming (one_consuming _) _
  · exact sequence_consuming (word_consuming (c := 'j')) _
  · exact sequence_consuming (word_consuming (c := 'o')) _

theorem patterns_need : ∀ p ∈ patterns, ∃ ch ∈ ['<', ':', '='], p.Needs ch := by
  intro p hp
  simp only [patterns, List.mem_cons, List.not_mem_nil, or_false] at hp
  rcases hp with rfl | rfl | rfl | rfl
  · exact ⟨'<', by simp, sequence_needs List.mem_cons_self (oneOf_needs '<')⟩
  · exact ⟨'<', by simp, sequence_needs List.mem_cons_self (oneOf_needs '<')⟩
  · exact ⟨':', by simp, sequence_needs (List.mem_of_getElem? (i := 2) rfl) (oneOf_needs ':')⟩
  · exact ⟨'=', by simp, sequence_needs (List.mem_of_getElem? (i := 3) rfl) (oneOf_needs '=')⟩

theorem free_of_unmarked {s : List Char} (h : ∀ ch ∈ ['<', ':', '='], ch ∉ s) : Free s := by
  intro p hp
  obtain ⟨ch, hch, hneeds⟩ := patterns_need p hp
  exact not_occurs_of_needs hneeds (h ch hch)

/-- Passes that only shorten a text leave it as it is together or not at all. -/
theorem foldl_remove_eq_self_iff (ps : List Pattern) (s : List Char) :
    ps.foldl (fun s p => p.remove s) s = s ↔ ∀ p ∈ ps, p.remove s = s := by
  induction ps with
  | nil => simp
  | cons p ps ih =>
    rw [List.foldl_cons, List.forall_mem_cons]
    constructor
    · intro h
      have hle := (foldl_remove_sublist ps (p.remove s)).length_le
      rw [h] at hle
      have hp : p.remove s = s := (remove_sublist p s).eq_of_length_le hle
      rw [hp] at h
      exact ⟨hp, ih.1 h⟩
    · rintro ⟨hp, hps⟩
      rw [hp]
      exact ih.2 hps

theorem round_eq_self_iff (s : List Char) : round s = s ↔ Free s := by
  rw [round, foldl_remove_eq_self_iff, Free]
  refine forall_congr' fun p => forall_congr' fun hp => ?_
  exact remove_eq_self_iff (patterns_consuming p hp) s

theorem clean_round (s : List Char) : clean (round s) = clean s := by
  by_cases h : round s = s
  · rw [h]
  · rw [clean.eq_def s, if_neg h]

theorem round_clean (s : List Char) : round (clean s) = clean s := by
  fun_induction clean s with
  | case1 s h => exact h
  | case2 s h ih => exact ih

theorem clean_free (s : List Char) : Free (clean s) := (round_eq_self_iff _).1 (round_clean s)

theorem clean_sublist (s : List Char) : (clean s).Sublist s := by
  fun_induction clean s with
  | case1 s h => exact List.Sublist.refl s
  | case2 s h ih => exact ih.trans (round_sublist s)

theorem clean_eq_self_iff (s : List Char) : clean s = s ↔ Free s := by
  constructor
  · exact fun h => h ▸ clean_free s
  · intro h
    rw [clean, if_pos ((round_eq_self_iff s).2 h)]

/-- There are no more rounds than characters. -/
theorem clean_eq_iterate (s : List Char) : ∃ n ≤ s.length, clean s = round^[n] s := by
  fun_induction clean s with
  | case1 s h => exact ⟨0, Nat.zero_le _, rfl⟩
  | case2 s h ih =>
    obtain ⟨n, hn, heq⟩ := ih
    exact ⟨n + 1, Nat.le_trans (Nat.succ_le_succ hn) (round_length_lt h), heq⟩

end Script

/-- No script pattern occurs in the text. -/
def ScriptFree (s : String) : Prop := Script.Free s.toList

theorem sanitizeText_toList (s : String) : (sanitizeText s).toList = Script.clean s.toList :=
  String.toList_ofList

theorem sanitizeText_free (s : String) : ScriptFree (sanitizeText s) := by
  rw [ScriptFree, sanitizeText_toList]
  exact Script.clean_free s.toList

theorem sanitizeText_eq_self_iff (s : String) : sanitizeText s = s ↔ ScriptFree s := by
  rw [← String.toList_inj, sanitizeText_toList]
  exact Script.clean_eq_self_iff s.toList

/-- Finitely many rounds lead to a text that a further round leaves as it is. It is free
of script, a subsequence of the text, and the text itself just when that was free. -/
theorem sanitizeText_fixpoint (s : String) :
    (∃ n ≤ s.toList.length, (sanitizeText s).toList = Script.round^[n] s.toList ∧
      Script.round (sanitizeText s).toList = (sanitizeText s).toList) ∧
    ScriptFree (sanitizeText s) ∧
    (sanitizeText s).toList.Sublist s.toList ∧
    (sanitizeText s = s ↔ ScriptFree s) ∧
    sanitizeText (sanitizeText s) = sanitizeText s := by
  refine ⟨?_, sanitizeText_free s, ?_, sanitizeText_eq_self_iff s, ?_⟩
  · obtain ⟨n, hn, heq⟩ := Script.clean_eq_iterate s.toList
    rw [sanitizeText_toList]
    exact ⟨n, hn, heq, Script.round_clean s.toList⟩
  · rw [sanitizeText_toList]
    exact Script.clean_sublist s.toList
  · exact (sanitizeText_eq_self_iff _).2 (sanitizeText_free s)

end PageConfig
