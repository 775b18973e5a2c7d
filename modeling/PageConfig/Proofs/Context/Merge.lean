import PageConfig.Proofs.Context.Written
import PageConfig.Proofs.Value.Merge

/-!
# Merged contexts

A context is one table of fields, known or not: to update it is to merge what the update is
written as into what the context is written as, key by key. After several updates each key
holds what the last update with that key had there.
-/

set_option autoImplicit false

namespace PageConfig

namespace Context

def Decoded (c : Context) : Prop := ∃ v : Value, v.Canonical ∧ ofValue v = .ok c

theorem Decoded.tidy {c : Context} (h : c.Decoded) : c.Tidy := by
  obtain ⟨v, hv, hc⟩ := h
  obtain ⟨fields, rfl, hreads⟩ := reads_of_ofValue hc
  exact hreads.tidy (Props.ascending_of_canonical hv)

theorem get?_known_merge (c u : Context) (key : String) :
    (Table.get? (c.merge u).known key).join =
      (Table.get? u.known key).join.or (Table.get? c.known key).join := by
  simp only [known, merge, Table.get?]
  -- one case for each of the known fields, and one for any other key
  repeat' split
  all_goals simp [Option.map_or]

namespace Tidy

variable {c u w : Context} (hc : c.Tidy) (hu : u.Tidy)

include hc hu

theorem merge : (c.merge u).Tidy := by
  constructor
  · exact Props.ascending_mergeShallow hc.ascending
  · intro key hkey
    refine (Props.get?_mergeShallow (Table.keys_nodup_of_ascending hu.ascending) key).trans ?_
    rw [hu.unknown key hkey, hc.unknown key hkey]
    rfl

theorem get?_written_merge (key : String) :
    (c.merge u).written.get? key = (u.written.get? key).or (c.written.get? key) := by
  rw [(hc.merge hu).get?_written, hc.get?_written, hu.get?_written]
  split
  · exact get?_known_merge c u key
  · exact Props.get?_mergeShallow (Table.keys_nodup_of_ascending hu.ascending) key

theorem written_merge : (c.merge u).written = c.written.mergeShallow u.written := by
  apply Table.ext_of_ascending (ascending_written _)
    (Props.ascending_mergeShallow (ascending_written c))
  intro key
  rw [hc.get?_written_merge hu,
    Props.get?_mergeShallow (Table.keys_nodup_of_ascending (ascending_written u))]

theorem merge_assoc (hw : w.Tidy) : (c.merge u).merge w = c.merge (u.merge w) := by
  have hextra := Props.mergeShallow_assoc hc.ascending hu.ascending hw.ascending
  simp only [Context.merge, Option.orElse_eq_orElse, Option.orElse_eq_or, Option.or_assoc, hextra]

theorem merge_merge : (c.merge u).merge u = c.merge u := by
  have hextra := Props.mergeShallow_mergeShallow hc.ascending hu.ascending
  simp only [Context.merge, Option.orElse_eq_orElse, Option.orElse_eq_or, ← Option.or_assoc,
    Option.or_self, hextra]

end Tidy

/-- After several updates a key holds what the last of them had there that had anything. -/
theorem get?_written_foldl_merge {c : Context} (hc : c.Tidy) {updates : List Context}
    (hupdates : ∀ u ∈ updates, u.Tidy) (key : String) :
    (updates.foldl merge c).written.get? key =
      (updates.reverse.findSome? fun u => u.written.get? key).or (c.written.get? key) := by
  induction updates generalizing c with
  | nil => rfl
  | cons u updates ih =>
    obtain ⟨hu, hrest⟩ := List.forall_mem_cons.1 hupdates
    rw [List.foldl_cons, ih (hc.merge hu) hrest, hc.get?_written_merge hu, List.reverse_cons,
      List.findSome?_append, Option.or_assoc]
    cases hkey : u.written.get? key <;> simp [hkey]

end Context

end PageConfig
