import PageConfig.Pattern.Basic

/-!
# Matches end inside the text

Every end of a match is a suffix of what follows its start, so removing
matches leaves a subsequence of the text.
-/

set_option autoImplicit false

namespace PageConfig.Pattern

def Forward (step : Cursor → List Cursor) : Prop :=
  ∀ c d, d ∈ step c → d.rest <:+ c.rest

theorem turns_suffix {step : Cursor → List Cursor} (h : Forward step) {s : List Char} :
    ∀ (n : Nat) (cs : List Cursor), (∀ c ∈ cs, c.rest <:+ s) →
      ∀ d ∈ turns step n cs, d.rest <:+ s
  | 0, _, hs, d, hd => hs d hd
  | n + 1, [], _, d, hd => by simp [turns] at hd
  | n + 1, c :: cs, hs, d, hd => by
    refine turns_suffix h n _ (fun e he => ?_) d hd
    obtain ⟨f, hf, hef⟩ := List.mem_flatMap.1 (Cursor.mem_of_mem_distinct he)
    exact (h f e hef).trans (hs f hf)

theorem climb_suffix {step : Cursor → List Cursor} (h : Forward step) {greedy : Bool}
    {s : List Char} (fuel : Nat) :
    ∀ (left : Option Nat) (done : List (Cursor × Option Nat)) (c : Cursor),
      c.rest <:+ s → (∀ e ∈ done, e.1.rest <:+ s) →
      ∀ e ∈ climb step greedy fuel left done c, e.1.rest <:+ s := by
  induction fuel with
  | zero =>
    intro left done c hc hd e he
    rcases List.mem_cons.1 he with rfl | he
    · exact hc
    · exact hd e he
  | succ fuel ih =>
    intro left done c hc hd e he
    have hcons : ∀ e ∈ (c, left) :: done, e.1.rest <:+ s := by
      intro e he
      rcases List.mem_cons.1 he with rfl | he
      · exact hc
      · exact hd e he
    have hfold : ∀ (ds : List Cursor) (start : List (Cursor × Option Nat)),
        (∀ d ∈ ds, d.rest <:+ s) → (∀ e ∈ start, e.1.rest <:+ s) →
        ∀ e ∈ ds.foldl (climb step greedy fuel (left.map (· - 1))) start, e.1.rest <:+ s := by
      intro ds
      induction ds with
      | nil => exact fun start _ hstart => hstart
      | cons d ds ihd =>
        intro start hds hstart
        exact ihd _ (fun d' hd' => hds d' (List.mem_cons_of_mem _ hd'))
          (ih _ _ _ (hds d List.mem_cons_self) hstart)
    have hnext : ∀ d ∈ (step c).filter (fun d => c.index < d.index), d.rest <:+ s :=
      fun d hd' => (h c d (List.mem_filter.1 hd').1).trans hc
    simp only [climb] at he
    split at he
    · exact hd e he
    · split at he
      · exact hcons e he
      · split at he
        · rcases List.mem_cons.1 he with rfl | he
          · exact hc
          · exact hfold _ _ hnext hd e he
        · exact hfold _ _ hnext hcons e he

theorem ends_suffix (p : Pattern) : Forward p.ends := by
  induction p with
  | empty =>
    intro c d hd
    simp only [ends, List.mem_singleton] at hd
    exact hd ▸ List.suffix_refl _
  | one set =>
    intro c d hd
    obtain ⟨before, rest, index⟩ := c
    cases rest with
    | nil => simp [ends, Cursor.next?] at hd
    | cons ch rest =>
      simp only [ends, Cursor.next?] at hd
      split at hd
      · rw [List.mem_singleton.1 hd]
        exact List.suffix_cons ch rest
      · simp at hd
  | look holds =>
    intro c d hd
    simp only [ends] at hd
    split at hd
    · exact List.mem_singleton.1 hd ▸ List.suffix_refl _
    · simp at hd
  | cat p q hp hq =>
    intro c d hd
    obtain ⟨e, he, hde⟩ := List.mem_flatMap.1 (Cursor.mem_of_mem_distinct hd)
    exact (hq e d hde).trans (hp c e he)
  | alt p q hp hq =>
    intro c d hd
    rcases List.mem_append.1 (Cursor.mem_of_mem_distinct hd) with hd | hd
    · exact hp c d hd
    · exact hq c d hd
  | rep least most greedy p hp =>
    intro c d hd
    obtain ⟨e, he, rfl⟩ := List.mem_map.1 (Cursor.mem_of_mem_distinct hd)
    have hstarts := turns_suffix hp least [c] (s := c.rest)
      (fun e he => List.mem_singleton.1 he ▸ List.suffix_refl _)
    have hfold : ∀ (ds : List Cursor) (start : List (Cursor × Option Nat)),
        (∀ d ∈ ds, d.rest <:+ c.rest) → (∀ e ∈ start, e.1.rest <:+ c.rest) →
        ∀ e ∈ ds.foldl (fun done d => climb p.ends greedy d.rest.length (most.map (· - least)) done d)
          start, e.1.rest <:+ c.rest := by
      intro ds
      induction ds with
      | nil => exact fun start _ hstart => hstart
      | cons d ds ihd =>
        intro start hds hstart
        exact ihd _ (fun d' hd' => hds d' (List.mem_cons_of_mem _ hd'))
          (climb_suffix hp _ _ _ _ (hds d List.mem_cons_self) hstart)
    exact hfold _ [] hstarts (by simp) e (List.mem_reverse.1 he)

theorem removeFrom_sublist (p : Pattern) (c : Cursor) : (p.removeFrom c).Sublist c.rest := by
  fun_induction removeFrom p c with
  | case1 c h => simp
  | case2 c ch rest h d hd hlt ih =>
    exact ih.trans (ends_suffix p c d (List.mem_of_mem_head? hd)).sublist
  | case3 c ch rest h d hd hlt ih => exact h ▸ ih.cons_cons ch
  | case4 c ch rest h hd ih => exact h ▸ ih.cons_cons ch

theorem remove_sublist (p : Pattern) (s : List Char) : (p.remove s).Sublist s :=
  removeFrom_sublist p (.start s)

end PageConfig.Pattern
