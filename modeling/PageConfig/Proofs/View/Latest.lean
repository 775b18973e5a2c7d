import Mathlib.Data.List.Induction
import Mathlib.Data.List.Nodup
import Mathlib.Data.List.Pairwise
import PageConfig.Proofs.View.History

/-!
# The latest samples

Of a sequence of samples each node has a latest one. To keep the latest samples while
others come in, a sample drops the one of its node and goes to the end.
-/

set_option autoImplicit false

namespace PageConfig

variable {σ : Type}

namespace Metric

/-- The samples without those that are followed by another one of the same node. -/
def latest (ms : List Metric) : List Metric :=
  ms.pwFilter fun m m' => m.componentId ≠ m'.componentId

/-- The sample is the last one of its node. -/
def IsLatest (m : Metric) (ms : List Metric) : Prop :=
  (ms.filter (·.componentId == m.componentId)).getLast? = some m

def keep (ms : List Metric) (m : Metric) : List Metric :=
  ms.filter (·.componentId != m.componentId) ++ [m]

theorem latest_sublist (ms : List Metric) : (latest ms).Sublist ms := List.pwFilter_sublist ms

theorem nodup_latest (ms : List Metric) : ((latest ms).map (·.componentId)).Nodup :=
  List.pairwise_map.2 (List.pairwise_pwFilter ms)

theorem mem_keep {ms : List Metric} {m m' : Metric} :
    m' ∈ keep ms m ↔ m' ∈ ms ∧ m'.componentId ≠ m.componentId ∨ m' = m := by
  simp [keep]

theorem latest_concat (ms : List Metric) (m : Metric) :
    latest (ms ++ [m]) = keep (latest ms) m := by
  induction ms with
  | nil => rfl
  | cons x ms ih =>
    unfold latest at ih ⊢
    rw [List.cons_append]
    by_cases hx : ∀ y ∈ ms.pwFilter fun m m' => m.componentId ≠ m'.componentId,
        x.componentId ≠ y.componentId
    · rw [List.pwFilter_cons_of_pos hx]
      by_cases hm : x.componentId = m.componentId
      · rw [List.pwFilter_cons_of_neg, ih]
        · simp [keep, hm]
        · rw [ih]
          exact fun hall => hall m (mem_keep.2 (.inr rfl)) hm
      · rw [List.pwFilter_cons_of_pos, ih]
        · simp [keep, hm]
        · rw [ih]
          intro y hy
          rcases mem_keep.1 hy with ⟨hy, -⟩ | rfl
          · exact hx y hy
          · exact hm
    · rw [List.pwFilter_cons_of_neg hx, ← ih]
      apply List.pwFilter_cons_of_neg
      rw [ih]
      -- a later sample of the node is kept, or it is the new one that is of the node
      intro hall
      apply hx
      intro y hy hxy
      by_cases hm : y.componentId = m.componentId
      · exact hall m (mem_keep.2 (.inr rfl)) (hxy.trans hm)
      · exact hall y (mem_keep.2 (.inl ⟨hy, hm⟩)) hxy

theorem latest_append (ms ns : List Metric) : latest (ms ++ ns) = ns.foldl keep (latest ms) := by
  induction ns generalizing ms with
  | nil => rw [List.append_nil, List.foldl_nil]
  | cons n ns ih => rw [List.append_cons, ih, latest_concat, List.foldl_cons]

theorem isLatest_concat (ms : List Metric) (m m' : Metric) :
    IsLatest m' (ms ++ [m]) ↔ IsLatest m' ms ∧ m'.componentId ≠ m.componentId ∨ m' = m := by
  unfold IsLatest
  rw [List.filter_append]
  by_cases hm : m.componentId = m'.componentId
  · have hone : [m].filter (·.componentId == m'.componentId) = [m] := by simp [hm]
    rw [hone, List.getLast?_concat]
    simp [hm, eq_comm]
  · have hnone : [m].filter (·.componentId == m'.componentId) = [] := by simp [hm]
    rw [hnone, List.append_nil]
    constructor
    · exact fun h => .inl ⟨h, Ne.symm hm⟩
    · rintro (⟨h, -⟩ | rfl)
      · exact h
      · exact absurd rfl hm

theorem mem_latest_iff (ms : List Metric) (m : Metric) : m ∈ latest ms ↔ IsLatest m ms := by
  induction ms using List.reverseRecOn with
  | nil => exact ⟨nofun, nofun⟩
  | append_singleton ms n ih => rw [latest_concat, mem_keep, isLatest_concat, ih]

theorem exists_mem_latest {ms : List Metric} {id : String} :
    (∃ m ∈ latest ms, m.componentId = id) ↔ ∃ m ∈ ms, m.componentId = id := by
  refine ⟨fun ⟨m, hm, hid⟩ => ⟨m, (latest_sublist ms).subset hm, hid⟩, ?_⟩
  induction ms using List.reverseRecOn with
  | nil => exact fun ⟨_, hm, _⟩ => absurd hm List.not_mem_nil
  | append_singleton ms n ih =>
    rintro ⟨m, hm, hid⟩
    rw [latest_concat]
    by_cases hn : n.componentId = id
    · exact ⟨n, mem_keep.2 (.inr rfl), hn⟩
    · rcases List.mem_append.1 hm with hm | hm
      · obtain ⟨m', hm', hid'⟩ := ih ⟨m, hm, hid⟩
        exact ⟨m', mem_keep.2 (.inl ⟨hm', fun h => hn (h.symm.trans hid')⟩), hid'⟩
      · exact absurd (List.mem_singleton.1 hm ▸ hid) hn

/-- What is kept came in now, or it was kept before and nothing of its node came in. -/
theorem mem_foldl_keep {ms ns : List Metric} {m : Metric} : m ∈ ns.foldl keep ms ↔
    m ∈ latest ns ∨ m ∈ ms ∧ ∀ n ∈ ns, n.componentId ≠ m.componentId := by
  induction ns using List.reverseRecOn with
  | nil => simp [latest]
  | append_singleton ns n ih =>
    rw [List.foldl_append, List.foldl_cons, List.foldl_nil, mem_keep, ih, latest_concat, mem_keep]
    simp only [List.mem_append, List.mem_singleton, or_imp, forall_and, forall_eq]
    grind

theorem latest_eq_nil_iff {ms : List Metric} : latest ms = [] ↔ ms = [] := by
  constructor
  · intro h
    rcases List.eq_nil_or_concat ms with rfl | ⟨ms, m, rfl⟩
    · rfl
    · rw [List.concat_eq_append, latest_concat] at h
      simp [keep] at h
  · rintro rfl
    rfl

end Metric

namespace Visit

variable {r : Renderer σ} {v : Visit} {vs : List Visit}

theorem Fits.sample (h : v.Fits r) {m : Metric} (hm : v.metric? = some m) :
    m = v.node.sample r := by
  cases v with
  | missing n => cases hm
  | kept n block => cases hm
  | made n metric => exact (Option.some.inj hm).symm.trans h.2
  | failed n metric message block => exact (Option.some.inj hm).symm.trans h.2.1

theorem updateCount_act (r : Renderer σ) (v : Visit) (id : String) :
    (v.act r).updateCount id =
      if v.metric?.isSome ∧ v.node.id = id then r.updateCount id + 1 else r.updateCount id := by
  have hcounted (n : Node) : (r.counted n.id).updateCount id =
      if n.id = id then r.updateCount id + 1 else r.updateCount id := by
    rw [Renderer.updateCount_counted]
    by_cases hid : n.id = id <;> simp [hid]
  cases v with
  | missing n => rfl
  | kept n block => rfl
  | made n metric =>
    rw [act, hcounted]
    simp [metric?, node]
  | failed n metric message block =>
    have hfailing : ((r.counted n.id).failing n.id message).updateCount id =
      (r.counted n.id).updateCount id := rfl
    rw [act, hfailing, hcounted]
    simp [metric?, node]

theorem AllFit.latest_counts (h : AllFit r vs) :
    ∀ m ∈ Metric.latest (vs.filterMap metric?),
      m.updateCount = (vs.foldl act r).updateCount m.componentId := by
  induction vs using List.reverseRecOn with
  | nil => exact nofun
  | append_singleton vs v ih =>
    obtain ⟨hvs, hv, -⟩ := allFit_append.1 h
    rw [List.filterMap_append, List.foldl_append, List.foldl_cons, List.foldl_nil]
    cases hmetric : v.metric? with
    | none =>
      rw [List.filterMap_cons_none hmetric, List.filterMap_nil, List.append_nil]
      intro m hm
      rw [updateCount_act, hmetric]
      exact ih hvs m hm
    | some metric =>
      obtain rfl := hv.sample hmetric
      rw [List.filterMap_cons_some hmetric, List.filterMap_nil, Metric.latest_concat]
      intro m hm
      rw [updateCount_act, hmetric]
      rcases Metric.mem_keep.1 hm with ⟨hm, hother⟩ | rfl
      · rw [if_neg fun hid => hother hid.2.symm]
        exact ih hvs m hm
      · exact (if_pos ⟨rfl, rfl⟩).symm

theorem AllFit.sampled_iff (h : AllFit r vs) (id : String) :
    (∃ m ∈ vs.filterMap metric?, m.componentId = id) ↔
      0 < History.attempts (vs.map .visit) id := by
  induction vs generalizing r with
  | nil => simp [History.attempts]
  | cons v vs ih =>
    obtain ⟨hv, hvs⟩ := h
    have hcount : History.attempts ((v :: vs).map .visit) id =
        History.attempts (vs.map .visit) id + if (Event.visit v).isAttempt id then 1 else 0 :=
      List.countP_cons
    rw [hcount]
    cases hmetric : v.metric? with
    | none =>
      rw [List.filterMap_cons_none hmetric, ih hvs]
      simp [Event.isAttempt, hmetric]
    | some metric =>
      obtain rfl := hv.sample hmetric
      have hid : (v.node.sample r).componentId = v.node.id := rfl
      rw [List.filterMap_cons_some hmetric, List.exists_mem_cons_iff, ih hvs, hid]
      by_cases hid : v.node.id = id <;> simp [Event.isAttempt, hmetric, hid]

end Visit

end PageConfig
