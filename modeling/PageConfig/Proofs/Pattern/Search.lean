import PageConfig.Proofs.Pattern.Span

/-!
# The search finds every span

The ends that the ordered search lists are the ends of the spans. A repetition skips
a place that it has listed with as many turns left; the invariant is that from such a
place everything that can be reached is listed by then.
-/

set_option autoImplicit false

namespace PageConfig

theorem Cursor.mem_distinct {seen : Nat} {cs : List Cursor} {c : Cursor} (hc : c ∈ cs)
    (hs : seen.testBit c.index = false) (hu : ∀ d ∈ cs, d.index = c.index → d = c) :
    c ∈ Cursor.distinct seen cs := by
  induction cs generalizing seen with
  | nil => simp at hc
  | cons d cs ih =>
    have hu' : ∀ e ∈ cs, e.index = c.index → e = c := fun e he => hu e (List.mem_cons_of_mem _ he)
    simp only [Cursor.distinct]
    split
    · rename_i hd
      rcases List.mem_cons.1 hc with rfl | hc
      · rw [hs] at hd
        simp at hd
      · exact ih hc hs hu'
    · by_cases hdc : d = c
      · exact hdc ▸ List.mem_cons_self
      · have hne : d.index ≠ c.index := fun h => hdc (hu d List.mem_cons_self h)
        refine List.mem_cons_of_mem _ (ih ?_ ?_ hu')
        · exact (List.mem_cons.1 hc).resolve_left (Ne.symm hdc)
        · simp [Nat.testBit_or, hs, Nat.one_shiftLeft, hne]

theorem Cursor.mem_distinct_iff (origin : Cursor) {cs : List Cursor} {c : Cursor}
    (hcs : ∀ c ∈ cs, origin.Leads c) : c ∈ Cursor.distinct 0 cs ↔ c ∈ cs := by
  constructor
  · exact Cursor.mem_of_mem_distinct
  · intro hc
    apply Cursor.mem_distinct hc (Nat.zero_testBit c.index)
    intro d hd hi
    exact Cursor.leads_unique (hcs d hd) (hcs c hc) hi

namespace Pattern

section Search

variable {step : Cursor → List Cursor}

theorem mem_turns (hl : ∀ c d, d ∈ step c → c.Leads d) {origin : Cursor} {n : Nat}
    {cs : List Cursor} (hcs : ∀ c ∈ cs, origin.Leads c) {e : Cursor} :
    e ∈ turns step n cs ↔ ∃ c ∈ cs, Steps (fun c d => d ∈ step c) n c e := by
  induction n generalizing cs with
  | zero => simp [turns, Steps]
  | succ n ih =>
    have hnext : ∀ d ∈ cs.flatMap step, origin.Leads d := by
      intro d hd
      obtain ⟨c, hc, hd⟩ := List.mem_flatMap.1 hd
      exact Cursor.leads_trans (hcs c hc) (hl c d hd)
    have hmem : ∀ d, d ∈ Cursor.distinct 0 (cs.flatMap step) ↔ ∃ c ∈ cs, d ∈ step c := by
      intro d
      rw [Cursor.mem_distinct_iff origin hnext, List.mem_flatMap]
    have hturns : turns step (n + 1) cs = turns step n (Cursor.distinct 0 (cs.flatMap step)) := by
      cases cs with
      | nil => cases n <;> simp [turns, Cursor.distinct]
      | cons c cs => rfl
    rw [hturns, ih fun d hd => ?_]
    · simp only [hmem, Steps]
      constructor
      · rintro ⟨d, ⟨c, hc, hd⟩, he⟩
        exact ⟨c, hc, d, hd, he⟩
      · rintro ⟨c, hc, d, hd, he⟩
        exact ⟨d, ⟨c, hc, hd⟩, he⟩
    · exact hnext d (Cursor.mem_of_mem_distinct hd)

def Rise (step : Cursor → List Cursor) (c d : Cursor) : Prop := d ∈ step c ∧ c.index < d.index

def Climbs (step : Cursor → List Cursor) (left : Option Nat) (c d : Cursor) : Prop :=
  ∃ n, (∀ m, left = some m → n ≤ m) ∧ Steps (Rise step) n c d

theorem climbs_refl (left : Option Nat) (c : Cursor) : Climbs step left c c :=
  ⟨0, fun _ _ => Nat.zero_le _, rfl⟩

theorem climbs_step {left : Option Nat} (h0 : left ≠ some 0) {c d e : Cursor} (hd : Rise step c d)
    (he : Climbs step (left.map (· - 1)) d e) : Climbs step left c e := by
  obtain ⟨n, hn, hs⟩ := he
  refine ⟨n + 1, fun m hm => ?_, d, hd, hs⟩
  have hle := hn (m - 1) (by rw [hm, Option.map_some])
  have hpos : m ≠ 0 := fun h => h0 (h ▸ hm)
  omega

theorem climbs_cases {left : Option Nat} {c e : Cursor} (h : Climbs step left c e) :
    e = c ∨ left ≠ some 0 ∧ ∃ d, Rise step c d ∧ Climbs step (left.map (· - 1)) d e := by
  obtain ⟨n, hn, hs⟩ := h
  cases n with
  | zero => exact .inl hs
  | succ n =>
    obtain ⟨d, hd, hs⟩ := hs
    refine .inr ⟨fun h0 => ?_, d, hd, n, fun m hm => ?_, hs⟩
    · have := hn 0 h0
      omega
    · obtain ⟨k, hk, rfl⟩ := Option.map_eq_some_iff.1 hm
      have := hn k hk
      omega

theorem climbs_enough {left more : Option Nat} (h : climb.enough more left = true) {c e : Cursor}
    (he : Climbs step left c e) : Climbs step more c e := by
  obtain ⟨n, hn, hs⟩ := he
  refine ⟨n, fun m hm => ?_, hs⟩
  subst hm
  cases left with
  | none => simp [climb.enough] at h
  | some k => exact Nat.le_trans (hn k rfl) (by simpa [climb.enough] using h)

theorem climbs_leads (hl : ∀ c d, d ∈ step c → c.Leads d) {left : Option Nat} {c d : Cursor}
    (h : Climbs step left c d) : c.Leads d := by
  obtain ⟨n, _, hs⟩ := h
  exact steps_leads (fun c d h => hl c d h.1) hs

/-- What can be reached from the places listed so far, from an index on, is listed. -/
def Settled (step : Cursor → List Cursor) (first : Nat) (done : List (Cursor × Option Nat)) :
    Prop :=
  ∀ e ∈ done, first ≤ e.1.index → ∀ d, Climbs step e.2 e.1 d → ∃ l, (d, l) ∈ done

/-- The list `grown` adds to `done` places that can be reached from the places `cs`, and
all of them if `done` was settled from an index on that lies before `cs`. -/
structure Grows (step : Cursor → List Cursor) (left : Option Nat) (cs : List Cursor)
    (done grown : List (Cursor × Option Nat)) : Prop where
  keeps : ∀ e ∈ done, e ∈ grown
  reached : ∀ e ∈ grown, e ∈ done ∨ ∃ c ∈ cs, Climbs step left c e.1
  settles : ∀ first, (∀ c ∈ cs, first ≤ c.index) → Settled step first done →
    Settled step first grown ∧ ∀ c ∈ cs, ∀ d, Climbs step left c d → ∃ l, (d, l) ∈ grown

theorem Grows.nil (left : Option Nat) (done : List (Cursor × Option Nat)) :
    Grows step left [] done done where
  keeps := fun _ h => h
  reached := fun _ h => .inl h
  settles := fun _ _ h => ⟨h, by simp⟩

theorem Grows.cons {left : Option Nat} {c : Cursor} {cs : List Cursor}
    {done mid grown : List (Cursor × Option Nat)} (h : Grows step left [c] done mid)
    (ht : Grows step left cs mid grown) : Grows step left (c :: cs) done grown where
  keeps := fun e he => ht.keeps e (h.keeps e he)
  reached := by
    intro e he
    rcases ht.reached e he with he | ⟨d, hd, hde⟩
    · rcases h.reached e he with he | ⟨d, hd, hde⟩
      · exact .inl he
      · exact .inr ⟨c, List.mem_cons_self, List.mem_singleton.1 hd ▸ hde⟩
    · exact .inr ⟨d, List.mem_cons_of_mem _ hd, hde⟩
  settles := by
    intro first hf hs
    obtain ⟨hmid, hc⟩ :=
      h.settles first (fun d hd => List.mem_singleton.1 hd ▸ hf c List.mem_cons_self) hs
    obtain ⟨hgrown, hcs⟩ := ht.settles first (fun d hd => hf d (List.mem_cons_of_mem _ hd)) hmid
    refine ⟨hgrown, fun d hd e he => ?_⟩
    rcases List.mem_cons.1 hd with rfl | hd
    · obtain ⟨l, hl⟩ := hc d List.mem_cons_self e he
      exact ⟨l, ht.keeps _ hl⟩
    · exact hcs d hd e he

theorem grows_foldl (hl : ∀ c d, d ∈ step c → c.Leads d) {origin : Cursor} {left : Option Nat}
    {search : List (Cursor × Option Nat) → Cursor → List (Cursor × Option Nat)}
    {cs : List Cursor} {done : List (Cursor × Option Nat)}
    (hcs : ∀ c ∈ cs, origin.Leads c) (hdone : ∀ e ∈ done, origin.Leads e.1)
    (h : ∀ c ∈ cs, ∀ done : List (Cursor × Option Nat), (∀ e ∈ done, origin.Leads e.1) →
      Grows step left [c] done (search done c)) :
    Grows step left cs done (cs.foldl search done) := by
  induction cs generalizing done with
  | nil => exact Grows.nil left done
  | cons c cs ih =>
    have hc := h c List.mem_cons_self done hdone
    refine hc.cons (ih (fun d hd => hcs d (List.mem_cons_of_mem _ hd)) (fun e he => ?_)
      fun d hd => h d (List.mem_cons_of_mem _ hd))
    rcases hc.reached e he with he | ⟨d, hd, hde⟩
    · exact hdone e he
    · rw [List.mem_singleton.1 hd] at hde
      exact Cursor.leads_trans (hcs c List.mem_cons_self) (climbs_leads hl hde)

/-- To grow from a place it is enough to grow from the places one step further on. The
place itself may be listed before them or after them. -/
theorem grows_step (hl : ∀ c d, d ∈ step c → c.Leads d) {left : Option Nat} {c : Cursor}
    {done start grown out : List (Cursor × Option Nat)} (h0 : left ≠ some 0)
    (hkeep : ∀ e ∈ done, e ∈ start) (hstart : ∀ e ∈ start, e = (c, left) ∨ e ∈ done)
    (hout : ∀ e, e ∈ out ↔ e = (c, left) ∨ e ∈ grown)
    (h : Grows step (left.map (· - 1)) ((step c).filter fun d => c.index < d.index) start grown) :
    Grows step left [c] done out := by
  have hfilter : ∀ d, d ∈ ((step c).filter fun d => c.index < d.index) ↔ Rise step c d := by
    simp [Rise]
  have horigin : ∀ e ∈ out, e = (c, left) ∨ e ∈ done ∨
      ∃ d, Rise step c d ∧ Climbs step (left.map (· - 1)) d e.1 := by
    intro e he
    rcases (hout e).1 he with he | he
    · exact .inl he
    · rcases h.reached e he with he | ⟨d, hd, hde⟩
      · exact (hstart e he).imp_right .inl
      · exact .inr (.inr ⟨d, (hfilter d).1 hd, hde⟩)
  have hdone : ∀ e ∈ done, e ∈ out := fun e he => (hout e).2 (.inr (h.keeps e (hkeep e he)))
  refine ⟨hdone, fun e he => ?_, fun first hf hs => ?_⟩
  · rcases horigin e he with rfl | he | ⟨d, hd, hde⟩
    · exact .inr ⟨c, List.mem_cons_self, climbs_refl left c⟩
    · exact .inl he
    · exact .inr ⟨c, List.mem_cons_self, climbs_step h0 hd hde⟩
  · have hfc := hf c List.mem_cons_self
    -- `c` may be listed before it is settled, but the places searched from it lie beyond it.
    obtain ⟨hbeyond, hnext⟩ := h.settles (c.index + 1) (fun d hd => ((hfilter d).1 hd).2) (by
      intro e he hi d hd
      rcases hstart e he with rfl | he
      · exact absurd hi (Nat.not_succ_le_self _)
      · obtain ⟨l, hl⟩ := hs e he (by omega) d hd
        exact ⟨l, hkeep _ hl⟩)
    have hcovers : ∀ e, Climbs step left c e → ∃ l, (e, l) ∈ out := by
      intro e he
      rcases climbs_cases he with rfl | ⟨_, d, hd, hde⟩
      · exact ⟨left, (hout _).2 (.inl rfl)⟩
      · obtain ⟨l, hl⟩ := hnext d ((hfilter d).2 hd) e hde
        exact ⟨l, (hout _).2 (.inr hl)⟩
    refine ⟨fun e he hi d hd => ?_, fun d hd e he => hcovers e (List.mem_singleton.1 hd ▸ he)⟩
    rcases horigin e he with rfl | hmem | ⟨b, hb, hbe⟩
    · exact hcovers d hd
    · obtain ⟨l, hl⟩ := hs e hmem hi d hd
      exact ⟨l, hdone _ hl⟩
    · have hce : c.index < e.1.index :=
        Nat.lt_of_lt_of_le hb.2 (Cursor.leads_index (climbs_leads hl hbe))
      rcases (hout e).1 he with rfl | he
      · exact absurd hce (Nat.lt_irrefl _)
      · obtain ⟨l, hl⟩ := hbeyond e he hce d hd
        exact ⟨l, (hout _).2 (.inr hl)⟩

theorem grows_last {left : Option Nat} {c : Cursor} {done : List (Cursor × Option Nat)}
    (h : ∀ d, Climbs step left c d → d = c) : Grows step left [c] done ((c, left) :: done) where
  keeps := fun e he => List.mem_cons_of_mem _ he
  reached := by
    intro e he
    rcases List.mem_cons.1 he with rfl | he
    · exact .inr ⟨c, List.mem_cons_self, climbs_refl left c⟩
    · exact .inl he
  settles := by
    intro first _ hs
    have hc : ∀ d, Climbs step left c d → ∃ l, (d, l) ∈ (c, left) :: done :=
      fun d hd => ⟨left, h d hd ▸ List.mem_cons_self⟩
    refine ⟨fun e he hi d hd => ?_, fun b hb d hd => hc d (List.mem_singleton.1 hb ▸ hd)⟩
    rcases List.mem_cons.1 he with rfl | he
    · exact hc d hd
    · obtain ⟨l, hl⟩ := hs e he hi d hd
      exact ⟨l, List.mem_cons_of_mem _ hl⟩

theorem grows_seen {left : Option Nat} {c : Cursor} {done : List (Cursor × Option Nat)}
    {e : Cursor × Option Nat} (he : e ∈ done) (hc : e.1 = c)
    (h : climb.enough e.2 left = true) : Grows step left [c] done done where
  keeps := fun _ h => h
  reached := fun _ h => .inl h
  settles := by
    intro first hf hs
    refine ⟨hs, fun b hb d hd => ?_⟩
    rw [List.mem_singleton.1 hb, ← hc] at hd
    exact hs e he (hc ▸ hf c List.mem_cons_self) d (climbs_enough h hd)

theorem climb_grows (hl : ∀ c d, d ∈ step c → c.Leads d) {origin : Cursor} (greedy : Bool)
    (fuel : Nat) : ∀ (left : Option Nat) (done : List (Cursor × Option Nat)) (c : Cursor),
      c.rest.length ≤ fuel → origin.Leads c → (∀ e ∈ done, origin.Leads e.1) →
      Grows step left [c] done (climb step greedy fuel left done c) := by
  induction fuel with
  | zero =>
    intro left done c hf hc hdone
    refine grows_last fun d hd => ?_
    rcases climbs_cases hd with h | ⟨_, b, hb, _⟩
    · exact h
    · have := Cursor.leads_length (hl c b hb.1)
      have := hb.2
      omega
  | succ fuel ih =>
    intro left done c hf hc hdone
    have hself : ∀ e ∈ (c, left) :: done, origin.Leads e.1 := by
      intro e he
      rcases List.mem_cons.1 he with rfl | he
      · exact hc
      · exact hdone e he
    have hfold : ∀ start : List (Cursor × Option Nat), (∀ e ∈ start, origin.Leads e.1) →
        Grows step (left.map (· - 1)) ((step c).filter fun d => c.index < d.index) start
          (((step c).filter fun d => c.index < d.index).foldl
            (climb step greedy fuel (left.map (· - 1))) start) := by
      intro start hs
      have hnext : ∀ d ∈ (step c).filter (fun d => c.index < d.index),
          c.Leads d ∧ c.index < d.index := by
        intro d hd
        obtain ⟨hd, hlt⟩ := List.mem_filter.1 hd
        exact ⟨hl c d hd, of_decide_eq_true hlt⟩
      refine grows_foldl hl (fun d hd => Cursor.leads_trans hc (hnext d hd).1) hs
        fun d hd done hdone => ih _ done d ?_ (Cursor.leads_trans hc (hnext d hd).1) hdone
      have := Cursor.leads_length (hnext d hd).1
      have := (hnext d hd).2
      omega
    simp only [climb]
    split
    · rename_i hseen
      obtain ⟨e, he, hce⟩ := List.any_eq_true.1 hseen
      simp only [Bool.and_eq_true, decide_eq_true_eq] at hce
      exact grows_seen he (Cursor.leads_unique (hdone e he) hc hce.1) hce.2
    · split
      · rename_i h0
        subst h0
        exact grows_last fun d hd => (climbs_cases hd).resolve_right fun h => h.1 rfl
      · rename_i h0
        split
        · exact grows_step hl h0 (fun e he => he) (fun e he => .inr he) (by simp) (hfold done hdone)
        · have hgrown := hfold _ hself
          refine grows_step hl h0 (fun e he => List.mem_cons_of_mem _ he)
            (fun e he => List.mem_cons.1 he) (fun e => ?_) hgrown
          refine ⟨.inr, fun he => he.elim (fun he => ?_) id⟩
          exact he ▸ hgrown.keeps _ List.mem_cons_self

end Search

/-- A chain of matches may leave out those that take nothing. -/
theorem climbs_of_steps {step : Cursor → List Cursor} (hl : ∀ c d, d ∈ step c → c.Leads d)
    {n : Nat} {c d : Cursor} (h : Steps (fun c d => d ∈ step c) n c d) {left : Option Nat}
    (hn : ∀ m, left = some m → n ≤ m) : Climbs step left c d := by
  induction n generalizing c left with
  | zero => exact h ▸ climbs_refl left _
  | succ n ih =>
    obtain ⟨b, hb, hd⟩ := h
    rcases Nat.lt_or_ge c.index b.index with hlt | hge
    · refine climbs_step (fun h0 => absurd (hn 0 h0) (Nat.not_succ_le_zero n)) ⟨hb, hlt⟩
        (ih hd fun m hm => ?_)
      obtain ⟨k, hk, rfl⟩ := Option.map_eq_some_iff.1 hm
      have := hn k hk
      omega
    · have hi := Cursor.leads_index (hl c b hb)
      have hbc : b = c := Cursor.leads_unique (hl c b hb) c.leads_refl (by omega)
      exact ih (hbc ▸ hd) fun m hm => Nat.le_of_succ_le (hn m hm)

theorem mem_ends_rep {least : Nat} {most : Option Nat} {greedy : Bool} {p : Pattern}
    (hl : ∀ c d, d ∈ p.ends c → c.Leads d) {c d : Cursor} :
    d ∈ (rep least most greedy p).ends c ↔
      ∃ b, Steps (fun c d => d ∈ p.ends c) least c b ∧
        Climbs p.ends (most.map (· - least)) b d := by
  have hstarts : ∀ b, b ∈ turns p.ends least [c] ↔ Steps (fun c d => d ∈ p.ends c) least c b := by
    intro b
    have hc : ∀ a ∈ [c], c.Leads a := fun a ha => List.mem_singleton.1 ha ▸ c.leads_refl
    rw [mem_turns hl hc]
    simp
  have hlead : ∀ b ∈ turns p.ends least [c], c.Leads b :=
    fun b hb => steps_leads hl ((hstarts b).1 hb)
  have hgrows : Grows p.ends (most.map (· - least)) (turns p.ends least [c]) []
      ((turns p.ends least [c]).foldl
        (fun done d => climb p.ends greedy d.rest.length (most.map (· - least)) done d) []) :=
    grows_foldl hl hlead (by simp) fun b hb done hdone =>
      climb_grows hl greedy _ _ done b (Nat.le_refl _) (hlead b hb) hdone
  have hfound : ∀ e ∈ (turns p.ends least [c]).foldl
      (fun done d => climb p.ends greedy d.rest.length (most.map (· - least)) done d) [],
      ∃ b ∈ turns p.ends least [c], Climbs p.ends (most.map (· - least)) b e.1 :=
    fun e he => (hgrows.reached e he).resolve_left (by simp)
  obtain ⟨_, hcovers⟩ := hgrows.settles 0 (by simp) (by simp [Settled])
  rw [ends, Cursor.mem_distinct_iff c fun a ha => ?_]
  · constructor
    · intro hd
      obtain ⟨e, he, rfl⟩ := List.mem_map.1 hd
      obtain ⟨b, hb, hbe⟩ := hfound e (List.mem_reverse.1 he)
      exact ⟨b, (hstarts b).1 hb, hbe⟩
    · rintro ⟨b, hb, hbd⟩
      obtain ⟨l, hmem⟩ := hcovers b ((hstarts b).2 hb) d hbd
      exact List.mem_map.2 ⟨_, List.mem_reverse.2 hmem, rfl⟩
  · obtain ⟨e, he, rfl⟩ := List.mem_map.1 ha
    obtain ⟨b, hb, hbe⟩ := hfound e (List.mem_reverse.1 he)
    exact Cursor.leads_trans (hlead b hb) (climbs_leads hl hbe)

theorem mem_ends_one {set : Char → Bool} {c d : Cursor} :
    d ∈ (one set).ends c ↔ (one set).Spans c d := by
  rw [ends, Spans]
  cases h : c.next? with
  | none => simp
  | some e =>
    obtain ⟨ch, e⟩ := e
    constructor
    · intro hd
      by_cases hs : set ch = true
      · exact ⟨ch, by rw [show d = e by simpa [hs] using hd], hs⟩
      · simp [hs] at hd
    · rintro ⟨a, ha, hs⟩
      obtain ⟨rfl, rfl⟩ := Prod.mk.inj (Option.some.inj ha)
      simp [hs]

theorem mem_ends_rep_iff {least : Nat} {most : Option Nat} {greedy : Bool} {p : Pattern}
    (hp : ∀ c d, d ∈ p.ends c ↔ p.Spans c d) {c d : Cursor} :
    d ∈ (rep least most greedy p).ends c ↔ (rep least most greedy p).Spans c d := by
  have hl : ∀ c d, d ∈ p.ends c → c.Leads d := fun c d h => spans_leads p c d ((hp c d).1 h)
  have hends : (fun c d => d ∈ p.ends c) = p.Spans := by
    funext c d
    exact propext (hp c d)
  rw [mem_ends_rep hl, Spans]
  constructor
  · rintro ⟨b, hb, n, hn, hs⟩
    refine ⟨least + n, Nat.le_add_right _ _, fun m hm => ?_, steps_add.2 ⟨b, hends ▸ hb, ?_⟩⟩
    · have := hn (m - least) (by rw [hm, Option.map_some])
      omega
    · exact steps_mono (fun c d h => (hp c d).1 h.1) hs
  · rintro ⟨n, hleast, hmost, hs⟩
    obtain ⟨k, rfl⟩ := Nat.exists_eq_add_of_le hleast
    obtain ⟨b, hb, hs⟩ := steps_add.1 hs
    rw [← hends] at hb hs
    refine ⟨b, hb, climbs_of_steps hl hs fun m hm => ?_⟩
    obtain ⟨j, hj, rfl⟩ := Option.map_eq_some_iff.1 hm
    have := hmost j hj
    omega

/-- The ordered search finds exactly the ends that some way through the pattern leads to. -/
theorem mem_ends_iff (p : Pattern) : ∀ c d, d ∈ p.ends c ↔ p.Spans c d := by
  induction p with
  | empty => simp [ends, Spans]
  | one set => exact fun c d => mem_ends_one
  | look holds =>
    intro c d
    by_cases h : holds c.before c.rest.head? = true <;> simp [ends, Spans, h]
  | cat p q hp hq =>
    intro c e
    rw [ends, Cursor.mem_distinct_iff c fun d hd => ?_]
    · simp [Spans, hp, hq]
    · obtain ⟨b, hb, hd⟩ := List.mem_flatMap.1 hd
      exact Cursor.leads_trans (spans_leads p c b ((hp c b).1 hb))
        (spans_leads q b d ((hq b d).1 hd))
  | alt p q hp hq =>
    intro c e
    rw [ends, Cursor.mem_distinct_iff c fun d hd => ?_]
    · simp [Spans, hp, hq]
    · rcases List.mem_append.1 hd with hd | hd
      · exact spans_leads p c d ((hp c d).1 hd)
      · exact spans_leads q c d ((hq c d).1 hd)
  | rep least most greedy p hp => exact fun c d => mem_ends_rep_iff hp

end Pattern

end PageConfig
