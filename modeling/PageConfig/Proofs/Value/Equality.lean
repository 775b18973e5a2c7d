import PageConfig.Proofs.Decimal.Rounding
import PageConfig.Proofs.Value.Induction
import PageConfig.Value.Coercion

/-!
# Which values are taken for equal

Values are alike if they have one structure and the same numbers in it, a whole number or a
double for each. Two numbers are compared as doubles, so that different ones which round to one
double are taken for equal. Inside lists and objects a whole number is never taken for equal to a
double. Which of two values stands on which side makes no difference.
-/

set_option autoImplicit false

namespace PageConfig

namespace Number

def quantity? : Number → Option Quantity
  | .whole n => some (.finite n)
  | .real x => Double.quantity? x

def rounded? : Number → Option Quantity
  | .whole n => some (.bounded (Double.nearest n))
  | .real x => Double.quantity? x

def SameQuantity (m n : Number) : Prop := ∃ q, m.quantity? = some q ∧ n.quantity? = some q

def SameRounded (m n : Number) : Prop := ∃ q, m.rounded? = some q ∧ n.rounded? = some q

def SameKind : Number → Number → Prop
  | .whole _, .whole _ => True
  | .real _, .real _ => True
  | _, _ => False

variable {m n : Number}

theorem quantity?_toReal (n : Number) : Double.quantity? n.toReal = n.rounded? := by
  cases n with
  | whole i => exact Double.quantity?_ofInt i
  | real x => rfl

theorem toReal_beq_iff : (m.toReal == n.toReal) = true ↔ m.SameRounded n := by
  rw [Double.beq_iff, quantity?_toReal, quantity?_toReal, SameRounded]

/-- What is the same number is the same double: a whole number that is a double is not rounded. -/
theorem SameQuantity.rounded (h : m.SameQuantity n) : m.SameRounded n := by
  obtain ⟨q, hm, hn⟩ := h
  cases m with
  | whole i =>
    cases n with
    | whole j =>
      have hij : i = j := by simpa [quantity?] using hm.trans hn.symm
      exact ⟨_, rfl, by rw [hij]; rfl⟩
    | real y =>
      have hy : Double.quantity? y = some (.finite i) := hn.trans hm.symm
      exact ⟨.finite i, congrArg some (Double.bounded_nearest hy), hy⟩
  | real x =>
    cases n with
    | whole j =>
      have hx : Double.quantity? x = some (.finite j) := hm.trans hn.symm
      exact ⟨.finite j, hx, congrArg some (Double.bounded_nearest hx)⟩
    | real y => exact ⟨q, hm, hn⟩

theorem same_iff : m.same n = true ↔ m.SameQuantity n ∧ m.SameKind n := by
  cases m with
  | whole i =>
    cases n with
    | whole j => simpa [same, SameQuantity, SameKind, quantity?] using eq_comm
    | real y => simp [same, SameKind]
  | real x =>
    cases n with
    | whole j => simp [same, SameKind]
    | real y => simp [same, SameQuantity, SameKind, quantity?, Double.beq_iff]

theorem SameQuantity.symm (h : m.SameQuantity n) : n.SameQuantity m := by
  obtain ⟨q, hm, hn⟩ := h
  exact ⟨q, hn, hm⟩

theorem SameRounded.symm (h : m.SameRounded n) : n.SameRounded m := by
  obtain ⟨q, hm, hn⟩ := h
  exact ⟨q, hn, hm⟩

theorem SameKind.symm (h : m.SameKind n) : n.SameKind m := by
  cases m <;> cases n <;> exact h

section Exact

variable {i : ℤ}

theorem rounded?_whole (h : i.natAbs < 2 ^ 53) : (whole i).rounded? = some (.finite i) := by
  have hnearest : Double.nearest i = i := by
    rw [Double.nearest, Double.rounded_of_lt h, Int.sign_mul_natAbs]
  have hbound : |(i : ℚ)| < 2 ^ 1024 := by
    rw [← Int.cast_abs, ← Int.natCast_natAbs]
    calc ((i.natAbs : ℤ) : ℚ) < 2 ^ 53 := by exact_mod_cast h
      _ ≤ 2 ^ 1024 := by gcongr <;> norm_num
  rw [rounded?, hnearest, Quantity.bounded, if_pos hbound]

theorem sameQuantity_toReal (h : i.natAbs < 2 ^ 53) :
    (whole i).SameQuantity (.real (whole i).toReal) :=
  ⟨.finite i, rfl, (quantity?_toReal (whole i)).trans (rounded?_whole h)⟩

end Exact

end Number

namespace Value

variable {R : Number → Number → Prop}

mutual

/-- One structure, with related numbers in it. -/
def Matches (R : Number → Number → Prop) : Value → Value → Prop
  | .null, .null => True
  | .bool a, .bool b => a = b
  | .number m, .number n => R m n
  | .text s, .text t => s = t
  | .list a, .list b => MatchesItems R a b
  | .object a, .object b => MatchesFields R a b
  | _, _ => False

def MatchesItems (R : Number → Number → Prop) : List Value → List Value → Prop
  | [], [] => True
  | v :: a, w :: b => v.Matches R w ∧ MatchesItems R a b
  | _, _ => False

def MatchesFields (R : Number → Number → Prop) :
    List (String × Value) → List (String × Value) → Prop
  | [], [] => True
  | (k, v) :: a, (l, w) :: b => k = l ∧ v.Matches R w ∧ MatchesFields R a b
  | _, _ => False

end

section Symmetric

theorem matchesItems_symm {a b : List Value} (h : MatchesItems R a b)
    (hitems : ∀ v ∈ a, ∀ w, v.Matches R w → w.Matches R v) : MatchesItems R b a := by
  induction a generalizing b with
  | nil =>
    cases b with
    | nil => trivial
    | cons w b => exact h.elim
  | cons v a ih =>
    cases b with
    | nil => exact h.elim
    | cons w b =>
      obtain ⟨hv, hrest⟩ := h
      exact ⟨hitems v List.mem_cons_self w hv,
        ih hrest fun u hu => hitems u (List.mem_cons_of_mem v hu)⟩

theorem matchesFields_symm {a b : List (String × Value)} (h : MatchesFields R a b)
    (hfields : ∀ e ∈ a, ∀ w, e.2.Matches R w → w.Matches R e.2) : MatchesFields R b a := by
  induction a generalizing b with
  | nil =>
    cases b with
    | nil => trivial
    | cons f b => exact h.elim
  | cons e a ih =>
    obtain ⟨k, v⟩ := e
    cases b with
    | nil => exact h.elim
    | cons f b =>
      obtain ⟨l, w⟩ := f
      obtain ⟨hkey, hv, hrest⟩ := h
      exact ⟨hkey.symm, hfields (k, v) List.mem_cons_self w hv,
        ih hrest fun e he => hfields e (List.mem_cons_of_mem _ he)⟩

theorem Matches.symm {a b : Value} (h : a.Matches R b) (hR : ∀ m n, R m n → R n m) :
    b.Matches R a := by
  induction a using Value.induct generalizing b with
  | null =>
    cases b with
    | null => trivial
    | _ => exact h.elim
  | bool x =>
    cases b with
    | bool y => exact Eq.symm h
    | _ => exact h.elim
  | number m =>
    cases b with
    | number n => exact hR m n h
    | _ => exact h.elim
  | text s =>
    cases b with
    | text t => exact Eq.symm h
    | _ => exact h.elim
  | list items ih =>
    cases b with
    | list others => exact matchesItems_symm h fun v hv w hw => ih v hv hw
    | _ => exact h.elim
  | object fields ih =>
    cases b with
    | object others => exact matchesFields_symm h fun e he w hw => ih e he hw
    | _ => exact h.elim

end Symmetric

theorem sameItems_iff {a : List Value}
    (h : ∀ v ∈ a, ∀ w, v.same w = true ↔ v.Matches Number.SameQuantity w ∧
      v.Matches Number.SameKind w) (b : List Value) :
    sameItems a b = true ↔
      MatchesItems Number.SameQuantity a b ∧ MatchesItems Number.SameKind a b := by
  induction a generalizing b with
  | nil => cases b <;> simp [sameItems, MatchesItems]
  | cons v a ih =>
    cases b with
    | nil => simp [sameItems, MatchesItems]
    | cons w b =>
      rw [sameItems, Bool.and_eq_true, h v List.mem_cons_self,
        ih (fun u hu => h u (List.mem_cons_of_mem v hu)), MatchesItems, MatchesItems]
      exact and_and_and_comm

theorem sameFields_iff {a : List (String × Value)}
    (h : ∀ e ∈ a, ∀ w, e.2.same w = true ↔ e.2.Matches Number.SameQuantity w ∧
      e.2.Matches Number.SameKind w) (b : List (String × Value)) :
    sameFields a b = true ↔
      MatchesFields Number.SameQuantity a b ∧ MatchesFields Number.SameKind a b := by
  induction a generalizing b with
  | nil => cases b <;> simp [sameFields, MatchesFields]
  | cons e a ih =>
    obtain ⟨k, v⟩ := e
    cases b with
    | nil => simp [sameFields, MatchesFields]
    | cons f b =>
      obtain ⟨l, w⟩ := f
      have hv := h (k, v) List.mem_cons_self w
      have hrest := ih (fun e he => h e (List.mem_cons_of_mem _ he)) b
      simp only [sameFields, MatchesFields, Bool.and_eq_true, beq_iff_eq, hv, hrest]
      tauto

/-- Both are one structure with the same numbers in it. -/
def Alike : Value → Value → Prop := Matches Number.SameQuantity

theorem same_iff (a b : Value) :
    a.same b = true ↔ a.Alike b ∧ a.Matches Number.SameKind b := by
  unfold Alike
  induction a using Value.induct generalizing b with
  | null => cases b <;> simp [same, Matches]
  | bool x => cases b <;> simp [same, Matches]
  | number m =>
    cases b with
    | number n => exact Number.same_iff
    | _ => simp [same, Matches]
  | text s => cases b <;> simp [same, Matches]
  | list items ih =>
    cases b with
    | list others => exact sameItems_iff ih others
    | _ => simp [same, Matches]
  | object fields ih =>
    cases b with
    | object others => exact sameFields_iff ih others
    | _ => simp [same, Matches]

/-- Two numbers are rounded; anything else is compared as it is written. -/
def Equated : Value → Value → Prop
  | .number m, .number n => m.SameRounded n
  | a, b => a.Alike b ∧ a.Matches Number.SameKind b

/-- Different numbers that round to one double, or what is alike with a whole number inside in the
place of a double. -/
def Misjudged : Value → Value → Prop
  | .number m, .number n => m.SameRounded n ∧ ¬ m.SameQuantity n
  | a, b => a.Alike b ∧ ¬ a.Matches Number.SameKind b

theorem equalTo_iff {a b : Value} : a.equalTo b = true ↔ a.Equated b := by
  cases a with
  | number m =>
    cases b with
    | number n => exact Number.toReal_beq_iff
    | _ => exact same_iff _ _
  | _ => exact same_iff _ _

theorem Equated.symm {a b : Value} (h : a.Equated b) : b.Equated a := by
  have hmatches : a.Alike b ∧ a.Matches Number.SameKind b →
      b.Alike a ∧ b.Matches Number.SameKind a := fun ⟨halike, hkind⟩ =>
    ⟨halike.symm fun _ _ => Number.SameQuantity.symm, hkind.symm fun _ _ => Number.SameKind.symm⟩
  cases a with
  | number m =>
    cases b with
    | number n => exact Number.SameRounded.symm h
    | _ => exact hmatches h
  | _ => cases b <;> exact hmatches h

theorem equalTo_comm (a b : Value) : a.equalTo b = b.equalTo a := by
  rw [Bool.eq_iff_iff, equalTo_iff, equalTo_iff]
  exact ⟨Equated.symm, Equated.symm⟩

theorem null_equated_iff {b : Value} : Value.null.Equated b ↔ b = .null := by
  cases b <;> simp [Equated, Alike, Matches]

example : (Value.whole (2 ^ 53 + 1)).equalTo (.whole (2 ^ 53)) = true := by decide

theorem equated_iff_alike {a b : Value} : (a.Equated b ↔ a.Alike b) ↔ ¬ a.Misjudged b := by
  cases a with
  | number m =>
    cases b with
    | number n =>
      have hrounded : m.SameQuantity n → m.SameRounded n := Number.SameQuantity.rounded
      change (m.SameRounded n ↔ m.SameQuantity n) ↔ ¬ (m.SameRounded n ∧ ¬ m.SameQuantity n)
      tauto
    | _ => simp [Equated, Misjudged]
  | _ => simp [Equated, Misjudged]

end Value

end PageConfig
