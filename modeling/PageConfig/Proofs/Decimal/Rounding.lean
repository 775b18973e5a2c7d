import PageConfig.Proofs.Decimal.Double

/-!
# Whole numbers as doubles

A whole number becomes the double nearest to it: of its binary digits the first 53 are kept
and the rest is rounded, a half to the even neighbour. Up to 53 digits nothing is lost.
-/

set_option autoImplicit false

namespace PageConfig.Double

open Float.Model Float.Model.UnpackedFloat

/-- The quotient by `2 ^ k`, rounded to the nearest whole number, a half to the even one. -/
def quotient (n k : ℕ) : ℕ :=
  if 2 * (n % 2 ^ k) < 2 ^ k then n / 2 ^ k
  else if 2 * (n % 2 ^ k) = 2 ^ k then n / 2 ^ k + n / 2 ^ k % 2
  else n / 2 ^ k + 1

def excess (n : ℕ) : ℕ := n.log2 - 52

/-- The nearest number with 53 binary digits and zeros after them. -/
def rounded (n : ℕ) : ℕ := quotient n (excess n) * 2 ^ excess n

section Quotient

theorem mod_pow_succ (n k : ℕ) : n % 2 ^ (k + 1) = 2 ^ k * (n / 2 ^ k % 2) + n % 2 ^ k := by
  rw [pow_succ, Nat.mod_mul]
  omega

@[simp] theorem quotient_zero (n : ℕ) : quotient n 0 = n := by
  simp [quotient, Nat.mod_one]

theorem quotient_mul_pow (n k j : ℕ) : quotient (n * 2 ^ j) (k + j) = quotient n k := by
  have hpos : 0 < 2 ^ j := Nat.two_pow_pos j
  have hmod : n * 2 ^ j % 2 ^ (k + j) = n % 2 ^ k * 2 ^ j := by
    rw [pow_add, Nat.mul_mod_mul_right]
  have hdiv : n * 2 ^ j / 2 ^ (k + j) = n / 2 ^ k := by
    rw [pow_add, Nat.mul_div_mul_right _ _ hpos]
  have hlt : 2 * (n % 2 ^ k * 2 ^ j) < 2 ^ k * 2 ^ j ↔ 2 * (n % 2 ^ k) < 2 ^ k := by
    rw [← mul_assoc, Nat.mul_lt_mul_right hpos]
  have heq : 2 * (n % 2 ^ k * 2 ^ j) = 2 ^ k * 2 ^ j ↔ 2 * (n % 2 ^ k) = 2 ^ k := by
    rw [← mul_assoc, Nat.mul_left_inj hpos.ne']
  unfold quotient
  rw [hmod, hdiv, pow_add]
  simp only [hlt, heq]

theorem quotient_bounds {n : ℕ} (hn : 2 ^ 52 ≤ n) :
    2 ^ 52 ≤ quotient n (excess n) ∧ quotient n (excess n) ≤ 2 ^ 53 := by
  have hne : n ≠ 0 := by omega
  have hlog : n.log2 = 52 + excess n := by
    have := (Nat.le_log2 hne).2 hn
    rw [excess]
    omega
  have hlow : 2 ^ 52 ≤ n / 2 ^ excess n := by
    rw [Nat.le_div_iff_mul_le (Nat.two_pow_pos _), ← pow_add, ← hlog]
    exact Nat.log2_self_le hne
  have hhigh : n / 2 ^ excess n < 2 ^ 53 := by
    rw [Nat.div_lt_iff_lt_mul (Nat.two_pow_pos _), ← pow_add]
    have := Nat.lt_log2_self (n := n)
    rwa [hlog, show 52 + excess n + 1 = 53 + excess n by omega] at this
  unfold quotient
  split_ifs <;> omega

end Quotient

section Shift

/-- What is kept of a number that is shifted: whether the part that is gone is a half or more,
and whether it is anything but nothing or a half. -/
structure Keeps (em : ExtendedMantissa) (n k : ℕ) : Prop where
  mantissa : em.mantissa = n / 2 ^ k
  roundBit : em.roundBit = decide (2 ^ k ≤ 2 * (n % 2 ^ k))
  stickyBit : em.stickyBit = decide (2 * (n % 2 ^ k) ≠ 0 ∧ 2 * (n % 2 ^ k) ≠ 2 ^ k)

theorem Keeps.shiftRightOne {em : ExtendedMantissa} {n k : ℕ} (h : Keeps em n k) :
    Keeps em.shiftRightOne n (k + 1) := by
  have hlt : n % 2 ^ k < 2 ^ k := Nat.mod_lt _ (Nat.two_pow_pos k)
  have hbit := Nat.mod_two_eq_zero_or_one (n / 2 ^ k)
  constructor
  · change em.mantissa / 2 = n / 2 ^ (k + 1)
    rw [h.mantissa, Nat.div_div_eq_div_mul, ← pow_succ]
  · change (em.mantissa % 2 != 0) = _
    rw [h.mantissa, mod_pow_succ, pow_succ', Bool.eq_iff_iff, bne_iff_ne, decide_eq_true_iff]
    rcases hbit with hbit | hbit <;> rw [hbit] <;> omega
  · change (em.roundBit || em.stickyBit) = _
    rw [h.roundBit, h.stickyBit, mod_pow_succ, pow_succ', Bool.eq_iff_iff, Bool.or_eq_true]
    simp only [decide_eq_true_eq]
    rcases hbit with hbit | hbit <;> rw [hbit] <;> omega

theorem keeps_shiftRight (n k : ℕ) :
    Keeps (ExtendedMantissa.ofMantissaAndAccuracy n .exact >>> k) n k := by
  change Keeps (k.repeat ExtendedMantissa.shiftRightOne _) n k
  induction k with
  | zero => constructor <;> simp [Nat.repeat, ExtendedMantissa.ofMantissaAndAccuracy, Nat.mod_one]
  | succ k ih => exact ih.shiftRightOne

theorem Keeps.roundedMantissa {em : ExtendedMantissa} {n k : ℕ} (h : Keeps em n k) :
    em.roundedMantissa = quotient n k := by
  obtain ⟨m, r, s⟩ := em
  obtain ⟨rfl, hr, hs⟩ := h
  unfold quotient
  rcases lt_trichotomy (2 * (n % 2 ^ k)) (2 ^ k) with hlt | heq | hgt
  · have hround : r = false := hr.trans (decide_eq_false hlt.not_ge)
    rw [if_pos hlt, hround]
    cases s <;> rfl
  · have hround : r = true := hr.trans (decide_eq_true heq.ge)
    have hsticky : s = false := hs.trans (decide_eq_false fun h => h.2 heq)
    rw [if_neg heq.not_lt, if_pos heq, hround, hsticky]
    rfl
  · have hround : r = true := hr.trans (decide_eq_true hgt.le)
    have hsticky : s = true := hs.trans (decide_eq_true ⟨by omega, hgt.ne'⟩)
    rw [if_neg hgt.not_gt, if_neg hgt.ne', hround, hsticky]
    rfl

theorem roundedMantissa_shiftRight (n k : ℕ) :
    (ExtendedMantissa.ofMantissaAndAccuracy n .exact >>> k).roundedMantissa = quotient n k :=
  (keeps_shiftRight n k).roundedMantissa

theorem shiftToTargetExponent_eq {m : ℕ} {e : ℤ} (hm : 2 ^ 52 ≤ m) (he : -1074 ≤ e + excess m) :
    shiftToTargetExponent Format.binary64 m e .exact =
      (ExtendedMantissa.ofMantissaAndAccuracy m .exact >>> excess m, e + excess m) := by
  have hlog : 52 ≤ m.log2 := (Nat.le_log2 (by omega)).2 hm
  have htarget : Format.binary64.targetExponent (totalExponent m e) = e + excess m := by
    change max ((m.log2 : ℤ) + 1 + e - (53 : ℕ)) (-1074) = e + excess m
    unfold excess at *
    omega
  have hshift : (e + excess m - e).toNat = excess m := by omega
  rw [shiftToTargetExponent, htarget, shiftToExponent, hshift]

end Shift

theorem log2_mul_pow {n : ℕ} (hn : n ≠ 0) (k : ℕ) : (n * 2 ^ k).log2 = n.log2 + k := by
  induction k with
  | zero => simp
  | succ k ih =>
    have hne : n * 2 ^ k ≠ 0 := Nat.mul_ne_zero hn (Nat.two_pow_pos k).ne'
    rw [pow_succ', Nat.mul_left_comm, Nat.log2_two_mul hne, ih, Nat.add_assoc]

theorem excess_of_lt {m : ℕ} (h : m < 2 ^ 53) : excess m = 0 := by
  rcases Nat.eq_zero_or_pos m with rfl | hm
  · rfl
  · have := (Nat.log2_lt hm.ne').2 h
    rw [excess]
    omega

theorem excess_of_bounds {r : ℕ} (hlow : 2 ^ 52 ≤ r) (hhigh : r ≤ 2 ^ 53) :
    2 ^ 52 ≤ r / 2 ^ excess r ∧ r / 2 ^ excess r < 2 ^ 53 ∧
      r / 2 ^ excess r * 2 ^ excess r = r := by
  rcases hhigh.lt_or_eq with hlt | rfl
  · rw [excess_of_lt hlt, pow_zero, Nat.div_one, Nat.mul_one]
    exact ⟨hlow, hlt, rfl⟩
  · rw [excess, Nat.log2_two_pow]
    exact ⟨le_rfl, by norm_num, rfl⟩

theorem roundWithAccuracy_eq (s : Sign) {m : ℕ} {e : ℤ} (hm : 2 ^ 52 ≤ m)
    (he : -1074 ≤ e + excess m) : ∃ (d : ℕ) (f : ℤ) (hd : 0 < d),
      roundWithAccuracy Format.binary64 s m e .exact = .finite s d f hd ∧ Digits d f ∧
        (d : ℚ) * 2 ^ f = quotient m (excess m) * 2 ^ (e + excess m) := by
  obtain ⟨hlow, hhigh⟩ := quotient_bounds hm
  have hfirst := shiftToTargetExponent_eq hm he
  have hround := roundedMantissa_shiftRight m (excess m)
  generalize quotient m (excess m) = r at *
  have hsecond := shiftToTargetExponent_eq (e := e + excess m) hlow (by omega)
  have hmantissa := (keeps_shiftRight r (excess r)).mantissa
  obtain ⟨hfull, hlt, hvalue⟩ := excess_of_bounds hlow hhigh
  have hpos : 0 < r / 2 ^ excess r := by omega
  refine ⟨r / 2 ^ excess r, e + excess m + excess r, hpos, ?_, ⟨hlt, by omega, .inl hfull⟩, ?_⟩
  · unfold roundWithAccuracy
    rw [hfirst]
    dsimp only
    rw [hround, hsecond]
    dsimp only
    rw [hmantissa, dif_neg hpos.ne']
  · rw [zpow_add₀ two_ne_zero (e + excess m), zpow_natCast, mul_comm ((2 : ℚ) ^ (e + excess m)),
      ← mul_assoc]
    congr 1
    exact_mod_cast hvalue

theorem quantity_round {m : ℕ} {e : ℤ} (hm : 2 ^ 52 ≤ m) (he : -1074 ≤ e + excess m) :
    unpackedQuantity? (Float.Model.pack
        (roundWithAccuracy Format.binary64 .positive m e .exact)).unpack =
      some (.bounded (quotient m (excess m) * 2 ^ (e + excess m))) := by
  obtain ⟨d, f, hd, hround, hdigits, hvalue⟩ := roundWithAccuracy_eq .positive hm he
  rw [hround, quantity_pack hd hdigits, ← hvalue]
  rfl

section Small

variable {n : ℕ}

theorem ofNat_of_lt (hlt : n < 2 ^ 53) :
    Float.ofNat n = n.toUInt64.toFloat * Float.ofBits 0x3ff0000000000000 := by
  have hfast : n < 2 ^ 53 ∧ 0 ≤ 22 := ⟨hlt, by decide⟩
  change Float.ofScientific n false 0 = _
  unfold Float.ofScientific
  rw [dif_pos hfast]
  rfl

variable (hn : 0 < n) (hlt : n < 2 ^ 53)

include hn

theorem ofNat_eq_round {k : ℕ} (hk : n.log2 + k = 52) :
    UnpackedFloat.ofNat Format.binary64 n =
      roundWithAccuracy Format.binary64 .positive (n * 2 ^ k) (-k) .exact := by
  have htarget : Format.binary64.targetExponent (totalExponent n 0) = -k := by
    change max ((n.log2 : ℤ) + 1 + 0 - (53 : ℕ)) (-1074) = -k
    omega
  have hshift : decreaseExponent n 0 (-k) = (n * 2 ^ k, (-k : ℤ)) := by
    simp [decreaseExponent, Nat.shiftLeft_eq]
  have hpos : compare (n : ℤ) 0 = .gt := Int.compare_eq_gt.2 (by omega)
  rw [UnpackedFloat.ofNat, UnpackedFloat.ofInt, UnpackedFloat.normalize, hpos]
  dsimp only
  rw [Int.toNat_natCast, UnpackedFloat.round, htarget, hshift]

theorem digits_shifted {k : ℕ} (hk : n.log2 + k = 52) :
    2 ^ 52 ≤ n * 2 ^ k ∧ n * 2 ^ k < 2 ^ 53 := by
  constructor
  · rw [← hk, pow_add]
    exact Nat.mul_le_mul_right _ (Nat.log2_self_le hn.ne')
  · have := Nat.mul_lt_mul_of_pos_right (Nat.lt_log2_self (n := n)) (Nat.two_pow_pos k)
    rwa [← pow_add, show n.log2 + 1 + k = 53 by omega] at this

include hlt

theorem unpack_ofNat : ∃ (d : ℕ) (f : ℤ) (hd : 0 < d),
    (Float.Model.ofNat n).unpack = .finite .positive d f hd ∧
      2 ^ 52 ≤ d ∧ d < 2 ^ 53 ∧ -52 ≤ f ∧ (d : ℚ) * 2 ^ f = n := by
  have hlog : n.log2 ≤ 52 := Nat.le_of_lt_succ ((Nat.log2_lt hn.ne').2 hlt)
  obtain ⟨k, hk⟩ := Nat.exists_eq_add_of_le hlog
  obtain ⟨hlow, hhigh⟩ := digits_shifted hn hk.symm
  have hvalue : ((n * 2 ^ k : ℕ) : ℚ) * 2 ^ (-k : ℤ) = n := by
    rw [zpow_neg, zpow_natCast]
    push_cast
    exact mul_inv_cancel_right₀ (by positivity) _
  have hdigits : Digits (n * 2 ^ k) (-k) := ⟨hhigh, by omega, .inl hlow⟩
  obtain ⟨d, f, hd, hround, hd', heq⟩ :=
    roundWithAccuracy_eq .positive (e := -k) hlow (by omega)
  rw [excess_of_lt hhigh, quotient_zero, Nat.cast_zero, add_zero] at heq
  obtain ⟨rfl, rfl⟩ := hd'.unique hdigits heq
  refine ⟨_, _, hd, ?_, hlow, hhigh, by omega, hvalue⟩
  rw [Float.Model.ofNat, ofNat_eq_round hn hk.symm, hround]
  exact unpack_pack hd hdigits (by omega)

theorem quantity?_ofNat_of_lt : quantity? (Float.ofNat n) = some (.bounded n) := by
  have hword : Float.Model.ofUInt64 n.toUInt64 = Float.Model.ofNat n := by
    have htoNat : n.toUInt64.toNat = n := by
      change n % 2 ^ 64 = n
      omega
    rw [Float.Model.ofUInt64, UnpackedFloat.ofUInt64, htoNat, Float.Model.ofNat]
  have hone : (Float.ofBits 0x3ff0000000000000).toModel.unpack =
      .finite .positive (2 ^ 52) (-52) (Nat.two_pow_pos 52) := rfl
  obtain ⟨d, f, hd, hunpack, hlow, hhigh, hf, hvalue⟩ := unpack_ofNat hn hlt
  have hexcess : excess (d * 2 ^ 52) = 52 := by
    rw [excess, log2_mul_pow hd.ne', (Nat.log2_eq_iff hd.ne').2 ⟨hlow, hhigh⟩]
  have hround := quantity_round (m := d * 2 ^ 52) (e := f + -52) (by omega) (by omega)
  have hkept : quotient (d * 2 ^ 52) 52 = d := (quotient_mul_pow d 0 52).trans (quotient_zero d)
  have hexponent : f + -52 + (52 : ℕ) = f := by omega
  rw [hexcess, hkept, hexponent, hvalue] at hround
  rw [ofNat_of_lt hlt]
  change unpackedQuantity? (Float.Model.pack (UnpackedFloat.mul _
    (Float.Model.ofUInt64 n.toUInt64).unpack (Float.ofBits _).toModel.unpack)).unpack = _
  rw [hword, hunpack, hone]
  exact hround

end Small

theorem ofScientific_eq_round {n : ℕ} (hn : n ≠ 0) :
    UnpackedFloat.ofScientific Format.binary64 n 0 =
      roundWithAccuracy Format.binary64 .positive (n * 2 ^ 53) (-53) .exact := by
  have hlow : ¬ (0 : ℤ) < -((2 ^ 11 : ℤ) + n.log2) := by omega
  have hproduct : n <<< 53 * 10 ^ (0 : ℤ).toNat = n * 2 ^ 53 := by
    rw [Nat.shiftLeft_eq, Int.toNat_zero, pow_zero, Nat.mul_one]
  unfold UnpackedFloat.ofScientific
  rw [dif_neg hn, if_neg (by decide), if_neg hlow, if_pos le_rfl]
  change roundWithAccuracy Format.binary64 .positive (n <<< 53 * 10 ^ (0 : ℤ).toNat) (-53 + 0)
    .exact = _
  rw [hproduct, add_zero]

theorem quantity?_ofNat_of_le {n : ℕ} (hn : 2 ^ 53 ≤ n) :
    quantity? (Float.ofNat n) = some (.bounded (rounded n)) := by
  have hslow : ¬ (n < 2 ^ 53 ∧ 0 ≤ 22) := fun h => by omega
  have hmodel : Float.ofNat n = ⟨Float.Model.ofScientific n 0⟩ := by
    change Float.ofScientific n false 0 = _
    unfold Float.ofScientific
    rw [dif_neg hslow]
    rfl
  have hlog : 53 ≤ n.log2 := (Nat.le_log2 (by omega)).2 hn
  have hexcess : excess (n * 2 ^ 53) = excess n + 53 := by
    rw [excess, excess, log2_mul_pow (by omega)]
    omega
  have hround := quantity_round (m := n * 2 ^ 53) (e := -53) (by omega) (by omega)
  have hexponent : (-53 + (excess n + 53 : ℕ) : ℤ) = (excess n : ℕ) := by omega
  have hvalue : (quotient n (excess n) : ℚ) * 2 ^ excess n = rounded n := by
    rw [rounded]
    push_cast
    rfl
  rw [hexcess, quotient_mul_pow, hexponent, zpow_natCast, hvalue] at hround
  rw [hmodel, ← hround, ← ofScientific_eq_round (by omega)]
  rfl

theorem quantity?_ofNat (n : ℕ) : quantity? (Float.ofNat n) = some (.bounded (rounded n)) := by
  rcases Nat.lt_or_ge n (2 ^ 53) with hlt | hge
  · rcases Nat.eq_zero_or_pos n with rfl | hn
    · have hzero : Quantity.bounded (rounded 0 : ℕ) = .finite 0 := by
        rw [Quantity.bounded, rounded, excess_of_lt hlt, quotient_zero]
        simp
      rw [hzero]
      rfl
    · rw [quantity?_ofNat_of_lt hn hlt, rounded, excess_of_lt hlt, quotient_zero, pow_zero,
        Nat.mul_one]
  · exact quantity?_ofNat_of_le hge

def nearest (i : ℤ) : ℤ := i.sign * rounded i.natAbs

theorem quantity?_ofInt (i : ℤ) : quantity? (Float.ofInt i) = some (.bounded (nearest i)) := by
  cases i with
  | ofNat n =>
    have hnearest : nearest n = rounded n := by
      rcases Nat.eq_zero_or_pos n with rfl | hn
      · rfl
      · rw [nearest, Int.sign_natCast_of_ne_zero hn.ne', one_mul, Int.natAbs_natCast]
    change quantity? (Float.ofNat n) = some (.bounded (nearest n))
    rw [quantity?_ofNat, hnearest, Int.cast_natCast]
  | negSucc n =>
    have hnearest : nearest (Int.negSucc n) = -rounded (n + 1) := by
      rw [nearest, Int.sign_negSucc, Int.natAbs_negSucc, neg_one_mul]
    change quantity? (-Float.ofNat (n + 1)) = _
    rw [quantity?_neg, quantity?_ofNat, Option.map_some, Quantity.neg_bounded, hnearest,
      Int.cast_neg, Int.cast_natCast]

section Exact

theorem rounded_of_lt {n : ℕ} (h : n < 2 ^ 53) : rounded n = n := by
  rw [rounded, excess_of_lt h, quotient_zero, pow_zero, Nat.mul_one]

theorem rounded_mul_pow {m : ℕ} (hm : m < 2 ^ 53) (k : ℕ) : rounded (m * 2 ^ k) = m * 2 ^ k := by
  rcases Nat.eq_zero_or_pos m with rfl | hpos
  · rw [Nat.zero_mul]
    rfl
  have hexcess : excess (m * 2 ^ k) ≤ k := by
    have := (Nat.log2_lt hpos.ne').2 hm
    rw [excess, log2_mul_pow hpos.ne']
    omega
  generalize hx : excess (m * 2 ^ k) = x at hexcess
  obtain ⟨j, rfl⟩ := Nat.exists_eq_add_of_le' hexcess
  have hkept := quotient_mul_pow (m * 2 ^ j) 0 x
  rw [Nat.zero_add, quotient_zero, mul_assoc, ← pow_add] at hkept
  rw [rounded, hx, hkept, mul_assoc, ← pow_add]

theorem rounded_of_digits {n m : ℕ} {e : ℤ} (hm : m < 2 ^ 53) (h : (n : ℚ) = m * 2 ^ e) :
    rounded n = n := by
  obtain ⟨k, rfl | rfl⟩ := e.eq_nat_or_neg
  · rw [zpow_natCast] at h
    have hn : n = m * 2 ^ k := by exact_mod_cast h
    rw [hn, rounded_mul_pow hm]
  · have hn : n * 2 ^ k = m := by
      rw [zpow_neg, zpow_natCast, eq_mul_inv_iff_mul_eq₀ (by positivity)] at h
      exact_mod_cast h
    exact rounded_of_lt (lt_of_le_of_lt (Nat.le_mul_of_pos_right n (Nat.two_pow_pos k)) (hn ▸ hm))

theorem bounded_nearest {x : Float} {i : ℤ} (h : quantity? x = some (.finite i)) :
    Quantity.bounded (nearest i) = .finite i := by
  suffices hexact : rounded i.natAbs = i.natAbs ∧ |(i : ℚ)| < 2 ^ 1024 by
    rw [nearest, hexact.1, Int.sign_mul_natAbs, Quantity.bounded, if_pos hexact.2]
  have hcanonical := canonical_unpack x.toModel
  unfold quantity? at h
  cases hx : x.toModel.unpack with
  | notANumber =>
    rw [hx] at h
    cases h
  | infinity s =>
    rw [hx] at h
    cases h
  | zero s =>
    rw [hx] at h
    have hzero : (0 : ℚ) = i := Quantity.finite.inj (Option.some.inj h)
    obtain rfl : i = 0 := by exact_mod_cast hzero.symm
    simp [rounded_of_lt]
  | finite s m e hm =>
    rw [hx] at h hcanonical
    have hvalue : (s.apply m : ℚ) * 2 ^ e = i := Quantity.finite.inj (Option.some.inj h)
    have habs : |(i : ℚ)| = m * 2 ^ e := by rw [← hvalue, abs_apply]
    have hnat : (i.natAbs : ℚ) = m * 2 ^ e := by rw [← habs, Nat.cast_natAbs, Int.cast_abs]
    exact ⟨rounded_of_digits hcanonical.1.lt hnat, habs ▸ hcanonical.1.lt_of_le hcanonical.2⟩

end Exact

end PageConfig.Double
