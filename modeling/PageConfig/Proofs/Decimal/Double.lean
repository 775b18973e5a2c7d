import Mathlib.Algebra.Order.Field.Rat
import Mathlib.Algebra.Order.Field.Power
import Mathlib.Tactic.Linarith
import Mathlib.Tactic.WLOG

/-!
# What doubles stand for

A double is kept as a sign, 53 binary digits and an exponent. What it stands for determines
these, so that two doubles are equal just when they stand for the same number.
-/

set_option autoImplicit false

namespace PageConfig

open Float.Model Float.Model.UnpackedFloat

inductive Quantity where
  | finite (q : ℚ)
  | infinite (negative : Bool)
  deriving DecidableEq

namespace Quantity

def neg : Quantity → Quantity
  | finite q => finite (-q)
  | infinite negative => infinite !negative

def bounded (q : ℚ) : Quantity :=
  if |q| < 2 ^ 1024 then finite q else infinite (q < 0)

theorem neg_bounded (q : ℚ) : (bounded q).neg = bounded (-q) := by
  unfold bounded
  rw [abs_neg]
  split_ifs with h
  · rfl
  · have hne : q ≠ 0 := by
      rintro rfl
      simp at h
    rcases hne.lt_or_gt with hlt | hgt
    · simp [neg, hlt, hlt.le]
    · simp [neg, hgt, hgt.le]

end Quantity

namespace Double

def isNegative : Sign → Bool
  | .negative => true
  | .positive => false

def unpackedQuantity? : UnpackedFloat → Option Quantity
  | .notANumber => none
  | .infinity s => some (.infinite (isNegative s))
  | .zero _ => some (.finite 0)
  | .finite s m e _ => some (.finite (s.apply m * 2 ^ e))

def quantity? (x : Float) : Option Quantity := unpackedQuantity? x.toModel.unpack

section Digits

structure Digits (m : ℕ) (e : ℤ) : Prop where
  lt : m < 2 ^ 53
  low : -1074 ≤ e
  full : 2 ^ 52 ≤ m ∨ e = -1074

theorem Digits.unique {m m' : ℕ} {e e' : ℤ} (h : Digits m e) (h' : Digits m' e')
    (heq : (m : ℚ) * 2 ^ e = m' * 2 ^ e') : m = m' ∧ e = e' := by
  wlog hle : e ≤ e' generalizing m m' e e'
  · obtain ⟨hm, he⟩ := this h' h heq.symm (by omega)
    exact ⟨hm.symm, he.symm⟩
  obtain ⟨k, rfl⟩ := Int.le.dest hle
  have hscaled : m = m' * 2 ^ k := by
    have htwo : (2 : ℚ) ^ e ≠ 0 := by positivity
    rw [zpow_add₀ two_ne_zero, zpow_natCast] at heq
    have hcast : (m : ℚ) = m' * 2 ^ k := mul_right_cancel₀ htwo (by linarith)
    exact_mod_cast hcast
  cases k with
  | zero => exact ⟨by simpa using hscaled, by simp⟩
  | succ k =>
    -- with a larger exponent the other digits are full, and doubled they are too many
    have hfull : 2 ^ 52 ≤ m' := h'.full.resolve_right fun hmin => by
      have := h.low
      omega
    have hdouble : m' * 2 ≤ m := by
      rw [hscaled, pow_succ']
      exact Nat.mul_le_mul_left m' (Nat.le_mul_of_pos_right 2 (Nat.two_pow_pos k))
    have := h.lt
    omega

theorem Digits.lt_of_le {m : ℕ} {e : ℤ} (h : Digits m e) (he : e ≤ 971) :
    (m : ℚ) * 2 ^ e < 2 ^ 1024 := by
  have hlt : (m : ℚ) < 2 ^ 53 := by exact_mod_cast h.lt
  calc (m : ℚ) * 2 ^ e < 2 ^ 53 * 2 ^ e := by gcongr
    _ ≤ 2 ^ 53 * 2 ^ (971 : ℤ) := by gcongr; norm_num
    _ = 2 ^ 1024 := by rw [← zpow_natCast, ← zpow_natCast, ← zpow_add₀ two_ne_zero]; rfl

theorem Digits.le_of_lt {m : ℕ} {e : ℤ} (h : Digits m e) (he : 971 < e) :
    2 ^ 1024 ≤ (m : ℚ) * 2 ^ e := by
  have hfull : (2 : ℚ) ^ 52 ≤ m := by exact_mod_cast h.full.resolve_right (by omega)
  calc (2 : ℚ) ^ 1024 = 2 ^ 52 * 2 ^ (972 : ℤ) := by
        rw [← zpow_natCast, ← zpow_natCast, ← zpow_add₀ two_ne_zero]; rfl
    _ ≤ 2 ^ 52 * 2 ^ e := by gcongr; norm_num; omega
    _ ≤ m * 2 ^ e := by gcongr

end Digits

def Canonical : UnpackedFloat → Prop
  | .finite _ m e _ => Digits m e ∧ e ≤ 971
  | _ => True

theorem toNat_implicit (v : BitVec 52) : (1#1 ++ v).toNat = 2 ^ 52 + v.toNat := by
  rw [BitVec.toNat_append, ← Nat.shiftLeft_add_eq_or_of_lt v.isLt]
  rfl

theorem canonical_unpack (f : Float.Model) : Canonical f.unpack := by
  have hbias : (Format.binary64.exponentBias : ℤ) = 1023 := rfl
  unfold Float.Model.unpack UnpackedFloat.unpack
  dsimp only
  set x := @unpackExponent Format.binary64 f.toBits.toBitVec
  set v := @unpackMantissa Format.binary64 f.toBits.toBitVec
  have hdigits : v.toNat < 2 ^ 52 := v.isLt
  have hexponent : x.toNat < 2 ^ 11 := x.isLt
  by_cases hones : x = -1#11
  · rw [if_pos hones]
    by_cases hnone : v = 0#52
    · rw [if_pos hnone]
      trivial
    · rw [if_neg hnone]
      trivial
  rw [if_neg hones]
  by_cases hzero : x = 0#11
  · rw [if_pos hzero]
    by_cases hnone : v = 0#52
    · rw [dif_pos hnone]
      trivial
    · rw [dif_neg hnone, hzero]
      exact ⟨⟨by omega, by simp [hbias], .inr (by simp [hbias])⟩, by simp [hbias]⟩
  · rw [if_neg hzero]
    have hpos : x.toNat ≠ 0 := fun h => hzero (BitVec.eq_of_toNat_eq h)
    have hlast : x.toNat ≠ 2047 := fun h => hones (BitVec.eq_of_toNat_eq h)
    refine ⟨⟨?_, ?_, .inl ?_⟩, ?_⟩
    · rw [toNat_implicit]
      omega
    · rw [hbias]
      omega
    · rw [toNat_implicit]
      omega
    · rw [hbias]
      omega

theorem sign_packComponents (s : Sign) (x : BitVec 11) (v : BitVec 52) :
    Sign.ofBitVec (unpackSign (packComponents Format.binary64 s x v)) = s := by
  have hlast : (s.toBitVec ++ x ++ v).getLsbD 63 = s.toBitVec[0] := by
    simp only [BitVec.getLsbD_append]
    rfl
  have hsign : unpackSign (packComponents Format.binary64 s x v) = s.toBitVec := by
    ext i (_ | ⟨⟨⟩⟩)
    change (BitVec.extractLsb 63 63 (s.toBitVec ++ x ++ v))[0] = s.toBitVec[0]
    rw [BitVec.getElem_extract]
    exact hlast
  rw [hsign]
  cases s <;> rfl

theorem unpack_full {s : Sign} {b m : ℕ} (hm : 0 < m) (hb : b ≠ 0) (hlast : b < 2047)
    (hfull : 2 ^ 52 ≤ m) (hlt : m < 2 ^ 53) :
    UnpackedFloat.unpack Format.binary64
        (packComponents Format.binary64 s (BitVec.ofNat 11 b) (BitVec.ofNat 52 m)) =
      .finite s m (b - 1075) hm := by
  have hx : (BitVec.ofNat 11 b).toNat = b := by
    rw [BitVec.toNat_ofNat]
    omega
  have hones : BitVec.ofNat 11 b ≠ -1#11 := fun h => by
    have hall : b = 2047 := hx.symm.trans (congrArg BitVec.toNat h)
    omega
  have hzero : BitVec.ofNat 11 b ≠ 0#11 := fun h => hb (hx.symm.trans (congrArg BitVec.toNat h))
  have hdigits : (1#1 ++ BitVec.ofNat 52 m).toNat = m := by
    rw [toNat_implicit, BitVec.toNat_ofNat]
    omega
  rw [← @unpackExponent_packComponents .binary64 s (.ofNat 11 b) (.ofNat 52 m)] at hx hones hzero
  rw [← @unpackMantissa_packComponents .binary64 s (.ofNat 11 b) (.ofNat 52 m)] at hdigits
  unfold UnpackedFloat.unpack
  dsimp only
  rw [if_neg hones, if_neg hzero, UnpackedFloat.finite.injEq, hx]
  exact ⟨sign_packComponents .., hdigits, rfl⟩

theorem unpack_partial {s : Sign} {m : ℕ} (hm : 0 < m) (hlt : m < 2 ^ 52) :
    UnpackedFloat.unpack Format.binary64
        (packComponents Format.binary64 s 0#11 (BitVec.ofNat 52 m)) =
      .finite s m (-1074) hm := by
  have hdigits : (BitVec.ofNat 52 m).toNat = m := by
    rw [BitVec.toNat_ofNat]
    omega
  have hne : BitVec.ofNat 52 m ≠ 0#52 := fun h => by
    have hzero : m = 0 := hdigits.symm.trans (congrArg BitVec.toNat h)
    omega
  have hones : 0#11 ≠ -1#11 := by decide
  have hx := @unpackExponent_packComponents .binary64 s 0#11 (BitVec.ofNat 52 m)
  rw [← hx] at hones
  rw [← @unpackMantissa_packComponents .binary64 s 0#11 (.ofNat 52 m)] at hdigits hne
  unfold UnpackedFloat.unpack
  dsimp only
  rw [if_neg hones, if_pos hx, dif_neg hne, UnpackedFloat.finite.injEq, hx]
  exact ⟨sign_packComponents .., hdigits, rfl⟩

/-- A double that is packed is read back as it was. -/
theorem unpack_pack {s : Sign} {m : ℕ} {e : ℤ} (hm : 0 < m) (hd : Digits m e) (he : e ≤ 971) :
    (Float.Model.pack (.finite s m e hm)).unpack = .finite s m e hm := by
  have hlow := hd.low
  have hlt := hd.lt
  obtain ⟨b, rfl⟩ : ∃ b : ℕ, e = b - 1075 := ⟨(e + 1075).toNat, by omega⟩
  have hbias : (b - 1075 + Format.binary64.exponentBias + (52 : ℕ) : ℤ).toNat = b := by
    change (b - 1075 + (1023 : ℕ) + (52 : ℕ) : ℤ).toNat = b
    omega
  have hfits : ¬ 2 ^ 11 ≤ b + 1 := by omega
  have hbits : Format.binary64.mantissaBits = 53 := rfl
  change UnpackedFloat.unpack Format.binary64
    (UnpackedFloat.pack Format.binary64 (.finite s m (b - 1075) hm)) = _
  delta UnpackedFloat.pack
  dsimp only
  rw [hbias, hbits, if_neg hfits]
  by_cases hfull : 2 ^ 52 ≤ m
  · have hlog : m.log2 = 52 := (Nat.log2_eq_iff (by omega)).2 ⟨hfull, hlt⟩
    rw [hlog, if_pos rfl]
    exact unpack_full hm (by omega) (by omega) hfull hlt
  · have hlog : m.log2 < 52 := (Nat.log2_lt (by omega)).2 (by omega)
    have hb : b = 1 := by
      have := hd.full.resolve_left hfull
      omega
    subst hb
    rw [if_neg (by omega)]
    exact unpack_partial hm (by omega)

theorem unpack_pack_infinity (s : Sign) :
    (Float.Model.pack (.infinity s)).unpack = .infinity s := by
  cases s <;> rfl

theorem unpack_pack_zero (s : Sign) : (Float.Model.pack (.zero s)).unpack = .zero s := by
  cases s <;> rfl

theorem pack_of_large {s : Sign} {m : ℕ} {e : ℤ} (hm : 0 < m) (he : 972 ≤ e) :
    Float.Model.pack (.finite s m e hm) = Float.Model.pack (.infinity s) := by
  have hlarge : 2 ^ 11 ≤ (e + Format.binary64.exponentBias + (52 : ℕ)).toNat + 1 := by
    change 2 ^ 11 ≤ (e + (1023 : ℕ) + (52 : ℕ)).toNat + 1
    omega
  have hpack : UnpackedFloat.pack Format.binary64 (.finite s m e hm) =
      UnpackedFloat.pack Format.binary64 (.infinity s) := by
    delta UnpackedFloat.pack
    dsimp only
    rw [if_pos hlarge]
  unfold Float.Model.pack
  rw [Float.Model.mk.injEq, hpack]

section Sign

theorem abs_apply (s : Sign) (m : ℕ) (e : ℤ) :
    |(s.apply m : ℚ) * 2 ^ e| = m * 2 ^ e := by
  have hpos : (0 : ℚ) < 2 ^ e := by positivity
  cases s <;> simp [Sign.apply, abs_mul, abs_of_pos hpos]

theorem apply_neg (s : Sign) (n : ℤ) : (-s).apply n = -s.apply n := by
  cases s
  · exact (neg_neg n).symm
  · rfl

theorem apply_lt_zero (s : Sign) {m : ℕ} (hm : 0 < m) (e : ℤ) :
    decide ((s.apply m : ℚ) * 2 ^ e < 0) = isNegative s := by
  have hvalue : (0 : ℚ) < m * 2 ^ e := by positivity
  cases s with
  | negative => simpa [Sign.apply, isNegative] using hvalue
  | positive => simpa [Sign.apply, isNegative] using hvalue.le

theorem apply_inj {s s' : Sign} {m m' : ℕ} {e e' : ℤ} (hm : 0 < m) (hm' : 0 < m')
    (hd : Digits m e) (hd' : Digits m' e') :
    (s.apply m : ℚ) * 2 ^ e = s'.apply m' * 2 ^ e' ↔ s = s' ∧ m = m' ∧ e = e' := by
  constructor
  · intro h
    have habs : (m : ℚ) * 2 ^ e = m' * 2 ^ e' := by
      rw [← abs_apply s, ← abs_apply s', h]
    have hsign : isNegative s = isNegative s' := by
      rw [← apply_lt_zero s hm e, ← apply_lt_zero s' hm' e', h]
    refine ⟨?_, hd.unique hd' habs⟩
    cases s <;> cases s' <;> first | rfl | cases hsign
  · rintro ⟨rfl, rfl, rfl⟩
    rfl

end Sign

/-- Of digits and an exponent that may be too large the packed double keeps what it can. -/
theorem quantity_pack {s : Sign} {m : ℕ} {e : ℤ} (hm : 0 < m) (hd : Digits m e) :
    unpackedQuantity? (Float.Model.pack (.finite s m e hm)).unpack =
      some (.bounded (s.apply m * 2 ^ e)) := by
  rw [Quantity.bounded, abs_apply]
  rcases le_or_gt e 971 with he | he
  · rw [unpack_pack hm hd he, if_pos (hd.lt_of_le he)]
    rfl
  · rw [pack_of_large hm (by omega), unpack_pack_infinity, if_neg (hd.le_of_lt he).not_gt,
      apply_lt_zero s hm e]
    rfl

theorem quantity?_neg (x : Float) : quantity? (-x) = (quantity? x).map .neg := by
  change unpackedQuantity? (Float.Model.pack x.toModel.unpack.neg).unpack = _
  rw [quantity?]
  have hcanonical := canonical_unpack x.toModel
  cases hx : x.toModel.unpack with
  | notANumber => rfl
  | infinity s => cases s <;> rfl
  | zero s =>
    change unpackedQuantity? (Float.Model.pack (.zero (-s))).unpack = some (.finite (-0))
    rw [unpack_pack_zero, neg_zero]
    rfl
  | finite s m e hm =>
    rw [hx] at hcanonical
    change unpackedQuantity? (Float.Model.pack (.finite (-s) m e hm)).unpack =
      some (.finite (-(s.apply m * 2 ^ e)))
    rw [unpack_pack hm hcanonical.1 hcanonical.2, ← neg_mul, ← Int.cast_neg, ← apply_neg]
    rfl

theorem apply_ne_zero (s : Sign) {m : ℕ} (hm : 0 < m) (e : ℤ) :
    (s.apply m : ℚ) * 2 ^ e ≠ 0 := by
  have hvalue : (m : ℚ) * 2 ^ e ≠ 0 := by positivity
  rwa [← abs_apply s, abs_ne_zero] at hvalue

section Compare

variable {a b : UnpackedFloat} {s t : Sign} {m n : ℕ} {e f : ℤ}

theorem beq_iff_compare : a.beq b = true ↔ a.compare b = some .eq := beq_iff_eq

theorem compare_finite_iff (hm : 0 < m) (hn : 0 < n) :
    (UnpackedFloat.finite s m e hm).compare (.finite t n f hn) = some .eq ↔
      s = t ∧ m = n ∧ e = f := by
  cases s <;> cases t
  · change some ((compare e f).then (compare m n)).swap = some .eq ↔ _
    simp [Ordering.then_eq_eq, and_comm]
  · exact iff_of_false nofun nofun
  · exact iff_of_false nofun nofun
  · change some ((compare e f).then (compare m n)) = some .eq ↔ _
    simp [Ordering.then_eq_eq, and_comm]

theorem exists_quantity_iff {x y : Quantity} :
    (∃ z, some x = some z ∧ some y = some z) ↔ x = y := by
  simp [eq_comm]

theorem unpacked_beq_iff (ha : Canonical a) (hb : Canonical b) :
    a.beq b = true ↔ ∃ q, unpackedQuantity? a = some q ∧ unpackedQuantity? b = some q := by
  rw [beq_iff_compare]
  cases a with
  | notANumber => cases b <;> exact ⟨nofun, nofun⟩
  | infinity s =>
    cases b with
    | infinity t => cases s <;> cases t <;> decide
    | _ => cases s <;> exact iff_of_false nofun nofun
  | zero s =>
    cases b with
    | zero t => cases s <;> cases t <;> decide
    | finite t n f hn =>
      have hne : ¬ Quantity.finite 0 = .finite (t.apply n * 2 ^ f) := fun h =>
        apply_ne_zero t hn f (Quantity.finite.inj h).symm
      cases t <;> exact iff_of_false nofun fun h => hne (exists_quantity_iff.1 h)
    | infinity t => cases t <;> exact iff_of_false nofun nofun
    | notANumber => exact ⟨nofun, nofun⟩
  | finite s m e hm =>
    cases b with
    | zero t =>
      have hne : ¬ Quantity.finite (s.apply m * 2 ^ e) = .finite 0 := fun h =>
        apply_ne_zero s hm e (Quantity.finite.inj h)
      cases s <;> exact iff_of_false nofun fun h => hne (exists_quantity_iff.1 h)
    | finite t n f hn =>
      rw [compare_finite_iff hm hn, ← apply_inj hm hn ha.1 hb.1, ← Quantity.finite.injEq]
      exact exists_quantity_iff.symm
    | infinity t => cases t <;> exact iff_of_false nofun nofun
    | notANumber => exact ⟨nofun, nofun⟩

end Compare

/-- Two doubles are equal just when they stand for the same number. -/
theorem beq_iff {x y : Float} :
    (x == y) = true ↔ ∃ q, quantity? x = some q ∧ quantity? y = some q :=
  unpacked_beq_iff (canonical_unpack x.toModel) (canonical_unpack y.toModel)

end Double

end PageConfig
