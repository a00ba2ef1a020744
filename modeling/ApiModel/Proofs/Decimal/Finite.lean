import ApiModel.Decimal.Nearest
import Mathlib

/-!
# Numbers that stay finite

A number is rounded by moving its mantissa and its exponent, and it is packed as an infinity only if
its exponent is beyond the largest one in the end. So a number of 64 bits is finite when it has been
rounded, and a finite number stays finite when it is divided by a power of ten.

## Main definitions

* `grid`: the exponent to which rounding moves a number.
* `reachesEight`: what makes a quotient smaller.

## Main results

* `isFinite_rounded`, `isFinite_neg`, `isFinite_div`: what is finite.
* `isFinite_of_scaled`: a coefficient that is moved by a power of ten is finite, if it has a value.
-/

namespace ApiModel.Decimal

open Float.Model Float.Model.UnpackedFloat

variable {m : Nat} {e : Int}

/-! ### Rounding -/

theorem mantissa_shiftRight (em : ExtendedMantissa) (n : Nat) :
    (em >>> n).mantissa = em.mantissa / 2 ^ n := by
  induction n with
  | zero => exact (Nat.div_one _).symm
  | succ n ih =>
    have hstep : (em >>> (n + 1)).mantissa = (em >>> n).mantissa / 2 := rfl
    rw [hstep, ih, Nat.div_div_eq_div_mul, ← Nat.pow_succ]

theorem mantissa_ofMantissaAndAccuracy (m : Nat) (accuracy : Accuracy) :
    (ExtendedMantissa.ofMantissaAndAccuracy m accuracy).mantissa = m := by
  rcases accuracy with _ | (_ | _ | _) <;> rfl

theorem roundedMantissa_bounds (em : ExtendedMantissa) :
    em.mantissa ≤ em.roundedMantissa ∧ em.roundedMantissa ≤ em.mantissa + 1 := by
  obtain ⟨m, _ | _, _ | _⟩ := em <;>
    simp only [ExtendedMantissa.roundedMantissa, ExtendedMantissa.accuracy,
      Accuracy.roundToNearestEven] <;>
    omega

/-- The exponent to which rounding moves a number. It keeps 53 digits, or fewer where the exponent
would be below the smallest one. -/
def grid (m : Nat) (e : Int) : Int := max e (max (m.log2 + e - 52) (-1074))

theorem targetExponent_eq (t : Int) :
    Format.binary64.targetExponent t = max (t - 53) (-1074) := by
  rw [Format.targetExponent, Format.mantissaBits, Format.minExponent]
  rfl

theorem shiftToTargetExponent_eq (m : Nat) (e : Int) (accuracy : Accuracy) :
    (shiftToTargetExponent Format.binary64 m e accuracy).1.mantissa =
        m / 2 ^ (grid m e - e).toNat ∧
      (shiftToTargetExponent Format.binary64 m e accuracy).2 = grid m e := by
  have hshift : (max (totalExponent m e - 53) (-1074) - e).toNat = (grid m e - e).toNat := by
    rw [grid, totalExponent]
    omega
  simp only [shiftToTargetExponent, shiftToExponent, targetExponent_eq, mantissa_shiftRight,
    mantissa_ofMantissaAndAccuracy, hshift, true_and]
  rw [grid]
  omega

/-- At most 53 digits are left. -/
theorem div_two_pow_lt (m : Nat) (e : Int) : m / 2 ^ (grid m e - e).toNat < 2 ^ 53 := by
  have hlog : m.log2 + 1 ≤ 53 + (grid m e - e).toNat := by
    rw [grid]
    omega
  rw [Nat.div_lt_iff_lt_mul (Nat.two_pow_pos _), ← Nat.pow_add]
  exact Nat.lt_of_lt_of_le Nat.lt_log2_self (Nat.pow_le_pow_right (by decide) hlog)

theorem log2_le_of_le {n k : Nat} (h : n ≤ 2 ^ k) : n.log2 ≤ k := by
  rcases Nat.eq_zero_or_pos n with rfl | hn
  · exact Nat.zero_le k
  · have hlog := Nat.log2_self_le hn.ne'
    exact (Nat.pow_le_pow_iff_right (by decide)).mp (hlog.trans h)

/-- Rounding moves a number twice, the second time at most one place. -/
theorem exists_roundWithAccuracy (s : Sign) (m : Nat) (e : Int) (accuracy : Accuracy) :
    ∃ r g, m / 2 ^ (grid m e - e).toNat ≤ r ∧ r ≤ 2 ^ 53 ∧ g = grid r (grid m e) ∧
      roundWithAccuracy Format.binary64 s m e accuracy =
        if h : r / 2 ^ (g - grid m e).toNat = 0 then .zero s
        else .finite s (r / 2 ^ (g - grid m e).toNat) g (Nat.pos_of_ne_zero h) := by
  obtain ⟨hmantissa, hexponent⟩ := shiftToTargetExponent_eq m e accuracy
  rcases hfirst : shiftToTargetExponent Format.binary64 m e accuracy with ⟨em, g⟩
  rw [hfirst] at hmantissa hexponent
  dsimp only at hmantissa hexponent
  subst hexponent
  obtain ⟨hlow, hhigh⟩ := roundedMantissa_bounds em
  rw [hmantissa] at hlow hhigh
  refine ⟨em.roundedMantissa, _, hlow, by have := div_two_pow_lt m e; omega, rfl, ?_⟩
  obtain ⟨hmantissa', hexponent'⟩ := shiftToTargetExponent_eq em.roundedMantissa (grid m e) .exact
  simp only [roundWithAccuracy, hfirst, hmantissa', hexponent']

/-- What is rounded is zero, or its exponent is at most one further. -/
theorem roundWithAccuracy_cases (s : Sign) (m : Nat) (e : Int) (accuracy : Accuracy) :
    roundWithAccuracy Format.binary64 s m e accuracy = .zero s ∨
      ∃ m' e' h, roundWithAccuracy Format.binary64 s m e accuracy = .finite s m' e' h ∧
        e' ≤ grid m e + 1 := by
  obtain ⟨r, g, -, hr, hg, heq⟩ := exists_roundWithAccuracy s m e accuracy
  rw [heq]
  split
  · exact .inl rfl
  next h =>
    have hlog := log2_le_of_le hr
    have hgrid : g ≤ grid m e + 1 := by
      simp only [grid] at hg ⊢
      omega
    exact .inr ⟨_, _, Nat.pos_of_ne_zero h, rfl, hgrid⟩

/-- A number with 53 digits or more keeps 53 of them. -/
theorem roundWithAccuracy_of_digits (s : Sign) (accuracy : Accuracy) (hm : 52 ≤ m.log2)
    (he : -1074 ≤ m.log2 + e - 52) :
    ∃ m' e' h, roundWithAccuracy Format.binary64 s m e accuracy = .finite s m' e' h ∧
      m'.log2 = 52 ∧ grid m e ≤ e' := by
  obtain ⟨r, g, hlow, hr, hg, heq⟩ := exists_roundWithAccuracy s m e accuracy
  have hpos : m ≠ 0 := by
    rintro rfl
    simp at hm
  have hdigits : 2 ^ 52 ≤ r := by
    refine le_trans ?_ hlow
    rw [Nat.le_div_iff_mul_le (Nat.two_pow_pos _), ← Nat.pow_add]
    refine (Nat.pow_le_pow_right (by decide) ?_).trans (Nat.log2_self_le hpos)
    rw [grid]
    omega
  have hgrid : grid m e ≤ g := by
    rw [hg]
    exact le_max_left _ _
  have hlog : (r / 2 ^ (g - grid m e).toNat).log2 = 52 := by
    rcases hr.lt_or_eq with hr | rfl
    · have hlog : r.log2 = 52 := (Nat.log2_eq_iff (by omega)).mpr ⟨hdigits, hr⟩
      have hshift : (g - grid m e).toNat = 0 := by
        simp only [grid] at hg ⊢
        omega
      rw [hshift, Nat.pow_zero, Nat.div_one, hlog]
    · have hshift : (g - grid m e).toNat = 1 := by
        rw [grid, Nat.log2_two_pow] at hg
        have : -1074 ≤ grid m e := (he.trans (le_max_left _ _)).trans (le_max_right _ _)
        omega
      rw [hshift]
      decide
  have hne : r / 2 ^ (g - grid m e).toNat ≠ 0 := by
    intro h
    simp [h] at hlog
  rw [heq, dif_neg hne]
  exact ⟨_, _, _, rfl, hlog, hgrid⟩

/-! ### Packing -/

/-- Only the largest exponent stands for what is not finite. -/
theorem isFinite_unpack_packComponents (s : Sign) {x : BitVec 11} (hx : x ≠ -1#11)
    (y : BitVec 52) :
    (UnpackedFloat.unpack Format.binary64 (packComponents Format.binary64 s x y)).isFinite =
      true := by
  simp only [UnpackedFloat.unpack, unpackExponent_packComponents, unpackMantissa_packComponents]
  rw [if_neg hx]
  split
  · split <;> rfl
  · rfl

theorem unpack_pack (f : UnpackedFloat) : (Float.Model.pack f).unpack =
    UnpackedFloat.unpack Format.binary64 (UnpackedFloat.pack Format.binary64 f) := rfl

/-- The exponent as it is packed. -/
theorem biased_eq (e : Int) :
    (e + Format.binary64.exponentBias + (52 : Nat)).toNat = (e + 1075).toNat := by
  simp only [Format.exponentBias]
  norm_num
  omega

theorem ofNat_ne_largest {n : Nat} (h : n < 2047) : BitVec.ofNat 11 n ≠ -1#11 := by
  intro hall
  have hvalue := congrArg BitVec.toNat hall
  rw [BitVec.toNat_ofNat, Nat.mod_eq_of_lt (by omega)] at hvalue
  exact h.ne hvalue

theorem isFinite_pack_zero (s : Sign) : (Float.Model.pack (.zero s)).isFinite = true := by
  cases s <;> rfl

theorem isFinite_pack (s : Sign) (h : 0 < m) (he : e ≤ 971) :
    (Float.Model.pack (.finite s m e h)).isFinite = true := by
  have hexponent : ¬2 ^ 11 ≤ (e + 1075).toNat + 1 := by omega
  rw [Float.Model.isFinite, unpack_pack, UnpackedFloat.pack]
  simp only [biased_eq]
  rw [if_neg hexponent]
  split
  · exact isFinite_unpack_packComponents s (ofNat_ne_largest (by omega)) _
  · exact isFinite_unpack_packComponents s (by decide) _

theorem isInf_pack (s : Sign) (h : 0 < m) (he : 971 < e) :
    (Float.Model.pack (.finite s m e h)).isInf = true := by
  have hexponent : 2 ^ 11 ≤ (e + 1075).toNat + 1 := by omega
  rw [Float.Model.isInf, unpack_pack, UnpackedFloat.pack]
  simp only [biased_eq]
  rw [if_pos hexponent, packedInfinity, UnpackedFloat.unpack]
  simp only [unpackExponent_packComponents, unpackMantissa_packComponents, ↓reduceIte]
  rfl

/-- Whether a number is at least eight or at most minus eight. -/
def reachesEight : UnpackedFloat → Bool
  | .infinity _ => true
  | .finite _ m e _ => 4 ≤ totalExponent m e
  | .zero _ | .notANumber => false

/-- A number with 53 digits keeps its exponent. -/
theorem reachesEight_pack (s : Sign) (h : 0 < m) (hm : m.log2 = 52) (he : 4 ≤ e) :
    reachesEight (Float.Model.pack (.finite s m e h)).unpack = true := by
  by_cases hlarge : 971 < e
  · have hinf := isInf_pack s h hlarge
    rw [Float.Model.isInf] at hinf
    cases hf : (Float.Model.pack (.finite s m e h)).unpack with
    | infinity => rfl
    | _ =>
      rw [hf] at hinf
      cases hinf
  have hexponent : ¬2 ^ 11 ≤ (e + 1075).toNat + 1 := by omega
  have hvalue : (BitVec.ofNat 11 (e + 1075).toNat).toNat = (e + 1075).toNat := by
    rw [BitVec.toNat_ofNat, Nat.mod_eq_of_lt (by omega)]
  have hnonzero : BitVec.ofNat 11 (e + 1075).toNat ≠ 0#11 := by
    intro hzero
    rw [hzero] at hvalue
    change 0 = (e + 1075).toNat at hvalue
    omega
  have hbias : (Format.binary64.exponentBias : Int) + (52 : Nat) = 1075 := rfl
  rw [unpack_pack, UnpackedFloat.pack]
  simp only [biased_eq]
  rw [if_neg hexponent, if_pos (by rw [hm]; rfl), UnpackedFloat.unpack]
  simp only [unpackExponent_packComponents, unpackMantissa_packComponents,
    if_neg (ofNat_ne_largest (show (e + 1075).toNat < 2047 by omega)), if_neg hnonzero, hvalue,
    hbias, reachesEight, totalExponent]
  exact decide_eq_true (by omega)

/-- What a finite number is made of. -/
theorem bounds_of_unpack {x : Float.Model} {s : Sign} {h : 0 < m}
    (hx : x.unpack = .finite s m e h) : m.log2 ≤ 52 ∧ e ≤ 971 := by
  have hbias : (Format.binary64.exponentBias : Int) + (52 : Nat) = 1075 := rfl
  suffices hbounds : m < 2 ^ 53 ∧ e ≤ 971 by
    have := (Nat.log2_lt h.ne').mpr hbounds.1
    exact ⟨by omega, hbounds.2⟩
  rw [Float.Model.unpack, UnpackedFloat.unpack] at hx
  simp only [hbias] at hx
  generalize (x.toBits.toBitVec : BitVec Format.binary64.numBits) = b at hx
  have hexponent : (@unpackExponent Format.binary64 b).toNat < 2 ^ 11 := BitVec.isLt _
  split at hx
  · split at hx <;> cases hx
  next hlargest =>
  have hlargest' : (@unpackExponent Format.binary64 b).toNat ≠ 2047 :=
    fun h => hlargest (BitVec.eq_of_toNat_eq h)
  split at hx
  next hzero =>
    have hsmallest : (@unpackExponent Format.binary64 b).toNat = 0 := congrArg BitVec.toNat hzero
    split at hx <;> cases hx
    have hmantissa : (@unpackMantissa Format.binary64 b).toNat < 2 ^ 52 := BitVec.isLt _
    clear hzero
    exact ⟨by omega, by omega⟩
  · cases hx
    have hmantissa : (1#1 ++ @unpackMantissa Format.binary64 b).toNat < 2 ^ 53 := BitVec.isLt _
    exact ⟨hmantissa, by omega⟩

/-! ### Operations -/

theorem isFinite_pack_roundWithAccuracy (s : Sign) (accuracy : Accuracy) (h : grid m e ≤ 970) :
    (Float.Model.pack (roundWithAccuracy Format.binary64 s m e accuracy)).isFinite = true := by
  rcases roundWithAccuracy_cases s m e accuracy with hr | ⟨m', e', h', hr, he⟩ <;> rw [hr]
  · cases s <;> rfl
  · exact isFinite_pack s h' (by omega)

theorem isInf_or_isFinite_pack_roundWithAccuracy (s : Sign) (m : Nat) (e : Int)
    (accuracy : Accuracy) :
    (Float.Model.pack (roundWithAccuracy Format.binary64 s m e accuracy)).isInf = true ∨
      (Float.Model.pack (roundWithAccuracy Format.binary64 s m e accuracy)).isFinite = true := by
  rcases roundWithAccuracy_cases s m e accuracy with hr | ⟨m', e', h', hr, -⟩ <;> rw [hr]
  · cases s <;> exact .inr rfl
  · rcases le_or_gt e' 971 with he | he
    · exact .inr (isFinite_pack s h' he)
    · exact .inl (isInf_pack s h' he)

variable {x y : Float}

theorem unpack_of_isFinite (hx : x.isFinite = true) : (∃ s, x.toModel.unpack = .zero s) ∨
    ∃ s m e h, x.toModel.unpack = .finite s m e h := by
  change x.toModel.unpack.isFinite = true at hx
  cases hf : x.toModel.unpack with
  | zero s => exact .inl ⟨s, rfl⟩
  | finite s m e h => exact .inr ⟨s, m, e, h, rfl⟩
  | _ =>
    rw [hf] at hx
    cases hx

theorem isFinite_neg (hx : x.isFinite = true) : (-x).isFinite = true := by
  change (Float.Model.pack x.toModel.unpack.neg).isFinite = true
  rcases unpack_of_isFinite hx with ⟨s, hf⟩ | ⟨s, m, e, h, hf⟩ <;> rw [hf]
  · exact isFinite_pack_zero _
  · exact isFinite_pack (-s) h (bounds_of_unpack hf).2

/-- A product of finite numbers is finite unless it is beyond the largest number. -/
theorem isFinite_mul (hx : x.isFinite = true) (hy : y.isFinite = true)
    (h : (x * y).isInf = false) : (x * y).isFinite = true := by
  have hproduct : (x * y).toModel =
    Float.Model.pack (mul Format.binary64 x.toModel.unpack y.toModel.unpack) := rfl
  rw [Float.isInf, hproduct] at h
  rw [Float.isFinite, hproduct]
  rcases unpack_of_isFinite hx with ⟨s, hf⟩ | ⟨s, m, e, hm, hf⟩ <;>
    rcases unpack_of_isFinite hy with ⟨s', hf'⟩ | ⟨s', m', e', hm', hf'⟩ <;> rw [hf, hf'] at h ⊢
  · exact isFinite_pack_zero _
  · exact isFinite_pack_zero _
  · exact isFinite_pack_zero _
  · rcases isInf_or_isFinite_pack_roundWithAccuracy (s * s') (m * m') (e + e') .exact with hr | hr
    · exact absurd h (ne_true_of_eq_false · hr)
    · exact hr

theorem log2_shiftLeft_le (m k : Nat) : (m <<< k).log2 ≤ m.log2 + k := by
  rcases Nat.eq_zero_or_pos m with rfl | hm
  · simp
  have hpos : m <<< k ≠ 0 := (Nat.shiftLeft_pos_iff.mpr hm).ne'
  refine Nat.le_of_lt_succ ((Nat.log2_lt hpos).mpr ?_)
  rw [Nat.shiftLeft_eq, ← Nat.succ_add, Nat.pow_add]
  exact Nat.mul_lt_mul_of_pos_right Nat.lt_log2_self (Nat.two_pow_pos k)

theorem log2_shiftLeft_div_le {k d : Nat} (h : (m <<< k) / d ≠ 0) :
    ((m <<< k) / d).log2 + d.log2 ≤ m.log2 + k := by
  have hd : d ≠ 0 := by
    rintro rfl
    exact h (Nat.div_zero _)
  have hpos : m <<< k ≠ 0 := by
    intro hzero
    rw [hzero, Nat.zero_div] at h
    exact h rfl
  refine le_trans ((Nat.le_log2 hpos).mpr ?_) (log2_shiftLeft_le m k)
  rw [Nat.pow_add]
  exact (Nat.mul_le_mul (Nat.log2_self_le h) (Nat.log2_self_le hd)).trans (Nat.div_mul_le_self _ _)

/-- A quotient is not much larger than what is divided by at least eight. -/
theorem grid_divCore_le {m' : Nat} {e' : Int} (hm : m.log2 ≤ 52) (he : e ≤ 971)
    (h : 4 ≤ totalExponent m' e') :
    grid (divCore Format.binary64 m e m' e').1 (divCore Format.binary64 m e m' e').2.1 ≤ 970 := by
  rw [divCore, targetExponent_eq]
  dsimp only
  generalize hg : min (e - e') (max (totalExponent m e - totalExponent m' e' - 53) (-1074)) = g
  rw [totalExponent] at h hg
  rw [totalExponent] at hg
  rw [grid]
  by_cases hzero : (m <<< (e - e' - g).toNat) / m' = 0
  · rw [hzero, Nat.log2_zero]
    omega
  · have := log2_shiftLeft_div_le hzero
    omega

/-- A finite number that is divided by at least eight stays finite. -/
theorem isFinite_div (hx : x.isFinite = true) (hy : reachesEight y.toModel.unpack = true) :
    (x / y).isFinite = true := by
  have hquotient : (x / y).toModel =
    Float.Model.pack (div Format.binary64 x.toModel.unpack y.toModel.unpack) := rfl
  rw [Float.isFinite, hquotient]
  cases hf' : y.toModel.unpack with
  | notANumber | zero =>
    rw [hf'] at hy
    cases hy
  | infinity s' =>
    rcases unpack_of_isFinite hx with ⟨s, hf⟩ | ⟨s, m, e, h, hf⟩ <;> rw [hf]
    · exact isFinite_pack_zero _
    · exact isFinite_pack_zero _
  | finite s' m' e' h' =>
    rw [hf'] at hy
    rcases unpack_of_isFinite hx with ⟨s, hf⟩ | ⟨s, m, e, h, hf⟩ <;> rw [hf]
    · exact isFinite_pack_zero _
    · obtain ⟨hm, he⟩ := bounds_of_unpack hf
      exact isFinite_pack_roundWithAccuracy _ _ (grid_divCore_le hm he (of_decide_eq_true hy))

/-! ### Powers of ten -/

variable {k : Nat}

/-- A power of ten that is not in the table. -/
theorem powerOfTen_eq (hlow : 23 ≤ k) (hhigh : k ≤ 308) : (powerOfTen k).toModel =
    Float.Model.pack
      (roundWithAccuracy Format.binary64 .positive (2 ^ 53 * 10 ^ k) (-53) .exact) := by
  have htable : ¬(1 < 2 ^ 53 ∧ k ≤ 22) := by omega
  rw [powerOfTen, Float.ofScientific, dif_neg htable]
  change Float.Model.pack (UnpackedFloat.ofScientific Format.binary64 1 k) = _
  rw [UnpackedFloat.ofScientific, dif_neg (by decide), if_neg (by norm_num; omega),
    if_neg (by norm_num; omega), if_pos (by omega)]
  rfl

theorem reachesEight_powerOfTen (hpos : 0 < k) (hk : k ≤ 308) :
    reachesEight (powerOfTen k).toModel.unpack = true := by
  rcases Nat.lt_or_ge k 23 with hlow | hlow
  · have htable : ∀ n < 23, 0 < n → reachesEight (powerOfTen n).toModel.unpack = true := by
      decide +kernel
    exact htable k hlow hpos
  · have hlog : 57 + 53 ≤ (2 ^ 53 * 10 ^ k).log2 := by
      refine (Nat.le_log2 (by positivity)).mpr ?_
      calc 2 ^ (57 + 53) ≤ 2 ^ 53 * 10 ^ 23 := by norm_num
        _ ≤ 2 ^ 53 * 10 ^ k := Nat.mul_le_mul_left _ (Nat.pow_le_pow_right (by decide) hlow)
    obtain ⟨m', e', h', hr, hm', he'⟩ := roundWithAccuracy_of_digits (e := -53) .positive .exact
      (m := 2 ^ 53 * 10 ^ k) (by omega) (by omega)
    rw [powerOfTen_eq hlow hk, hr]
    refine reachesEight_pack _ h' hm' ?_
    rw [grid] at he'
    omega

theorem isFinite_powerOfTen (hk : k ≤ 308) : (powerOfTen k).isFinite = true := by
  rcases Nat.lt_or_ge k 23 with hlow | hlow
  · have htable : ∀ n < 23, (powerOfTen n).isFinite = true := by decide +kernel
    exact htable k hlow
  rcases hk.lt_or_eq with hk | rfl
  · rw [Float.isFinite, powerOfTen_eq hlow hk.le]
    refine isFinite_pack_roundWithAccuracy _ _ ?_
    have hlog : (2 ^ 53 * 10 ^ k).log2 < 53 + 1020 := by
      refine (Nat.log2_lt (by positivity)).mpr ?_
      calc 2 ^ 53 * 10 ^ k ≤ 2 ^ 53 * 10 ^ 307 :=
            Nat.mul_le_mul_left _ (Nat.pow_le_pow_right (by decide) (by omega))
        _ < 2 ^ (53 + 1020) := by decide +kernel
    rw [grid]
    omega
  · decide +kernel

/-! ### Coefficients -/

/-- A number of 64 bits is rounded far below the largest number. -/
theorem isFinite_rounded (n : Nat) : (rounded n).isFinite = true := by
  have hvalue : (rounded n).toModel = Float.Model.pack
      (UnpackedFloat.normalize Format.binary64 ((UInt64.ofNat n).toNat : Int) 0 .positive) := rfl
  have hbound : (UInt64.ofNat n).toNat ≤ 2 ^ 64 := (UInt64.toNat_lt _).le
  rw [Float.isFinite, hvalue]
  generalize (UInt64.ofNat n).toNat = k at hbound
  rw [UnpackedFloat.normalize]
  split
  next hneg =>
    rw [Int.compare_eq_lt] at hneg
    omega
  · exact isFinite_pack_zero _
  · rw [UnpackedFloat.round, targetExponent_eq, decreaseExponent, Int.toNat_natCast, totalExponent]
    dsimp only
    refine isFinite_pack_roundWithAccuracy _ _ ?_
    have hlog := log2_le_of_le hbound
    generalize (0 - max ((k.log2 : Int) + 1 + 0 - 53) (-1074)).toNat = s
    have := log2_shiftLeft_le k s
    rw [grid]
    omega

/-- Moving a finite number by a power of ten gives a finite number, if it gives any. -/
theorem isFinite_of_scaleBy {steps : Nat} {f g : Float} {exponent : Int} (hf : f.isFinite = true)
    (h : scaleBy steps f exponent = some g) : g.isFinite = true := by
  fun_induction scaleBy steps f exponent with
  | case1 => cases h
  | case2 _ f exponent hsteps hnonneg _ hinf =>
    rw [← Option.some.inj h]
    exact isFinite_mul hf (isFinite_powerOfTen hsteps) (Bool.eq_false_of_not_eq_true hinf)
  | case3 _ f exponent hsteps hneg =>
    rw [← Option.some.inj h]
    exact isFinite_div hf (reachesEight_powerOfTen (by omega) hsteps)
  | case4 =>
    rw [← Option.some.inj h]
    exact hf
  | case5 => cases h
  | case6 =>
    rw [← Option.some.inj h]
    decide +kernel
  | case7 _ _ _ _ _ _ ih =>
    exact ih (isFinite_div hf (reachesEight_powerOfTen (by decide) le_rfl)) h

theorem isFinite_of_scaled {coefficient : Nat} {exponent : Int} {x : Float}
    (h : scaled coefficient exponent = some x) : x.isFinite = true :=
  isFinite_of_scaleBy (isFinite_rounded coefficient) h

end ApiModel.Decimal
