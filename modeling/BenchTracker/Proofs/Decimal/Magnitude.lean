import BenchTracker.Proofs.Decimal.Double
import Mathlib.Algebra.Group.Nat.Defs
import Mathlib.Data.Nat.Log

/-!
# The order of magnitude of doubles

Products, sums and conversions of positive numbers are rounded, but not below the power of two under
the exact result, and at most to the next one above it. So the powers of two around the operands
tell whether a result can vanish or overflow.
-/

namespace BenchTracker

namespace Double

open Float.Model UnpackedFloat

/-! ## Leading bits -/

/-- The exponent of the leading bit of `m * 2 ^ e`. -/
def scale (m : Nat) (e : Int) : Int := m.log2 + e

theorem log2_div_two_pow (m k : Nat) : (m / 2 ^ k).log2 = m.log2 - k := by
  simp only [Nat.log2_eq_log_two, Nat.log_div_base_pow]

theorem log2_mul_two_pow {m : Nat} (hm : m ≠ 0) (k : Nat) : (m * 2 ^ k).log2 = m.log2 + k := by
  have hdiv := log2_div_two_pow (m * 2 ^ k) k
  rw [Nat.mul_div_cancel _ (Nat.two_pow_pos k)] at hdiv
  have hle : k ≤ (m * 2 ^ k).log2 := by
    rw [Nat.le_log2 (Nat.mul_ne_zero hm (Nat.two_pow_pos k).ne')]
    exact Nat.le_mul_of_pos_left _ (Nat.pos_of_ne_zero hm)
  omega

theorem log2_le_log2 {m n : Nat} (h : m ≤ n) : m.log2 ≤ n.log2 := by
  simp only [Nat.log2_eq_log_two]
  exact Nat.log_mono_right h

theorem log2_add_one_le (m : Nat) : (m + 1).log2 ≤ m.log2 + 1 := by
  have hlt : m < 2 ^ (m.log2 + 1) := Nat.lt_log2_self
  have hpow : 2 ^ (m.log2 + 1) < 2 ^ (m.log2 + 2) := Nat.pow_lt_pow_right Nat.one_lt_two (by omega)
  have hlog := (Nat.log2_lt (n := m + 1) (k := m.log2 + 2) (by omega)).2 (by omega)
  omega

theorem log2_add_le {m n : Nat} (h : 0 < m) : (m + n).log2 ≤ max m.log2 n.log2 + 1 := by
  have hle : m + n ≤ max m n * 2 ^ 1 := by omega
  have hlog := log2_le_log2 hle
  rw [log2_mul_two_pow (by omega)] at hlog
  rcases Nat.le_total m n with hmn | hmn
  · rw [Nat.max_eq_right hmn] at hlog
    omega
  · rw [Nat.max_eq_left hmn] at hlog
    omega

theorem log2_mul_cases {m n : Nat} (hm : m ≠ 0) (hn : n ≠ 0) :
    (m * n).log2 = m.log2 + n.log2 ∨ (m * n).log2 = m.log2 + n.log2 + 1 := by
  have hmn : m * n ≠ 0 := Nat.mul_ne_zero hm hn
  have hlow : m.log2 + n.log2 ≤ (m * n).log2 := by
    rw [Nat.le_log2 hmn, Nat.pow_add]
    exact Nat.mul_le_mul (Nat.log2_self_le hm) (Nat.log2_self_le hn)
  have hhigh : (m * n).log2 < m.log2 + 1 + (n.log2 + 1) := by
    rw [Nat.log2_lt hmn, Nat.pow_add]
    exact Nat.mul_lt_mul'' Nat.lt_log2_self Nat.lt_log2_self
  omega

theorem scale_mul_two_pow {m : Nat} (hm : m ≠ 0) (e : Int) (k : Nat) :
    scale (m * 2 ^ k) (e - k) = scale m e := by
  rw [scale, scale, log2_mul_two_pow hm]
  omega

theorem scale_shiftLeft {m : Nat} (hm : m ≠ 0) {e e' : Int} (h : e' ≤ e) :
    scale (m <<< (e - e').toNat) e' = scale m e := by
  have hsame := scale_mul_two_pow hm e (e - e').toNat
  rw [Nat.shiftLeft_eq]
  rwa [show e - ((e - e').toNat : Int) = e' by omega] at hsame

/-! ## Unpacking what was packed -/

/-- What the parts of a finite double are like: at most 53 bits, the first of which is set unless
the exponent is the least one. -/
structure Canonical (m : Nat) (e : Int) : Prop where
  lt : m < 2 ^ 53
  least : -1074 ≤ e
  normal : 2 ^ 52 ≤ m ∨ e = -1074

theorem toNat_one_append (m : BitVec 52) : (1#1 ++ m).toNat = 2 ^ 52 + m.toNat := by
  have hlt : m.toNat < 2 ^ 52 := m.isLt
  rw [BitVec.toNat_append, Nat.shiftLeft_eq, Nat.or_comm, BitVec.toNat_ofNat,
    Nat.or_two_pow_eq_add_of_lt hlt]
  omega

theorem unpack_cases (x : Float) :
    (exponentField x = 2047 ∧ x.toModel.unpack.isFinite = false) ∨
      (exponentField x < 2047 ∧ x.toModel.unpack.isFinite = true ∧
        ∀ s m e h, x.toModel.unpack = .finite s m e h → Canonical m e ∧ e ≤ 971) := by
  have hexponent := toNat_unpackExponent x
  have hinfinite := unpackExponent_eq_iff x
  have hsubnormal : @unpackExponent .binary64 x.toBits.toBitVec = 0#_ ↔
      exponentField x = 0 := by
    rw [← hexponent, ← BitVec.toNat_inj]
    rfl
  have hsize : exponentField x < 2 ^ 11 := by
    rw [← hexponent]
    exact BitVec.isLt _
  have hbits : (@unpackMantissa .binary64 x.toBits.toBitVec).toNat < 2 ^ 52 := BitVec.isLt _
  have hsmall := Nat.lt_trans hbits (by decide : 2 ^ 52 < 2 ^ 53)
  change _ ∧ (UnpackedFloat.unpack Format.binary64 x.toBits.toBitVec).isFinite = _ ∨
    _ ∧ (UnpackedFloat.unpack Format.binary64 x.toBits.toBitVec).isFinite = _ ∧
      ∀ s m e h, UnpackedFloat.unpack Format.binary64 x.toBits.toBitVec = _ → _
  delta UnpackedFloat.unpack
  dsimp only
  by_cases hx : exponentField x = 2047
  · rw [if_pos (hinfinite.2 hx)]
    refine .inl ⟨hx, ?_⟩
    split <;> rfl
  · rw [if_neg (mt hinfinite.1 hx)]
    refine .inr ⟨by omega, ?_⟩
    by_cases hzero : exponentField x = 0
    · rw [if_pos (hsubnormal.2 hzero), hexponent, hzero]
      by_cases hmantissa : @unpackMantissa .binary64 x.toBits.toBitVec = 0#_
      · rw [dif_pos hmantissa]
        exact ⟨rfl, by rintro s m e h ⟨⟩⟩
      · rw [dif_neg hmantissa]
        refine ⟨rfl, ?_⟩
        rintro s m e h ⟨⟩
        exact ⟨⟨hsmall, by decide, .inr (by decide)⟩, by decide⟩
    · rw [if_neg (mt hsubnormal.1 hzero)]
      refine ⟨rfl, ?_⟩
      rintro s m e h ⟨⟩
      have happend := toNat_one_append (@unpackMantissa .binary64 x.toBits.toBitVec)
      have hbias : (Format.binary64.exponentBias : Int) = 1023 := by decide
      rw [hexponent, hbias]
      exact ⟨⟨by omega, by omega, .inl (by omega)⟩, by omega⟩

theorem canonical_of_unpack {x : Float} {s : Sign} {m : Nat} {e : Int} {h : 0 < m}
    (hx : x.toModel.unpack = .finite s m e h) : Canonical m e ∧ e ≤ 971 := by
  rcases unpack_cases x with ⟨-, hfinite⟩ | ⟨-, -, hcanonical⟩
  · rw [hx] at hfinite
    cases hfinite
  · exact hcanonical s m e h hx

theorem isFinite_eq (x : Float) : isFinite x = x.toModel.unpack.isFinite := by
  rcases unpack_cases x with ⟨hx, hfinite⟩ | ⟨hx, hfinite, -⟩
  · simp [isFinite, hx, hfinite]
  · rw [hfinite, isFinite, bne_iff_ne]
    omega

theorem ofBitVec_unpackSign (s : Sign) (e : BitVec 11) (m : BitVec 52) :
    Sign.ofBitVec (unpackSign (packComponents Format.binary64 s e m)) = s := by
  have hsign : unpackSign (packComponents Format.binary64 s e m) = s.toBitVec := by
    change (s.toBitVec ++ e ++ m).extractLsb' 63 1 = s.toBitVec
    rw [BitVec.extractLsb'_append_eq_of_le (by decide),
      BitVec.extractLsb'_append_eq_of_le (by decide)]
    cases s <;> rfl
  rw [hsign]
  cases s <;> rfl

theorem unpack_normal {s : Sign} {e : BitVec 11} {m : BitVec 52} (hinfinite : e ≠ -1#11)
    (hsubnormal : e ≠ 0#11) : ∃ h, UnpackedFloat.unpack .binary64 (packComponents .binary64 s e m) =
      .finite s (2 ^ 52 + m.toNat) (e.toNat - 1075) h := by
  have hbias : (Format.binary64.exponentBias : Int) = 1023 := by decide
  have hexponent : unpackExponent (packComponents .binary64 s e m) = e :=
    unpackExponent_packComponents
  have hmantissa : unpackMantissa (packComponents .binary64 s e m) = m :=
    unpackMantissa_packComponents
  delta UnpackedFloat.unpack
  dsimp only
  rw [if_neg (by rwa [hexponent]), if_neg (by rwa [hexponent])]
  refine ⟨by omega, ?_⟩
  rw [UnpackedFloat.finite.injEq, ofBitVec_unpackSign, hexponent, hmantissa, toNat_one_append,
    hbias]
  exact ⟨rfl, rfl, by omega⟩

theorem unpack_subnormal {s : Sign} {m : BitVec 52} (hzero : m ≠ 0#52) :
    ∃ h, UnpackedFloat.unpack .binary64 (packComponents .binary64 s 0#11 m) =
      .finite s m.toNat (-1074) h := by
  have hexponent : unpackExponent (packComponents .binary64 s 0#11 m) = 0#11 :=
    unpackExponent_packComponents
  have hmantissa : unpackMantissa (packComponents .binary64 s 0#11 m) = m :=
    unpackMantissa_packComponents
  delta UnpackedFloat.unpack
  dsimp only
  rw [if_neg (by rw [hexponent]; decide), if_pos hexponent, dif_neg (by rwa [hmantissa])]
  refine ⟨by bv_omega, ?_⟩
  rw [UnpackedFloat.finite.injEq, ofBitVec_unpackSign, hexponent, hmantissa]
  exact ⟨rfl, rfl, by decide⟩

/-- An exponent that is too large gives an infinite double. -/
theorem unpack_pack_finite {s : Sign} {m : Nat} {e : Int} (h : 0 < m) (hc : Canonical m e) :
    (Float.Model.pack (.finite s m e h)).unpack =
      if e ≤ 971 then .finite s m e h else .infinity s := by
  have hbias : (Format.binary64.exponentBias : Int) = 1023 := by decide
  obtain ⟨hlt, hleast, hnormal⟩ := hc
  have hlog : m.log2 + 1 = Format.binary64.mantissaBits ↔ 2 ^ 52 ≤ m := by
    rw [← Nat.le_log2 h.ne']
    have hlog := (Nat.log2_lt h.ne').2 hlt
    have hprecision : Format.binary64.mantissaBits = 53 := by decide
    omega
  change UnpackedFloat.unpack Format.binary64 (UnpackedFloat.pack Format.binary64 _) = _
  delta UnpackedFloat.pack
  dsimp only
  rw [hbias]
  by_cases he : e ≤ 971
  · rw [if_pos he, if_neg (by simp; omega)]
    have hmantissa : (BitVec.ofNat 52 m).toNat = m % 2 ^ 52 := BitVec.toNat_ofNat ..
    -- Only a full mantissa has an exponent of its own. Its first bit is not stored.
    by_cases hbits : 2 ^ 52 ≤ m
    · have hexponent : (BitVec.ofNat 11 (e + 1023 + (52 : Nat)).toNat).toNat =
          (e + 1075).toNat := by
        rw [BitVec.toNat_ofNat]
        omega
      rw [if_pos (hlog.2 hbits)]
      obtain ⟨_, hunpack⟩ := unpack_normal (s := s) (m := BitVec.ofNat 52 m)
        (e := BitVec.ofNat 11 (e + 1023 + (52 : Nat)).toNat) (by bv_omega) (by bv_omega)
      refine hunpack.trans (UnpackedFloat.finite.injEq .. ▸ ⟨rfl, ?_, ?_⟩) <;> omega
    · have hexponent : e = -1074 := hnormal.resolve_left hbits
      rw [if_neg (mt hlog.1 hbits)]
      obtain ⟨_, hunpack⟩ := unpack_subnormal (s := s) (m := BitVec.ofNat 52 m) (by bv_omega)
      refine hunpack.trans (UnpackedFloat.finite.injEq .. ▸ ⟨rfl, ?_, ?_⟩) <;> omega
  · rw [if_neg he, if_pos (by simp; omega)]
    cases s <;> rfl

/-! ## Rounding -/

theorem mantissa_shiftRight (em : ExtendedMantissa) (k : Nat) :
    (em >>> k).mantissa = em.mantissa / 2 ^ k := by
  change (Nat.repeat ExtendedMantissa.shiftRightOne k em).mantissa = _
  induction k with
  | zero => simp [Nat.repeat]
  | succ k ih =>
    rw [Nat.repeat, ExtendedMantissa.shiftRightOne, ih, Nat.pow_succ, Nat.div_div_eq_div_mul]

theorem roundedMantissa_cases (em : ExtendedMantissa) :
    em.roundedMantissa = em.mantissa ∨ em.roundedMantissa = em.mantissa + 1 := by
  rcases em with ⟨m, round, sticky⟩
  cases round <;> cases sticky <;>
    simp [ExtendedMantissa.roundedMantissa, ExtendedMantissa.accuracy,
      Accuracy.roundToNearestEven]
  omega

/-- The exponent that rounding brings a number to. -/
def target (m : Nat) (e : Int) : Int := max (scale m e - 52) (-1074)

theorem targetExponent_eq (m : Nat) (e : Int) :
    Format.binary64.targetExponent (totalExponent m e) = target m e := by
  have hprecision : (Format.binary64.mantissaBits : Int) = 53 := by decide
  have hleast : Format.binary64.minExponent = -1074 := by decide
  rw [Format.targetExponent, hprecision, hleast, totalExponent, target, scale]
  omega

theorem shiftToTargetExponent_exact (m : Nat) (e : Int) :
    (shiftToTargetExponent .binary64 m e .exact).1.mantissa = m / 2 ^ (target m e - e).toNat ∧
      (shiftToTargetExponent .binary64 m e .exact).2 = e + (target m e - e).toNat := by
  rw [shiftToTargetExponent, targetExponent_eq, shiftToExponent]
  exact ⟨mantissa_shiftRight _ _, rfl⟩

/-- Unless bits are missing, the last bits of a number that is not below the least double are cut
off, and its leading bit stays where it is. -/
theorem canonical_shiftToTargetExponent {m : Nat} {e : Int} (h : 0 < m)
    (hcut : 52 ≤ m.log2 ∨ e ≤ -1074) (hscale : -1074 ≤ scale m e) :
    let shifted := shiftToTargetExponent .binary64 m e .exact
    0 < shifted.1.mantissa ∧ Canonical shifted.1.mantissa shifted.2 ∧
      scale shifted.1.mantissa shifted.2 = scale m e := by
  intro shifted
  obtain ⟨hmantissa, hexponent⟩ := shiftToTargetExponent_exact m e
  rw [hmantissa, hexponent]
  have htarget : e + (target m e - e).toNat = target m e ∧ (target m e - e).toNat ≤ m.log2 := by
    simp only [target, scale] at *
    omega
  have hpos : 0 < m / 2 ^ (target m e - e).toNat :=
    Nat.div_pos ((Nat.le_log2 h.ne').1 htarget.2) (Nat.two_pow_pos _)
  have hlog := log2_div_two_pow m (target m e - e).toNat
  have hsame : scale (m / 2 ^ (target m e - e).toNat) (target m e) = scale m e := by
    simp only [scale]
    omega
  rw [htarget.1]
  refine ⟨hpos, ⟨?_, ?_, ?_⟩, hsame⟩
  · rw [← Nat.log2_lt hpos.ne']
    simp only [target, scale] at *
    omega
  · rw [target]
    omega
  · rw [← Nat.le_log2 hpos.ne']
    simp only [target, scale] at *
    omega

/-- Such a number is rounded to one with the same leading bit or the next higher one. -/
theorem roundWithAccuracy_exact (s : Sign) {m : Nat} {e : Int} (h : 0 < m)
    (hcut : 52 ≤ m.log2 ∨ e ≤ -1074) (hscale : -1074 ≤ scale m e) :
    ∃ m' e' h', roundWithAccuracy .binary64 s m e .exact = .finite s m' e' h' ∧ Canonical m' e' ∧
      scale m e ≤ scale m' e' ∧ scale m' e' ≤ scale m e + 1 := by
  obtain ⟨hpos, hcanonical, hsame⟩ := canonical_shiftToTargetExponent h hcut hscale
  rw [roundWithAccuracy]
  generalize shiftToTargetExponent .binary64 m e .exact = first at hpos hcanonical hsame ⊢
  obtain ⟨floor, e₁⟩ := first
  dsimp only at hpos hcanonical hsame ⊢
  have hnormal := hcanonical.normal
  have hnext := log2_add_one_le floor.mantissa
  have hup := log2_le_log2 (Nat.le_add_right floor.mantissa 1)
  rw [← Nat.le_log2 hpos.ne'] at hnormal
  -- What is rounded up is at most the next power of two, so that the second shift keeps it.
  have hrounded : 0 < floor.roundedMantissa ∧
      (52 ≤ floor.roundedMantissa.log2 ∨ e₁ ≤ -1074) ∧
      scale m e ≤ scale floor.roundedMantissa e₁ ∧
      scale floor.roundedMantissa e₁ ≤ scale m e + 1 := by
    rw [← hsame]
    simp only [scale]
    rcases roundedMantissa_cases floor with hround | hround <;> rw [hround] <;> omega
  obtain ⟨hpos₁, hcut₁, hlow, hhigh⟩ := hrounded
  obtain ⟨hpos₂, hcanonical₂, hsame₂⟩ :=
    canonical_shiftToTargetExponent hpos₁ hcut₁ (Int.le_trans hscale hlow)
  rw [dif_neg hpos₂.ne']
  exact ⟨_, _, hpos₂, rfl, hcanonical₂, hsame₂ ▸ hlow, hsame₂ ▸ hhigh⟩

theorem round_pos (s : Sign) {m : Nat} {e : Int} (h : 0 < m) (hscale : -1074 ≤ scale m e) :
    ∃ m' e' h', UnpackedFloat.round .binary64 s m e = .finite s m' e' h' ∧ Canonical m' e' ∧
      scale m e ≤ scale m' e' ∧ scale m' e' ≤ scale m e + 1 := by
  rw [UnpackedFloat.round, targetExponent_eq, decreaseExponent, Nat.shiftLeft_eq]
  have hlog := log2_mul_two_pow h.ne' (e - target m e).toNat
  have hsame := scale_mul_two_pow h.ne' e (e - target m e).toNat
  rw [← hsame]
  refine roundWithAccuracy_exact s (Nat.mul_pos h (Nat.two_pow_pos _)) ?_ (hsame ▸ hscale)
  rw [hlog, target, scale]
  omega

theorem normalize_pos {m : Nat} (h : 0 < m) (e : Int) :
    UnpackedFloat.normalize .binary64 m e .positive =
      UnpackedFloat.round .binary64 .positive m e := by
  rw [UnpackedFloat.normalize, Int.compare_eq_gt.2 (by omega)]
  rfl

/-- A sum is that of two mantissas for the same exponent. -/
theorem exists_add_eq_round {m₁ m₂ : Nat} (h₁ : 0 < m₁) (h₂ : 0 < m₂) (e₁ e₂ : Int) :
    ∃ n₁ n₂ e, 0 < n₁ ∧ scale n₁ e = scale m₁ e₁ ∧ scale n₂ e = scale m₂ e₂ ∧
      UnpackedFloat.add .binary64 (.finite .positive m₁ e₁ h₁) (.finite .positive m₂ e₂ h₂) =
        UnpackedFloat.round .binary64 .positive (n₁ + n₂) e := by
  have hpos : 0 < m₁ <<< (e₁ - min e₁ e₂).toNat := by
    rw [Nat.shiftLeft_eq]
    exact Nat.mul_pos h₁ (Nat.two_pow_pos _)
  refine ⟨_, m₂ <<< (e₂ - min e₁ e₂).toNat, min e₁ e₂, hpos,
    scale_shiftLeft h₁.ne' (Int.min_le_left e₁ e₂),
    scale_shiftLeft h₂.ne' (Int.min_le_right e₁ e₂), ?_⟩
  rw [← normalize_pos (Nat.add_pos_left hpos _)]
  rfl

/-! ## Ranges -/

/-- A positive double, its leading bit from `2 ^ lo` to below `2 ^ hi`; an infinite one counts as
`2 ^ 1024`. -/
inductive Within (lo hi : Int) (x : Float) : Prop
  | finite {m : Nat} {e : Int} {h : 0 < m} (hx : x.toModel.unpack = .finite .positive m e h)
      (hlow : lo ≤ scale m e) (hhigh : scale m e < hi) : Within lo hi x
  | infinite (hx : x.toModel.unpack = .infinity .positive) (hhigh : 1024 < hi) : Within lo hi x

variable {a b c d : Int} {x y : Float}

theorem toModel_add (x y : Float) :
    (x + y).toModel = Float.Model.pack (.add .binary64 x.toModel.unpack y.toModel.unpack) := rfl

theorem toModel_mul (x y : Float) :
    (x * y).toModel = Float.Model.pack (.mul .binary64 x.toModel.unpack y.toModel.unpack) := rfl

theorem toModel_div (x y : Float) :
    (x / y).toModel = Float.Model.pack (.div .binary64 x.toModel.unpack y.toModel.unpack) := rfl

theorem within_of_infinite (hx : x.toModel = Float.Model.pack (.infinity .positive))
    (hhigh : 1024 < b) : Within a b x := by
  refine .infinite ?_ hhigh
  rw [hx]
  rfl

theorem within_of_finite {m : Nat} {e : Int} {h : 0 < m}
    (hx : x.toModel = Float.Model.pack (.finite .positive m e h)) (hc : Canonical m e)
    (hlow : a ≤ scale m e) (hhigh : scale m e < b) : Within a b x := by
  have hunpack := unpack_pack_finite (s := .positive) h hc
  rw [← hx] at hunpack
  by_cases he : e ≤ 971
  · rw [if_pos he] at hunpack
    exact .finite hunpack hlow hhigh
  · rw [if_neg he] at hunpack
    refine .infinite hunpack ?_
    have hbits : 52 ≤ m.log2 := by
      rw [Nat.le_log2 h.ne']
      exact hc.normal.resolve_right (by omega)
    rw [scale] at hhigh
    omega

theorem within_mul (hx : Within a b x) (hy : Within c d y) (hb : 0 ≤ b) (hd : 0 ≤ d)
    (hlow : -1074 ≤ a + c) : Within (a + c) (b + d + 1) (x * y) := by
  have hmul := toModel_mul x y
  rcases hx with @⟨m₁, e₁, h₁, hx, hxlow, hxhigh⟩ | ⟨hx, hxhigh⟩ <;>
    rcases hy with @⟨m₂, e₂, h₂, hy, hylow, hyhigh⟩ | ⟨hy, hyhigh⟩ <;> rw [hx, hy] at hmul
  · -- The product has its last bits cut off, as one of the mantissas is full, unless both
    -- exponents are the least one.
    have hcut : 52 ≤ (m₁ * m₂).log2 ∨ e₁ + e₂ ≤ -1074 := by
      have hnormal₁ := (canonical_of_unpack hx).1.normal
      have hnormal₂ := (canonical_of_unpack hy).1.normal
      have hproduct := log2_mul_cases h₁.ne' h₂.ne'
      rw [← Nat.le_log2 h₁.ne'] at hnormal₁
      rw [← Nat.le_log2 h₂.ne'] at hnormal₂
      omega
    have hscale : scale m₁ e₁ + scale m₂ e₂ ≤ scale (m₁ * m₂) (e₁ + e₂) ∧
        scale (m₁ * m₂) (e₁ + e₂) ≤ scale m₁ e₁ + scale m₂ e₂ + 1 := by
      have hproduct := log2_mul_cases h₁.ne' h₂.ne'
      simp only [scale]
      omega
    obtain ⟨m, e, h, hround, hc, hle, hge⟩ :=
      roundWithAccuracy_exact .positive (Nat.mul_pos h₁ h₂) hcut (by omega)
    exact within_of_finite (hmul.trans (congrArg _ hround)) hc (by omega) (by omega)
  · exact within_of_infinite hmul (by omega)
  · exact within_of_infinite hmul (by omega)
  · exact within_of_infinite hmul (by omega)

theorem within_add (hx : Within a b x) (hy : Within a b y) (hlow : -1074 ≤ a) :
    Within a (b + 2) (x + y) := by
  have hadd := toModel_add x y
  rcases hx with @⟨m₁, e₁, h₁, hx, hxlow, hxhigh⟩ | ⟨hx, hxhigh⟩ <;>
    rcases hy with @⟨m₂, e₂, h₂, hy, hylow, hyhigh⟩ | ⟨hy, hyhigh⟩ <;> rw [hx, hy] at hadd
  · obtain ⟨n₁, n₂, least, hpos, hsame₁, hsame₂, hsum⟩ := exists_add_eq_round h₁ h₂ e₁ e₂
    have hscale : a ≤ scale (n₁ + n₂) least ∧ scale (n₁ + n₂) least < b + 1 := by
      have hup := log2_le_log2 (Nat.le_add_right n₁ n₂)
      have hdown := log2_add_le (n := n₂) hpos
      simp only [scale] at hsame₁ hsame₂ hxlow hxhigh hylow hyhigh ⊢
      omega
    obtain ⟨m, e, h, hround, hc, hle, hge⟩ :=
      round_pos .positive (e := least) (Nat.add_pos_left hpos n₂) (by omega)
    rw [hsum, hround] at hadd
    exact within_of_finite hadd hc (by omega) (by omega)
  · exact within_of_infinite hadd (by omega)
  · exact within_of_infinite hadd (by omega)
  · exact within_of_infinite hadd (by omega)

theorem within_toFloat {n : UInt64} (h : n ≠ 0) : Within 0 65 n.toFloat := by
  have hpos : 0 < n.toNat := by
    rw [Nat.pos_iff_ne_zero, ← UInt64.toNat_zero, Ne, UInt64.toNat_inj]
    exact h
  have hlog : n.toNat.log2 < 64 := (Nat.log2_lt hpos.ne').2 n.toNat_lt
  have hscale : scale n.toNat 0 = n.toNat.log2 := by
    rw [scale]
    omega
  obtain ⟨m, e, h, hround, hc, hle, hge⟩ := round_pos .positive (e := 0) hpos (by omega)
  have hpack : n.toFloat.toModel =
      Float.Model.pack (.normalize .binary64 n.toNat 0 .positive) := rfl
  rw [normalize_pos hpos, hround] at hpack
  exact within_of_finite hpack hc (by omega) (by omega)

theorem Within.zero_lt (h : Within a b x) : 0.0 < x := by
  rw [lt_iff_compare, unpack_zero]
  rcases h with ⟨hx, -, -⟩ | ⟨hx, -⟩ <;> rw [hx] <;> rfl

theorem within_of_zero_lt (h : 0.0 < x) : Within (-1074) 1025 x := by
  rw [lt_iff_compare, unpack_zero] at h
  cases hx : x.toModel.unpack with
  | notANumber => rw [hx] at h; cases h
  | zero s => rw [hx] at h; cases h
  | infinity s =>
    cases s with
    | positive => exact .infinite hx (by decide)
    | negative => rw [hx] at h; cases h
  | finite s m e hm =>
    cases s with
    | positive =>
      obtain ⟨hc, he⟩ := canonical_of_unpack hx
      have hlog := (Nat.log2_lt hm.ne').2 hc.lt
      have hleast := hc.least
      refine .finite hx ?_ ?_ <;> rw [scale] <;> omega
    | negative => rw [hx] at h; cases h

theorem Within.isFinite (h : Within a b x) (hb : b ≤ 1024) : isFinite x = true := by
  rw [isFinite_eq]
  rcases h with ⟨hx, -, -⟩ | ⟨-, hhigh⟩
  · rw [hx]
    rfl
  · omega

theorem unpack_of_zero_lt (h : 0.0 < x) (hx : isFinite x = true) :
    ∃ m e h, x.toModel.unpack = .finite .positive m e h := by
  rcases within_of_zero_lt h with ⟨hunpack, -, -⟩ | ⟨hunpack, -⟩
  · exact ⟨_, _, _, hunpack⟩
  · rw [isFinite_eq, hunpack] at hx
    cases hx

/-! ## Zero and infinity -/

theorem eq_of_toModel_eq (h : x.toModel = y.toModel) : x = y := by
  cases x
  cases y
  exact congrArg _ h

theorem zero_mul_of_isFinite (h : 0.0 < x) (hx : isFinite x = true) : 0.0 * x = 0.0 := by
  obtain ⟨m, e, hm, hunpack⟩ := unpack_of_zero_lt h hx
  have hmul := toModel_mul 0.0 x
  rw [hunpack] at hmul
  exact eq_of_toModel_eq (hmul.trans rfl)

theorem zero_div_of_isFinite (h : 0.0 < x) (hx : isFinite x = true) : 0.0 / x = 0.0 := by
  obtain ⟨m, e, hm, hunpack⟩ := unpack_of_zero_lt h hx
  have hdiv := toModel_div 0.0 x
  rw [hunpack] at hdiv
  exact eq_of_toModel_eq (hdiv.trans rfl)

theorem div_zero_of_isFinite (h : 0.0 < x) (hx : isFinite x = true) : x / 0.0 = infinity := by
  obtain ⟨m, e, hm, hunpack⟩ := unpack_of_zero_lt h hx
  have hdiv := toModel_div x 0.0
  rw [hunpack] at hdiv
  exact eq_of_toModel_eq (hdiv.trans rfl)

theorem infinity_mul (h : 0.0 < x) : infinity * x = infinity := by
  have hmul := toModel_mul infinity x
  rcases within_of_zero_lt h with ⟨hunpack, -, -⟩ | ⟨hunpack, -⟩
  · rw [hunpack] at hmul
    exact eq_of_toModel_eq (hmul.trans rfl)
  · rw [hunpack] at hmul
    exact eq_of_toModel_eq (hmul.trans rfl)

theorem unpack_pack_zero (s : Sign) : (Float.Model.pack (.zero s)).unpack = .zero s := by
  cases s <;> rfl

/-- Zero times a finite double is a zero, which is below every positive one. -/
theorem mul_zero_le (hx : isFinite x = true) (h : 0.0 < y) : x * 0.0 ≤ y := by
  have hmul := toModel_mul x 0.0
  obtain ⟨s, hzero⟩ : ∃ s, UnpackedFloat.mul .binary64 x.toModel.unpack (.zero .positive) =
      .zero s := by
    rw [isFinite_eq] at hx
    cases hunpack : x.toModel.unpack with
    | notANumber => rw [hunpack] at hx; cases hx
    | infinity s => rw [hunpack] at hx; cases hx
    | zero s => exact ⟨_, rfl⟩
    | finite s m e hm => exact ⟨_, rfl⟩
  rw [le_iff_compare, hmul, unpack_zero, hzero, unpack_pack_zero]
  rcases within_of_zero_lt h with ⟨hunpack, -, -⟩ | ⟨hunpack, -⟩ <;> rw [hunpack] <;> rfl

theorem isNaN_mul_zero (hx : isFinite x = false) : isNaN (x * 0.0) = true := by
  have hmul := toModel_mul x 0.0
  have hnan : UnpackedFloat.mul .binary64 x.toModel.unpack (.zero .positive) = .notANumber := by
    rw [isFinite_eq] at hx
    cases hunpack : x.toModel.unpack with
    | notANumber => rfl
    | infinity s => rfl
    | zero s => rw [hunpack] at hx; cases hx
    | finite s m e hm => rw [hunpack] at hx; cases hx
  rw [isNaN_iff, hmul, unpack_zero, hnan]
  rfl

end Double

end BenchTracker
