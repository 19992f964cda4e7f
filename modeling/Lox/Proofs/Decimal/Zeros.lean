/-!
# Doubles that compare as equal

Two doubles that compare as equal are the same double, or they are the two zeros, which differ in
their sign. The comparison reads the unpacked parts of the doubles, so that it has to be shown that
the parts of a double tell its bits.

## Main definitions

* `fields`: the three bit fields of a double, from its parts

## Main results

* `eq_of_unpack_eq`: the parts of a double tell which one it is
* `eq_or_zeros_of_beq`: the doubles that compare as equal
-/

namespace Lox.Decimal

open Float.Model (Format UnpackedFloat)
open Float.Model.UnpackedFloat (Sign unpack unpackSign unpackExponent unpackMantissa)

/-! ## Bits from parts -/

/-- The exponent field and the fraction field of a double with the given parts. A mantissa without
the hidden bit belongs to the lowest exponent. -/
def fields : UnpackedFloat → Nat × Nat
  | .infinity _ => (2047, 0)
  | .notANumber => (2047, 1)
  | .zero _ => (0, 0)
  | .finite _ mantissa exponent _ =>
    if mantissa < Nat.pow 2 52 then (0, mantissa)
    else ((exponent + 1075).toNat, mantissa - Nat.pow 2 52)

theorem fields_finite (s : Sign) (mantissa : Nat) (exponent : Int) (hpos : 0 < mantissa) :
    fields (.finite s mantissa exponent hpos) =
      if mantissa < Nat.pow 2 52 then (0, mantissa)
      else ((exponent + 1075).toNat, mantissa - Nat.pow 2 52) := rfl

/-- The sign of a number with the given parts. -/
def sign : UnpackedFloat → Sign
  | .infinity s => s
  | .notANumber => .positive
  | .zero s => s
  | .finite s _ _ _ => s

variable {b b' : BitVec Format.binary64.numBits}

/-! The parts that bits are unpacked to, by the exponent field and the fraction field. -/

theorem unpack_infinity (hexponent : unpackExponent b = -1#11)
    (hmantissa : unpackMantissa b = 0#52) :
    unpack .binary64 b = .infinity (Sign.ofBitVec (unpackSign b)) :=
  (if_pos hexponent).trans (if_pos hmantissa)

theorem unpack_notANumber (hexponent : unpackExponent b = -1#11)
    (hmantissa : unpackMantissa b ≠ 0#52) : unpack .binary64 b = .notANumber :=
  (if_pos hexponent).trans (if_neg hmantissa)

theorem unpack_zero (hexponent : unpackExponent b = 0#11) (hmantissa : unpackMantissa b = 0#52) :
    unpack .binary64 b = .zero (Sign.ofBitVec (unpackSign b)) :=
  (if_neg (by rw [hexponent]; decide)).trans ((if_pos hexponent).trans (dif_pos hmantissa))

theorem unpack_subnormal (hexponent : unpackExponent b = 0#11)
    (hmantissa : unpackMantissa b ≠ 0#52) :
    ∃ exponent hpos, unpack .binary64 b =
      .finite (Sign.ofBitVec (unpackSign b)) (unpackMantissa b).toNat exponent hpos :=
  ⟨_, _, (if_neg (by rw [hexponent]; decide)).trans ((if_pos hexponent).trans (dif_neg hmantissa))⟩

theorem unpack_normal (hones : unpackExponent b ≠ -1#11) (hzero : unpackExponent b ≠ 0#11) :
    ∃ hpos, unpack .binary64 b =
      .finite (Sign.ofBitVec (unpackSign b)) (1#1 ++ unpackMantissa b).toNat
        ((unpackExponent b).toNat - (1023 + 52)) hpos :=
  ⟨_, (if_neg hones).trans (if_neg hzero)⟩

/-- **The fields are found again from the parts**, except for what is not a number. -/
theorem fields_unpack (h : unpack .binary64 b ≠ .notANumber) :
    sign (unpack .binary64 b) = Sign.ofBitVec (unpackSign b) ∧
      fields (unpack .binary64 b) = ((unpackExponent b).toNat, (unpackMantissa b).toNat) := by
  have hmantissa : (unpackMantissa b).toNat < Nat.pow 2 52 := (unpackMantissa b).isLt
  by_cases hones : unpackExponent b = -1#11
  · by_cases hfraction : unpackMantissa b = 0#52
    · rw [unpack_infinity hones hfraction, hones, hfraction]
      exact ⟨rfl, rfl⟩
    · exact absurd (unpack_notANumber hones hfraction) h
  · by_cases hzero : unpackExponent b = 0#11
    · by_cases hfraction : unpackMantissa b = 0#52
      · rw [unpack_zero hzero hfraction, hzero, hfraction]
        exact ⟨rfl, rfl⟩
      · obtain ⟨exponent, hpos, hparts⟩ := unpack_subnormal hzero hfraction
        rw [hparts, hzero, fields_finite, if_pos hmantissa]
        exact ⟨rfl, rfl⟩
    · obtain ⟨hpos, hparts⟩ := unpack_normal hones hzero
      -- the hidden bit is the highest one
      have hhidden : (1#1 ++ unpackMantissa b).toNat = Nat.pow 2 52 + (unpackMantissa b).toNat := by
        rw [BitVec.toNat_append, ← Nat.shiftLeft_add_eq_or_of_lt hmantissa]
        rfl
      have hexponent :
          ((unpackExponent b).toNat - (1023 + 52) + 1075 : Int).toNat =
            (unpackExponent b).toNat := by
        omega
      rw [hparts]
      refine ⟨rfl, ?_⟩
      rw [fields_finite, hhidden, if_neg (Nat.not_lt.mpr (Nat.le_add_right _ _)), hexponent,
        Nat.add_sub_cancel_left]

/-- Two patterns with the same three fields are the same. -/
theorem eq_of_fields (hsign : unpackSign b = unpackSign b')
    (hexponent : unpackExponent b = unpackExponent b')
    (hmantissa : unpackMantissa b = unpackMantissa b') : b = b' := by
  have hs : b.toNat >>> 63 % 2 = b'.toNat >>> 63 % 2 := congrArg BitVec.toNat hsign
  have he : b.toNat >>> 52 % 2048 = b'.toNat >>> 52 % 2048 := congrArg BitVec.toNat hexponent
  have hm : b.toNat >>> 0 % 2 ^ 52 = b'.toNat >>> 0 % 2 ^ 52 := congrArg BitVec.toNat hmantissa
  -- the three remainders are the digits of the pattern
  have hb : b.toNat < 2 ^ 64 := b.isLt
  have hb' : b'.toNat < 2 ^ 64 := b'.isLt
  apply BitVec.eq_of_toNat_eq
  omega

theorem eq_of_sign_eq {v w : BitVec 1} (h : Sign.ofBitVec v = Sign.ofBitVec w) : v = w := by
  by_cases hv : v = 0#1 <;> by_cases hw : w = 0#1
  · rw [hv, hw]
  · rw [Sign.ofBitVec, Sign.ofBitVec, if_pos hv, if_neg hw] at h
    cases h
  · rw [Sign.ofBitVec, Sign.ofBitVec, if_neg hv, if_pos hw] at h
    cases h
  · bv_omega

/-- What is not a number has one pattern. -/
theorem eq_packedNaN (hvalid : Format.binary64.Valid b) (h : unpack .binary64 b = .notANumber) :
    b = UnpackedFloat.packedNaN .binary64 := by
  by_cases hones : unpackExponent b = -1#11
  · -- only here is the pattern not told by the parts: a valid one is the packed one
    apply hvalid.eq_packedNaN hones
    intro hfraction
    cases (unpack_infinity hones hfraction).symm.trans h
  · by_cases hzero : unpackExponent b = 0#11
    · by_cases hfraction : unpackMantissa b = 0#52
      · cases (unpack_zero hzero hfraction).symm.trans h
      · obtain ⟨_, _, hparts⟩ := unpack_subnormal hzero hfraction
        cases hparts.symm.trans h
    · obtain ⟨_, hparts⟩ := unpack_normal hones hzero
      cases hparts.symm.trans h

/-- **The parts of a double tell which one it is.** -/
theorem eq_of_unpack_eq {x y : Float} (h : x.toModel.unpack = y.toModel.unpack) : x = y := by
  suffices hbits : x.toModel.toBits.toBitVec = y.toModel.toBits.toBitVec by
    obtain ⟨⟨⟨b⟩, hb⟩⟩ := x
    obtain ⟨⟨⟨b'⟩, hb'⟩⟩ := y
    cases hbits
    rfl
  change unpack .binary64 _ = unpack .binary64 _ at h
  by_cases hnan : unpack .binary64 y.toModel.toBits.toBitVec = .notANumber
  · -- there is one pattern for what is not a number
    rw [eq_packedNaN x.toModel.valid (h.trans hnan), eq_packedNaN y.toModel.valid hnan]
  · obtain ⟨hsign, hfields⟩ := fields_unpack (h ▸ hnan)
    obtain ⟨hsign', hfields'⟩ := fields_unpack hnan
    rw [h, hfields', Prod.mk.injEq] at hfields
    rw [h, hsign'] at hsign
    exact eq_of_fields (eq_of_sign_eq hsign.symm) (BitVec.eq_of_toNat_eq hfields.1.symm)
      (BitVec.eq_of_toNat_eq hfields.2.symm)

/-- The parts that compare as equal are the same, or those of zeros. -/
theorem eq_or_zeros_of_compare {u w : UnpackedFloat} (h : u.compare w = some .eq) :
    u = w ∨ ∃ s t, u = .zero s ∧ w = .zero t := by
  cases u with
  | notANumber => cases w <;> cases h
  | infinity s =>
    cases w with
    | infinity t => cases s <;> cases t <;> cases h <;> exact .inl rfl
    | notANumber | zero | finite => cases s <;> cases h
  | zero s =>
    cases w with
    | zero t => exact .inr ⟨s, t, rfl, rfl⟩
    | notANumber => cases h
    | infinity t => cases t <;> cases h
    | finite t => cases t <;> cases h
  | finite s m e =>
    cases w with
    | notANumber => cases s <;> cases h
    | infinity t => cases s <;> cases t <;> cases h
    | zero t => cases s <;> cases h
    | finite t m' e' =>
      left
      have hparts (hthen : ((compare e e').then (compare m m')) = .eq) : e = e' ∧ m = m' := by
        rw [Ordering.then_eq_eq] at hthen
        exact ⟨Std.LawfulEqOrd.eq_of_compare hthen.1, Std.LawfulEqOrd.eq_of_compare hthen.2⟩
      cases s <;> cases t
      case negative.negative =>
        obtain ⟨rfl, rfl⟩ := hparts (Ordering.swap_eq_eq.mp (Option.some.inj h))
        rfl
      case positive.positive =>
        obtain ⟨rfl, rfl⟩ := hparts (Option.some.inj h)
        rfl
      all_goals cases h

/-- **The doubles that compare as equal** are the same, or the two zeros. -/
theorem eq_or_zeros_of_beq {x y : Float} (h : (x == y) = true) :
    x = y ∨ (x = 0 ∧ y = -0) ∨ (x = -0 ∧ y = 0) := by
  have hcompare : x.toModel.unpack.compare y.toModel.unpack = some .eq := by
    exact beq_iff_eq.mp h
  have hzero {z : Float} {s : Sign} (hz : z.toModel.unpack = .zero s) : z = 0 ∨ z = -0 := by
    cases s with
    | positive => exact .inl (eq_of_unpack_eq hz)
    | negative => exact .inr (eq_of_unpack_eq hz)
  obtain heq | ⟨s, t, hx, hy⟩ := eq_or_zeros_of_compare hcompare
  · exact .inl (eq_of_unpack_eq heq)
  · rcases hzero hx with rfl | rfl <;> rcases hzero hy with rfl | rfl
    · exact .inl rfl
    · exact .inr (.inl ⟨rfl, rfl⟩)
    · exact .inr (.inr ⟨rfl, rfl⟩)
    · exact .inl rfl

end Lox.Decimal
