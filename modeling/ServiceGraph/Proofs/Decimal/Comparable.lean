import Mathlib
import ServiceGraph.Annotation.Comment

/-!
Numbers that can be compared.

A floating-point number is `Comparable` unless it is no number at all. Of two comparable numbers one
is at most the other (`le_of_not_lt`), which is what turns the test "the lower bound does not exceed the
upper one" into an order.

Every number that is read from the text of a `@min` or `@max` tag is comparable (`number?_comparable`).
Nothing is needed about rounding for this: no operation on the way divides zero by zero or
multiplies zero with an infinity.
-/

namespace ServiceGraph.Decimal

open Float.Model hiding isNaN unpack pack mul div neg compare le ofScientific
open Float.Model.UnpackedFloat

/-! ## 1. Unpacked numbers -/

/-- Neither rounding nor an overflow makes a number no number. -/
theorem roundWithAccuracy_isNaN (spec : Format) (s : Sign) (m : Nat) (e : Int) (a : Accuracy) :
    (roundWithAccuracy spec s m e a).isNaN = false := by
  unfold roundWithAccuracy
  dsimp only
  split <;> rfl

theorem normalize_isNaN (spec : Format) (m : Int) (e : Int) (s : Sign) :
    (UnpackedFloat.normalize spec m e s).isNaN = false := by
  unfold UnpackedFloat.normalize
  split
  · exact roundWithAccuracy_isNaN _ _ _ _ _
  · rfl
  · exact roundWithAccuracy_isNaN _ _ _ _ _

/-- A factor that is positive and finite leaves a number a number. -/
theorem mul_finite_isNaN (spec : Format) {x : UnpackedFloat} (hx : x.isNaN = false) (s : Sign)
    (m : Nat) (e : Int) (hm : 0 < m) : (mul spec x (.finite s m e hm)).isNaN = false := by
  cases x with
  | notANumber => simp [isNaN] at hx
  | infinity s' => rfl
  | zero s' => rfl
  | finite s' m' e' hm' => exact roundWithAccuracy_isNaN _ _ _ _ _

theorem div_finite_isNaN (spec : Format) {x : UnpackedFloat} (hx : x.isNaN = false) (s : Sign)
    (m : Nat) (e : Int) (hm : 0 < m) : (div spec x (.finite s m e hm)).isNaN = false := by
  cases x with
  | notANumber => simp [isNaN] at hx
  | infinity s' => rfl
  | zero s' => rfl
  | finite s' m' e' hm' => exact roundWithAccuracy_isNaN _ _ _ _ _

theorem ofScientific_isNaN (spec : Format) (m : Nat) (e : Int) :
    (UnpackedFloat.ofScientific spec m e).isNaN = false := by
  unfold UnpackedFloat.ofScientific
  split
  · rfl
  · split
    · rfl
    · split
      · rfl
      · split
        · exact mul_finite_isNaN spec rfl _ _ _ _
        · exact div_finite_isNaN spec rfl _ _ _ _

theorem neg_isNaN (x : UnpackedFloat) : x.neg.isNaN = x.isNaN := by
  cases x <;> rfl

/-- A word whose exponent is not all ones is no infinity and not without a value. -/
theorem unpack_isNaN {spec : Format} {b : BitVec spec.numBits} (h : unpackExponent b ≠ -1#_) :
    (unpack spec b).isNaN = false := by
  unfold unpack
  dsimp only
  rw [if_neg h]
  split
  · split <;> rfl
  · rfl

/-- The word of a number is that of a number. -/
theorem unpack_pack_isNaN {spec : Format} {x : UnpackedFloat} (hx : x.isNaN = false) :
    (unpack spec (pack spec x)).isNaN = false := by
  have hinfinity : ∀ s, (unpack spec (packedInfinity spec s)).isNaN = false := by
    intro s
    simp [unpack, packedInfinity, isNaN]
  have he : 2 ≤ 2 ^ spec.exponentBits := by
    calc 2 = 2 ^ 1 := rfl
      _ ≤ 2 ^ spec.exponentBits := Nat.pow_le_pow_right (by omega) spec.he
  have hzero : BitVec.ofNat spec.exponentBits 0 ≠ -1#_ := by
    rw [BitVec.neg_one_eq_allOnes, ne_eq, ← BitVec.toNat_inj, BitVec.toNat_allOnes,
      BitVec.toNat_zero]
    omega
  cases x with
  | notANumber => simp [isNaN] at hx
  | infinity s => exact hinfinity s
  | zero s =>
    apply unpack_isNaN
    simpa [pack, packedZero] using hzero
  | finite s m e hm =>
    unfold pack
    dsimp only
    split
    · exact hinfinity s
    · rename_i hsmall
      split
      · apply unpack_isNaN
        rw [unpackExponent_packComponents, BitVec.neg_one_eq_allOnes, ne_eq, ← BitVec.toNat_inj,
          BitVec.toNat_allOnes, BitVec.toNat_ofNat, Nat.mod_eq_of_lt (by omega)]
        omega
      · apply unpack_isNaN
        rw [unpackExponent_packComponents]
        exact hzero

/-- Two orders of comparing two numbers mirror each other. -/
theorem compare_swap (x y : UnpackedFloat) : y.compare x = (x.compare y).map Ordering.swap := by
  have hint : ∀ a b : Int, compare b a = (compare a b).swap := fun a b =>
    (Int.compare_swap a b).symm
  have hnat : ∀ a b : Nat, compare b a = (compare a b).swap := fun a b =>
    (Nat.compare_swap a b).symm
  cases x with
  | notANumber => cases y <;> rfl
  | infinity s =>
    cases y with
    | infinity t => cases s <;> cases t <;> rfl
    | _ => cases s <;> rfl
  | zero s =>
    cases y with
    | infinity t => cases t <;> rfl
    | finite t m e h => cases t <;> rfl
    | _ => rfl
  | finite s m e h =>
    cases y with
    | notANumber => cases s <;> rfl
    | infinity t => cases s <;> cases t <;> rfl
    | zero t => cases s <;> rfl
    | finite t m' e' h' =>
      cases s <;> cases t <;>
        simp [UnpackedFloat.compare, hint e e', hnat m m', Ordering.swap_then]

theorem compare_isSome {x y : UnpackedFloat} (hx : x.isNaN = false) (hy : y.isNaN = false) :
    (x.compare y).isSome := by
  cases x with
  | notANumber => simp [isNaN] at hx
  | infinity s =>
    cases y with
    | notANumber => simp [isNaN] at hy
    | infinity t => rfl
    | _ => cases s <;> rfl
  | zero s =>
    cases y with
    | notANumber => simp [isNaN] at hy
    | infinity t => cases t <;> rfl
    | finite t m e h => cases t <;> rfl
    | zero t => rfl
  | finite s m e h =>
    cases y with
    | notANumber => simp [isNaN] at hy
    | infinity t => cases s <;> cases t <;> rfl
    | zero t => cases s <;> rfl
    | finite t m' e' h' => cases s <;> cases t <;> rfl

/-! ## 2. Comparable numbers -/

/-- A floating-point number that is not the one that stands for none. -/
def Comparable (x : Float) : Prop := x.isNaN = false

instance (x : Float) : Decidable (Comparable x) := inferInstanceAs (Decidable (_ = _))

/-- Of two comparable numbers the first is at most the second unless the second is less. -/
theorem le_of_not_lt {x y : Float} (hx : Comparable x) (hy : Comparable y) (h : ¬ y < x) :
    x ≤ y := by
  have hsome := compare_isSome (x := x.toModel.unpack) (y := y.toModel.unpack) hx hy
  have hlt : ¬ (y.toModel.unpack.compare x.toModel.unpack) = some .lt := by
    intro hc
    apply h
    change decide (y.toModel < x.toModel) = true
    rw [decide_eq_true_iff]
    change y.toModel.unpack.lt x.toModel.unpack = true
    simp [UnpackedFloat.lt, hc]
  change decide (x.toModel ≤ y.toModel) = true
  rw [decide_eq_true_iff]
  change x.toModel.unpack.le y.toModel.unpack = true
  rw [compare_swap] at hlt
  unfold UnpackedFloat.le
  cases hc : x.toModel.unpack.compare y.toModel.unpack with
  | none => simp [hc] at hsome
  | some o => cases o <;> simp_all

theorem comparable_ofModel_pack {x : UnpackedFloat} (hx : x.isNaN = false) :
    Comparable (.ofModel (Float.Model.pack x)) := by
  change (unpack Format.binary64 (UInt64.ofBitVec _).toBitVec).isNaN = false
  exact unpack_pack_isNaN hx

theorem comparable_neg {x : Float} (hx : Comparable x) : Comparable (-x) :=
  comparable_ofModel_pack (by rw [neg_isNaN]; exact hx)

theorem comparable_toFloat (n : UInt64) : Comparable n.toFloat :=
  comparable_ofModel_pack (normalize_isNaN _ _ _ _)

/-! ## 3. Numbers from texts -/

/-- The powers of ten of the short way are finite and not zero. -/
theorem exactPower_finite {e : Nat} (he : e < Float.exactlyRepresentablePowersOfTen.size) :
    ∃ s m k hm, (Float.exactlyRepresentablePowersOfTen[e]).toModel.unpack = .finite s m k hm := by
  have hall : Float.exactlyRepresentablePowersOfTen.toList.all
      (fun x => match x.toModel.unpack with
        | .finite _ _ _ _ => true
        | _ => false) = true := by
    decide +kernel
  have h := List.all_eq_true.mp hall _ (Array.getElem_mem_toList he)
  split at h
  · rename_i s m k hm heq
    exact ⟨s, m, k, hm, heq⟩
  · simp at h

theorem comparable_ofScientific (m : Nat) (s : Bool) (e : Nat) :
    Comparable (Float.ofScientific m s e) := by
  unfold Float.ofScientific
  split
  · rename_i h
    have hsize : e < Float.exactlyRepresentablePowersOfTen.size := by
      simp [Float.exactlyRepresentablePowersOfTen]
      omega
    obtain ⟨s', m', k', hm', hp⟩ := exactPower_finite hsize
    dsimp only
    split
    · apply comparable_ofModel_pack
      rw [hp]
      exact div_finite_isNaN _ (comparable_toFloat _) _ _ _ _
    · apply comparable_ofModel_pack
      rw [hp]
      exact mul_finite_isNaN _ (comparable_toFloat _) _ _ _ _
  · exact comparable_ofModel_pack (ofScientific_isNaN _ _ _)

theorem comparable_nearest (significand : Nat) (exponent : Int) :
    Comparable (nearest significand exponent) := by
  unfold nearest
  split
  · exact comparable_ofScientific 0 false 0
  · dsimp only
    split
    · exact comparable_ofScientific _ _ _
    · split
      · exact comparable_ofScientific 0 false 0
      · split <;> exact comparable_ofScientific _ _ _

end ServiceGraph.Decimal

namespace ServiceGraph

/-- The value of a `@min` or `@max` tag can be compared. -/
theorem Annotation.number?_comparable {value : List Char} {x : Float}
    (h : Annotation.number? value = some x) : Decimal.Comparable x := by
  unfold Annotation.number? at h
  cases hn : numericLiteral? value with
  | none => simp [hn] at h
  | some n =>
    simp only [hn, Option.bind_eq_bind, Option.bind_some] at h
    split at h
    · simp at h
    · have hx := Option.some.inj h
      subst hx
      split
      · exact Decimal.comparable_neg (Decimal.comparable_nearest _ _)
      · exact Decimal.comparable_nearest _ _

end ServiceGraph
