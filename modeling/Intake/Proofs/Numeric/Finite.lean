import Intake.Proofs.Numeric.Places

/-!
# Between the largest numbers

The finite numbers are those from the largest one with a minus sign to the largest one, and no other
number lies between one of them and the next.  A rounding that keeps the order gives an infinity for
all numbers from some number on, or for none.  Rounding to decimal places gives none.  Of fifteen
significant digits there are too few for the largest number, which is rounded up to an infinity.

## Main definitions

* `Binary64.largest` — the largest finite number.
* `fifteenLimit` — what is not below this has no place in the format once it has fifteen digits.

## Main statements

* `Binary64.isFinite_of_between` — what lies between finite numbers is finite.
* `Binary64.isFinite_roundPlaces` — rounding to decimal places gives no infinity.
* `Binary64.isFinite_roundSignificant_iff` — where rounding to fifteen digits gives none.
-/

namespace Intake.Numeric.Binary64

variable {x y z : Binary64}

theorem exists_finite (h : x.isFinite = true) :
    ∃ negative mantissa exponent canonical, x = finite negative mantissa exponent canonical := by
  cases x with
  | nan payload => cases h
  | infinite negative => cases h
  | finite negative mantissa exponent canonical => exact ⟨_, _, _, canonical, rfl⟩

/-- What lies between finite numbers is finite. -/
theorem isFinite_of_between (hx : x.isFinite = true) (hz : z.isFinite = true)
    (hxy : (Number.float x).le (.float y) = true) (hyz : (Number.float y).le (.float z) = true) :
    y.isFinite = true := by
  obtain ⟨a, m, d, hm, rfl⟩ := exists_finite hx
  obtain ⟨b, n, e, hn, rfl⟩ := exists_finite hz
  cases y with
  | nan payload => exact hyz
  | infinite negative =>
    cases negative
    · simp [Number.le_iff, Number.place?, place?, Place.lt] at hyz
    · simp [Number.le_iff, Number.place?, place?, Place.lt] at hxy
  | finite negative mantissa exponent canonical => rfl

theorem isFinite_neg (x : Binary64) : x.neg.isFinite = x.isFinite := by
  cases x <;> rfl

/-- The largest finite number. -/
def largest : Binary64 :=
  .finite false (2 ^ 53 - 1) 2045 (by decide)

/-- The finite numbers are no larger than the largest, and with a minus sign no smaller. -/
theorem between_largest (hx : x.isFinite = true) :
    (Number.float largest.neg).le (.float x) = true ∧
      (Number.float x).le (.float largest) = true := by
  obtain ⟨negative, mantissa, exponent, canonical, rfl⟩ := exists_finite hx
  have hle : ∀ k, exponent ≤ k → mantissa * 2 ^ exponent ≤ (2 ^ 53 - 1) * 2 ^ k :=
    fun k hk => Nat.mul_le_mul (Nat.le_pred_of_lt canonical.1) (Nat.pow_le_pow_right (by decide) hk)
  have hle := hle 2045 canonical.2.2
  rw [largest, neg, le_finite_iff, le_finite_iff]
  generalize (2 ^ 53 - 1) * 2 ^ 2045 = limit at hle ⊢
  generalize mantissa * 2 ^ exponent = units at hle ⊢
  cases negative <;> simp only [withSign, Bool.not_false, Bool.false_eq_true, if_false, if_true] <;>
    omega

/-- The largest number has no decimal places. -/
theorem roundPlaces_largest {places : Int} (hplaces : 0 ≤ places) :
    largest.roundPlaces places = largest := by
  have hexponent : 0 ≤ (shortestDecimal false (2 ^ 53 - 1) 2045).exponent := by decide +kernel
  exact roundPlaces_of_le (by omega)

/-- Rounding to decimal places gives no infinity. -/
theorem isFinite_roundPlaces {places : Int} (hplaces : 0 ≤ places) (hx : x.isFinite = true) :
    (x.roundPlaces places).isFinite = true := by
  obtain ⟨hlow, hhigh⟩ := between_largest hx
  have hlow := roundPlaces_le places hlow
  have hhigh := roundPlaces_le places hhigh
  rw [roundPlaces_neg, roundPlaces_largest hplaces] at hlow
  rw [roundPlaces_largest hplaces] at hhigh
  exact isFinite_of_between rfl rfl hlow hhigh

/-! ## Fifteen digits -/

/-- Nothing lies beyond the infinity. -/
theorem eq_infinite_of_le (h : (Number.float (infinite false)).le (.float x) = true) :
    x = infinite false := by
  cases x with
  | nan payload => simp [Number.le_iff, Number.place?, place?] at h
  | infinite negative =>
    cases negative
    · rfl
    · simp [Number.le_iff, Number.place?, place?, Place.lt] at h
  | finite negative mantissa exponent canonical =>
    simp [Number.le_iff, Number.place?, place?, Place.lt] at h

theorem roundSignificant_neg (count : Nat) (x : Binary64) :
    x.neg.roundSignificant count = (x.roundSignificant count).neg := by
  cases x with
  | nan payload => rfl
  | infinite negative => rfl
  | finite negative mantissa exponent canonical =>
    rw [neg, roundSignificant, roundSignificant]
    split
    · rfl
    · dsimp only
      rw [neg_ofDecimal]

/-- No other number lies between a number with all bits and the next. -/
theorem succ_mul_le_of_lt {m n d e : Nat} (hm : Canonical m d) (hn : 2 ^ 52 ≤ n)
    (h : n * 2 ^ e < m * 2 ^ d) : (n + 1) * 2 ^ e ≤ m * 2 ^ d := by
  rcases Nat.lt_or_ge d e with hlt | hge
  · have hle : m * 2 ^ d ≤ n * 2 ^ e :=
      calc m * 2 ^ d
        _ ≤ 2 ^ 53 * 2 ^ d := Nat.mul_le_mul_right _ (le_of_lt hm.1)
        _ = 2 ^ 52 * 2 ^ (d + 1) := by ring
        _ ≤ n * 2 ^ e := Nat.mul_le_mul hn (Nat.pow_le_pow_right (by decide) hlt)
    exact absurd h (Nat.not_lt_of_le hle)
  · obtain ⟨k, rfl⟩ := Nat.exists_eq_add_of_le hge
    have hsplit : m * 2 ^ (e + k) = m * 2 ^ k * 2 ^ e := by ring
    rw [hsplit] at h ⊢
    exact Nat.mul_le_mul_right _ (Nat.lt_of_mul_lt_mul_right h)

/-- Halfway between the last finite number of fifteen digits and what follows it. -/
def fifteenLimit : Nat := 1797693134862315 * 10 ^ 293

/-- The last mantissa below the limit, at the highest exponent. -/
def lastMantissa : Nat := 2 ^ 53 - 5

/-- The last number below the limit. -/
def beforeLimit : Binary64 :=
  .finite false lastMantissa 2045 (by decide)

/-- The first number that is not below the limit. -/
def afterLimit : Binary64 :=
  .finite false (lastMantissa + 1) 2045 (by decide)

theorem fifteenLimit_between : lastMantissa * 2 ^ 2045 < fifteenLimit * unitsPerOne ∧
    fifteenLimit * unitsPerOne ≤ (lastMantissa + 1) * 2 ^ 2045 := by
  decide +kernel

/-- The numbers on either side of the limit are rounded to a finite number and to an infinity. -/
theorem roundSignificant_limits : (beforeLimit.roundSignificant 15).isFinite = true ∧
    afterLimit.roundSignificant 15 = .infinite false := by
  decide +kernel

/-- The magnitudes below the limit are those up to the last number below it. -/
theorem below_or_above_limit {mantissa exponent : Nat} (canonical : Canonical mantissa exponent) :
    mantissa * 2 ^ exponent < fifteenLimit * unitsPerOne ∧
        (Number.float (finite false mantissa exponent canonical)).le (.float beforeLimit) = true ∨
      fifteenLimit * unitsPerOne ≤ mantissa * 2 ^ exponent ∧
        (Number.float afterLimit).le
          (.float (finite false mantissa exponent canonical)) = true := by
  have hle : ∀ {m n d e : Nat} (hm : Canonical m d) (hn : Canonical n e), m * 2 ^ d ≤ n * 2 ^ e →
      (Number.float (finite false m d hm)).le (.float (finite false n e hn)) = true :=
    fun hm hn h => le_finite_iff.mpr (Int.ofNat_le.mpr h)
  have hnext := @succ_mul_le_of_lt mantissa lastMantissa exponent 2045 canonical (by decide)
  obtain ⟨hlow, hhigh⟩ := fifteenLimit_between
  rcases Nat.lt_or_ge (lastMantissa * 2 ^ 2045) (mantissa * 2 ^ exponent) with habove | hbelow
  · exact .inr ⟨Nat.le_trans hhigh (hnext habove), hle _ _ (hnext habove)⟩
  · exact .inl ⟨Nat.lt_of_le_of_lt hbelow hlow, hle _ _ hbelow⟩

/-- A magnitude is rounded to fifteen digits without an infinity if it is below the limit. -/
theorem isFinite_roundSignificant_false {mantissa exponent : Nat}
    (canonical : Canonical mantissa exponent) :
    ((finite false mantissa exponent canonical).roundSignificant 15).isFinite = true ↔
      mantissa * 2 ^ exponent < fifteenLimit * unitsPerOne := by
  have hzero : (Number.float (zero false)).le (.float (finite false mantissa exponent canonical)) =
      true := le_finite_iff.mpr (by simp [withSign])
  obtain ⟨hkept, hlost⟩ := roundSignificant_limits
  have hcount : 0 < 15 := by decide
  rcases below_or_above_limit canonical with ⟨hlt, hbelow⟩ | ⟨hle, habove⟩
  · exact iff_of_true (isFinite_of_between (x := zero false) rfl hkept
      (roundSignificant_le hcount hzero) (roundSignificant_le hcount hbelow)) hlt
  · have hround := roundSignificant_le hcount habove
    rw [hlost] at hround
    rw [eq_infinite_of_le hround]
    exact iff_of_false Bool.false_ne_true (Nat.not_lt_of_le hle)

/-- Rounding to fifteen digits gives no infinity between the limits, and beyond them it does. -/
theorem isFinite_roundSignificant_iff (x : Binary64) :
    (x.roundSignificant 15).isFinite = true ↔
      (Number.int (-fifteenLimit)).lt (.float x) = true ∧
        (Number.float x).lt (.int fifteenLimit) = true := by
  rw [Number.lt, Number.lt, Number.place?_int, Number.place?_int, Int.neg_mul, ← Int.natCast_mul]
  cases x with
  | nan payload =>
    generalize fifteenLimit * unitsPerOne = limit
    exact iff_of_false Bool.false_ne_true (fun h => Bool.false_ne_true h.1)
  | infinite negative =>
    generalize fifteenLimit * unitsPerOne = limit
    refine iff_of_false Bool.false_ne_true ?_
    cases negative
    · exact fun h => Bool.false_ne_true h.2
    · exact fun h => Bool.false_ne_true h.1
  | finite negative mantissa exponent canonical =>
    have hsign : ((finite negative mantissa exponent canonical).roundSignificant 15).isFinite =
        ((finite false mantissa exponent canonical).roundSignificant 15).isFinite := by
      cases negative
      · rfl
      · rw [← isFinite_neg, ← roundSignificant_neg]
        rfl
    have hplace : (Number.float (finite negative mantissa exponent canonical)).place? =
        some (.finite (withSign negative (mantissa * 2 ^ exponent))) := rfl
    rw [hsign, isFinite_roundSignificant_false, hplace]
    generalize fifteenLimit * unitsPerOne = limit
    generalize mantissa * 2 ^ exponent = units
    simp only [Place.lt, decide_eq_true_eq]
    cases negative <;> simp only [withSign, Bool.false_eq_true, if_false, if_true] <;> omega

end Intake.Numeric.Binary64
