import Intake.Proofs.Numeric.Rounded
import Intake.Proofs.Numeric.Shortest
import Mathlib.Algebra.Order.Floor.Semifield
import Mathlib.Data.Rat.Floor

/-!
# Roundings keep the order

Numbers of all kinds stand on one line, and whatever rounds them keeps their order: the conversion
to a binary number, the cut of the decimal places, and the cut to significant digits.  The last two
go through decimals; the decimals of larger numbers are larger, on any grid, and so are the binary
numbers that are nearest to them.

## Main definitions

* `signed` — a magnitude with a sign.

## Main statements

* `Number.le_iff`, `Number.le_trans`, `Number.le_of_not_lt` — the order of numbers.
* `Binary64.Nearest.le` — the numbers nearest to quotients are in the order of the quotients.
* `Number.le_of_toBinary64?` — the conversion to a binary number keeps the order.
* `Binary64.roundPlaces_le`, `Binary64.roundSignificant_le` — so do the roundings to decimal digits.
-/

namespace Intake.Numeric

/-! ## The order of numbers -/

theorem Place.lt_or_eq_iff {p q : Place} : p.lt q = true ∨ p = q ↔ q.lt p = false := by
  cases p <;> cases q <;> simp [Place.lt, Int.le_iff_lt_or_eq]

namespace Number

variable {l m n : Number}

/-- A number is at most another if the other's place is not before its own. -/
theorem le_iff : m.le n = true ↔
    ∃ p q, m.place? = some p ∧ n.place? = some q ∧ q.lt p = false := by
  rw [le, lt, eq]
  cases m.place? with
  | none => simp
  | some p =>
    cases n.place? with
    | none => simp
    | some q => simp [← Place.lt_or_eq_iff]

theorem le_trans (hlm : l.le m = true) (hmn : m.le n = true) : l.le n = true := by
  obtain ⟨p, q, hp, hq, hpq⟩ := le_iff.mp hlm
  obtain ⟨q', r, hq', hr, hqr⟩ := le_iff.mp hmn
  obtain rfl : q = q' := Option.some.inj (hq.symm.trans hq')
  refine le_iff.mpr ⟨p, r, hp, hr, ?_⟩
  cases p <;> cases q <;> cases r <;> simp_all [Place.lt]
  omega

/-- Whatever is no not-a-number has a place. -/
theorem exists_place? (h : n.isNaN = false) : ∃ p, n.place? = some p := by
  obtain ⟨p, hp, -⟩ := eq_iff.mp (eq_self h)
  exact ⟨p, hp⟩

theorem isNaN_of_place? {p : Place} (h : n.place? = some p) : n.isNaN = false := by
  rcases n with n | x
  · rfl
  · cases x with
    | nan payload => cases h
    | infinite negative => rfl
    | finite negative mantissa exponent canonical => rfl

theorem isNaN_of_le (h : m.le n = true) : m.isNaN = false ∧ n.isNaN = false := by
  obtain ⟨p, q, hp, hq, -⟩ := le_iff.mp h
  exact ⟨isNaN_of_place? hp, isNaN_of_place? hq⟩

theorem le_of_not_lt (hm : m.isNaN = false) (hn : n.isNaN = false) (h : m.lt n = false) :
    n.le m = true := by
  obtain ⟨p, hp⟩ := exists_place? hm
  obtain ⟨q, hq⟩ := exists_place? hn
  rw [lt, hp, hq] at h
  exact le_iff.mpr ⟨q, p, hq, hp, h⟩

end Number

/-! ## Signs -/

/-- A magnitude with the sign of a number. -/
def signed (negative : Bool) (q : ℚ) : ℚ :=
  if negative then -q else q

theorem signed_natAbs (i : Int) : signed (i < 0) i.natAbs = i := by
  obtain ⟨k, rfl | rfl⟩ := i.eq_nat_or_neg
  · simp [signed]
  · rcases Nat.eq_zero_or_pos k with rfl | hk
    · simp [signed]
    · simp [signed, hk]

theorem signed_mul (negative : Bool) (p q : ℚ) :
    signed negative p * q = signed negative (p * q) := by
  cases negative
  · rfl
  · exact neg_mul p q

namespace Binary64

theorem cast_withSign (negative : Bool) (n : Nat) :
    (withSign negative n : ℚ) = signed negative n := by
  cases negative
  · exact Int.cast_natCast n
  · exact (Int.cast_neg _).trans (congrArg Neg.neg (Int.cast_natCast n))

/-- Magnitudes that are in one order, and vanish together, are in that order with their signs. -/
theorem signed_le_signed {a b : Bool} {m n : Nat} {p q : ℚ} (hp : 0 ≤ p) (hq : 0 ≤ q)
    (hle : m ≤ n → p ≤ q) (hge : n ≤ m → q ≤ p) (hm : m = 0 → p = 0) (hn : n = 0 → q = 0)
    (h : withSign a m ≤ withSign b n) : signed a p ≤ signed b q := by
  cases a <;> cases b <;> simp only [withSign, signed, Bool.false_eq_true, if_false, if_true] at h ⊢
  · exact hle (by omega)
  · rw [hm (by omega), hn (by omega), neg_zero]
  · linarith
  · have := hge (by omega)
    linarith

/-! ## Binary numbers by their magnitude -/

theorem tooLarge_pos : 0 < tooLarge := by
  unfold tooLarge
  exact Nat.two_pow_pos 2098

variable {a b : Bool} {m n : Nat} {x y : Binary64}

theorem HasMagnitude.isNaN (h : x.HasMagnitude a m) : (Number.float x).isNaN = false := by
  cases x with
  | nan payload => cases h
  | infinite sign => rfl
  | finite sign mantissa exponent canonical => rfl

/-- Finite numbers are in the order of their units. -/
theorem le_finite_iff {d e : Nat} {hm : Canonical m d} {hn : Canonical n e} :
    (Number.float (finite a m d hm)).le (.float (finite b n e hn)) = true ↔
      withSign a (m * 2 ^ d) ≤ withSign b (n * 2 ^ e) := by
  simp [Number.le_iff, Number.place?, place?, Place.lt]

theorem HasMagnitude.le (hx : x.HasMagnitude a m) (hy : y.HasMagnitude b n)
    (h : withSign a m ≤ withSign b n) : (Number.float x).le (.float y) = true := by
  rw [Number.le_iff]
  cases x with
  | nan payload => cases hx
  | infinite sign =>
    obtain ⟨rfl, hlarge⟩ := hx
    cases y with
    | nan payload => cases hy
    | infinite sign' =>
      obtain ⟨rfl, hlarge'⟩ := hy
      have htooLarge := tooLarge_pos
      generalize tooLarge = limit at hlarge hlarge' htooLarge
      cases sign <;> cases sign' <;> simp [Number.place?, place?, Place.lt, withSign] at h ⊢
      omega
    | finite sign' mantissa exponent canonical =>
      obtain ⟨rfl, rfl⟩ := hy
      have hlt := mul_two_pow_lt_tooLarge canonical
      generalize tooLarge = limit at hlarge hlt
      generalize mantissa * 2 ^ exponent = units at h hlt
      cases sign <;> simp [Number.place?, place?, Place.lt]
      cases sign' <;> simp [withSign] at h <;> omega
  | finite sign mantissa exponent canonical =>
    obtain ⟨rfl, rfl⟩ := hx
    have hlt := mul_two_pow_lt_tooLarge canonical
    cases y with
    | nan payload => cases hy
    | infinite sign' =>
      obtain ⟨rfl, hlarge⟩ := hy
      generalize tooLarge = limit at hlarge hlt
      generalize mantissa * 2 ^ exponent = units at h hlt
      cases sign' <;> simp [Number.place?, place?, Place.lt]
      cases sign <;> simp [withSign] at h <;> omega
    | finite sign' mantissa' exponent' canonical' =>
      obtain ⟨rfl, rfl⟩ := hy
      exact Number.le_iff.mp (le_finite_iff.mpr h)

namespace Nearest

variable {p q : ℚ}

theorem nonneg (h : x.Nearest a p) : 0 ≤ p := by
  obtain ⟨m, e, hrounds, -⟩ := h
  exact nonneg_of_mul_nonneg_left hrounds.nonneg (Nat.cast_pos.mpr unitsPerOne_pos)

theorem isNaN (h : x.Nearest a p) : (Number.float x).isNaN = false := by
  obtain ⟨m, e, -, hmagnitude⟩ := h
  exact hmagnitude.isNaN

/-- The numbers nearest to quotients are in the order of the quotients. -/
theorem le (hx : x.Nearest a p) (hy : y.Nearest b q) (h : signed a p ≤ signed b q) :
    (Number.float x).le (.float y) = true := by
  have hp := hx.nonneg
  have hq := hy.nonneg
  obtain ⟨m, d, hm, hx⟩ := hx
  obtain ⟨n, e, hn, hy⟩ := hy
  have hone : (0 : ℚ) ≤ unitsPerOne := Nat.cast_nonneg _
  refine hx.le hy ?_
  cases a <;> cases b <;> simp only [withSign, signed, Bool.false_eq_true, if_false, if_true] at h ⊢
  · exact Int.ofNat_le.mpr (hm.mono hn (mul_le_mul_of_nonneg_right h hone))
  · -- both quotients are zero, and so is what they are rounded to
    obtain rfl : p = 0 := by linarith
    obtain rfl : q = 0 := by linarith
    have hzero : (0 * unitsPerOne : ℚ) = (0 * 2 ^ 0 : Nat) := by
      rw [zero_mul, Nat.zero_mul, Nat.cast_zero]
    rw [hm.eq_of_multiple hzero (by decide), hn.eq_of_multiple hzero (by decide)]
    decide
  · omega
  · have := hn.mono hm (mul_le_mul_of_nonneg_right (by linarith : q ≤ p) hone)
    omega

end Nearest

/-! ## What binary numbers are nearest to -/

/-- A finite number is the nearest one to its own value. -/
theorem nearest_self (negative : Bool) {mantissa exponent : Nat}
    (canonical : Canonical mantissa exponent) :
    (finite negative mantissa exponent canonical).Nearest negative
      ((mantissa * 2 ^ exponent : Nat) / unitsPerOne) := by
  have hone : (unitsPerOne : ℚ) ≠ 0 := Nat.cast_ne_zero.mpr (Nat.ne_of_gt unitsPerOne_pos)
  refine ⟨mantissa, exponent, ?_, rfl, rfl⟩
  rw [div_mul_cancel₀ _ hone]
  have hpow := Rounds.two_pow_pos exponent
  obtain ⟨hlt, hbits, -⟩ := canonical
  refine ⟨Nat.cast_nonneg _, ?_, ?_, ?_⟩
  · refine hbits.symm.imp_right fun h => ?_
    exact_mod_cast Nat.mul_le_mul_right (2 ^ exponent) h
  · exact_mod_cast Nat.mul_lt_mul_of_pos_right hlt (Nat.two_pow_pos exponent)
  · have hvalue : ((mantissa * 2 ^ exponent : Nat) / 2 ^ exponent : ℚ) = mantissa := by
      push_cast
      exact mul_div_cancel_right₀ _ (ne_of_gt hpow)
    rw [hvalue]
    exact .self mantissa

/-- A finite number is the nearest one to its shortest decimal. -/
theorem nearest_shortestDecimal (negative : Bool) {mantissa exponent : Nat}
    (canonical : Canonical mantissa exponent) :
    (finite negative mantissa exponent canonical).Nearest negative
      (shortestDecimal negative mantissa exponent).magnitude := by
  by_cases hzero : mantissa = 0
  · obtain rfl : exponent = 0 := canonical.2.1.resolve_left (by omega)
    subst hzero
    have hmagnitude : (shortestDecimal negative 0 0).magnitude = 0 := by
      rw [shortestDecimal, if_pos rfl, Decimal.magnitude, Nat.cast_zero, zero_mul]
    rw [hmagnitude]
    exact nearest_zero negative le_rfl (by rw [zero_mul]; exact zero_le_one)
  · have hholds := holds_shortestDecimal negative canonical (Nat.pos_of_ne_zero hzero)
    have := nearest_ofDecimal (shortestDecimal negative mantissa exponent)
    rwa [ofDecimal_of_holds canonical hholds, negative_shortestDecimal] at this

end Binary64

/-! ## The conversion to a binary number -/

namespace Number

variable {m n : Number} {x y : Binary64}

/-- A number is infinite, or it is a quotient of which its conversion is the nearest number. -/
theorem exists_nearest_of_toBinary64? (h : n.toBinary64? = some x) (hn : n.isNaN = false) :
    (∃ sign, n = .float (.infinite sign) ∧ x = .infinite sign) ∨
      ∃ negative q units, x.Nearest negative q ∧ n.place? = some (.finite units) ∧
        (units : ℚ) = signed negative q * Binary64.unitsPerOne := by
  have hone : (Binary64.unitsPerOne : ℚ) ≠ 0 :=
    Nat.cast_ne_zero.mpr (Nat.ne_of_gt Binary64.unitsPerOne_pos)
  cases n with
  | int i =>
    rw [toBinary64?, Binary64.ofInt?] at h
    split at h
    · cases h
      refine .inr ⟨_, _, _, Binary64.nearest_ofRatio _ _ Nat.one_pos, place?_int i, ?_⟩
      rw [Int.cast_mul, Int.cast_natCast, Nat.cast_one, div_one, signed_natAbs]
    · cases h
  | float x =>
    cases h
    cases x with
    | nan payload => cases hn
    | infinite sign => exact .inl ⟨sign, rfl, rfl⟩
    | finite negative mantissa exponent canonical =>
      refine .inr ⟨_, _, _, Binary64.nearest_self negative canonical, rfl, ?_⟩
      rw [Binary64.cast_withSign, signed_mul, div_mul_cancel₀ _ hone]

/-- The conversion to a binary number keeps the order. -/
theorem le_of_toBinary64? (hx : m.toBinary64? = some x) (hy : n.toBinary64? = some y)
    (h : m.le n = true) : (Number.float x).le (.float y) = true := by
  obtain ⟨p, q, hp, hq, hlt⟩ := le_iff.mp h
  have hone : (0 : ℚ) < Binary64.unitsPerOne := Nat.cast_pos.mpr Binary64.unitsPerOne_pos
  rcases exists_nearest_of_toBinary64? hx (isNaN_of_place? hp) with
    ⟨sign, rfl, rfl⟩ | ⟨a, s, i, hs, hi, hi'⟩
  · rcases exists_nearest_of_toBinary64? hy (isNaN_of_place? hq) with
      ⟨sign', rfl, rfl⟩ | ⟨b, t, j, ht, hj, -⟩
    · exact h
    · obtain ⟨r, hr⟩ := exists_place? ht.isNaN
      cases sign
      · rw [hj] at hq
        cases hp
        cases hq
        cases hlt
      · exact le_iff.mpr ⟨.bottom, r, rfl, hr, by cases r <;> rfl⟩
  · rcases exists_nearest_of_toBinary64? hy (isNaN_of_place? hq) with
      ⟨sign', rfl, rfl⟩ | ⟨b, t, j, ht, hj, hj'⟩
    · obtain ⟨r, hr⟩ := exists_place? hs.isNaN
      cases sign'
      · exact le_iff.mpr ⟨r, .top, hr, rfl, by cases r <;> rfl⟩
      · rw [hi] at hp
        cases hp
        cases hq
        cases hlt
    · refine hs.le ht (le_of_mul_le_mul_right ?_ hone)
      obtain rfl := Option.some.inj (hp.symm.trans hi)
      obtain rfl := Option.some.inj (hq.symm.trans hj)
      rw [← hi', ← hj']
      exact Int.cast_le.mpr (by simpa [Place.lt] using hlt)

end Number

/-! ## Roundings of binary numbers -/

namespace Binary64

/-- A rounding of binary numbers keeps their order if it goes through magnitudes that are in the
order of theirs. -/
theorem le_of_magnitudes {f : Binary64 → Binary64} {target : Nat → Nat → ℚ}
    (hmono : ∀ m d n e, Canonical m d → Canonical n e → m * 2 ^ d ≤ n * 2 ^ e →
      target m d ≤ target n e)
    (hzero : target 0 0 = 0)
    (hfinite : ∀ negative m e canonical, (f (.finite negative m e canonical)).Nearest negative
      (target m e))
    (hinfinite : ∀ sign, f (.infinite sign) = .infinite sign) {x y : Binary64}
    (h : (Number.float x).le (.float y) = true) :
    (Number.float (f x)).le (.float (f y)) = true := by
  have hcanonical : Canonical 0 0 := by decide
  have hnonneg : ∀ {m e : Nat}, Canonical m e → 0 ≤ target m e := by
    intro m e hm
    rw [← hzero]
    exact hmono 0 0 m e hcanonical hm (by omega)
  have hvanish : ∀ {m e : Nat}, Canonical m e → m * 2 ^ e = 0 → target m e = 0 := by
    intro m e hm hunits
    obtain ⟨rfl, rfl⟩ := eq_of_units_eq hm hcanonical (hunits.trans (Nat.zero_mul _).symm)
    exact hzero
  cases x with
  | nan payload => simp [Number.le_iff, Number.place?, place?] at h
  | infinite sign =>
    cases y with
    | nan payload => simp [Number.le_iff, Number.place?, place?] at h
    | infinite sign' => rwa [hinfinite, hinfinite]
    | finite b n e canonical =>
      cases sign
      · simp [Number.le_iff, Number.place?, place?, Place.lt] at h
      · obtain ⟨r, hr⟩ := Number.exists_place? (hfinite b n e canonical).isNaN
        rw [hinfinite]
        exact Number.le_iff.mpr ⟨.bottom, r, rfl, hr, by cases r <;> rfl⟩
  | finite a m d canonical =>
    cases y with
    | nan payload => simp [Number.le_iff, Number.place?, place?] at h
    | infinite sign' =>
      cases sign'
      · obtain ⟨r, hr⟩ := Number.exists_place? (hfinite a m d canonical).isNaN
        rw [hinfinite]
        exact Number.le_iff.mpr ⟨r, .top, hr, rfl, by cases r <;> rfl⟩
      · simp [Number.le_iff, Number.place?, place?, Place.lt] at h
    | finite b n e canonical' =>
      exact (hfinite a m d canonical).le (hfinite b n e canonical')
        (signed_le_signed (hnonneg canonical) (hnonneg canonical')
          (hmono m d n e canonical canonical') (hmono n e m d canonical' canonical)
          (hvanish canonical) (hvanish canonical') (le_finite_iff.mp h))

/-! ### Decimal places -/

theorem magnitude_shortestDecimal (negative : Bool) (mantissa exponent : Nat) :
    (shortestDecimal negative mantissa exponent).magnitude =
      (shortestDecimal false mantissa exponent).magnitude := by
  rw [shortestDecimal, shortestDecimal]
  split
  · rfl
  · dsimp only
    rw [Decimal.magnitude_stripped, Decimal.magnitude_stripped]
    rfl

/-- The shortest decimals of numbers are in the order of the numbers. -/
theorem magnitude_shortestDecimal_le {m d n e : Nat} (hm : Canonical m d) (hn : Canonical n e)
    (h : m * 2 ^ d ≤ n * 2 ^ e) :
    (shortestDecimal false m d).magnitude ≤ (shortestDecimal false n e).magnitude := by
  by_contra hlt
  have hle := (nearest_shortestDecimal false hn).le (nearest_shortestDecimal false hm)
    (le_of_lt (lt_of_not_ge hlt))
  have hge : n * 2 ^ e ≤ m * 2 ^ d := Int.ofNat_le.mp (le_finite_iff.mp hle)
  obtain ⟨rfl, rfl⟩ := eq_of_units_eq hm hn (Nat.le_antisymm h hge)
  exact hlt le_rfl

/-- A quotient is rounded up from its half. -/
theorem roundHalfAway_eq_floor (num : Nat) {den : Nat} (hden : 0 < den) :
    roundHalfAway num den = ⌊(num / den + 1 / 2 : ℚ)⌋₊ := by
  have hden' : (den : ℚ) ≠ 0 := Nat.cast_ne_zero.mpr (Nat.ne_of_gt hden)
  have hvalue : (num / den + 1 / 2 : ℚ) = (2 * num + den : Nat) / (2 * den : Nat) := by
    push_cast
    field_simp
  rw [hvalue, Nat.floor_div_eq_div, roundHalfAway]

/-- A decimal is cut to a multiple of a power of ten by the floor above its half. -/
theorem roundHalfAway_powerRatio (d : Decimal) (power : Int) :
    roundHalfAway (powerRatio d.coefficient 1 (power - d.exponent)).1
        (powerRatio d.coefficient 1 (power - d.exponent)).2 =
      ⌊d.magnitude / 10 ^ power + 1 / 2⌋₊ := by
  have hvalue : d.magnitude / 10 ^ power =
      (powerRatio d.coefficient 1 (power - d.exponent)).1 /
      (powerRatio d.coefficient 1 (power - d.exponent)).2 := by
    rw [powerRatio_div, Nat.cast_one, div_one, zpow_sub₀ (by decide), Decimal.magnitude]
    field_simp
  rw [hvalue, roundHalfAway_eq_floor _ (powerRatio_pos _ Nat.one_pos _)]

/-- What is left of a magnitude that is rounded to decimal places. -/
def placesTarget (places : Int) (mantissa exponent : Nat) : ℚ :=
  ⌊(shortestDecimal false mantissa exponent).magnitude / 10 ^ (-places) + 1 / 2⌋₊ * 10 ^ (-places)

theorem nearest_roundPlaces (places : Int) (negative : Bool) {mantissa exponent : Nat}
    (canonical : Canonical mantissa exponent) :
    ((finite negative mantissa exponent canonical).roundPlaces places).Nearest negative
      (placesTarget places mantissa exponent) := by
  have hten : (0 : ℚ) < 10 ^ (-places) := zpow_pos (by decide) _
  rw [placesTarget, ← magnitude_shortestDecimal negative, roundPlaces, shortest?]
  dsimp only
  split
  · rename_i hle
    obtain ⟨k, hk⟩ := Int.le.dest hle
    have hgrid : (shortestDecimal negative mantissa exponent).magnitude / 10 ^ (-places) =
        ((shortestDecimal negative mantissa exponent).coefficient * 10 ^ k : Nat) := by
      rw [Decimal.magnitude, ← hk, zpow_add₀ (by decide), zpow_natCast]
      push_cast
      field_simp
    have hfloor : ∀ n : Nat, ⌊(n + 1 / 2 : ℚ)⌋₊ = n := by
      intro n
      rw [Nat.floor_eq_iff (by positivity)]
      constructor <;> linarith
    rw [hgrid, hfloor, ← hgrid, div_mul_cancel₀ _ (ne_of_gt hten)]
    exact nearest_shortestDecimal negative canonical
  · rw [← roundHalfAway_powerRatio, negative_shortestDecimal]
    exact nearest_ofDecimal ⟨negative, _, -places⟩

/-- Rounding to decimal places keeps the order. -/
theorem roundPlaces_le (places : Int) {x y : Binary64}
    (h : (Number.float x).le (.float y) = true) :
    (Number.float (x.roundPlaces places)).le (.float (y.roundPlaces places)) = true := by
  have hten : (0 : ℚ) < 10 ^ (-places) := zpow_pos (by decide) _
  refine @le_of_magnitudes (roundPlaces places) (placesTarget places) ?_ ?_
    (fun negative _ _ canonical => nearest_roundPlaces places negative canonical) (fun _ => rfl)
    x y h
  · intro m d n e hm hn hle
    have := magnitude_shortestDecimal_le hm hn hle
    rw [placesTarget, placesTarget]
    gcongr
  · have hfloor : ⌊(1 / 2 : ℚ)⌋₊ = 0 := Nat.floor_eq_zero.mpr (by norm_num)
    rw [placesTarget, shortestDecimal, if_pos rfl, Decimal.magnitude, Nat.cast_zero, zero_mul,
      zero_div, zero_add, hfloor, Nat.cast_zero, zero_mul]

/-! ### Significant digits -/

/-- The decimal point of a quotient stands behind its first digit. -/
theorem lt_zpow_decimalPoint {num den : Nat} (hnum : 0 < num) (hden : 0 < den) :
    (num / den : ℚ) < 10 ^ decimalPoint num den := by
  have hden' : (0 : ℚ) < den := Nat.cast_pos.mpr hden
  rw [div_lt_iff₀ hden', decimalPoint]
  split
  · generalize hk : (Text.digits (num / den)).length = k
    have hpow : num / den < 10 ^ k := by
      rw [← hk]
      exact (Nat.length_toDigits_le_iff (by decide) Nat.length_toDigits_pos).mp (Nat.le_refl _)
    have hmul := (Nat.div_lt_iff_lt_mul hden).mp hpow
    rw [zpow_natCast]
    exact_mod_cast hmul
  · obtain ⟨k, hk⟩ := Nat.exists_eq_add_one.mpr (@Nat.length_toDigits_pos 10 ((den - 1) / num))
    have hpow : num * 10 ^ k < den := by
      by_cases hzero : k = 0
      · rw [hzero]
        omega
      · have hle : 10 ^ k ≤ (den - 1) / num := by
          by_contra hlt
          have := (Nat.length_toDigits_le_iff (by decide) (by omega)).mpr (Nat.lt_of_not_le hlt)
          omega
        have := (Nat.le_div_iff_mul_le hnum).mp hle
        rw [Nat.mul_comm]
        omega
    have hexponent : 1 - ((k + 1 : Nat) : Int) = -(k : Int) := by omega
    rw [Text.digits, hk, hexponent, zpow_neg, zpow_natCast, ← div_eq_inv_mul,
      lt_div_iff₀ (by positivity)]
    exact_mod_cast hpow

/-- Quotients are rounded to significant digits in their order: a quotient with its point further to
the right is not rounded below the power of ten that leads it. -/
theorem nearestWhole_mul_zpow_le {s t : ℚ} {i j kept : Nat} {p q : Int} (hle : s ≤ t)
    (hi : NearestWhole (s / 10 ^ (p - (kept + 1 : Nat))) i)
    (hj : NearestWhole (t / 10 ^ (q - (kept + 1 : Nat))) j)
    (hs : 10 ^ (p - 1) ≤ s ∧ s < 10 ^ p) (ht : 10 ^ (q - 1) ≤ t ∧ t < 10 ^ q) :
    (i * 10 ^ (p - (kept + 1 : Nat)) : ℚ) ≤ j * 10 ^ (q - (kept + 1 : Nat)) := by
  have hten : ∀ k : Int, (0 : ℚ) < 10 ^ k := fun k => zpow_pos (by decide) k
  have hsplit : ∀ (n : Nat) (k : Int), ((10 ^ n : Nat) * 10 ^ (k - n) : ℚ) = 10 ^ k := by
    intro n k
    rw [Nat.cast_pow, ← zpow_natCast, Nat.cast_ofNat, ← zpow_add₀ (by decide)]
    congr 1
    omega
  rcases lt_trichotomy p q with hlt | rfl | hlt
  · have hhigh : i ≤ 10 ^ (kept + 1) := by
      refine hi.mono (.self _) ?_
      rw [div_le_iff₀ (hten _), hsplit]
      exact le_of_lt hs.2
    have hlow : 10 ^ kept ≤ j := by
      refine (NearestWhole.self _).mono hj ?_
      have hpoint : q - (kept + 1 : Nat) = q - 1 - kept := by omega
      rw [le_div_iff₀ (hten _), hpoint, hsplit]
      exact ht.1
    have hpoint : q - (kept + 1 : Nat) = q - 1 - kept := by omega
    calc (i * 10 ^ (p - (kept + 1 : Nat)) : ℚ)
      _ ≤ (10 ^ (kept + 1) : Nat) * 10 ^ (p - (kept + 1 : Nat)) :=
        mul_le_mul_of_nonneg_right (Nat.cast_le.mpr hhigh) (le_of_lt (hten _))
      _ = 10 ^ p := hsplit _ _
      _ ≤ 10 ^ (q - 1) := zpow_le_zpow_right₀ (by norm_num) (by omega)
      _ = (10 ^ kept : Nat) * 10 ^ (q - (kept + 1 : Nat)) := by rw [hpoint, hsplit]
      _ ≤ j * 10 ^ (q - (kept + 1 : Nat)) :=
        mul_le_mul_of_nonneg_right (Nat.cast_le.mpr hlow) (le_of_lt (hten _))
  · have := hi.mono hj (div_le_div_of_nonneg_right hle (le_of_lt (hten _)))
    exact mul_le_mul_of_nonneg_right (Nat.cast_le.mpr this) (le_of_lt (hten _))
  · have : (10 ^ q : ℚ) ≤ 10 ^ (p - 1) := zpow_le_zpow_right₀ (by norm_num) (by omega)
    linarith [hs.1, ht.2]

/-- What is left of a magnitude that is rounded to significant digits. -/
def significantTarget (count mantissa exponent : Nat) : ℚ :=
  if mantissa = 0 then 0
  else
    let num := mantissa * 2 ^ exponent
    let power := decimalPoint num unitsPerOne - (min count 1100 : Nat)
    let ratio := powerRatio num unitsPerOne power
    roundHalfEven ratio.1 ratio.2 * 10 ^ power

theorem nearest_roundSignificant (count : Nat) (negative : Bool) {mantissa exponent : Nat}
    (canonical : Canonical mantissa exponent) :
    ((finite negative mantissa exponent canonical).roundSignificant count).Nearest negative
      (significantTarget count mantissa exponent) := by
  rw [significantTarget, roundSignificant]
  split
  · rename_i hzero
    obtain rfl : exponent = 0 := canonical.2.1.resolve_left (by omega)
    subst hzero
    exact nearest_zero negative le_rfl (by rw [zero_mul]; exact zero_le_one)
  · dsimp only
    generalize decimalPoint (mantissa * 2 ^ exponent) unitsPerOne - (min count 1100 : Nat) = power
    generalize powerRatio (mantissa * 2 ^ exponent) unitsPerOne power = ratio
    exact nearest_ofDecimal ⟨negative, roundHalfEven ratio.1 ratio.2, power⟩

/-- A magnitude is rounded to the nearest multiple of the power of ten that leaves so many digits of
it. -/
theorem exists_significantTarget {count mantissa : Nat} (hpos : 0 < mantissa) (exponent : Nat) :
    ∃ (n : Nat) (point : Int),
      significantTarget count mantissa exponent = n * 10 ^ (point - (min count 1100 : Nat)) ∧
      NearestWhole ((mantissa * 2 ^ exponent : Nat) / unitsPerOne /
        10 ^ (point - (min count 1100 : Nat))) n ∧
      (10 ^ (point - 1) : ℚ) ≤ (mantissa * 2 ^ exponent : Nat) / unitsPerOne ∧
      ((mantissa * 2 ^ exponent : Nat) / unitsPerOne : ℚ) < 10 ^ point := by
  have hnum : 0 < mantissa * 2 ^ exponent := Nat.mul_pos hpos (Nat.two_pow_pos _)
  have hratio := powerRatio_pos (mantissa * 2 ^ exponent) unitsPerOne_pos
    (decimalPoint (mantissa * 2 ^ exponent) unitsPerOne - (min count 1100 : Nat))
  refine ⟨_, decimalPoint (mantissa * 2 ^ exponent) unitsPerOne,
    if_neg (Nat.ne_of_gt hpos), ?_, zpow_decimalPoint_le hnum unitsPerOne_pos,
    lt_zpow_decimalPoint hnum unitsPerOne_pos⟩
  rw [← powerRatio_div]
  exact nearestWhole_roundHalfEven _ hratio

/-- Rounding to significant digits keeps the order. -/
theorem roundSignificant_le {count : Nat} (hcount : 0 < count) {x y : Binary64}
    (h : (Number.float x).le (.float y) = true) :
    (Number.float (x.roundSignificant count)).le (.float (y.roundSignificant count)) = true := by
  refine @le_of_magnitudes (roundSignificant count) (significantTarget count) ?_ (if_pos rfl)
    (fun negative _ _ canonical => nearest_roundSignificant count negative canonical)
    (fun _ => rfl) x y h
  intro m d n e hm hn hle
  obtain ⟨kept, hkept⟩ := Nat.exists_eq_add_one.mpr (show 0 < min count 1100 by omega)
  rcases Nat.eq_zero_or_pos n with rfl | hnpos
  · have hzero : m = 0 := by
      have := Nat.two_pow_pos d
      rw [Nat.zero_mul] at hle
      exact (Nat.mul_eq_zero.mp (Nat.le_zero.mp hle)).resolve_right (by omega)
    rw [significantTarget, significantTarget, if_pos hzero, if_pos rfl]
  obtain ⟨j, q, htarget, hj, ht⟩ := @exists_significantTarget count n hnpos e
  rcases Nat.eq_zero_or_pos m with rfl | hmpos
  · rw [significantTarget, if_pos rfl, htarget]
    exact mul_nonneg (Nat.cast_nonneg _) (le_of_lt (zpow_pos (by decide) _))
  obtain ⟨i, p, htarget', hi, hs⟩ := @exists_significantTarget count m hmpos d
  have hvalue : ((m * 2 ^ d : Nat) / unitsPerOne : ℚ) ≤ (n * 2 ^ e : Nat) / unitsPerOne :=
    div_le_div_of_nonneg_right (Nat.cast_le.mpr hle) (Nat.cast_nonneg _)
  rw [hkept] at hi hj htarget htarget'
  rw [htarget, htarget']
  exact nearestWhole_mul_zpow_le hvalue hi hj hs ht

end Binary64

end Intake.Numeric
