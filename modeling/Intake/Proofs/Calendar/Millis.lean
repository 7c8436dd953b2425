import Intake.Calendar.Epoch
import Intake.Proofs.Calendar.Zone
import Intake.Proofs.Numeric.Error

/-!
# Milliseconds since the epoch

A number of milliseconds is divided to a binary number of seconds, which is then rounded to
microseconds: whole seconds are split off, and the rest is multiplied.  The division is off by up to
fifteen microseconds at the end of the calendar, so that a moment may miss its milliseconds.

## Main statements

* `Binary64.exists_fraction_eq` — the fraction of a number is exact.
* `secondsToMicros_spec` — the microseconds of a number of seconds.
* `secondsToMicros_near` — those of a number of milliseconds.
* `exists_ofEpochMillis?` — the moment so many milliseconds after the epoch.
-/

namespace Intake

/-! ## Whole parts and fractions -/

namespace Numeric.Binary64

theorem isFinite_of_units? {x : Binary64} {units : Int} (h : x.units? = some units) :
    x.isFinite = true := by
  cases x with
  | finite negative mantissa exponent canonical => rfl
  | infinite negative => cases h
  | nan payload => cases h

/-- What is left of a number without its whole part has no more bits than the number, and few of
them if the number is large. -/
theorem exists_fraction_bits {mantissa exponent : Nat} (h : mantissa < 2 ^ 53) :
    ∃ c bits : Nat, bits ≤ 1074 ∧ c < 2 ^ 53 ∧
      ((mantissa * 2 ^ exponent % unitsPerOne : Nat) / unitsPerOne : ℚ) =
        c / 2 ^ bits ∧
      (2 ^ 32 * unitsPerOne ≤ mantissa * 2 ^ exponent → c < 2 ^ 21) := by
  have hunits : (unitsPerOne : ℚ) ≠ 0 :=
    Nat.cast_ne_zero.mpr (Nat.ne_of_gt unitsPerOne_pos)
  rcases Nat.le_total exponent 1074 with hle | hle
  · have hone : unitsPerOne = 2 ^ (1074 - exponent) * 2 ^ exponent := by
      have := @unitsPerOne_eq_mul (1074 - exponent) (by omega)
      rwa [Nat.sub_sub_self hle] at this
    generalize hbits : 1074 - exponent = bits at hone
    have hpos := Nat.two_pow_pos exponent
    refine ⟨mantissa % 2 ^ bits, bits, by omega, Nat.lt_of_le_of_lt (Nat.mod_le _ _) h, ?_, ?_⟩
    · rw [hone, Nat.mul_mod_mul_right, Nat.cast_mul, Nat.cast_mul,
        mul_div_mul_right _ _ (Nat.cast_ne_zero.mpr (Nat.ne_of_gt hpos)), Nat.cast_pow,
        Nat.cast_ofNat]
    · intro hlarge
      rw [hone, ← Nat.mul_assoc] at hlarge
      have hlt : 2 ^ 32 * 2 ^ bits < 2 ^ 32 * 2 ^ 21 :=
        Nat.lt_of_le_of_lt (Nat.le_of_mul_le_mul_right hlarge hpos) h
      exact Nat.lt_trans (Nat.mod_lt _ (Nat.two_pow_pos bits)) (Nat.lt_of_mul_lt_mul_left hlt)
  · have hpow : ∀ units one : Nat, one = 2 ^ units → units ≤ exponent →
        mantissa * 2 ^ exponent % one = 0 := by
      intro units one hone hunits
      rw [hone]
      exact Nat.mod_eq_zero_of_dvd ((Nat.pow_dvd_pow 2 hunits).mul_left mantissa)
    rw [hpow 1074 _ unitsPerOne.eq_1 hle]
    exact ⟨0, 0, by decide, by decide, by rw [Nat.cast_zero, zero_div, zero_div],
      fun _ => by decide⟩

/-- What is left of a number without its whole part is exact. -/
theorem exists_fraction_eq (negative : Bool) {mantissa exponent : Nat}
    (canonical : Canonical mantissa exponent) :
    ∃ m e h, (finite negative mantissa exponent canonical).fraction =
      .finite negative m e h ∧ m * 2 ^ e = mantissa * 2 ^ exponent % unitsPerOne := by
  have hone : (0 : ℚ) < unitsPerOne := Nat.cast_pos.mpr unitsPerOne_pos
  obtain ⟨c, bits, hbits, hc, hvalue, -⟩ := @exists_fraction_bits mantissa exponent canonical.1
  have hnearest := nearest_ofRatio negative
    (mantissa * 2 ^ exponent % unitsPerOne) unitsPerOne_pos
  rw [hvalue] at hnearest
  obtain ⟨m, e, h, heq, hexact⟩ := hnearest.exists_finite_eq hc hbits
  rw [← hvalue, div_left_inj' (ne_of_gt hone)] at hexact
  exact ⟨m, e, h, heq, Nat.cast_injective hexact⟩

theorem withSign_add (negative : Bool) (m n : Nat) :
    withSign negative (m + n) =
      withSign negative m + withSign negative n := by
  cases negative
  · exact Int.natCast_add m n
  · simp only [withSign, if_true]
    omega

theorem withSign_mul (negative : Bool) (m n : Nat) :
    withSign negative (m * n) = withSign negative m * n := by
  cases negative
  · exact Int.natCast_mul m n
  · simp [withSign]

/-- The whole seconds of a number, and the rest. -/
theorem units_div_unitsPerOne (units : Nat) :
    (units / unitsPerOne : ℚ) = (units / unitsPerOne : Nat) +
      (units % unitsPerOne : Nat) / unitsPerOne := by
  have hone : (0 : ℚ) < unitsPerOne := Nat.cast_pos.mpr unitsPerOne_pos
  have hcast : (unitsPerOne * (units / unitsPerOne : Nat) +
      (units % unitsPerOne : Nat) : ℚ) = units := by
    exact_mod_cast Nat.div_add_mod units unitsPerOne
  rw [← hcast, add_div, mul_div_cancel_left₀ _ (ne_of_gt hone)]

end Numeric.Binary64

namespace Calendar

open Numeric (Binary64 Number NearestWhole signed)

/-! ## Seconds to microseconds -/

/-- The microseconds of a number of seconds: those of the whole seconds, and the nearest ones to a
product that is next to the rest, or is that if the number is large. -/
theorem secondsToMicros_spec (negative : Bool) {mantissa exponent units : Nat}
    (canonical : Numeric.Canonical mantissa exponent) (hunits : mantissa * 2 ^ exponent = units) :
    ∃ (k : Nat) (y : ℚ),
      secondsToMicros (.finite negative mantissa exponent canonical) =
        Binary64.withSign negative (units / Binary64.unitsPerOne * 1000000 + k) ∧
      NearestWhole y k ∧
      |y - (units % Binary64.unitsPerOne : Nat) / Binary64.unitsPerOne * 1000000| ≤ 1 / 2 ^ 34 ∧
      (2 ^ 32 * Binary64.unitsPerOne ≤ units →
        y = (units % Binary64.unitsPerOne : Nat) / Binary64.unitsPerOne * 1000000) := by
  have hone : (0 : ℚ) < Binary64.unitsPerOne := Nat.cast_pos.mpr Binary64.unitsPerOne_pos
  obtain ⟨c, bits, hbits, hc, hvalue, hlarge⟩ :=
    @Binary64.exists_fraction_bits mantissa exponent canonical.1
  obtain ⟨m, e, h, hfraction, hrest⟩ := Binary64.exists_fraction_eq negative canonical
  rw [hunits] at hvalue hlarge hrest
  have hlt : ((units % Binary64.unitsPerOne : Nat) / Binary64.unitsPerOne : ℚ) < 1 := by
    rw [div_lt_one hone]
    exact Nat.cast_lt.mpr (Nat.mod_lt _ Binary64.unitsPerOne_pos)
  have hnearest := Binary64.nearest_ofRatio (negative != false) (m * 2 ^ e * 1000000)
    (Nat.mul_pos Binary64.unitsPerOne_pos Nat.one_pos)
  have hproduct : ((m * 2 ^ e * 1000000 : Nat) / (Binary64.unitsPerOne * 1 : Nat) : ℚ) =
      (units % Binary64.unitsPerOne : Nat) / Binary64.unitsPerOne * 1000000 := by
    rw [hrest, Nat.mul_one, Nat.cast_mul, Nat.cast_ofNat, mul_div_right_comm]
  rw [hproduct] at hnearest
  obtain ⟨m', e', h', hscaled, herror⟩ := hnearest.exists_finite (k := 20) (by decide)
    (by linarith)
  refine ⟨Numeric.roundHalfEven (m' * 2 ^ e') Binary64.unitsPerOne, _, ?_,
    Numeric.nearestWhole_roundHalfEven _ Binary64.unitsPerOne_pos, ?_, ?_⟩
  · rw [secondsToMicros, hfraction, Binary64.scaleBy, hscaled, Binary64.withSign_add,
      Binary64.withSign_mul, Binary64.truncate, hunits, Binary64.nearestInt, Bool.bne_false]
    rfl
  · exact herror.trans (by norm_num)
  · intro hunits
    have hscale : (c / 2 ^ bits * 1000000 : ℚ) = (c * 1000000 : Nat) / 2 ^ bits := by
      rw [Nat.cast_mul, Nat.cast_ofNat, mul_div_right_comm]
    have hfew := hlarge hunits
    rw [hscaled, hvalue, hscale] at hnearest
    rw [hvalue, hscale]
    exact hnearest.eq_of_bits (by omega) hbits

/-! ## Milliseconds to seconds -/

/-- The seconds of a number of milliseconds are off by no more than the distance from the epoch
allows, and not at all if they are so many eighths. -/
theorem exists_millisToSeconds (negative : Bool) {n : Nat} (hn : n < 2 ^ 38 * 1000) :
    ∃ mantissa exponent canonical,
      Binary64.ofRatio negative n 1000 = .finite negative mantissa exponent canonical ∧
      |((mantissa * 2 ^ exponent : Nat) / Binary64.unitsPerOne - n / 1000 : ℚ)| ≤ 1 / 2 ^ 16 ∧
      (n < 2 ^ 33 * 1000 →
        |((mantissa * 2 ^ exponent : Nat) / Binary64.unitsPerOne - n / 1000 : ℚ)| ≤ 1 / 2 ^ 21) ∧
      (125 ∣ n → ((mantissa * 2 ^ exponent : Nat) / Binary64.unitsPerOne : ℚ) = n / 1000) := by
  have hnearest := Binary64.nearest_ofRatio negative n (by decide : 0 < 1000)
  rw [Nat.cast_ofNat] at hnearest
  have hseconds : ∀ {k : Nat}, n < 2 ^ k * 1000 → (n / 1000 : ℚ) < 2 ^ k := by
    intro k hlt
    rw [div_lt_iff₀ (by norm_num)]
    exact_mod_cast hlt
  obtain ⟨mantissa, exponent, canonical, heq, herror⟩ :=
    hnearest.exists_finite (by decide) (hseconds hn)
  rw [heq] at hnearest
  refine ⟨mantissa, exponent, canonical, heq, herror.trans (by norm_num), fun hlt => ?_, ?_⟩
  · exact (hnearest.abs_sub_le (by decide) (hseconds hlt)).trans (by norm_num)
  · rintro ⟨j, rfl⟩
    have hvalue : ((125 * j : Nat) / 1000 : ℚ) = j / 2 ^ 3 := by
      push_cast
      ring
    rw [hvalue] at hnearest ⊢
    exact hnearest.eq_of_bits (by omega) (by decide)

/-! ## Milliseconds to microseconds -/

section Near

variable {v x y : ℚ} {whole k n : Nat}

/-- Microseconds that are the nearest ones to a product are off by no more than the seconds are. -/
theorem micros_near (hv : v = whole + x) (hk : NearestWhole y k)
    (hy : |y - x * 1000000| ≤ 1 / 2 ^ 34) (herror : |v - n / 1000| ≤ 1 / 2 ^ 16) :
    whole * 1000000 + k ≤ 1000 * n + 15 ∧ 1000 * n ≤ whole * 1000000 + k + 15 := by
  have hbelow := hk.below
  have habove := hk.above
  rw [abs_le] at herror hy
  have hhigh : (whole * 1000000 + k : ℚ) < 1000 * n + 16 := by linarith
  have hlow : (1000 * n : ℚ) < whole * 1000000 + k + 16 := by linarith
  have hhigh : whole * 1000000 + k < 1000 * n + 16 := by exact_mod_cast hhigh
  have hlow : 1000 * n < whole * 1000000 + k + 16 := by exact_mod_cast hlow
  omega

/-- They are exact if the seconds are off by half a microsecond at most.  A product may be halfway
between two numbers only where it is exact; then the even one is taken, which whole milliseconds
are. -/
theorem micros_eq (hv : v = whole + x) (hk : NearestWhole y k)
    (hy : |y - x * 1000000| ≤ 1 / 2 ^ 34)
    (hclose : |v - n / 1000| ≤ 1 / 2 ^ 21 ∨ y = x * 1000000)
    (hhalf : |v - n / 1000| ≤ 1 / 2000000) : whole * 1000000 + k = 1000 * n := by
  have hbelow := hk.below
  have habove := hk.above
  rw [abs_le] at hhalf hy
  rcases hclose with hclose | rfl
  · rw [abs_le] at hclose
    refine Numeric.eq_of_cast_near ?_ ?_ <;> push_cast <;> linarith
  · rcases Nat.mod_two_eq_zero_or_one k with heven | hodd
    · have hhigh : (whole * 1000000 + k : ℚ) ≤ 1000 * n + 1 := by linarith
      have hlow : (1000 * n : ℚ) ≤ whole * 1000000 + k + 1 := by linarith
      have hhigh : whole * 1000000 + k ≤ 1000 * n + 1 := by exact_mod_cast hhigh
      have hlow : 1000 * n ≤ whole * 1000000 + k + 1 := by exact_mod_cast hlow
      omega
    · obtain ⟨hk, hk'⟩ := hk.odd hodd
      refine Numeric.eq_of_cast_near ?_ ?_ <;> push_cast <;> linarith

/-- Where they are exact, the seconds are off by half a microsecond at most. -/
theorem error_le_of_micros_eq (hv : v = whole + x) (hk : NearestWhole y k)
    (hclose : |v - n / 1000| ≤ 1 / 2 ^ 21 ∨ y = x * 1000000)
    (heq : whole * 1000000 + k = 1000 * n) : |v - n / 1000| ≤ 1 / 2000000 := by
  have hbelow := hk.below
  have habove := hk.above
  have hcast : (whole * 1000000 + k : ℚ) = 1000 * n := by exact_mod_cast heq
  rcases hclose with hclose | rfl
  · exact hclose.trans (by norm_num)
  · rw [abs_le]
    constructor <;> linarith

end Near

/-- The seconds of a number of milliseconds, and their microseconds. -/
theorem secondsToMicros_near (negative : Bool) {n : Nat} (hn : n < 2 ^ 38 * 1000) :
    ∃ units w : Nat, (Binary64.ofRatio negative n 1000).units? =
        some (Binary64.withSign negative units) ∧
      secondsToMicros (Binary64.ofRatio negative n 1000) = Binary64.withSign negative w ∧
      (w ≤ 1000 * n + 15 ∧ 1000 * n ≤ w + 15) ∧
      (w = 1000 * n ↔ |(units / Binary64.unitsPerOne - n / 1000 : ℚ)| ≤ 1 / 2000000) ∧
      (n < 2 ^ 33 * 1000 ∨ 125 ∣ n → w = 1000 * n) := by
  have hone : (0 : ℚ) < Binary64.unitsPerOne := Nat.cast_pos.mpr Binary64.unitsPerOne_pos
  obtain ⟨mantissa, exponent, canonical, heq, herror, hnear, heighth⟩ :=
    exists_millisToSeconds negative hn
  generalize hunits : mantissa * 2 ^ exponent = units at herror hnear heighth
  obtain ⟨k, y, hmicros, hk, hy, hlarge⟩ := secondsToMicros_spec negative canonical hunits
  have hsplit := Binary64.units_div_unitsPerOne units
  have hclose : |(units / Binary64.unitsPerOne - n / 1000 : ℚ)| ≤ 1 / 2 ^ 21 ∨
      y = (units % Binary64.unitsPerOne : Nat) / Binary64.unitsPerOne * 1000000 := by
    rcases Nat.lt_or_ge n (2 ^ 33 * 1000) with hlt | hge
    · exact .inl (hnear hlt)
    · have hfar : (2 ^ 33 * 1000 : ℚ) ≤ n := by exact_mod_cast hge
      rw [abs_le] at herror
      have hlow : (2 ^ 32 : ℚ) ≤ units / Binary64.unitsPerOne := by linarith
      refine .inr (hlarge ?_)
      rw [← @Nat.cast_le ℚ, Nat.cast_mul, Nat.cast_pow, Nat.cast_ofNat]
      exact (le_div_iff₀ hone).mp hlow
  have hexact := micros_eq hsplit hk hy hclose
  refine ⟨units, _, ?_, by rw [heq, hmicros], micros_near hsplit hk hy herror,
    ⟨error_le_of_micros_eq hsplit hk hclose, hexact⟩, ?_⟩
  · rw [heq, Binary64.units?, hunits]
  · rintro (hn | hdvd)
    · exact hexact ((hnear hn).trans (by norm_num))
    · refine hexact ?_
      rw [heighth hdvd, sub_self, abs_zero]
      norm_num

/-! ## Moments -/

/-- Microseconds with their sign are as far off as their magnitude. -/
theorem withSign_near {i : Int} {w : Nat}
    (h : w ≤ 1000 * i.natAbs + 15 ∧ 1000 * i.natAbs ≤ w + 15) :
    |Binary64.withSign (i < 0) w - 1000 * i| ≤ 15 ∧
      (Binary64.withSign (i < 0) w = 1000 * i ↔ w = 1000 * i.natAbs) := by
  rw [abs_le, Binary64.withSign]
  by_cases hi : i < 0
  · simp only [hi, decide_true, if_true]
    omega
  · simp only [hi, decide_false, Bool.false_eq_true, if_false]
    omega

/-- Seconds with their sign are as far off as their magnitude. -/
theorem abs_withSign_sub (i : Int) (units : Nat) :
    |(Binary64.withSign (i < 0) units / Binary64.unitsPerOne - i / 1000 : ℚ)| =
      |(units / Binary64.unitsPerOne - i.natAbs / 1000 : ℚ)| := by
  have hi : signed (i < 0) (i.natAbs / (1000 : Nat)) = i / (1000 : Nat) :=
    Numeric.signed_natAbs_div i 1000
  push_cast at hi
  rw [Binary64.cast_withSign, Numeric.signed_div, ← hi, Binary64.signed_sub]

/-- A number of milliseconds from the second year to the end of the calendar stands for a moment of
clocks that show universal time. -/
theorem exists_ofEpochMillis? {i : Int} (hlow : -62104060800000 ≤ i) (hhigh : i ≤ 253402300799999) :
    ∃ (m : Moment) (units : Int), ofEpochMillis? .utc (.int i) = some m ∧ m.offset = none ∧
      (millisToSeconds (.int i)).units? = some units ∧ |m.wall - 1000 * i| ≤ 15 ∧
      (m.wall = 1000 * i ↔ |(units / Binary64.unitsPerOne - i / 1000 : ℚ)| ≤ 1 / 2000000) ∧
      (|i| < 2 ^ 33 * 1000 ∨ (125 : Int) ∣ i → m.wall = 1000 * i) := by
  have hn : i.natAbs < 2 ^ 38 * 1000 := by omega
  obtain ⟨units, w, hunits, hmicros, hnear, hiff, hexact⟩ :=
    secondsToMicros_near (decide (i < 0)) hn
  have hwall := withSign_near hnear
  have hfinite : (millisToSeconds (.int i)).isFinite = true := Binary64.isFinite_of_units? hunits
  obtain ⟨m, hm, hmwall, hoffset⟩ : ∃ m,
      Zone.utc.moment? (Binary64.withSign (decide (i < 0)) w) = some m ∧
        m.wall = Binary64.withSign (decide (i < 0)) w ∧ m.offset = none := by
    have hnear := abs_le.mp hwall.1
    refine Zone.exists_utc_moment? ?_ ?_
    · rw [Moment.firstMicro, Moment.epochOrdinal, Moment.microsPerDay]
      omega
    · rw [Moment.endMicro, Day.lastOrdinal, Moment.epochOrdinal, Moment.microsPerDay]
      omega
  refine ⟨m, _, ?_, hoffset, hunits, ?_⟩
  · rw [ofEpochMillis?, if_pos hfinite, millisToSeconds, hmicros, hm]
  · rw [hmwall, hwall.2, abs_withSign_sub]
    refine ⟨hwall.1, hiff, fun h => hexact ?_⟩
    rw [Int.abs_eq_natAbs] at h
    omega

end Calendar

end Intake
