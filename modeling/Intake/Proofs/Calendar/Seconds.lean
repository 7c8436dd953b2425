import Intake.Calendar.Epoch
import Intake.Proofs.Calendar.Ordinal
import Intake.Proofs.Faults.Temporal
import Intake.Proofs.Numeric.Error

/-!
# Seconds since the epoch

Moments are ordered by their seconds, which are binary numbers.  With an offset they are rounded
once, without one twice, so that they may differ for one instant.  Where the clocks show universal
time, they never turn the order of instants round, and they tell instants apart that are not too
close for their distance from the epoch.

## Main definitions

* `Moment.Counts` — a binary number is nearest to a quotient that is next to an instant.
* `Moment.ToldApart` — two moments whose seconds are in the order of their instants.

## Main statements

* `Moment.exists_seconds` — what the seconds of a moment are nearest to.
* `Moment.Counts.le_of_lt` — the order of instants is never turned round.
* `Moment.ToldApart.seconds_lt_iff` — the seconds of moments that are told apart.
* `Moment.toldApart_of_near`, `Moment.toldApart_of_far` — which moments these are.
-/

namespace Intake.Calendar

open Numeric (Binary64 Number signed)

namespace Moment

variable {zone : Zone} {m a b : Moment} {x y : Binary64}

/-! ## What the seconds are nearest to -/

/-- A binary number is nearest to a quotient that is next to the seconds of an instant, and to these
themselves if the offset of the clock is known, or if the instant is so many 64ths of a second. -/
def Counts (m : Moment) (x : Binary64) : Prop :=
  ∃ negative q, x.Nearest negative q ∧
    |signed negative q - m.instant / 1000000| ≤ 1 / 2 ^ 54 ∧
    (m.offset.isSome = true ∨ (15625 : Int) ∣ m.instant →
      signed negative q = m.instant / 1000000)

/-- The microseconds of a second, as a binary fraction. -/
theorem exists_fraction (micros : Nat) (h : micros < 1000000) :
    ∃ units : Nat, (Binary64.ofRatio false micros 1000000).units? = some units ∧
      |(units / Binary64.unitsPerOne : ℚ) - micros / 1000000| ≤ 1 / 2 ^ 54 ∧
      (15625 ∣ micros → (units / Binary64.unitsPerOne : ℚ) = micros / 1000000) := by
  have hnearest := Binary64.nearest_ofRatio false micros (by decide : 0 < 1000000)
  push_cast at hnearest
  have hlt : (micros / 1000000 : ℚ) < 2 ^ 0 := by
    rw [pow_zero, div_lt_one (by norm_num)]
    exact_mod_cast h
  obtain ⟨mantissa, exponent, canonical, heq, herror⟩ := hnearest.exists_finite (by decide) hlt
  refine ⟨mantissa * 2 ^ exponent, by rw [heq]; rfl, by rwa [pow_zero] at herror, ?_⟩
  rintro ⟨j, rfl⟩
  have hvalue : ((15625 * j : Nat) / 1000000 : ℚ) = j / 2 ^ 6 := by
    push_cast
    ring
  rw [heq, hvalue] at hnearest
  rw [hvalue]
  exact hnearest.eq_of_bits (by omega) (by decide)

/-- What a clock shows in seconds: whole ones and a fraction. -/
theorem wall_div (m : Moment) :
    (m.wall / 1000000 : ℚ) = m.wallSecond + m.time.microsecond / 1000000 := by
  have hsplit : m.wall = 1000000 * m.wallSecond + m.time.microsecond := by
    rw [wallSecond, Int.fdiv_eq_ediv_of_nonneg _ (by decide), ← m.wall_emod]
    exact (Int.mul_ediv_add_emod m.wall 1000000).symm
  have hcast : (m.wall : ℚ) = 1000000 * m.wallSecond + m.time.microsecond := by
    exact_mod_cast hsplit
  rw [hcast, add_div, mul_div_cancel_left₀ _ (by norm_num)]

/-- What a clock shows as a binary number of seconds. -/
def wallSeconds (m : Moment) : Binary64 :=
  joinSeconds m.wallSecond m.time.microsecond

/-- What the seconds that a clock shows are nearest to: the sum of the whole seconds and the nearest
fraction. -/
theorem exists_nearest_wallSeconds (m : Moment) : ∃ negative q,
    m.wallSeconds.Nearest negative q ∧ |signed negative q - m.wall / 1000000| ≤ 1 / 2 ^ 54 ∧
      ((15625 : Int) ∣ m.wall → signed negative q = m.wall / 1000000) := by
  obtain ⟨part, hpart, herror, hexact⟩ := exists_fraction m.time.microsecond m.time.microsecond_lt
  have hseconds : m.wallSeconds = Binary64.ofRatio
      (m.wallSecond * Binary64.unitsPerOne + part < 0)
      (m.wallSecond * Binary64.unitsPerOne + part).natAbs Binary64.unitsPerOne := by
    rw [wallSeconds, joinSeconds, hpart]
    rfl
  have hone : (0 : ℚ) < Binary64.unitsPerOne := Nat.cast_pos.mpr Binary64.unitsPerOne_pos
  have hnearest := Binary64.nearest_ofRatio
    (m.wallSecond * Binary64.unitsPerOne + part < 0)
    (m.wallSecond * Binary64.unitsPerOne + part).natAbs Binary64.unitsPerOne_pos
  rw [← hseconds] at hnearest
  refine ⟨_, _, hnearest, ?_⟩
  rw [Numeric.signed_natAbs_div, Int.cast_add, Int.cast_mul, Int.cast_natCast, Int.cast_natCast,
    add_div, mul_div_cancel_right₀ _ (ne_of_gt hone), wall_div,
    add_sub_add_left_eq_sub]
  refine ⟨herror, fun hdvd => congrArg _ (hexact ?_)⟩
  have := m.wall_emod
  omega

/-- By clocks of universal time, a moment of theirs is at the second that it shows. -/
theorem seconds_utc (hoffset : m.offset = none) (h : ¬ m.Unplaced .utc) :
    m.seconds .utc = .ok m.wallSeconds := by
  have hfinds : Zone.utc.Finds m.wallSecond m.fold := by
    by_contra hnot
    exact h ⟨hoffset, hnot⟩
  have hsecond := Zone.secondOf_fixed hfinds
  rw [Int.sub_zero] at hsecond
  rw [seconds, hoffset]
  exact congrArg (· >>= fun whole => pure (joinSeconds whole m.time.microsecond)) hsecond

/-- What the seconds of a moment are nearest to. -/
theorem exists_seconds (h : ¬ m.Unplaced .utc) : ∃ x, m.seconds .utc = .ok x ∧ m.Counts x := by
  cases hoffset : m.offset with
  | some offset =>
    refine ⟨Binary64.ofRatio (m.instant < 0) m.instant.natAbs 1000000, ?_, _, _,
      Binary64.nearest_ofRatio _ _ (by decide), ?_⟩
    · rw [seconds, hoffset]
    · have hvalue : signed (m.instant < 0) (m.instant.natAbs / (1000000 : Nat)) =
          m.instant / 1000000 := by
        exact_mod_cast Numeric.signed_natAbs_div m.instant 1000000
      rw [hvalue, sub_self, abs_zero]
      exact ⟨by norm_num, fun _ => rfl⟩
  | none =>
    have hinstant : m.instant = m.wall := by rw [instant, hoffset]
    obtain ⟨negative, q, hnearest, herror, hexact⟩ := m.exists_nearest_wallSeconds
    refine ⟨m.wallSeconds, seconds_utc hoffset h, negative, q, hnearest, ?_⟩
    rw [hinstant, hoffset]
    exact ⟨herror, fun hcase => hexact (hcase.resolve_left (by decide))⟩

theorem not_unplaced_of_seconds (h : m.seconds zone = .ok x) : ¬ m.Unplaced zone := by
  rw [← exists_seconds_eq_error_iff, h]
  simp

theorem counts_of_seconds (h : m.seconds .utc = .ok x) : m.Counts x := by
  obtain ⟨y, hy, hcounts⟩ := exists_seconds (not_unplaced_of_seconds h)
  cases h.symm.trans hy
  exact hcounts

/-! ## Different instants -/

/-- No moment is further from the epoch than this. -/
theorem abs_instant_lt (m : Moment) : |m.instant| < 2 ^ 38 * 1000000 := by
  have hwall := m.wall_bounds
  rw [firstMicro, endMicro, epochOrdinal, Day.lastOrdinal, microsPerDay] at hwall
  rw [abs_lt, instant]
  split
  · omega
  · rename_i offset _
    have := offset.bounded
    omega

/-- The order of instants is never turned round. -/
theorem Counts.le_of_lt (hx : a.Counts x) (hy : b.Counts y) (h : a.instant < b.instant) :
    (Number.float x).le (.float y) = true := by
  obtain ⟨s, p, hx, hp, -⟩ := hx
  obtain ⟨t, q, hy, hq, -⟩ := hy
  refine hx.le hy ?_
  have hstep : (a.instant + 1 : ℚ) ≤ b.instant := by exact_mod_cast h
  rw [abs_le] at hp hq
  linarith

/-- The magnitude of the seconds of a moment. -/
theorem lt_two_pow_of_abs_sub_le {negative : Bool} {q : ℚ} {i : Int} {k : Nat}
    (hq : |signed negative q - i / 1000000| ≤ 1 / 2 ^ 54) (hi : |i| < 2 ^ k * 1000000) :
    q < 2 ^ k := by
  have hstep : ((|i| + 1 : Int) : ℚ) ≤ ((2 ^ k * 1000000 : Int) : ℚ) := Int.cast_le.mpr hi
  push_cast at hstep
  have hsigned : q ≤ |signed negative q| := by
    cases negative
    · exact le_abs_self q
    · exact (le_abs_self q).trans (abs_neg q).ge
  have htriangle := abs_sub_abs_le_abs_sub (signed negative q) (i / 1000000)
  rw [abs_div, abs_of_pos (by norm_num : (0 : ℚ) < 1000000)] at htriangle
  linarith

/-- Instants stay apart that are further apart than the seconds are off. -/
theorem Counts.lt_of_apart {k : Nat} (hx : a.Counts x) (hy : b.Counts y)
    (ha : |a.instant| < 2 ^ k * 1000000) (hb : |b.instant| < 2 ^ k * 1000000) (hk : k ≤ 1000)
    (h : (2 ^ k + 1) * 1000000 < 2 ^ 53 * (b.instant - a.instant)) :
    (Number.float x).lt (.float y) = true := by
  obtain ⟨s, p, hx, hp, -⟩ := hx
  obtain ⟨t, q, hy, hq, -⟩ := hy
  refine hx.lt_of_error_lt hy hk (lt_two_pow_of_abs_sub_le hp ha)
    (lt_two_pow_of_abs_sub_le hq hb) ?_
  have hgap : ((2 ^ k + 1) * 1000000 : ℚ) < 2 ^ 53 * (b.instant - a.instant) := by exact_mod_cast h
  rw [abs_le] at hp hq
  generalize (2 ^ k : ℚ) = limit at hgap ⊢
  linarith

/-! ## One instant -/

theorem wallSeconds_congr (h : a.wall = b.wall) : a.wallSeconds = b.wallSeconds := by
  have hmicrosecond : a.time.microsecond = b.time.microsecond := by
    have := a.wall_emod
    have := b.wall_emod
    omega
  simp only [wallSeconds, wallSecond, h, hmicrosecond]

/-- Where the offsets are known, or unknown, of both, the seconds of one instant are the same. -/
theorem seconds_eq_of_same (hx : a.seconds .utc = .ok x) (hy : b.seconds .utc = .ok y)
    (hinstant : a.instant = b.instant) (hoffset : a.offset.isSome = b.offset.isSome) : x = y := by
  cases ha : a.offset with
  | some offset =>
    cases hb : b.offset with
    | none => simp [ha, hb] at hoffset
    | some offset' =>
      rw [seconds, ha] at hx
      rw [seconds, hb] at hy
      cases hx
      cases hy
      rw [hinstant]
  | none =>
    cases hb : b.offset with
    | some offset => simp [ha, hb] at hoffset
    | none =>
      have hwall : a.wall = b.wall := by
        rw [instant, instant, ha, hb] at hinstant
        exact hinstant
      rw [seconds_utc ha (not_unplaced_of_seconds hx)] at hx
      rw [seconds_utc hb (not_unplaced_of_seconds hy)] at hy
      rw [← Except.ok.inj hx, ← Except.ok.inj hy, wallSeconds_congr hwall]

/-- Far from the epoch the seconds have the sign of the instant. -/
theorem Counts.exists_magnitude (hx : a.Counts x) (h : 1000000 ≤ |a.instant|) :
    ∃ q, x.Nearest (a.instant < 0) q ∧ |q - a.instant.natAbs / 1000000| ≤ 1 / 2 ^ 54 := by
  obtain ⟨negative, q, hnearest, herror, -⟩ := hx
  have hvalue := Numeric.signed_natAbs_div a.instant 1000000
  have hnonneg := hnearest.nonneg
  have hfar : (1 : ℚ) ≤ a.instant.natAbs / 1000000 := by
    rw [le_div_iff₀ (by norm_num), one_mul]
    rw [Int.abs_eq_natAbs] at h
    exact_mod_cast h
  push_cast at hvalue
  rw [← hvalue] at herror
  have hsign : negative = decide (a.instant < 0) := by
    generalize decide (a.instant < 0) = sign at herror
    generalize (a.instant.natAbs / 1000000 : ℚ) = r at hfar herror
    rw [abs_le] at herror
    cases negative <;> cases sign <;> simp only [signed, if_true, if_false, Bool.false_eq_true]
      at herror ⊢ <;> linarith
  subst hsign
  rw [Numeric.Binary64.signed_sub] at herror
  exact ⟨q, hnearest, herror⟩

/-- No multiple of the 40th part of a second is as close to an instant as its seconds, other than
the instant itself. -/
theorem no_multiple_near {n c : Nat} {p q : ℚ} (hn : ¬ 15625 ∣ n)
    (hp : |p - n / 1000000| ≤ 1 / 2 ^ 54) (hq : |q - n / 1000000| ≤ 1 / 2 ^ 54) :
    ¬ (p * 2 ^ 40 ≤ c ∧ c ≤ q * 2 ^ 40) := by
  rintro ⟨hlow, hhigh⟩
  rw [abs_le] at hp hq
  have hequal : 15625 * c = n * 2 ^ 34 := by
    refine Numeric.eq_of_cast_near ?_ ?_
    · push_cast
      linarith
    · push_cast
      linarith
  have hcoprime : Nat.Coprime 15625 (2 ^ 34) := by decide +kernel
  exact hn (hcoprime.dvd_of_dvd_mul_right ⟨c, hequal.symm⟩)

/-- The seconds of one instant are the same if that is a 64th of a second, or far from the epoch. -/
theorem Counts.le_of_instant_eq (hx : a.Counts x) (hy : b.Counts y)
    (hinstant : a.instant = b.instant)
    (h : (15625 : Int) ∣ a.instant ∨ 8192000000 ≤ |a.instant|) :
    (Number.float x).le (.float y) = true := by
  by_cases hdvd : (15625 : Int) ∣ a.instant
  · obtain ⟨s, p, hx, -, hp⟩ := hx
    obtain ⟨t, q, hy, -, hq⟩ := hy
    refine hx.le hy (le_of_eq ?_)
    rw [hp (.inr hdvd), hq (.inr (hinstant ▸ hdvd)), hinstant]
  · have hfar := h.resolve_left hdvd
    have hsecond : 1000000 ≤ |a.instant| := le_trans (by decide) hfar
    obtain ⟨p, hx, hp⟩ := hx.exists_magnitude hsecond
    obtain ⟨q, hy, hq⟩ := hy.exists_magnitude (hinstant ▸ hsecond)
    rw [← hinstant] at hy hq
    rw [Int.abs_eq_natAbs] at hfar
    generalize a.instant = i at *
    have hn : ¬ 15625 ∣ i.natAbs := by omega
    have hlarge : (8192000001 : ℚ) ≤ i.natAbs := by
      have : 8192000001 ≤ i.natAbs := by omega
      exact_mod_cast this
    have hmin : ∀ r : ℚ, |r - i.natAbs / 1000000| ≤ 1 / 2 ^ 54 → 2 ^ 53 ≤ r * 2 ^ 40 := by
      intro r hr
      rw [abs_le] at hr
      linarith
    rcases le_total p q with hle | hle
    · exact (Binary64.Nearest.le_of_no_multiple (by decide) hx hy hle (hmin p hp)
        fun c => no_multiple_near hn hp hq).1
    · exact (Binary64.Nearest.le_of_no_multiple (by decide) hy hx hle (hmin q hq)
        fun c => no_multiple_near hn hq hp).2

/-! ## Moments that are told apart -/

/-- Moments whose seconds are in the order of their instants.  Different instants are further apart
than the 53rd bit of the seconds; equal ones are rounded alike. -/
structure ToldApart (a b : Moment) : Prop where
  apart : a.instant ≠ b.instant → ∃ k : Nat, |a.instant| < 2 ^ k * 1000000 ∧
    |b.instant| < 2 ^ k * 1000000 ∧ (2 ^ k + 1) * 1000000 < 2 ^ 53 * |a.instant - b.instant|
  alike : a.instant = b.instant → a.offset.isSome = b.offset.isSome ∨
    (15625 : Int) ∣ a.instant ∨ 8192000000 ≤ |a.instant|

theorem ToldApart.symm (h : ToldApart a b) : ToldApart b a where
  apart := by
    intro hne
    obtain ⟨k, ha, hb, hgap⟩ := h.apart hne.symm
    exact ⟨k, hb, ha, by rwa [abs_sub_comm]⟩
  alike := by
    intro heq
    rw [heq, eq_comm]
    exact h.alike heq.symm

/-- Different instants within 272 years of the epoch are told apart. -/
theorem toldApart_of_near (ha : |a.instant| < 2 ^ 33 * 1000000)
    (hb : |b.instant| < 2 ^ 33 * 1000000) (h : a.instant ≠ b.instant) : ToldApart a b where
  apart := fun hne => by
    have hgap := abs_pos.mpr (sub_ne_zero.mpr hne)
    exact ⟨33, ha, hb, by omega⟩
  alike := fun heq => absurd heq h

/-- Instants are told apart if there are more than thirty microseconds between them. -/
theorem toldApart_of_far (h : 30 < |a.instant - b.instant|) : ToldApart a b where
  apart := fun _ => ⟨38, a.abs_instant_lt, b.abs_instant_lt, by omega⟩
  alike := fun heq => by
    rw [heq, sub_self, abs_zero] at h
    exact absurd h (by decide)

/-- Moments that are told apart are in the order of their instants. -/
theorem ToldApart.lt_seconds (h : ToldApart a b) (hx : a.Counts x) (hy : b.Counts y)
    (hlt : a.instant < b.instant) : (Number.float x).lt (.float y) = true := by
  obtain ⟨k, ha, hb, hgap⟩ := h.apart (Int.ne_of_lt hlt)
  rw [abs_sub_comm, abs_of_pos (Int.sub_pos_of_lt hlt)] at hgap
  rcases Nat.le_total k 38 with hk | hk
  · exact hx.lt_of_apart hy ha hb (hk.trans (by decide)) hgap
  · refine hx.lt_of_apart hy a.abs_instant_lt b.abs_instant_lt (by decide) (lt_of_le_of_lt ?_ hgap)
    have : (2 : Int) ^ 38 ≤ 2 ^ k := pow_le_pow_right₀ (by decide) hk
    omega

/-- The seconds of one instant are the same if the moments are told apart. -/
theorem ToldApart.le_seconds (h : ToldApart a b) (hx : a.seconds .utc = .ok x)
    (hy : b.seconds .utc = .ok y) (heq : a.instant = b.instant) :
    (Number.float x).le (.float y) = true := by
  rcases h.alike heq with hoffset | hfar
  · obtain rfl := seconds_eq_of_same hx hy heq hoffset
    obtain ⟨negative, q, hnearest, -⟩ := counts_of_seconds hx
    exact hnearest.le hnearest le_rfl
  · exact (counts_of_seconds hx).le_of_instant_eq (counts_of_seconds hy) heq hfar

/-- Of two moments that are told apart, one has less seconds if its instant is before the other. -/
theorem ToldApart.seconds_lt_iff (h : ToldApart a b) (hx : a.seconds .utc = .ok x)
    (hy : b.seconds .utc = .ok y) :
    (Number.float x).lt (.float y) = true ↔ a.instant < b.instant := by
  refine ⟨fun hlt => ?_, h.lt_seconds (counts_of_seconds hx) (counts_of_seconds hy)⟩
  by_contra hnot
  have hle : (Number.float y).le (.float x) = true := by
    rcases Int.lt_or_eq_of_le (Int.not_lt.mp hnot) with hbelow | heq
    · exact (counts_of_seconds hy).le_of_lt (counts_of_seconds hx) hbelow
    · exact h.symm.le_seconds hy hx heq
  rw [Number.lt_eq_false_of_le hle] at hlt
  cases hlt

end Moment

end Intake.Calendar
