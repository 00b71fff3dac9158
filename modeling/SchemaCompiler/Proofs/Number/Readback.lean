import Mathlib.Tactic
import SchemaCompiler.Proofs.Number.Layout

/-!
The shortest decimal of a double reads back as that double.

The reals that round to a double form an interval, and the intervals of two doubles have no number
in common.  The shortest decimal is one that lies in the interval of its double, so its text tells
doubles apart.

* `Double.Readback.Holds`: a number lies in an interval;
* `Double.readback_disjoint`: two magnitudes with one number in their intervals are equal, because
  where two intervals touch one of the two is open;
* `Double.exists_onGrid`: among the decimals of seventeen digits one lies in the interval: their
  distance is less than the length of the interval;
* `Double.holds_shortest`: the shortest decimal lies in the interval;
* `Double.eq_of_amount_shortest_eq`: magnitudes with one shortest decimal are equal.
-/

namespace SchemaCompiler.Double

/-! ### Intervals -/

/-- A number, counted in quarter steps, lies in an interval. -/
def Readback.Holds (range : Readback) (q : ℚ) : Prop :=
  if range.closed then (range.low : ℚ) ≤ q ∧ q ≤ range.high else (range.low : ℚ) < q ∧ q < range.high

lemma Readback.contains_iff {range : Readback} {numerator denominator : ℕ} (pos : 0 < denominator) :
    range.contains numerator denominator = true ↔ range.Holds (numerator / denominator) := by
  have pos' : (0 : ℚ) < denominator := by exact_mod_cast pos
  rw [Readback.contains, Readback.Holds]
  split
  · simp only [Bool.and_eq_true, decide_eq_true_eq, le_div_iff₀ pos', div_le_iff₀ pos']
    exact_mod_cast Iff.rfl
  · simp only [Bool.and_eq_true, decide_eq_true_eq, lt_div_iff₀ pos', div_lt_iff₀ pos']
    exact_mod_cast Iff.rfl

lemma Readback.Holds.low_le {range : Readback} {q : ℚ} (h : range.Holds q) : (range.low : ℚ) ≤ q := by
  rw [Readback.Holds] at h
  split at h
  · exact h.1
  · exact h.1.le

lemma Readback.Holds.le_high {range : Readback} {q : ℚ} (h : range.Holds q) :
    q ≤ (range.high : ℚ) := by
  rw [Readback.Holds] at h
  split at h
  · exact h.2
  · exact h.2.le

/-- The ends belong to a closed interval only. -/
lemma Readback.Holds.closed_of_eq_low {range : Readback} (h : range.Holds range.low) :
    range.closed = true := by
  rw [Readback.Holds] at h
  split at h
  · assumption
  · exact absurd h.1 (lt_irrefl _)

lemma Readback.Holds.closed_of_eq_high {range : Readback} (h : range.Holds range.high) :
    range.closed = true := by
  rw [Readback.Holds] at h
  split at h
  · assumption
  · exact absurd h.2 (lt_irrefl _)

/-! ### Gaps -/

/-- The size of the gap above a magnitude. -/
def unit (steps : ℕ) : ℕ := 2 ^ gap steps

lemma unit_pos (steps : ℕ) : 0 < unit steps := by
  rw [unit]
  positivity

lemma lt_unit (steps : ℕ) : steps < 2 ^ 53 * unit steps := by
  have bits : steps.log2 + 1 ≤ 53 + gap steps := by
    rw [gap, precision]
    omega
  calc steps < 2 ^ (steps.log2 + 1) := Nat.lt_log2_self
    _ ≤ 2 ^ (53 + gap steps) := Nat.pow_le_pow_right (by decide) bits
    _ = 2 ^ 53 * unit steps := by rw [pow_add, unit]

/-- Above the least gap a magnitude has all of its bits. -/
lemma unit_le {steps : ℕ} (h : 0 < gap steps) : 2 ^ 52 * unit steps ≤ steps := by
  have bits : steps.log2 = 52 + gap steps := by
    rw [gap, precision] at h ⊢
    omega
  have nonzero : steps ≠ 0 := by
    rintro rfl
    simp [gap] at h
  calc 2 ^ 52 * unit steps = 2 ^ steps.log2 := by rw [bits, pow_add, unit]
    _ ≤ steps := Nat.log2_self_le nonzero

lemma gap_mono {a b : ℕ} (le : a ≤ b) : gap a ≤ gap b := by
  by_contra less
  have power : 2 * unit b ≤ unit a := by
    rw [unit, unit, ← pow_succ']
    exact Nat.pow_le_pow_right (by decide) (by omega)
  have above := @unit_le a (by omega)
  have below := lt_unit b
  omega

lemma Representable.dvd {steps : ℕ} (h : Representable steps) : unit steps ∣ steps :=
  Nat.dvd_of_mod_eq_zero h.2

/-- The gap below a magnitude that is a power of two is half the one above it. -/
def lowerHalf (steps : ℕ) : ℕ :=
  if steps = 2 ^ steps.log2 ∧ 0 < gap steps then unit steps else 2 * unit steps

lemma readback_eq (steps : ℕ) :
    readback steps =
      ⟨4 * steps - lowerHalf steps, 4 * steps + 2 * unit steps, steps / unit steps % 2 == 0⟩ := rfl

lemma lowerHalf_le (steps : ℕ) : lowerHalf steps ≤ 2 * unit steps := by
  rw [lowerHalf]
  split <;> omega

/-- Where the gap below is not halved, there is room for a whole gap above the power of two. -/
lemma lowerHalf_cases {steps : ℕ} (h : Representable steps) (big : 0 < gap steps) :
    lowerHalf steps = unit steps ∨ 2 ^ 52 * unit steps + unit steps ≤ steps := by
  by_cases power : steps = 2 ^ steps.log2
  · exact .inl (if_pos ⟨power, big⟩)
  · obtain ⟨n, hn⟩ := h.dvd
    have least := unit_le big
    have bits : steps.log2 = 52 + gap steps := by
      rw [gap, precision] at big ⊢
      omega
    have product : steps = n * unit steps := hn.trans (Nat.mul_comm _ _)
    have le : 2 ^ 52 ≤ n := Nat.le_of_mul_le_mul_right (least.trans product.le) (unit_pos steps)
    have ne : n ≠ 2 ^ 52 := by
      intro eq
      apply power
      rw [bits, pow_add, ← eq]
      exact product
    have above : 2 ^ 52 < n := Nat.lt_of_le_of_ne le ne.symm
    refine .inr ?_
    have room := Nat.mul_le_mul_right (unit steps) (Nat.succ_le_of_lt above)
    rw [Nat.succ_mul, ← product] at room
    exact room

/-- The intervals of two magnitudes touch at most, and then not both are closed. -/
lemma readback_apart {a b : ℕ} (ha : Representable a) (hb : Representable b) (lt : a < b) :
    (readback a).high ≤ (readback b).low ∧
      ((readback a).high = (readback b).low →
        ¬((readback a).closed = true ∧ (readback b).closed = true)) := by
  obtain ⟨m, hm⟩ := ha.dvd
  obtain ⟨n, hn⟩ := hb.dvd
  have upa := unit_pos a
  have upb := unit_pos b
  simp only [readback_eq, beq_iff_eq]
  rw [Nat.div_eq_of_eq_mul_right upa hm, Nat.div_eq_of_eq_mul_right upb hn]
  have half := lowerHalf_le b
  rcases (gap_mono lt.le).eq_or_lt with same | less
  · -- two magnitudes on one grid
    have units : unit b = unit a := by rw [unit, unit, same]
    rw [units] at hn half
    have order : m < n := by
      rw [hm, hn] at lt
      exact Nat.lt_of_mul_lt_mul_left lt
    rcases Nat.eq_or_lt_of_le order with next | further
    · have step : unit a * n = unit a * m + unit a := by rw [← next, Nat.mul_succ]
      omega
    · have step : unit a * m + 2 * unit a ≤ unit a * n := by
        calc unit a * m + 2 * unit a = unit a * (m + 2) := by ring
          _ ≤ unit a * n := Nat.mul_le_mul_left _ further
      omega
  · -- a power of two lies between the two grids
    obtain ⟨w, hw, le⟩ : ∃ w, unit b = 2 * w ∧ (w = unit a ∨ 2 * unit a ≤ w) := by
      obtain ⟨k, hk⟩ := Nat.exists_eq_add_of_lt less
      refine ⟨unit a * 2 ^ k, by rw [unit, unit, hk]; ring, ?_⟩
      cases k with
      | zero => exact .inl (by simp)
      | succ k =>
          have one : 1 ≤ 2 ^ k := Nat.one_le_two_pow
          refine .inr ?_
          calc 2 * unit a = unit a * 2 * 1 := by ring
            _ ≤ unit a * 2 * 2 ^ k := Nat.mul_le_mul_left _ one
            _ = unit a * 2 ^ (k + 1) := by ring
    have least := @unit_le b (by omega)
    have room := lowerHalf_cases hb (by omega)
    have order : m < 2 ^ 53 := by
      have bound := lt_unit a
      conv_lhs at bound => rw [hm]
      rw [Nat.mul_comm (2 ^ 53)] at bound
      exact Nat.lt_of_mul_lt_mul_left bound
    rcases Nat.eq_or_lt_of_le order with last | before
    · have top : unit a * m + unit a = unit a * 2 ^ 53 := by rw [← last, Nat.mul_succ]
      omega
    · have top : unit a * m + 2 * unit a ≤ unit a * 2 ^ 53 := by
        calc unit a * m + 2 * unit a = unit a * (m + 2) := by ring
          _ ≤ unit a * 2 ^ 53 := Nat.mul_le_mul_left _ before
      omega

/-- Two magnitudes with one number in their intervals are equal. -/
theorem readback_disjoint {a b : ℕ} (ha : Representable a) (hb : Representable b) {q : ℚ}
    (inA : (readback a).Holds q) (inB : (readback b).Holds q) : a = b := by
  wlog le : a ≤ b generalizing a b
  · exact (this hb ha inB inA (by omega)).symm
  rcases le.eq_or_lt with eq | lt
  · exact eq
  · exfalso
    obtain ⟨apart, open_⟩ := readback_apart ha hb lt
    have touch : (readback a).high = (readback b).low := by
      have := inB.low_le.trans inA.le_high
      exact le_antisymm apart (by exact_mod_cast this)
    have atHigh : q = (readback a).high := by
      refine le_antisymm inA.le_high ?_
      rw [touch]
      exact inB.low_le
    refine open_ touch ⟨?_, ?_⟩
    · rw [atHigh] at inA
      exact inA.closed_of_eq_high
    · rw [atHigh, touch] at inB
      exact inB.closed_of_eq_low

/-! ### The leading digit -/

lemma tenPower_pos (exponent : ℤ) : 0 < (tenPower exponent).2 := by
  rw [tenPower]
  split
  · exact Nat.one_pos
  · exact Nat.pos_of_ne_zero (pow_ne_zero _ (by norm_num))

lemma tenPower_eq (exponent : ℤ) :
    ((tenPower exponent).1 : ℚ) / (tenPower exponent).2 = 10 ^ exponent := by
  rw [tenPower]
  split
  · next nonneg =>
      lift exponent to ℕ using nonneg
      simp
  · next negative =>
      obtain ⟨n, rfl⟩ : ∃ n : ℕ, exponent = -n := ⟨exponent.natAbs, by omega⟩
      simp

/-- A power of two bounds the power of ten that its logarithm is estimated by, up to one digit. -/
lemma tenPower_le_twoPower {exponent log : ℤ} (least : -1074 ≤ log) (most : log ≤ 1023)
    (estimate : exponent * 100000 ≤ log * 30103) : (10 : ℚ) ^ (exponent - 1) ≤ 2 ^ log := by
  -- a fraction just below the logarithm serves above one, and one just above it serves below
  have scale : ∃ p q : ℕ, q ≠ 0 ∧ (exponent - 1) * q ≤ p * log ∧
      ((10 : ℚ) ^ p) ^ log ≤ (2 ^ q) ^ log := by
    rcases le_or_gt 0 log with nonneg | negative
    · refine ⟨59, 196, by norm_num, by push_cast; omega, ?_⟩
      lift log to ℕ using nonneg
      simp only [zpow_natCast]
      exact pow_le_pow_left₀ (by norm_num) (by norm_num) log
    · refine ⟨28, 93, by norm_num, by push_cast; omega, ?_⟩
      obtain ⟨n, rfl⟩ : ∃ n : ℕ, log = -n := ⟨log.natAbs, by omega⟩
      simp only [zpow_neg, zpow_natCast]
      refine inv_anti₀ (by positivity) (pow_le_pow_left₀ (by norm_num) (by norm_num) n)
  obtain ⟨p, q, nonzero, bound, powers⟩ := scale
  rw [← pow_le_pow_iff_left₀ (by positivity) (by positivity) nonzero]
  calc ((10 : ℚ) ^ (exponent - 1)) ^ q = 10 ^ ((exponent - 1) * q) := by
        rw [zpow_mul, zpow_natCast]
    _ ≤ 10 ^ (p * log) := zpow_le_zpow_right₀ (by norm_num) bound
    _ = ((10 : ℚ) ^ p) ^ log := by rw [zpow_mul, zpow_natCast]
    _ ≤ (2 ^ q) ^ log := powers
    _ = (2 ^ log) ^ q := by rw [← zpow_natCast, ← zpow_natCast, ← zpow_mul, ← zpow_mul, mul_comm]

lemma one_eq : (one : ℚ) = 2 ^ (1074 : ℤ) := by
  rw [one, Nat.pow_eq]
  push_cast
  exact (zpow_natCast _ _).symm

/-- The leading digit does not stand too high. -/
lemma tenPower_leading_le {steps : ℕ} (pos : steps ≠ 0) (lt : steps < limit) :
    (one : ℚ) * 10 ^ leading steps ≤ steps := by
  have atLeast : ∀ e : ℤ, one * (tenPower e).1 ≤ steps * (tenPower e).2 →
      (one : ℚ) * 10 ^ e ≤ steps := by
    intro e h
    have down : (0 : ℚ) < (tenPower e).2 := by exact_mod_cast tenPower_pos e
    rw [← tenPower_eq, ← mul_div_assoc, div_le_iff₀ down]
    exact_mod_cast h
  rw [leading]
  dsimp only
  split
  · next h => exact atLeast _ (of_decide_eq_true h)
  split
  · next h => exact atLeast _ (of_decide_eq_true h)
  · have log : steps.log2 < 2098 := (Nat.log2_lt pos).2 lt
    have power : (10 : ℚ) ^ (leadingEstimate steps - 1) ≤ 2 ^ ((steps.log2 : ℤ) - 1074) :=
      tenPower_le_twoPower (by omega) (by omega) (Int.ediv_mul_le _ (by norm_num))
    calc (one : ℚ) * 10 ^ (leadingEstimate steps - 1)
        ≤ one * 2 ^ ((steps.log2 : ℤ) - 1074) := mul_le_mul_of_nonneg_left power (Nat.cast_nonneg _)
      _ = 2 ^ steps.log2 := by
        rw [one_eq, ← zpow_add₀ (by norm_num), ← zpow_natCast]
        congr 1
        ring
      _ ≤ steps := by exact_mod_cast Nat.log2_self_le pos

/-! ### Grids of decimals -/

/-- The distance of the decimals with a given last digit, in quarter steps. -/
def spacing (exponent : ℤ) : ℚ := 4 * one * 10 ^ exponent

lemma one_pos : 0 < one := by
  rw [one]
  exact Nat.pow_pos (by decide)

lemma spacing_pos (exponent : ℤ) : 0 < spacing exponent := by
  have : (0 : ℚ) < one := by exact_mod_cast one_pos
  rw [spacing]
  positivity

/-- The decimal below a magnitude, by the number of its last digit. -/
def below (steps : ℕ) (exponent : ℤ) : ℕ :=
  4 * steps * (tenPower exponent).2 / (4 * one * (tenPower exponent).1)

lemma spacing_eq (exponent : ℤ) (n : ℕ) :
    ((n * (4 * one * (tenPower exponent).1) : ℕ) : ℚ) / (tenPower exponent).2 =
      n * spacing exponent := by
  rw [spacing, ← tenPower_eq]
  push_cast
  ring

/-- A magnitude lies between two neighbours of a grid. -/
lemma below_le_lt (steps : ℕ) (exponent : ℤ) :
    below steps exponent * spacing exponent ≤ 4 * steps ∧
      (4 * steps : ℚ) < (below steps exponent + 1 : ℕ) * spacing exponent := by
  have down : (0 : ℚ) < (tenPower exponent).2 := by exact_mod_cast tenPower_pos exponent
  have quarters : 0 < 4 * one * (tenPower exponent).1 := by
    have := spacing_pos exponent
    rw [spacing, ← tenPower_eq, ← mul_div_assoc, div_pos_iff_of_pos_right down] at this
    exact_mod_cast this
  rw [← spacing_eq, ← spacing_eq, div_le_iff₀ down, lt_div_iff₀ down]
  exact ⟨by exact_mod_cast Nat.div_mul_le_self _ _, by
    exact_mod_cast (Nat.div_lt_iff_lt_mul quarters).1 (Nat.lt_succ_self _)⟩

/-- What a grid yields lies in the interval, and it yields something if one of the two neighbours
does. -/
lemma onGrid_cases (steps : ℕ) (exponent : ℤ) :
    (∃ n, onGrid steps exponent = some n ∧ (readback steps).Holds (n * spacing exponent)) ∨
      (onGrid steps exponent = none ∧
        ¬(readback steps).Holds (below steps exponent * spacing exponent) ∧
        ¬(readback steps).Holds ((below steps exponent + 1 : ℕ) * spacing exponent)) := by
  have contains : ∀ n, (readback steps).contains (n * (4 * one * (tenPower exponent).1))
      (tenPower exponent).2 = true ↔ (readback steps).Holds (n * spacing exponent) := by
    intro n
    rw [Readback.contains_iff (tenPower_pos exponent), spacing_eq]
  simp only [← contains]
  rw [onGrid]
  dsimp only
  rw [← below]
  split
  · next lower upper =>
      refine .inl ?_
      split
      · exact ⟨_, rfl, lower⟩
      split
      · exact ⟨_, rfl, upper⟩
      · refine ⟨_, rfl, ?_⟩
        -- both neighbours are inside, so the even one is taken
        rcases Nat.mod_two_eq_zero_or_one (below steps exponent) with even | odd
        · rw [even]
          exact lower
        · rw [odd]
          exact upper
  · next lower _ => exact .inl ⟨_, rfl, lower⟩
  · next _ upper => exact .inl ⟨_, rfl, upper⟩
  · next lower upper =>
      refine .inr ⟨rfl, ?_, ?_⟩
      · rw [lower]
        decide
      · rw [upper]
        decide

lemma Readback.holds_of_between {range : Readback} {q : ℚ} (above : (range.low : ℚ) < q)
    (below : q < range.high) : range.Holds q := by
  rw [Readback.Holds]
  split
  · exact ⟨above.le, below.le⟩
  · exact ⟨above, below⟩

lemma unit_le_self {steps : ℕ} (nonzero : steps ≠ 0) : unit steps ≤ steps := by
  rcases Nat.eq_zero_or_pos (gap steps) with none | some
  · rw [unit, none]
    omega
  · have := unit_le some
    omega

lemma lowerHalf_pos (steps : ℕ) : 0 < lowerHalf steps := by
  have := unit_pos steps
  rw [lowerHalf]
  split <;> omega

/-- At seventeen digits the grid is finer than the interval is long. -/
lemma spacing_lt {steps : ℕ} (nonzero : steps ≠ 0) (lt : steps < limit) :
    spacing (leading steps - 16) < lowerHalf steps + 2 * unit steps := by
  have units : (0 : ℚ) < unit steps := by exact_mod_cast unit_pos steps
  have fine : spacing (leading steps - 16) ≤ 4 * steps / 10 ^ 16 := by
    have lead := tenPower_leading_le nonzero lt
    rw [spacing, zpow_sub₀ (by norm_num), zpow_ofNat, mul_div_assoc', mul_assoc]
    gcongr
  refine fine.trans_lt ?_
  by_cases power : steps = 2 ^ steps.log2 ∧ 0 < gap steps
  · have half : lowerHalf steps = unit steps := if_pos power
    have exact : (steps : ℚ) = 2 ^ 52 * unit steps := by
      have bits : steps.log2 = 52 + gap steps := by
        obtain ⟨-, big⟩ := power
        rw [gap, precision] at big ⊢
        omega
      have := power.1
      rw [bits, pow_add] at this
      exact_mod_cast this
    rw [half, exact]
    linarith
  · have whole : (lowerHalf steps : ℚ) = 2 * unit steps := by
      exact_mod_cast (if_neg power : lowerHalf steps = 2 * unit steps)
    have below : (steps : ℚ) < 2 ^ 53 * unit steps := by exact_mod_cast lt_unit steps
    rw [whole]
    linarith

/-- Of the decimals with seventeen digits one lies in the interval. -/
lemma exists_onGrid {steps : ℕ} (nonzero : steps ≠ 0) (lt : steps < limit) :
    ∃ n, onGrid steps (leading steps - 16) = some n ∧
      (readback steps).Holds (n * spacing (leading steps - 16)) := by
  refine (onGrid_cases steps (leading steps - 16)).resolve_right fun ⟨_, lower, upper⟩ => ?_
  obtain ⟨le, above⟩ := below_le_lt steps (leading steps - 16)
  have fine := spacing_lt nonzero lt
  generalize leading steps - 16 = exponent at *
  have units := unit_pos steps
  have low : (((readback steps).low : ℕ) : ℚ) = 4 * steps - lowerHalf steps := by
    have := lowerHalf_le steps
    have := unit_le_self nonzero
    rw [readback_eq, Nat.cast_sub (by omega)]
    push_cast
    ring
  have high : (((readback steps).high : ℕ) : ℚ) = 4 * steps + 2 * unit steps := by
    rw [readback_eq]
    push_cast
    ring
  have half : (0 : ℚ) < lowerHalf steps := by exact_mod_cast lowerHalf_pos steps
  have units : (0 : ℚ) < unit steps := by exact_mod_cast unit_pos steps
  -- the magnitude lies inside, so both neighbours lie outside only if they are far apart
  have tooLow : below steps exponent * spacing exponent ≤ (readback steps).low := by
    by_contra inside
    exact lower (Readback.holds_of_between (not_le.1 inside) (by linarith))
  have tooHigh : ((readback steps).high : ℚ) ≤ (below steps exponent + 1 : ℕ) * spacing exponent := by
    by_contra inside
    exact upper (Readback.holds_of_between (by linarith) (not_le.1 inside))
  push_cast at tooHigh
  linarith

/-! ### The shortest decimal -/

/-- The grids are tried up to the last of them, on which there is a decimal. -/
lemma firstGrid_holds {steps : ℕ} {lead : ℤ} {count tries : ℕ}
    (last : ∃ n, onGrid steps (lead - (count + tries : ℕ)) = some n) :
    (readback steps).Holds ((firstGrid steps lead count (tries + 1)).1 *
      spacing (firstGrid steps lead count (tries + 1)).2) := by
  induction tries generalizing count with
  | zero =>
      obtain ⟨n, found⟩ := last
      rw [Nat.add_zero] at found
      rcases onGrid_cases steps (lead - count) with ⟨m, eq, holds⟩ | ⟨none, -⟩
      · rw [firstGrid]
        simpa only [eq] using holds
      · rw [found] at none
        cases none
  | succ tries ih =>
      rw [firstGrid]
      rcases onGrid_cases steps (lead - count) with ⟨m, eq, holds⟩ | ⟨none, -⟩
      · simpa only [eq] using holds
      · simp only [none]
        refine ih ?_
        rwa [show count + 1 + tries = count + (tries + 1) by omega]

lemma stripZeros_eq (fuel n : ℕ) :
    (stripZeros fuel n).1 * 10 ^ (stripZeros fuel n).2 = n := by
  induction fuel generalizing n with
  | zero => simp [stripZeros]
  | succ fuel ih =>
      rw [stripZeros]
      split
      · next divisible =>
          have whole := Nat.div_add_mod n 10
          rw [divisible.2] at whole
          dsimp only
          rw [pow_succ, ← mul_assoc, ih]
          omega
      · simp

/-- The shortest decimal lies in the interval of its magnitude. -/
theorem holds_shortest {steps : ℕ} (nonzero : steps ≠ 0) (lt : steps < limit) :
    (readback steps).Holds (4 * one * (shortest steps).amount) := by
  obtain ⟨n, found, -⟩ := exists_onGrid nonzero lt
  have last : ∃ n, onGrid steps (leading steps - (0 + 16 : ℕ)) = some n := ⟨n, found⟩
  have holds := firstGrid_holds last
  have amount : (shortest steps).amount =
      (firstGrid steps (leading steps) 0 17).1 * 10 ^ (firstGrid steps (leading steps) 0 17).2 := by
    rw [shortest, if_neg nonzero]
    obtain ⟨n, exponent⟩ := firstGrid steps (leading steps) 0 17
    have digits := stripZeros_eq 17 n
    dsimp only
    rw [Decimal.amount, add_sub_cancel_right]
    conv_rhs => rw [← digits]
    rw [zpow_add₀ (by norm_num), zpow_natCast]
    push_cast
    ring
  rw [amount]
  convert holds using 1
  rw [spacing]
  ring

lemma amount_shortest_ne_zero {steps : ℕ} (nonzero : steps ≠ 0) (lt : steps < limit) :
    (shortest steps).amount ≠ 0 := by
  intro zero
  have low := (holds_shortest nonzero lt).low_le
  rw [zero, mul_zero, readback_eq] at low
  have := lowerHalf_le steps
  have := unit_le_self nonzero
  have : 4 * steps - lowerHalf steps ≤ 0 := by exact_mod_cast low
  omega

/-- Magnitudes with one shortest decimal are equal. -/
lemma eq_of_amount_shortest_eq {a b : ℕ} (ha : Representable a) (hb : Representable b)
    (eq : (shortest a).amount = (shortest b).amount) : a = b := by
  have zero : (shortest 0).amount = 0 := by simp [shortest, Decimal.amount]
  by_cases na : a = 0
  · by_cases nb : b = 0
    · rw [na, nb]
    · rw [na, zero] at eq
      exact absurd eq.symm (amount_shortest_ne_zero nb hb.1)
  · by_cases nb : b = 0
    · rw [nb, zero] at eq
      exact absurd eq (amount_shortest_ne_zero na ha.1)
    · have inA := holds_shortest na ha.1
      rw [eq] at inA
      exact readback_disjoint ha hb inA (holds_shortest nb hb.1)

end SchemaCompiler.Double
