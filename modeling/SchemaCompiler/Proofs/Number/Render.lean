import SchemaCompiler.Proofs.Number.Readback

/-!
The text of a double tells its value.

* `Double.value_eq_of_render_eq`: doubles that are written alike, in whatever style, have the same
  value; only the two zeros can share a text;
* `Double.numeric_render`, `Double.exists_render_eq_cons`: what the text is made of;
* `Double.value_ofInt`: an integer of at most fifty-three bits is a double, so that its text tells
  the integer.
-/

namespace SchemaCompiler.Double

/-! ### Texts -/

/-- Whether a double is written with a sign. -/
def Signed (style : DecimalStyle) (x : Double) : Prop :=
  x.negative = true ∧ (x.steps ≠ 0 ∨ style.signedZero = true)

lemma toList_render (style : DecimalStyle) (x : Double) :
    (Signed style x ∧ (x.render style).toList = '-' :: ((shortest x.steps).layout style).toList) ∨
      (¬Signed style x ∧ (x.render style).toList = ((shortest x.steps).layout style).toList) := by
  rw [render, Signed]
  split
  · next shown => exact .inl ⟨shown, by simp⟩
  · next hidden => exact .inr ⟨hidden, rfl⟩

lemma value_of_signed {style : DecimalStyle} {x : Double} (h : Signed style x) :
    x.value = -(x.steps : ℤ) := if_pos h.1

lemma value_of_not_signed {style : DecimalStyle} {x : Double} (h : ¬Signed style x) :
    x.value = x.steps := by
  rw [value]
  split
  · next negative =>
      have zero : x.steps = 0 := by
        by_contra nonzero
        exact h ⟨negative, .inl nonzero⟩
      simp [zero]
  · rfl

/-- Doubles that are written alike have the same value. -/
theorem value_eq_of_render_eq {style : DecimalStyle} {x y : Double}
    (eq : x.render style = y.render style) : x.value = y.value := by
  have steps : ((shortest x.steps).layout style).toList = ((shortest y.steps).layout style).toList →
      x.steps = y.steps := by
    intro layouts
    refine eq_of_amount_shortest_eq x.representable y.representable ?_
    rw [← Decimal.read_layout style, layouts, Decimal.read_layout]
  have apart : ∀ d e : Decimal, '-' :: (d.layout style).toList ≠ (e.layout style).toList := by
    intro d e same
    obtain ⟨c, rest, digits, digit⟩ := Decimal.exists_layout_eq_cons style e
    rw [digits] at same
    rw [← (List.cons_eq_cons.1 same).1] at digit
    cases digit
  rcases toList_render style x with ⟨sx, tx⟩ | ⟨sx, tx⟩ <;>
    rcases toList_render style y with ⟨sy, ty⟩ | ⟨sy, ty⟩ <;> rw [eq, ty] at tx
  · rw [value_of_signed sx, value_of_signed sy, steps (List.cons_eq_cons.1 tx).2.symm]
  · exact absurd tx.symm (apart _ _)
  · exact absurd tx (apart _ _)
  · rw [value_of_not_signed sx, value_of_not_signed sy, steps tx.symm]

lemma numeric_render (style : DecimalStyle) (x : Double) :
    ∀ c ∈ (x.render style).toList, Decimal.Numeric c := by
  have layout := Decimal.numeric_layout style (shortest x.steps)
  rcases toList_render style x with ⟨-, text⟩ | ⟨-, text⟩
  · rw [text]
    exact List.forall_mem_cons.2 ⟨.inr (by simp), layout⟩
  · rwa [text]

/-- A number begins with a sign or a digit. -/
lemma exists_render_eq_cons (style : DecimalStyle) (x : Double) :
    ∃ c rest, (x.render style).toList = c :: rest ∧ (c = '-' ∨ c.isDigit = true) := by
  rcases toList_render style x with ⟨-, text⟩ | ⟨-, text⟩
  · exact ⟨_, _, text, .inl rfl⟩
  · obtain ⟨c, rest, digits, digit⟩ := Decimal.exists_layout_eq_cons style (shortest x.steps)
    exact ⟨c, rest, text.trans digits, .inr digit⟩

/-! ### Integers -/

lemma roundQuotient_of_dvd {a b : ℕ} (pos : 0 < b) (dvd : b ∣ a) : roundQuotient a b = a / b := by
  have rest := Nat.mod_eq_zero_of_dvd dvd
  rw [roundQuotient]
  simp only [rest]
  rw [if_pos (by omega)]

/-- Nothing is rounded off a number of steps that lies on the grid of its gap. -/
lemma roundSteps_of_dvd {steps : ℕ} (dvd : unit steps ∣ steps) : roundSteps steps 1 = steps := by
  have quotient := roundQuotient_of_dvd (unit_pos steps) dvd
  rw [unit] at quotient dvd
  simp only [roundSteps, Nat.div_one, Nat.one_mul, Nat.pow_eq, quotient]
  exact Nat.div_mul_cancel dvd

/-- Integers of at most fifty-three bits are doubles. -/
theorem value_ofInt {n : ℤ} (small : n.natAbs < 2 ^ 53) : (ofInt n).value = n * one := by
  have bits : (n.natAbs * one).log2 < 1127 := by
    rcases Nat.eq_zero_or_pos n.natAbs with zero | pos
    · simp [zero]
    · refine (Nat.log2_lt (Nat.mul_pos pos one_pos).ne').2 ?_
      calc n.natAbs * one < 2 ^ 53 * one := Nat.mul_lt_mul_of_pos_right small one_pos
        _ = 2 ^ (53 + 1074) := by rw [pow_add, one, Nat.pow_eq]
  -- a small integer is on the grid of its magnitude, and stays as it is when it is rounded
  have onGrid : unit (n.natAbs * one) ∣ n.natAbs * one := by
    have le : gap (n.natAbs * one) ≤ 1074 := by
      rw [gap, precision]
      omega
    rw [unit]
    generalize gap (n.natAbs * one) = exponent at le
    rw [one, Nat.pow_eq]
    exact Dvd.dvd.mul_left (pow_dvd_pow 2 le) _
  have representable : Representable (n.natAbs * one) := by
    refine ⟨?_, Nat.mod_eq_zero_of_dvd onGrid⟩
    calc n.natAbs * one < 2 ^ ((n.natAbs * one).log2 + 1) := Nat.lt_log2_self
      _ ≤ 2 ^ 2098 := Nat.pow_le_pow_right (by decide) (by omega)
      _ = limit := by rw [limit, Nat.pow_eq]
  have found : nearest (decide (n < 0)) (n.natAbs * one) 1 =
      some ⟨decide (n < 0), n.natAbs * one, representable⟩ := by
    simp only [nearest, roundSteps_of_dvd onGrid]
    exact dif_pos representable
  rw [ofInt, found, Option.getD_some, value]
  by_cases negative : n < 0
  · simp only [negative, decide_true, if_true]
    push_cast
    rw [abs_of_neg negative]
    ring
  · simp only [negative, decide_false, Bool.false_eq_true, if_false]
    push_cast
    rw [abs_of_nonneg (not_lt.1 negative)]

end SchemaCompiler.Double
