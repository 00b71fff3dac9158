import Mathlib.Data.List.TakeWhile
import Mathlib.Tactic
import SchemaCompiler.Number.Shortest

/-!
The number that a decimal text denotes.

Whatever style a decimal is laid out in, its text can be read again without knowing the style.  So
two decimals with one text stand for one number.

* `Decimal.amount`: the number that a decimal stands for;
* `Decimal.read`: the number that a text denotes, from its digits, its point and its exponent;
* `Decimal.read_layout`: reading undoes the layout of every style;
* `Decimal.numeric_layout`: the characters that a layout is made of.
-/

namespace SchemaCompiler.Decimal

/-- The number that a decimal stands for. -/
def amount (d : Decimal) : ℚ := d.digits * 10 ^ (d.point - (Nat.toDigits 10 d.digits).length)

/-! ### Reading -/

/-- The number that digits with at most one point among them denote. -/
def readPositional (cs : List Char) : ℚ :=
  let whole := cs.takeWhile (· ≠ '.')
  let fraction := (cs.dropWhile (· ≠ '.')).tail
  Nat.ofDigitChars 10 (whole ++ fraction) 0 * 10 ^ (-(fraction.length : ℤ))

/-- The number that a text denotes: digits, and an exponent with its sign if there is one. -/
def read (cs : List Char) : ℚ :=
  let mantissa := readPositional (cs.takeWhile (· ≠ 'e'))
  match (cs.dropWhile (· ≠ 'e')).tail with
  | '-' :: exponent => mantissa * 10 ^ (-(Nat.ofDigitChars 10 exponent 0 : ℤ))
  | '+' :: exponent => mantissa * 10 ^ (Nat.ofDigitChars 10 exponent 0 : ℤ)
  | _ => mantissa

/-- Digits alone. -/
def IsDigits (cs : List Char) : Prop := ∀ c ∈ cs, c.isDigit = true

lemma isDigits_toDigits (n : ℕ) : IsDigits (Nat.toDigits 10 n) :=
  fun _ h => Nat.isDigit_of_mem_toDigits (by decide) (by decide) h

lemma isDigits_zeros (n : ℕ) : IsDigits (List.replicate n '0') := by
  intro c h
  rw [List.eq_of_mem_replicate h]
  rfl

lemma IsDigits.append {cs ds : List Char} (hc : IsDigits cs) (hd : IsDigits ds) :
    IsDigits (cs ++ ds) := by
  intro c h
  rcases List.mem_append.1 h with h | h
  · exact hc c h
  · exact hd c h

lemma IsDigits.ne {cs : List Char} (h : IsDigits cs) (d : Char) (hd : d.isDigit = false) :
    ∀ c ∈ cs, c ≠ d := by
  rintro c mem rfl
  rw [h c mem] at hd
  cases hd

lemma readPositional_digits {cs : List Char} (h : IsDigits cs) :
    readPositional cs = Nat.ofDigitChars 10 cs 0 := by
  have keep : ∀ c ∈ cs, decide (c ≠ '.') = true := fun c hc => by simp [h.ne '.' (by decide) c hc]
  rw [readPositional, List.takeWhile_eq_self_iff.2 keep, List.dropWhile_eq_nil_iff.2 keep]
  simp

lemma readPositional_point {cs ds : List Char} (h : IsDigits cs) :
    readPositional (cs ++ '.' :: ds) =
      Nat.ofDigitChars 10 (cs ++ ds) 0 * 10 ^ (-(ds.length : ℤ)) := by
  have keep : ∀ c ∈ cs, decide (c ≠ '.') = true := fun c hc => by simp [h.ne '.' (by decide) c hc]
  rw [readPositional, List.takeWhile_append_of_pos keep, List.dropWhile_append_of_pos keep]
  simp

/-- A text without an exponent denotes what its digits and its point do. -/
lemma read_of_noExponent {cs : List Char} (h : ∀ c ∈ cs, c ≠ 'e') :
    read cs = readPositional cs := by
  have keep : ∀ c ∈ cs, decide (c ≠ 'e') = true := fun c hc => by simp [h c hc]
  rw [read, List.takeWhile_eq_self_iff.2 keep, List.dropWhile_eq_nil_iff.2 keep]
  rfl

lemma read_exponent {cs : List Char} (h : ∀ c ∈ cs, c ≠ 'e') (exponent : ℤ) :
    read (cs ++ 'e' :: (if exponent < 0 then '-' else '+') ::
      Nat.toDigits 10 exponent.natAbs) = readPositional cs * 10 ^ exponent := by
  have keep : ∀ c ∈ cs, decide (c ≠ 'e') = true := fun c hc => by simp [h c hc]
  rw [read, List.takeWhile_append_of_pos keep, List.dropWhile_append_of_pos keep]
  by_cases negative : exponent < 0
  · simp only [negative, if_true]
    simp [-zpow_neg, Nat.ofDigitChars_ten_toDigits]
    exact .inl (by rw [abs_of_neg negative, neg_neg])
  · simp only [negative, if_false]
    simp [Nat.ofDigitChars_ten_toDigits]
    exact .inl (by omega)

/-! ### Layouts -/

/-- The layout of a decimal as a row of characters. -/
lemma toList_layout (style : DecimalStyle) (d : Decimal) :
    (d.layout style).toList =
      let digits := Nat.toDigits 10 d.digits
      if d.digits = 0 then (if style.pointZero then ['0', '.', '0'] else ['0'])
      else if style.leastPoint ≤ d.point ∧ d.point ≤ style.mostPoint then
        if d.point ≤ 0 then ['0'] ++ '.' :: (List.replicate d.point.natAbs '0' ++ digits)
        else if (digits.length : ℤ) ≤ d.point then
          digits ++ List.replicate (d.point - digits.length).toNat '0' ++
            if style.pointZero then ['.', '0'] else []
        else digits.take d.point.toNat ++ '.' :: digits.drop d.point.toNat
      else
        digits.take 1 ++ (if digits.length = 1 then [] else '.' :: digits.drop 1) ++
          'e' :: (if d.point - 1 < 0 then '-' else '+') :: Nat.toDigits 10 (d.point - 1).natAbs := by
  dsimp only [layout]
  split
  · split <;> rfl
  split
  · split
    · simp
    split
    · split <;> simp
    · simp
  · have pos : 0 < (Nat.toDigits 10 d.digits).length := Nat.length_toDigits_pos
    rcases digits : Nat.toDigits 10 d.digits with _ | ⟨c, _ | ⟨c', rest⟩⟩
    · simp [digits] at pos
    · by_cases below : d.point - 1 < 0 <;> simp [below]
    · by_cases below : d.point - 1 < 0 <;> simp [below]

lemma read_digits {cs : List Char} (h : IsDigits cs) : read cs = Nat.ofDigitChars 10 cs 0 := by
  rw [read_of_noExponent (h.ne 'e' (by decide)), readPositional_digits h]

lemma read_point {cs ds : List Char} (hc : IsDigits cs) (hd : IsDigits ds) :
    read (cs ++ '.' :: ds) = Nat.ofDigitChars 10 (cs ++ ds) 0 * 10 ^ (-(ds.length : ℤ)) := by
  rw [read_of_noExponent, readPositional_point hc]
  intro c mem
  rcases List.mem_append.1 mem with mem | mem
  · exact hc.ne 'e' (by decide) c mem
  · rcases List.mem_cons.1 mem with rfl | mem
    · decide
    · exact hd.ne 'e' (by decide) c mem

section Reading

variable {ds : List Char} (digits : IsDigits ds)

include digits

/-- Zeros between the point and the digits. -/
lemma read_below (n : ℕ) :
    read (['0'] ++ '.' :: (List.replicate n '0' ++ ds)) =
      Nat.ofDigitChars 10 ds 0 * 10 ^ (-(n + ds.length : ℤ)) := by
  have zero : IsDigits ['0'] := by simp [IsDigits]
  rw [read_point zero ((isDigits_zeros n).append digits), List.length_append, List.length_replicate]
  simp [Nat.ofDigitChars_cons, Nat.ofDigitChars_append, Nat.ofDigitChars_replicate_zero]

/-- Zeros between the digits and the point, and perhaps one behind it. -/
lemma read_above (n : ℕ) (pointZero : Bool) :
    read (ds ++ List.replicate n '0' ++ if pointZero then ['.', '0'] else []) =
      Nat.ofDigitChars 10 ds 0 * 10 ^ (n : ℤ) := by
  have zero : IsDigits ['0'] := by simp [IsDigits]
  have padded := digits.append (isDigits_zeros n)
  have whole : (Nat.ofDigitChars 10 (ds ++ List.replicate n '0') 0 : ℚ) =
      Nat.ofDigitChars 10 ds 0 * 10 ^ (n : ℤ) := by
    rw [Nat.ofDigitChars_append, Nat.ofDigitChars_replicate_zero, zpow_natCast]
    push_cast
    ring
  cases pointZero with
  | true =>
      rw [if_pos rfl, read_point padded zero, Nat.ofDigitChars_append, Nat.ofDigitChars_cons,
        Nat.ofDigitChars_nil, ← whole]
      push_cast
      simp
      ring
  | false => rw [if_neg (by decide), List.append_nil, read_digits padded, whole]

/-- The point among the digits. -/
lemma read_among (n : ℕ) :
    read (ds.take n ++ '.' :: ds.drop n) =
      Nat.ofDigitChars 10 ds 0 * 10 ^ (-((ds.length - n : ℕ) : ℤ)) := by
  have whole : IsDigits (ds.take n) := fun c mem => digits c (List.mem_of_mem_take mem)
  have fraction : IsDigits (ds.drop n) := fun c mem => digits c (List.mem_of_mem_drop mem)
  rw [read_point whole fraction, List.take_append_drop, List.length_drop]

/-- One digit before the point, and an exponent. -/
lemma read_scientific (pos : 0 < ds.length) (e : ℤ) :
    read (ds.take 1 ++ (if ds.length = 1 then [] else '.' :: ds.drop 1) ++
        'e' :: (if e < 0 then '-' else '+') :: Nat.toDigits 10 e.natAbs) =
      Nat.ofDigitChars 10 ds 0 * 10 ^ (e + 1 - ds.length) := by
  have one : IsDigits (ds.take 1) := fun c mem => digits c (List.mem_of_mem_take mem)
  have fraction : IsDigits (ds.drop 1) := fun c mem => digits c (List.mem_of_mem_drop mem)
  have mantissa : readPositional (ds.take 1 ++ if ds.length = 1 then [] else '.' :: ds.drop 1) =
      Nat.ofDigitChars 10 ds 0 * 10 ^ (1 - ds.length : ℤ) := by
    split
    · next single =>
        rw [List.append_nil, readPositional_digits one, List.take_of_length_le single.le, single]
        simp
    · rw [readPositional_point one, List.take_append_drop, List.length_drop]
      congr 2
      omega
  rw [read_exponent, mantissa, mul_assoc, ← zpow_add₀ (by norm_num)]
  · congr 2
    ring
  · intro c mem
    rcases List.mem_append.1 mem with mem | mem
    · exact one.ne 'e' (by decide) c mem
    · split at mem
      · cases mem
      · rcases List.mem_cons.1 mem with rfl | mem
        · decide
        · exact fraction.ne 'e' (by decide) c mem

end Reading

/-- Reading the text of a decimal gives the number that it stands for, in every style. -/
theorem read_layout (style : DecimalStyle) (d : Decimal) :
    read (d.layout style).toList = d.amount := by
  have digits := isDigits_toDigits d.digits
  have value : Nat.ofDigitChars 10 (Nat.toDigits 10 d.digits) 0 = d.digits :=
    Nat.ofDigitChars_ten_toDigits
  have pos : 0 < (Nat.toDigits 10 d.digits).length := Nat.length_toDigits_pos
  rw [toList_layout, amount]
  generalize Nat.toDigits 10 d.digits = ds at digits value pos
  dsimp only
  split
  · split <;> simp [read, readPositional, Nat.ofDigitChars_cons, *]
  split
  · split
    · rw [read_below digits, value]
      congr 2
      omega
    split
    · rw [read_above digits, value]
      congr 2
      omega
    · rw [read_among digits, value]
      congr 2
      omega
  · rw [read_scientific digits pos, value]
    congr 2
    ring

/-! ### Characters -/

/-- The characters of numbers. -/
def Numeric (c : Char) : Prop := c.isDigit = true ∨ c ∈ ['-', '+', '.', 'e']

lemma numeric_layout (style : DecimalStyle) (d : Decimal) :
    ∀ c ∈ (d.layout style).toList, Numeric c := by
  have digits : ∀ c ∈ Nat.toDigits 10 d.digits, Numeric c :=
    fun c mem => .inl (isDigits_toDigits _ c mem)
  have before : ∀ n, ∀ c ∈ (Nat.toDigits 10 d.digits).take n, Numeric c :=
    fun n c mem => digits c (List.mem_of_mem_take mem)
  have behind : ∀ n, ∀ c ∈ (Nat.toDigits 10 d.digits).drop n, Numeric c :=
    fun n c mem => digits c (List.mem_of_mem_drop mem)
  have exponent : ∀ c ∈ Nat.toDigits 10 (d.point - 1).natAbs, Numeric c :=
    fun c mem => .inl (isDigits_toDigits _ c mem)
  have zeros : ∀ n, ∀ c ∈ List.replicate n '0', Numeric c :=
    fun n c mem => .inl (isDigits_zeros n c mem)
  have zero : Numeric '0' := .inl (by decide)
  have point : Numeric '.' := .inr (by simp)
  have mark : Numeric 'e' := .inr (by simp)
  have sign : Numeric (if d.point - 1 < 0 then '-' else '+') := by
    split <;> exact .inr (by simp)
  have none : ∀ c ∈ ([] : List Char), Numeric c := List.forall_mem_nil _
  rw [toList_layout]
  dsimp only
  split
  · split
    · exact List.forall_mem_cons.2 ⟨zero, List.forall_mem_cons.2 ⟨point, List.forall_mem_singleton.2 zero⟩⟩
    · exact List.forall_mem_singleton.2 zero
  split
  · split
    · simp only [List.forall_mem_append, List.forall_mem_cons]
      exact ⟨⟨zero, none⟩, point, zeros _, digits⟩
    split
    · simp only [List.forall_mem_append]
      refine ⟨⟨digits, zeros _⟩, ?_⟩
      split
      · exact List.forall_mem_cons.2 ⟨point, List.forall_mem_singleton.2 zero⟩
      · exact none
    · simp only [List.forall_mem_append, List.forall_mem_cons]
      exact ⟨before _, point, behind _⟩
  · simp only [List.forall_mem_append, List.forall_mem_cons]
    refine ⟨⟨before _, ?_⟩, mark, sign, exponent⟩
    split
    · exact none
    · exact List.forall_mem_cons.2 ⟨point, behind _⟩

/-- A layout begins with a digit. -/
lemma exists_layout_eq_cons (style : DecimalStyle) (d : Decimal) :
    ∃ c rest, (d.layout style).toList = c :: rest ∧ c.isDigit = true := by
  obtain ⟨c, ds, digits⟩ := List.exists_cons_of_ne_nil (Nat.toDigits_ne_nil (n := d.digits) (b := 10))
  have head : c.isDigit = true := isDigits_toDigits d.digits c (by simp [digits])
  rw [toList_layout, digits]
  dsimp only
  split
  · split <;> exact ⟨_, _, rfl, by decide⟩
  split
  · split
    · exact ⟨_, _, rfl, by decide⟩
    split
    · exact ⟨c, _, rfl, head⟩
    · next positive _ =>
        obtain ⟨n, whole⟩ : ∃ n, d.point.toNat = n + 1 := ⟨d.point.toNat - 1, by omega⟩
        rw [whole]
        exact ⟨c, _, rfl, head⟩
  · exact ⟨c, _, rfl, head⟩

end SchemaCompiler.Decimal
