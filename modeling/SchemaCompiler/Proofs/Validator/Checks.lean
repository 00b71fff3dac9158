import Mathlib.Tactic
import SchemaCompiler.Validator.Checks

/-!
What the checks of strings, numbers and arrays demand, without regard to the order in which they
are made.

* `StringChecks.Passed`, `NumberChecks.Passed`, `ItemBounds.Passed`: the demands, one field for
  each check;
* `StringChecks.issue?_eq_none_iff`, `NumberChecks.issue?_eq_none_iff`,
  `ItemBounds.issue?_eq_none_iff`: no issue is found exactly when all demands are met.
-/

namespace SchemaCompiler

/-- No check of a list fails exactly when each of them passes. -/
lemma firstIssue_eq_none_iff {checks : List (Option IssueKind)} :
    firstIssue checks = none ↔ ∀ check ∈ checks, check = none := by
  simp [firstIssue]

@[simp] lemma issueIf_eq_none_iff {condition : Bool} {kind : IssueKind} :
    issueIf condition kind = none ↔ condition = false := by
  cases condition <;> simp [issueIf]

/-! ### Strings -/

/-- The demands of the checks on a string. -/
structure StringChecks.Passed (checks : StringChecks) (text : String) : Prop where
  longEnough : ∀ least, checks.minLength = some least → least ≤ Text.unitCount text
  shortEnough : ∀ most, checks.maxLength = some most → Text.unitCount text ≤ most
  /-- A format without a check of its own demands nothing. -/
  formatted : ∀ format, checks.format = some format →
    ∀ known, Format.ofName? format = some known → known.accepts text = true
  matching : ∀ pattern, checks.pattern = some pattern →
    ∃ parsed, Pattern.ofText pattern = .ok parsed ∧ parsed.occursIn text = true

lemma formatIssue?_eq_none_iff {format text : String} :
    formatIssue? format text = none ↔
      ∀ known, Format.ofName? format = some known → known.accepts text = true := by
  rw [formatIssue?, Option.bind_eq_none_iff]
  simp

lemma patternIssue?_eq_none_iff {pattern text : String} :
    patternIssue? pattern text = none ↔
      ∃ parsed, Pattern.ofText pattern = .ok parsed ∧ parsed.occursIn text = true := by
  rw [patternIssue?]
  cases Pattern.ofText pattern <;> simp

/-- A string has no issue exactly when it meets all demands. -/
theorem StringChecks.issue?_eq_none_iff {checks : StringChecks} {text : String} :
    checks.issue? text = none ↔ checks.Passed text := by
  simp only [StringChecks.issue?, firstIssue_eq_none_iff, List.forall_mem_cons,
    Option.bind_eq_none_iff, issueIf_eq_none_iff, decide_eq_false_iff_not, not_lt,
    formatIssue?_eq_none_iff, patternIssue?_eq_none_iff]
  constructor
  · rintro ⟨least, most, format, pattern, -⟩
    exact ⟨least, most, format, pattern⟩
  · rintro ⟨least, most, format, pattern⟩
    exact ⟨least, most, format, pattern, by simp⟩

/-! ### Numbers -/

/-- The demands of the checks on a number. -/
structure NumberChecks.Passed (checks : NumberChecks) (n : Json.Number) : Prop where
  whole : checks.integer = true → n.isWhole = true
  great : ∀ bound, checks.minimum = some bound →
    if checks.exclusiveMinimum then bound.less n = true else n.less bound = false
  small : ∀ bound, checks.maximum = some bound →
    if checks.exclusiveMaximum then n.less bound = true else bound.less n = false
  multiple : ∀ divisor, checks.multipleOf = some divisor → n.isMultipleOf divisor = true

/-- A number has no issue exactly when it meets all demands. -/
theorem NumberChecks.issue?_eq_none_iff {checks : NumberChecks} {n : Json.Number} :
    checks.issue? n = none ↔ checks.Passed n := by
  simp only [NumberChecks.issue?, firstIssue_eq_none_iff, List.forall_mem_cons,
    Option.bind_eq_none_iff, issueIf_eq_none_iff, Bool.and_eq_false_imp, Bool.not_eq_false']
  constructor
  · rintro ⟨whole, great, small, multiple, -⟩
    refine ⟨whole, fun bound found => ?_, fun bound found => ?_, multiple⟩
    · have := great bound found
      split at this <;> simp_all
    · have := small bound found
      split at this <;> simp_all
  · rintro ⟨whole, great, small, multiple⟩
    refine ⟨whole, fun bound found => ?_, fun bound found => ?_, multiple, by simp⟩
    · have := great bound found
      split at this <;> simp_all
    · have := small bound found
      split at this <;> simp_all

/-! ### Arrays -/

/-- The demands of the bounds on a number of items. -/
structure ItemBounds.Passed (bounds : ItemBounds) (count : ℕ) : Prop where
  enough : ∀ least, bounds.minItems = some least → least ≤ count
  few : ∀ most, bounds.maxItems = some most → count ≤ most

/-- A number of items has no issue exactly when it is within the bounds. -/
theorem ItemBounds.issue?_eq_none_iff {bounds : ItemBounds} {count : ℕ} :
    bounds.issue? count = none ↔ bounds.Passed count := by
  simp only [ItemBounds.issue?, firstIssue_eq_none_iff, List.forall_mem_cons,
    Option.bind_eq_none_iff, issueIf_eq_none_iff, decide_eq_false_iff_not, not_lt]
  constructor
  · rintro ⟨least, most, -⟩
    exact ⟨least, most⟩
  · rintro ⟨least, most⟩
    exact ⟨least, most, by simp⟩

end SchemaCompiler
