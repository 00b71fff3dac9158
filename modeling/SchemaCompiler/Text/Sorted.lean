/-!
Sets of strings in order.

* `Text.sortedSet`: each string of a list once, by the order of its characters.
-/

namespace SchemaCompiler.Text

/-- Each string once, in order. -/
def sortedSet (strings : List String) : List String :=
  strings.eraseDups.mergeSort fun a b => decide (a ≤ b)

theorem mem_sortedSet {strings : List String} {s : String} : s ∈ sortedSet strings ↔ s ∈ strings := by
  rw [sortedSet, (List.mergeSort_perm _ _).mem_iff, List.mem_eraseDups]

end SchemaCompiler.Text
