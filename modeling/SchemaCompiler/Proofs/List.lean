import Mathlib.Data.List.Forall2
import Mathlib.Data.List.Induction
import Mathlib.Data.List.Nodup
import Mathlib.Tactic.Lemma

/-!
Searches in lists, and lists that are related one by one.

* `eraseDups_concat`, `nodup_eraseDups`: repetitions are erased from the end of a list, and none is left;
* `eraseDups_map`: repetitions can be erased before the elements are mapped, too;
* `pairwise_idxOf_eraseDups`: without repetitions elements stand in the order of their first occurrences;
* `pairwise_idxOf`: the places of the elements increase;
* `find?_eq_some_of_first`: what is found is the first element with a property;
* `forall₂_with_mem`: what is related is in the lists;
* `exists_mem_of_forall₂`: every element is related to one of the other list;
* `exists_find?_of_forall₂`: what is found in one list is related to what is found in the other;
* `findIdx?_eq_iff`: when the first elements of two lists with a property stand at one place.
-/

namespace SchemaCompiler

variable {α β : Type} {r : α → β → Prop} {as : List α} {bs : List β}

/-- An element at the end is one more without repetitions unless it was there. -/
lemma eraseDups_concat [BEq α] [LawfulBEq α] (as : List α) (a : α) :
    (as ++ [a]).eraseDups = if a ∈ as then as.eraseDups else as.eraseDups ++ [a] := by
  rw [List.eraseDups_append, List.removeAll, List.filter_singleton]
  by_cases mem : a ∈ as <;> simp [mem, List.eraseDups_cons]

lemma nodup_eraseDups [BEq α] [LawfulBEq α] (as : List α) : as.eraseDups.Nodup := by
  induction as using List.reverseRecOn with
  | nil => exact List.nodup_nil
  | append_singleton as a ih =>
      rw [eraseDups_concat]
      split
      · exact ih
      · next new => exact List.nodup_append'.2 ⟨ih, List.nodup_singleton a, by simpa using new⟩

/-- Repetitions can be erased before the elements are mapped, too. -/
lemma eraseDups_map [BEq α] [LawfulBEq α] [BEq β] [LawfulBEq β] (f : α → β) (as : List α) :
    (as.map f).eraseDups = (as.eraseDups.map f).eraseDups := by
  induction as using List.reverseRecOn with
  | nil => rfl
  | append_singleton as a ih =>
      rw [List.map_append, List.map_singleton, eraseDups_concat, eraseDups_concat]
      by_cases mem : a ∈ as
      · rw [if_pos (List.mem_map_of_mem mem), if_pos mem, ih]
      · have same : f a ∈ as.eraseDups.map f ↔ f a ∈ as.map f := by simp
        rw [if_neg mem, List.map_append, List.map_singleton, eraseDups_concat, if_congr same rfl rfl, ih]

/-- Without repetitions elements stand in the order of their first occurrences. -/
lemma pairwise_idxOf_eraseDups [DecidableEq α] (as : List α) :
    as.eraseDups.Pairwise fun a b => as.idxOf a < as.idxOf b := by
  induction as using List.reverseRecOn with
  | nil => exact .nil
  | append_singleton as a ih =>
      have before : ∀ {b}, b ∈ as.eraseDups → (as ++ [a]).idxOf b = as.idxOf b := fun mem =>
        List.idxOf_append_of_mem (List.mem_eraseDups.1 mem)
      have earlier : as.eraseDups.Pairwise fun b c => (as ++ [a]).idxOf b < (as ++ [a]).idxOf c :=
        ih.imp_of_mem fun memB memC lt => by rwa [before memB, before memC]
      rw [eraseDups_concat]
      split
      · exact earlier
      · next new =>
          refine List.pairwise_append.2 ⟨earlier, List.pairwise_singleton _ _, fun b mem c last => ?_⟩
          rw [List.mem_singleton.1 last, before mem, List.idxOf_append_of_notMem new]
          have := List.idxOf_lt_length_of_mem (List.mem_eraseDups.1 mem)
          omega

/-- In a list without repetitions elements stand at increasing places. -/
lemma pairwise_idxOf [DecidableEq α] (distinct : as.Nodup) :
    as.Pairwise fun a b => as.idxOf a < as.idxOf b :=
  List.pairwise_iff_getElem.2 fun i j hi hj before => by
    simpa only [distinct.idxOf_getElem] using before

/-- The first element with a property is found. -/
lemma find?_eq_some_of_first [DecidableEq α] (distinct : as.Nodup) {p : α → Bool} {a : α}
    (mem : a ∈ as) (holds : p a = true)
    (first : ∀ b ∈ as, p b = true → as.idxOf a ≤ as.idxOf b) : as.find? p = some a := by
  refine List.find?_eq_some_iff_getElem.2
    ⟨holds, as.idxOf a, List.idxOf_lt_length_of_mem mem, List.getElem_idxOf _, fun j before => ?_⟩
  have inside : j < as.length :=
    Nat.lt_trans before (List.idxOf_lt_length_of_mem mem)
  by_contra other
  have later := first as[j] (List.getElem_mem inside) (by simpa using other)
  rw [distinct.idxOf_getElem] at later
  exact absurd before (Nat.not_lt.2 later)

/-- What is related in two lists is in them. -/
lemma forall₂_with_mem (h : List.Forall₂ r as bs) :
    List.Forall₂ (fun a b => a ∈ as ∧ b ∈ bs ∧ r a b) as bs := by
  have right : List.Forall₂ (fun b a => b ∈ bs ∧ r a b) bs as :=
    (List.forall₂_and_left bs as).2 ⟨fun _ mem => mem, h.flip⟩
  exact (List.forall₂_and_left as bs).2 ⟨fun _ mem => mem, right.flip⟩

/-- Every element is related to one of the other list. -/
lemma exists_mem_of_forall₂ (h : List.Forall₂ r as bs) {a : α} (mem : a ∈ as) :
    ∃ b ∈ bs, r a b := by
  induction h with
  | nil => cases mem
  | @cons first first' rest rest' pair _ ih =>
      rcases List.mem_cons.1 mem with rfl | mem
      · exact ⟨first', List.mem_cons_self, pair⟩
      · obtain ⟨b, mem', pair'⟩ := ih mem
        exact ⟨b, List.mem_cons_of_mem _ mem', pair'⟩

/-- What holds of an element holds of those that it is related to. -/
lemma exists_mem_iff_of_forall₂ (h : List.Forall₂ r as bs) {p : α → Prop} {q : β → Prop}
    (agree : ∀ a b, r a b → (p a ↔ q b)) : (∃ a ∈ as, p a) ↔ ∃ b ∈ bs, q b := by
  constructor
  · rintro ⟨a, mem, holds⟩
    obtain ⟨b, mem', pair⟩ := exists_mem_of_forall₂ h mem
    exact ⟨b, mem', (agree a b pair).1 holds⟩
  · rintro ⟨b, mem, holds⟩
    obtain ⟨a, mem', pair⟩ := exists_mem_of_forall₂ h.flip mem
    exact ⟨a, mem', (agree a b pair).2 holds⟩

/-- If a property agrees on what is related, what is found in one list is related to what is found in
the other. -/
lemma exists_find?_of_forall₂ (h : List.Forall₂ r as bs) {p : α → Bool} {q : β → Bool}
    (agree : ∀ a b, r a b → p a = q b) {a : α} (found : as.find? p = some a) :
    ∃ b, bs.find? q = some b ∧ r a b := by
  induction h with
  | nil => cases found
  | @cons first first' rest rest' pair _ ih =>
      have same := agree first first' pair
      rw [List.find?_cons] at found ⊢
      rw [← same]
      cases holds : p first with
      | true =>
          rw [holds] at found
          cases found
          exact ⟨first', rfl, pair⟩
      | false =>
          rw [holds] at found
          exact ih found

/-- Lists are related one by one if their elements at every index are. -/
lemma forall₂_of_getElem? (length : as.length = bs.length)
    (each : ∀ (i : ℕ) a b, as[i]? = some a → bs[i]? = some b → r a b) : List.Forall₂ r as bs := by
  refine List.forall₂_iff_get.2 ⟨length, fun i hi hi' => each i _ _ ?_ ?_⟩
  · exact List.getElem?_eq_getElem hi
  · exact List.getElem?_eq_getElem hi'

/-- The first element is found first. -/
lemma findIdx?_cons_eq_zero_iff {p : α → Bool} {a : α} :
    (a :: as).findIdx? p = some 0 ↔ p a = true := by
  rw [List.findIdx?_cons]
  cases p a <;> simp

lemma findIdx?_cons_of_false {p : α → Bool} {a : α} (none : p a = false) :
    (a :: as).findIdx? p = (as.findIdx? p).map (· + 1) := by
  rw [List.findIdx?_cons, none]
  rfl

/-- The first elements with a property stand at one place in two lists if and only if the elements at
one place agree on it as long as no earlier element has it. -/
lemma findIdx?_eq_iff {p : α → Bool} {q : β → Bool} {agree : α → Prop}
    (h : List.Forall₂ (fun a b => p a = q b ↔ agree a) as bs) :
    as.findIdx? p = bs.findIdx? q ↔
      ∀ before a after, as = before ++ a :: after → (∀ c ∈ before, p c = false) → agree a := by
  induction h with
  | nil => simp
  | @cons a b rest rest' pair _ ih =>
      constructor
      · intro eq before c after split earlier
        cases before with
        | nil =>
            cases split
            refine pair.1 ?_
            rw [Bool.eq_iff_iff, ← findIdx?_cons_eq_zero_iff, eq, findIdx?_cons_eq_zero_iff]
        | cons first before =>
            cases split
            have left : p a = false := earlier a List.mem_cons_self
            have right : q b = false := by
              rw [← Bool.not_eq_true, ← findIdx?_cons_eq_zero_iff, ← eq,
                findIdx?_cons_eq_zero_iff, left]
              exact Bool.false_ne_true
            rw [findIdx?_cons_of_false left, findIdx?_cons_of_false right,
              Option.map_inj_right fun _ _ => Nat.succ.inj] at eq
            exact ih.1 eq before c after rfl fun d mem => earlier d (List.mem_cons_of_mem _ mem)
      · intro all
        have first : p a = q b := pair.2 (all [] a rest rfl (by simp))
        rw [List.findIdx?_cons, List.findIdx?_cons, ← first]
        cases left : p a with
        | true => rfl
        | false =>
            have eq : rest.findIdx? p = rest'.findIdx? q := by
              refine ih.2 fun before c after split earlier =>
                all (a :: before) c after (by rw [split, List.cons_append]) ?_
              exact List.forall_mem_cons.2 ⟨left, earlier⟩
            rw [eq]

end SchemaCompiler
