import Mathlib.Data.List.Forall2
import Mathlib.Tactic.Lemma

/-!
Computations that can fail.

* `bind_eq_ok_iff`: one computation after another gives a result if both do;
* `eq_ok_of_toOption`, `exists_eq_ok_of_toOption`: a result can be had from what is left of it as an option;
* `mapM_eq_ok_iff`, `exists_mapM_eq_ok`, `mapM_eq_error_iff`: a computation on each element of a list gives
  results if all do, and fails as the first does that fails;
* `fault?`: what a computation fails with;
* `Blames`: a property of what a computation can fail with;
* `Answers`, `exists_answers`: results that are related unless both are one failure.
-/

namespace SchemaCompiler

variable {ε α β : Type}

lemma bind_eq_ok_iff {x : Except ε α} {f : α → Except ε β} {result : β} :
    (x >>= f) = .ok result ↔ ∃ a, x = .ok a ∧ f a = .ok result := by
  cases x with
  | error fault => exact ⟨nofun, nofun⟩
  | ok a => exact ⟨fun ok => ⟨a, rfl, ok⟩, fun ⟨_, eq, ok⟩ => Except.ok.inj eq ▸ ok⟩

lemma map_eq_ok_iff {x : Except ε α} {f : α → β} {result : β} :
    x.map f = .ok result ↔ ∃ a, x = .ok a ∧ f a = result := by
  cases x <;> simp [Except.map]

lemma eq_ok_of_toOption {x : Except ε α} {a : α} (result : x.toOption = some a) : x = .ok a := by
  cases x with
  | error fault => cases result
  | ok b => exact congrArg Except.ok (Option.some.inj result)

/-- A result is there if something of it can be had. -/
lemma exists_eq_ok_of_toOption {x : Except ε α} {f : α → β} {b : β}
    (found : x.toOption.map f = some b) : ∃ a, x = .ok a ∧ f a = b := by
  obtain ⟨a, result, same⟩ := Option.map_eq_some_iff.1 found
  exact ⟨a, eq_ok_of_toOption result, same⟩

lemma exists_eq_ok_of_isSome {x : Except ε α} (found : x.toOption.isSome = true) : ∃ a, x = .ok a := by
  obtain ⟨a, result⟩ := Option.isSome_iff_exists.1 found
  exact ⟨a, eq_ok_of_toOption result⟩

lemma mapM_eq_ok_iff {f : α → Except ε β} {list : List α} {results : List β} :
    list.mapM f = .ok results ↔ List.Forall₂ (fun a b => f a = .ok b) list results := by
  induction list generalizing results with
  | nil =>
      rw [List.mapM_nil, List.forall₂_nil_left_iff]
      exact ⟨fun ok => (Except.ok.inj ok).symm, fun eq => eq ▸ rfl⟩
  | cons a rest ih =>
      simp only [List.mapM_cons, bind_eq_ok_iff, ih, List.forall₂_cons_left_iff]
      constructor
      · rintro ⟨b, first, others, all, eq⟩
        exact ⟨b, others, first, all, (Except.ok.inj eq).symm⟩
      · rintro ⟨b, others, first, all, rfl⟩
        exact ⟨b, first, others, all, rfl⟩

/-- A computation that gives a result for each element of a list gives them for the list. -/
lemma exists_mapM_eq_ok {f : α → Except ε β} {list : List α}
    (each : ∀ a ∈ list, ∃ b, f a = .ok b) : ∃ results, list.mapM f = .ok results := by
  simp only [mapM_eq_ok_iff]
  induction list with
  | nil => exact ⟨[], .nil⟩
  | cons a rest ih =>
      rw [List.forall_mem_cons] at each
      obtain ⟨b, first⟩ := each.1
      obtain ⟨others, rest⟩ := ih each.2
      exact ⟨b :: others, .cons first rest⟩

lemma bind_eq_error_iff {x : Except ε α} {f : α → Except ε β} {fault : ε} :
    (x >>= f) = .error fault ↔ x = .error fault ∨ ∃ a, x = .ok a ∧ f a = .error fault := by
  cases x with
  | error other =>
      refine ⟨fun failed => .inl ?_, fun failed => ?_⟩
      · cases failed
        rfl
      · cases failed.resolve_right nofun
        rfl
  | ok a =>
      refine ⟨fun failed => .inr ⟨a, rfl, failed⟩, fun failed => ?_⟩
      obtain ⟨b, eq, failed⟩ := failed.resolve_left nofun
      cases eq
      exact failed

/-- A computation on each element of a list fails with what the first element fails with for which it
does. -/
lemma mapM_eq_error_iff {f : α → Except ε β} {list : List α} {fault : ε} :
    list.mapM f = .error fault ↔
      ∃ before a after, list = before ++ a :: after ∧ (∀ other ∈ before, ∃ b, f other = .ok b) ∧
        f a = .error fault := by
  induction list with
  | nil => exact ⟨nofun, fun ⟨_, _, _, split, _⟩ => by simp at split⟩
  | cons first rest ih =>
      rw [List.mapM_cons, bind_eq_error_iff]
      constructor
      · rintro (failed | ⟨b, ok, failed⟩)
        · exact ⟨[], first, rest, rfl, nofun, failed⟩
        · obtain ⟨before, a, after, rfl, earlier, failed⟩ :=
            ih.1 ((bind_eq_error_iff.1 failed).resolve_right nofun)
          exact ⟨first :: before, a, after, rfl, List.forall_mem_cons.2 ⟨⟨b, ok⟩, earlier⟩, failed⟩
      · rintro ⟨before, a, after, split, earlier, failed⟩
        cases before with
        | nil =>
            cases split
            exact .inl failed
        | cons other before =>
            cases split
            obtain ⟨⟨b, ok⟩, earlier⟩ := List.forall_mem_cons.1 earlier
            exact .inr ⟨b, ok,
              bind_eq_error_iff.2 (.inl (ih.2 ⟨before, a, after, rfl, earlier, failed⟩))⟩

/-- What a computation fails with. -/
def fault? : Except ε α → Option ε
  | .ok _ => none
  | .error fault => some fault

lemma fault?_eq_some_iff {x : Except ε α} {fault : ε} : fault? x = some fault ↔ x = .error fault := by
  cases x with
  | ok a => exact ⟨nofun, nofun⟩
  | error other => rw [fault?, Option.some.injEq, Except.error.injEq]

/-- If a computation fails, then what it fails with has a property. -/
def Blames (P : ε → Prop) (x : Except ε α) : Prop := ∀ fault, x = .error fault → P fault

namespace Blames

variable {P Q : ε → Prop}

lemma ok (a : α) : Blames P (.ok a) := nofun

lemma mono {x : Except ε α} (blames : Blames P x) (implies : ∀ fault, P fault → Q fault) : Blames Q x :=
  fun fault failed => implies fault (blames fault failed)

lemma bind {x : Except ε α} {f : α → Except ε β} (first : Blames P x) (next : ∀ a, Blames P (f a)) :
    Blames P (x >>= f) := by
  intro fault failed
  rcases bind_eq_error_iff.1 failed with failed | ⟨a, -, failed⟩
  · exact first fault failed
  · exact next a fault failed

lemma mapM {f : α → Except ε β} (each : ∀ a, Blames P (f a)) (list : List α) :
    Blames P (list.mapM f) := by
  induction list with
  | nil => exact ok []
  | cons a rest ih =>
      rw [List.mapM_cons]
      exact (each a).bind fun b => ih.bind fun others => ok (b :: others)

end Blames

/-- Two results are related, or both are one failure. -/
inductive Answers (R : α → β → Prop) : Except ε α → Except ε β → Prop where
  | ok {a : α} {b : β} (related : R a b) : Answers R (.ok a) (.ok b)
  | error (fault : ε) : Answers R (.error fault) (.error fault)

/-- What the successes among some results are related to stands in their place. -/
lemma exists_answers {γ : Type} {R : α → β → Prop} {f : γ → Except ε α} {list : List γ}
    {results : List β}
    (related : List.Forall₂ R (list.filterMap fun c => (f c).toOption) results) :
    ∃ outcomes : List (γ × Except ε β), outcomes.map Prod.fst = list ∧
      (∀ outcome ∈ outcomes, Answers R (f outcome.1) outcome.2) ∧
      outcomes.filterMap (fun outcome => outcome.2.toOption) = results ∧
      outcomes.filterMap (fun outcome => fault? outcome.2) = list.filterMap fun c => fault? (f c) := by
  induction list generalizing results with
  | nil =>
      cases related
      exact ⟨[], rfl, nofun, rfl, rfl⟩
  | cons c rest ih =>
      rw [List.filterMap_cons] at related ⊢
      cases answer : f c with
      | error fault =>
          rw [answer] at related
          obtain ⟨outcomes, all, each, rfl, faults⟩ := ih related
          refine ⟨(c, .error fault) :: outcomes, congrArg _ all, ?_, rfl, congrArg _ faults⟩
          exact List.forall_mem_cons.2 ⟨answer ▸ .error fault, each⟩
      | ok a =>
          rw [answer] at related
          obtain ⟨b, others, first, rest', rfl⟩ := List.forall₂_cons_left_iff.1 related
          obtain ⟨outcomes, all, each, rfl, faults⟩ := ih rest'
          refine ⟨(c, .ok b) :: outcomes, congrArg _ all, ?_, rfl, faults⟩
          exact List.forall_mem_cons.2 ⟨answer ▸ .ok first, each⟩

end SchemaCompiler
