import Mathlib.Tactic
import SchemaCompiler.Text.Affix

/-!
Texts that are cut at a character.

* `Text.splitList_of_notMem`, `Text.splitList_append`: where a text is cut first;
* `Text.cut_induct`: induction from what follows the first occurrence of a character to the whole text;
* `Text.Cut`: a text consists of pieces with a character between them;
* `Text.cut_iff`: the pieces between the occurrences of the character are the only such pieces.
-/

namespace SchemaCompiler.Text

variable {separator : Char} {piece : List Char}

lemma splitList_of_notMem (whole : separator ∉ piece) : splitList separator piece = [piece] := by
  induction piece with
  | nil => rfl
  | cons c rest ih =>
      obtain ⟨other, whole⟩ := not_or.1 (mt List.mem_cons.2 whole)
      rw [splitList, if_neg (Ne.symm other), ih whole]

lemma splitList_append (whole : separator ∉ piece) (rest : List Char) :
    splitList separator (piece ++ separator :: rest) = piece :: splitList separator rest := by
  induction piece with
  | nil => rw [List.nil_append, splitList, if_pos rfl]
  | cons c piece ih =>
      obtain ⟨other, whole⟩ := not_or.1 (mt List.mem_cons.2 whole)
      rw [List.cons_append, splitList, if_neg (Ne.symm other), ih whole]

lemma splitList_ne_nil (separator : Char) (cs : List Char) : splitList separator cs ≠ [] := by
  fun_cases splitList separator cs <;> exact List.cons_ne_nil _ _

/-- What holds of characters without a separator, and of what a separator follows whenever it holds of the
rest, holds of all. -/
theorem cut_induct {motive : List Char → Prop} (separator : Char)
    (whole : ∀ piece, separator ∉ piece → motive piece)
    (next : ∀ piece rest, separator ∉ piece → motive rest → motive (piece ++ separator :: rest))
    (cs : List Char) : motive cs := by
  by_cases mem : separator ∈ cs
  · obtain ⟨piece, rest, eq, free⟩ := List.eq_append_cons_of_mem mem
    subst eq
    exact next piece rest free (cut_induct separator whole next rest)
  · exact whole cs mem
termination_by cs.length
decreasing_by
  rw [eq, List.length_append, List.length_cons]
  omega

/-- A text consists of some pieces with a character between them that is in none. -/
structure Cut (separator : Char) (s : String) (pieces : List String) : Prop where
  some : pieces ≠ []
  whole : ∀ piece ∈ pieces, separator ∉ piece.toList
  joined : join (String.singleton separator) pieces = s

lemma join_cons (separator s : String) {rest : List String} (some : rest ≠ []) :
    join separator (s :: rest) = s ++ separator ++ join separator rest := by
  cases rest with
  | nil => exact absurd rfl some
  | cons next rest => rfl

/-- The pieces between the occurrences of a character make up a text. -/
lemma cut_splitOn (separator : Char) (s : String) : Cut separator s (splitOn separator s) := by
  have all : ∀ cs : List Char, (∀ piece ∈ splitList separator cs, separator ∉ piece) ∧
      join (String.singleton separator) ((splitList separator cs).map String.ofList) =
        String.ofList cs := by
    intro cs
    induction cs using cut_induct separator with
    | whole piece free =>
        rw [splitList_of_notMem free]
        exact ⟨List.forall_mem_singleton.2 free, rfl⟩
    | next piece rest free ih =>
        rw [splitList_append free, List.map_cons, join_cons _ _ (by simpa using splitList_ne_nil _ rest),
          ih.2]
        refine ⟨List.forall_mem_cons.2 ⟨free, ih.1⟩, ?_⟩
        rw [← String.toList_inj]
        simp
  refine ⟨by simpa [splitOn] using splitList_ne_nil separator s.toList, ?_, ?_⟩
  · intro piece mem
    obtain ⟨cs, among, rfl⟩ := List.mem_map.1 mem
    rw [String.toList_ofList]
    exact (all s.toList).1 cs among
  · rw [splitOn, (all s.toList).2, String.ofList_toList]

/-- Pieces that make up a text are those between the occurrences of the character. -/
theorem cut_iff {s : String} {pieces : List String} :
    Cut separator s pieces ↔ pieces = splitOn separator s := by
  refine ⟨fun cut => ?_, fun eq => eq ▸ cut_splitOn separator s⟩
  obtain ⟨some, whole, rfl⟩ := cut
  induction pieces with
  | nil => exact absurd rfl some
  | cons first rest ih =>
      obtain ⟨free, whole⟩ := List.forall_mem_cons.1 whole
      cases rest with
      | nil => rw [splitOn, join, splitList_of_notMem free, List.map_singleton, String.ofList_toList]
      | cons next rest =>
          have chars : (join (String.singleton separator) (first :: next :: rest)).toList =
              first.toList ++ separator :: (join (String.singleton separator) (next :: rest)).toList := by
            rw [join_cons _ _ (List.cons_ne_nil _ _)]
            simp
          rw [splitOn, chars, splitList_append free, List.map_cons, String.ofList_toList, ← splitOn,
            ← ih (List.cons_ne_nil _ _) whole]

end SchemaCompiler.Text
