import Mathlib.Tactic
import SchemaCompiler.Json.Pointer
import SchemaCompiler.Proofs.Naming
import SchemaCompiler.Proofs.Text

/-!
Reading JSON pointers.

* `Json.Pointer.path?`: the path that a pointer stands for.  A pointer is empty or has a `/` before each
  of its segments, in which a `~` starts an escape;
* `Json.Pointer.path?_render`: the text of a path is a pointer that stands for it;
* `Json.pointed?`: the part of a value that a pointer leads to;
* `Json.at?_object`, `Json.at?_array`: the first step of a path.
-/

namespace SchemaCompiler

namespace Json

/-! ### Pointers -/

namespace Pointer

/-- The characters that a segment of a pointer stands for. -/
def segment? : List Char → Option (List Char)
  | '~' :: '0' :: rest => (segment? rest).map ('~' :: ·)
  | '~' :: '1' :: rest => (segment? rest).map ('/' :: ·)
  | '~' :: _ => none
  | c :: rest => (segment? rest).map (c :: ·)
  | [] => some []

/-- The path that a pointer stands for. -/
def path? (pointer : String) : Option (List String) :=
  match pointer.toList with
  | [] => some []
  | '/' :: rest => (Text.splitList '/' rest).mapM fun segment => (segment? segment).map String.ofList
  | _ => none

lemma segment?_flatMap_escapeChar (cs : List Char) :
    segment? (cs.flatMap escapeChar) = some cs := by
  induction cs with
  | nil => rfl
  | cons c rest ih =>
      by_cases tilde : c = '~'
      · simp [escapeChar, tilde, segment?, ih]
      · by_cases slash : c = '/'
        · simp [escapeChar, slash, segment?, ih]
        · simp [escapeChar, tilde, slash, segment?, ih]

/-- An escaped segment has no `/` in it. -/
lemma slash_notMem_escape (segment : String) : '/' ∉ (escape segment).toList := by
  rw [escape, String.toList_ofList, List.mem_flatMap]
  rintro ⟨c, -, mem⟩
  rw [escapeChar] at mem
  split at mem
  · simp at mem
  · split at mem
    · simp at mem
    · next other => exact other (List.mem_singleton.1 mem).symm

lemma toList_render_cons (segment : String) (path : List String) :
    (render (segment :: path)).toList = '/' :: ((escape segment).toList ++ (render path).toList) := by
  simp [render]

/-- What follows the first `/` is cut into the segments of the path. -/
lemma splitList_render (segment : String) (path : List String) :
    Text.splitList '/' ((escape segment).toList ++ (render path).toList) =
      (segment :: path).map fun segment => (escape segment).toList := by
  induction path generalizing segment with
  | nil =>
      have empty : (render []).toList = [] := rfl
      rw [empty, List.append_nil, Text.splitList_of_notMem (slash_notMem_escape segment)]
      rfl
  | cons next path ih =>
      rw [toList_render_cons, Text.splitList_append (slash_notMem_escape segment), ih next]
      rfl

/-- The text of a path stands for the path. -/
theorem path?_render (path : List String) : path? (render path) = some path := by
  have read : ∀ segments : List String,
      (segments.map fun segment => (escape segment).toList).mapM
        (fun segment => (segment? segment).map String.ofList) = some segments := by
    intro segments
    induction segments with
    | nil => rfl
    | cons segment rest ih =>
        rw [List.map_cons, List.mapM_cons, ih, escape, String.toList_ofList,
          segment?_flatMap_escapeChar]
        simp
  cases path with
  | nil => rfl
  | cons segment path =>
      rw [path?, toList_render_cons]
      change (Text.splitList _ _).mapM _ = _
      rw [splitList_render, read]

end Pointer

/-- The part of a value that a pointer leads to. -/
def pointed? (value : Json) (pointer : String) : Option Json :=
  (Pointer.path? pointer).bind value.at?

lemma pointed?_render (value : Json) (path : List String) :
    value.pointed? (Pointer.render path) = value.at? path := by
  rw [pointed?, Pointer.path?_render, Option.bind_some]

/-! ### Paths -/

lemma at?_object {members : List (String × Json)} {name : String} {part : Json}
    (found : Table.get? members name = some part) (path : List String) :
    (object members).at? (name :: path) = part.at? path := by
  rw [at?, found]

lemma at?_array {items : List Json} {index : ℕ} {part : Json} (found : items[index]? = some part)
    (path : List String) : (array items).at? (toString index :: path) = part.at? path := by
  obtain ⟨inside, eq⟩ := List.getElem?_eq_some_iff.1 found
  have first : items.zipIdx.find? (fun item => toString item.2 = toString index) =
      some (part, index) := by
    refine List.find?_eq_some_iff_getElem.2 ⟨by simp, index, by simpa using inside, by simp [eq], ?_⟩
    intro i before
    have other : toString i ≠ toString index := fun same =>
      absurd (Nat.repr_injective same) (Nat.ne_of_lt before)
    simpa using other
  rw [at?, first]

end Json

end SchemaCompiler
