import Mathlib.Tactic
import SchemaCompiler.Output.Header

/-!
The comment at the top of a module, cut into lines as the language of the module cuts it.

There a line ends at a line feed, a carriage return, a line separator or a paragraph separator.  The
parts of a comment are written behind two slashes each, and only the description is cut into lines
before, at its line feeds.

* `Text.endsLine`, `Text.codeLines`: the ends of lines, and the lines;
* `Text.IsComment`: a line that holds no code;
* `Text.Inert`: a text holds no code when it is written behind two slashes;
* `FileHeader.isComment_render_iff`: a comment holds no code if and only if its title, version and
  source and the rows of its description are inert.
-/

namespace SchemaCompiler

namespace Text

/-- A line of a module ends here. -/
def endsLine (c : Char) : Bool := c = '\n' || c = '\r' || c = '\u2028' || c = '\u2029'

/-- The lines of a module. -/
def codeLines (text : List Char) : List (List Char) := text.splitOnP endsLine

/-- Nothing, or a comment. -/
def IsComment (line : List Char) : Prop := line = [] ∨ ['/', '/'] <+: line

instance : DecidablePred IsComment := fun line =>
  inferInstanceAs (Decidable (line = [] ∨ ['/', '/'] <+: line))

/-- The lines after the first one hold no code. -/
def Inert (text : List Char) : Prop := ∀ line ∈ (codeLines text).tail, IsComment line

instance : DecidablePred Inert := fun text =>
  inferInstanceAs (Decidable (∀ line ∈ (codeLines text).tail, IsComment line))

variable {text piece rest : List Char}

lemma codeLines_append_cons {c : Char} (ends : endsLine c) (piece rest : List Char) :
    codeLines (piece ++ c :: rest) = codeLines piece ++ codeLines rest :=
  List.splitOnP_append_cons piece rest ends

lemma codeLines_ne_nil (text : List Char) : codeLines text ≠ [] := List.splitOnP_ne_nil _ _

/-- What has no end of a line in it begins the first line. -/
lemma codeLines_append (whole : piece.any endsLine = false) (rest : List Char) :
    codeLines (piece ++ rest) = (codeLines rest).modifyHead (piece ++ ·) := by
  induction piece with
  | nil => exact (congrFun List.modifyHead_id _).symm
  | cons c piece ih =>
      obtain ⟨goesOn, whole⟩ := Bool.or_eq_false_iff.1 whole
      have inside := ih whole
      rw [codeLines] at inside
      rw [List.cons_append, codeLines, List.splitOnP_cons_eq_if_modifyHead, goesOn, inside,
        List.modifyHead_modifyHead]
      rfl

lemma inert_append_iff (whole : piece.any endsLine = false) :
    Inert (piece ++ rest) ↔ Inert rest := by
  rw [Inert, Inert, codeLines_append whole, List.tail_modifyHead]

lemma inert_of_whole (whole : text.any endsLine = false) : Inert text := by
  have lines : codeLines text = [text] :=
    List.splitOnP_eq_singleton fun c mem => Bool.eq_false_iff.2 (List.any_eq_false.1 whole c mem)
  simp [Inert, lines]

/-- A line that is empty can be added to a text. -/
lemma inert_append_return_iff : Inert (text ++ ['\r']) ↔ Inert text := by
  obtain ⟨first, others, eq⟩ := List.exists_cons_of_ne_nil (codeLines_ne_nil text)
  have lines : codeLines (text ++ ['\r']) = first :: (others ++ [[]]) := by
    rw [codeLines_append_cons rfl, eq, codeLines, List.splitOnP_nil, List.cons_append]
  rw [Inert, Inert, lines, eq, List.tail_cons, List.tail_cons, List.forall_mem_append,
    List.forall_mem_singleton, and_iff_left (.inl rfl)]

lemma inert_dropReturn_iff : Inert (dropReturn text) ↔ Inert text := by
  rw [dropReturn]
  split
  · next last =>
      conv_rhs => rw [← List.dropLast_append_getLast? _ last, inert_append_return_iff]
  · rfl

lemma splitOn_feed (piece rest : List Char) :
    (piece ++ '\n' :: rest).splitOn '\n' = piece.splitOn '\n' ++ rest.splitOn '\n' :=
  List.splitOnP_append_cons piece rest (beq_self_eq_true '\n')

lemma splitOn_of_notMem (whole : '\n' ∉ piece) : piece.splitOn '\n' = [piece] :=
  List.splitOnP_eq_singleton fun _ mem => beq_false_of_ne fun eq => whole (eq ▸ mem)

/-- The rows of a description are cut at line feeds, and lose at most a line that is empty. -/
lemma inert_linesFrom_iff (whole : '\n' ∉ piece) :
    (∀ row ∈ linesFrom piece rest, Inert row) ↔ ∀ row ∈ (piece ++ rest).splitOn '\n', Inert row := by
  induction rest generalizing piece with
  | nil =>
      rw [linesFrom, List.append_nil, splitOn_of_notMem whole]
      split
      · next empty =>
          have inert : Inert [] := inert_of_whole (by simp)
          simp [List.isEmpty_iff.1 empty, inert]
      · rfl
  | cons c rest ih =>
      rw [linesFrom]
      split
      · next feed =>
          -- a row ends here, and may lose the return that it ends with
          rw [feed, splitOn_feed, splitOn_of_notMem whole, List.singleton_append,
            List.forall_mem_cons, List.forall_mem_cons, inert_dropReturn_iff, ih List.not_mem_nil,
            List.nil_append]
      · next other =>
          have longer : '\n' ∉ piece ++ [c] := by simp [whole, Ne.symm other]
          rw [ih longer, List.append_assoc, List.singleton_append]

/-- The rows of a description are inert if and only if they are with what ends them. -/
lemma inert_lines_iff {description : String} :
    (∀ row ∈ lines description, Inert row.toList) ↔
      ∀ row ∈ description.toList.splitOn '\n', Inert row := by
  rw [← List.nil_append description.toList, ← inert_linesFrom_iff List.not_mem_nil, lines]
  simp

end Text

namespace FileHeader

open Text

variable {rest : List Char}

/-- A part is written behind two slashes, with a space between if there is something to write. -/
lemma exists_toList_comment_eq (part : String) :
    ∃ space, (['/', '/'] ++ space).any endsLine = false ∧
      (comment part).toList = ['/', '/'] ++ space ++ part.toList ++ ['\n'] := by
  rw [comment]
  split
  · next empty =>
      rw [String.isEmpty_iff.1 empty]
      exact ⟨[], by decide, by decide⟩
  · exact ⟨[' '], by decide, by rw [String.toList_append, String.toList_append]; rfl⟩

/-- What is written for a part of a comment holds no code if the part is inert. -/
lemma isComment_comment_iff {part : String} :
    (∀ line ∈ codeLines ((comment part).toList ++ rest), IsComment line) ↔
      Inert part.toList ∧ ∀ line ∈ codeLines rest, IsComment line := by
  obtain ⟨space, whole, text⟩ := exists_toList_comment_eq part
  obtain ⟨first, others, eq⟩ := List.exists_cons_of_ne_nil (codeLines_ne_nil part.toList)
  have lines : codeLines ((comment part).toList ++ rest) =
      (['/', '/'] ++ space ++ first) :: (others ++ codeLines rest) := by
    rw [text, List.append_assoc, List.singleton_append, codeLines_append_cons rfl,
      codeLines_append whole, eq, List.modifyHead_cons, List.cons_append]
  have commented : IsComment (['/', '/'] ++ space ++ first) :=
    .inr ⟨space ++ first, (List.append_assoc _ _ _).symm⟩
  rw [lines, Inert, eq, List.tail_cons, List.forall_mem_cons, List.forall_mem_append,
    and_iff_right commented]

lemma isComment_join_iff {parts : List String} :
    (∀ line ∈ codeLines ((String.join (parts.map comment)).toList ++ rest), IsComment line) ↔
      (∀ part ∈ parts, Inert part.toList) ∧ ∀ line ∈ codeLines rest, IsComment line := by
  induction parts with
  | nil => simp
  | cons part parts ih =>
      rw [List.map_cons, String.join_cons, String.toList_append, List.append_assoc,
        isComment_comment_iff, ih, List.forall_mem_cons, and_assoc]

/-- No part of a comment leads out of it.  The description is cut at its line feeds before. -/
structure Inert (header : FileHeader) : Prop where
  title : ∀ text ∈ header.title, Text.Inert text.toList
  version : ∀ text ∈ header.version, Text.Inert text.toList
  source : ∀ text ∈ header.source, Text.Inert text.toList
  description : ∀ text ∈ header.description, ∀ row ∈ text.toList.splitOn '\n', Text.Inert row

/-- What is written before a text on its first line makes no difference. -/
lemma inert_labelled_iff (label : String) (whole : label.toList.any endsLine = false)
    (value : Option String) :
    (∀ part ∈ (value.map fun text => label ++ text).toList, Text.Inert part.toList) ↔
      ∀ text ∈ value, Text.Inert text.toList := by
  cases value <;> simp [inert_append_iff whole]

lemma inert_described_iff (description : Option String) :
    (∀ part ∈ (match description with
      | some description => "" :: lines description
      | none => [] : List String), Text.Inert part.toList) ↔
        ∀ text ∈ description, ∀ row ∈ text.toList.splitOn '\n', Text.Inert row := by
  cases description with
  | none => simp
  | some description =>
      rw [List.forall_mem_cons, inert_lines_iff, and_iff_right (inert_of_whole (by decide))]
      simp

lemma inert_parts_iff {header : FileHeader} :
    (∀ part ∈ header.parts, Text.Inert part.toList) ↔ header.Inert := by
  have opening : ∀ part ∈ ["AUTO-GENERATED CODE - DO NOT EDIT!", ""], Text.Inert part.toList := by
    rw [List.forall_mem_cons, List.forall_mem_singleton]
    exact ⟨inert_of_whole (by decide), inert_of_whole (by decide)⟩
  have closing : ∀ part ∈ ["Generated by `oas-zod-gen`"], Text.Inert part.toList := by
    rw [List.forall_mem_singleton]
    exact inert_of_whole (by decide)
  have title : (∀ part ∈ header.title.toList, Text.Inert part.toList) ↔
      ∀ text ∈ header.title, Text.Inert text.toList := by simp
  have source := inert_labelled_iff "Source: " (by decide) header.source
  have version := inert_labelled_iff "Version: " (by decide) header.version
  have description := inert_described_iff header.description
  rw [parts, List.forall_mem_append, List.forall_mem_append, List.forall_mem_append,
    List.forall_mem_append, List.forall_mem_append, and_iff_right opening, and_iff_left closing, title]
  constructor
  · rintro ⟨⟨⟨titled, sourced⟩, versioned⟩, described⟩
    exact ⟨titled, version.1 versioned, source.1 sourced, description.1 described⟩
  · rintro ⟨titled, versioned, sourced, described⟩
    exact ⟨⟨⟨titled, source.2 sourced⟩, version.2 versioned⟩, description.2 described⟩

/-- A comment holds no code if and only if its parts are inert. -/
lemma isComment_render_iff_parts {header : FileHeader} :
    (∀ line ∈ codeLines header.render.toList, IsComment line) ↔
      ∀ part ∈ header.parts, Text.Inert part.toList := by
  have ends : ∀ line ∈ codeLines "\n".toList, IsComment line := by decide
  rw [render, String.toList_append, isComment_join_iff, and_iff_left ends]

/-- **A comment holds no code if and only if it is inert**: on no line that its title, version or source
goes on to, and on none inside a row of its description, is there anything but a comment. -/
theorem isComment_render_iff (header : FileHeader) :
    (∀ line ∈ codeLines header.render.toList, IsComment line) ↔ header.Inert := by
  rw [isComment_render_iff_parts, inert_parts_iff]

/-- A part that is not inert leads out of the comment. -/
lemma exists_not_isComment {header : FileHeader} {part : String} (among : part ∈ header.parts)
    (leads : ¬Text.Inert part.toList) : ∃ line ∈ codeLines header.render.toList, ¬IsComment line := by
  by_contra none
  have commented : ∀ line ∈ codeLines header.render.toList, IsComment line := by simpa using none
  exact leads (isComment_render_iff_parts.1 commented part among)

/-- A title leads out of the comment at a line feed, and a description at a line separator. -/
theorem render_leaks :
    (∃ line ∈ codeLines
      (render ⟨some "Pets\nexport const leak = 1;", none, none, none⟩).toList, ¬IsComment line) ∧
    ∃ line ∈ codeLines
      (render ⟨none, none, some "Pets\u2028export const leak = 1;", none⟩).toList, ¬IsComment line := by
  constructor
  · have among : "Pets\nexport const leak = 1;" ∈
        parts ⟨some "Pets\nexport const leak = 1;", none, none, none⟩ := by simp [parts]
    exact exists_not_isComment among (by decide)
  · have row : lines "Pets\u2028export const leak = 1;" = ["Pets\u2028export const leak = 1;"] := by
      decide
    have among : "Pets\u2028export const leak = 1;" ∈
        parts ⟨none, none, some "Pets\u2028export const leak = 1;", none⟩ := by simp [parts, row]
    exact exists_not_isComment among (by decide)

end FileHeader

end SchemaCompiler
