import Mathlib.Tactic
import SchemaCompiler.PathTemplate
import SchemaCompiler.Proofs.Except
import SchemaCompiler.Proofs.List
import SchemaCompiler.Proofs.Text

/-!
Path templates are read by their grammar.

A segment is a sequence of pieces, each a text without braces or a group of a name in braces.  The reader
of a segment goes from one character to the next.  Every segment is some pieces followed by nothing or by
what no piece begins, and this tells what the reader answers.

* `PathTemplate.Piece`, `PathTemplate.render`, `PathTemplate.Proper`: the grammar of segments;
* `PathTemplate.segmentNames_render`: the names of the groups are read off the text of pieces;
* `PathTemplate.Stops`, `PathTemplate.segmentNames_cases`: what stands after the last piece, and what
  is answered there;
* `TemplateError.Locates`: what an error says about the segment that it is reported for;
* `PathTemplate.placeholders_spec`: when a path has placeholders, which, and what is wrong otherwise.
-/

namespace SchemaCompiler

namespace PathTemplate

/-! ### The grammar -/

/-- There is no brace in a text. -/
def Plain (s : String) : Prop := '\x7b' ∉ s.toList ∧ '\x7d' ∉ s.toList

/-- A part of a segment: text without braces, or a group of a name in braces. -/
inductive Piece where
  | text (s : String) (plain : Plain s)
  | group (name : String) (some : name ≠ "") (plain : Plain name)

/-- A piece as it is written. -/
def Piece.render : Piece → String
  | text s _ => s
  | group name _ _ => "\x7b" ++ name ++ "\x7d"

/-- The name of a group. -/
def Piece.name? : Piece → Option String
  | text _ _ => none
  | group name _ _ => some name

/-- Pieces as they are written. -/
def render (pieces : List Piece) : String := String.join (pieces.map Piece.render)

/-- The names of the groups among pieces. -/
def names (pieces : List Piece) : List String := pieces.filterMap Piece.name?

lemma render_cons (piece : Piece) (pieces : List Piece) :
    render (piece :: pieces) = piece.render ++ render pieces := by
  simp [render]

lemma names_cons (piece : Piece) (pieces : List Piece) :
    names (piece :: pieces) = piece.name?.toList ++ names pieces := by
  rw [names, List.filterMap_cons]
  cases piece <;> rfl

/-- A segment is a sequence of pieces. -/
def Proper (segment : String) : Prop := ∃ pieces, render pieces = segment

/-! ### Reading pieces -/

/-- The number of bytes that characters take. -/
def width (cs : List Char) : ℕ := (String.ofList cs).utf8ByteSize

lemma width_cons (c : Char) (cs : List Char) : width (c :: cs) = c.utf8Size + width cs := by
  rw [width, String.ofList_cons, String.utf8ByteSize_append, String.utf8ByteSize_singleton, width]

lemma width_toList (s : String) : width s.toList = s.utf8ByteSize := by
  rw [width, String.ofList_toList]

section Reader

variable {segment : String} {offset opened : ℕ} {name text : List Char} {nested : Option ℕ}

lemma groups_nil : groups segment .outside offset [] = .ok [] := rfl

/-- An opening brace opens a group. -/
lemma groups_opening (rest : List Char) :
    groups segment .outside offset ('\x7b' :: rest) =
      groups segment (.inside offset [] none) (offset + 1) rest := rfl

/-- Other characters are passed over outside groups. -/
lemma groups_outside_cons {c : Char} (notOpen : c ≠ '\x7b') (notClose : c ≠ '\x7d') (rest : List Char) :
    groups segment .outside offset (c :: rest) = groups segment .outside (offset + c.utf8Size) rest :=
  (if_neg notOpen).trans (if_neg notClose)

/-- A closing brace closes a group that has a name. -/
lemma groups_closing (some : name ≠ []) (rest : List Char) :
    groups segment (.inside opened name none) offset ('\x7d' :: rest) =
      (groups segment .outside (offset + 1) rest).map (String.ofList name :: ·) :=
  (if_pos rfl).trans (if_neg (by simpa using some))

/-- Any character but a closing brace is added to the name of a group; the place of the first opening brace
is kept. -/
lemma groups_inside_cons {c : Char} (other : c ≠ '\x7d') (rest : List Char) :
    groups segment (.inside opened name nested) offset (c :: rest) =
      groups segment (.inside opened (name ++ [c])
        (if c = '\x7b' then nested.or (some offset) else nested)) (offset + c.utf8Size) rest := by
  refine (if_neg other).trans ?_
  by_cases opens : c = '\x7b'
  · rw [if_pos opens, if_pos opens, opens]
    rfl
  · rw [if_neg opens, if_neg opens]

/-- Text without braces is passed over outside groups. -/
lemma groups_outside (free : '\x7b' ∉ text ∧ '\x7d' ∉ text) (rest : List Char) :
    groups segment .outside offset (text ++ rest) =
      groups segment .outside (offset + width text) rest := by
  induction text generalizing offset with
  | nil => rfl
  | cons c text ih =>
      simp only [List.mem_cons, not_or] at free
      obtain ⟨⟨notOpen, openFree⟩, notClose, closeFree⟩ := free
      rw [List.cons_append, groups_outside_cons (Ne.symm notOpen) (Ne.symm notClose),
        ih ⟨openFree, closeFree⟩, width_cons, Nat.add_assoc]

/-- Text without braces is added to the name of a group. -/
lemma groups_inside (free : '\x7b' ∉ text ∧ '\x7d' ∉ text) (rest : List Char) :
    groups segment (.inside opened name nested) offset (text ++ rest) =
      groups segment (.inside opened (name ++ text) nested) (offset + width text) rest := by
  induction text generalizing offset name with
  | nil =>
      rw [List.append_nil]
      rfl
  | cons c text ih =>
      simp only [List.mem_cons, not_or] at free
      obtain ⟨⟨notOpen, openFree⟩, notClose, closeFree⟩ := free
      rw [List.cons_append, groups_inside_cons (Ne.symm notClose), if_neg (Ne.symm notOpen),
        ih ⟨openFree, closeFree⟩, width_cons, Nat.add_assoc, List.append_assoc, List.singleton_append]

/-- A group that is not closed is reported where it was opened. -/
lemma groups_unclosed (closeFree : '\x7d' ∉ text) :
    groups segment (.inside opened name nested) offset text = .error (.unclosed segment opened) := by
  induction text generalizing offset name nested with
  | nil => rfl
  | cons c text ih =>
      rw [List.mem_cons, not_or] at closeFree
      rw [groups_inside_cons (Ne.symm closeFree.1), ih closeFree.2]

/-- A brace that was opened inside a group is reported when the group is closed. -/
lemma groups_nested {position : ℕ} (closeFree : '\x7d' ∉ text) (rest : List Char) :
    groups segment (.inside opened name (some position)) offset (text ++ '\x7d' :: rest) =
      .error (.nested segment position) := by
  induction text generalizing offset name with
  | nil => rfl
  | cons c text ih =>
      rw [List.mem_cons, not_or] at closeFree
      rw [List.cons_append, groups_inside_cons (Ne.symm closeFree.1), Option.or_some, Option.getD_some,
        ite_self, ih closeFree.2]

/-- A piece is passed, and the name of a group is kept. -/
lemma groups_piece (piece : Piece) (rest : List Char) :
    groups segment .outside offset (piece.render.toList ++ rest) =
      (groups segment .outside (offset + piece.render.utf8ByteSize) rest).map
        (piece.name?.toList ++ ·) := by
  cases piece with
  | text s plain =>
      rw [Piece.render, groups_outside plain, width_toList]
      exact (congrFun Except.map_id _).symm
  | group name some plain =>
      have chars : (Piece.group name some plain).render.toList ++ rest =
          '\x7b' :: (name.toList ++ '\x7d' :: rest) := by
        simp [Piece.render]
      have size : (Piece.group name some plain).render.utf8ByteSize = 1 + name.utf8ByteSize + 1 := by
        rw [Piece.render, String.utf8ByteSize_append, String.utf8ByteSize_append]
        rfl
      have chosen : name.toList ≠ [] := by simpa using some
      rw [chars, groups_opening, groups_inside plain, List.nil_append, groups_closing chosen,
        String.ofList_toList, width_toList, size, Nat.add_assoc, Nat.add_assoc]
      rfl

/-- The names of groups are read off the pieces that a segment begins with. -/
lemma groups_render (pieces : List Piece) (rest : List Char) :
    groups segment .outside offset ((render pieces).toList ++ rest) =
      (groups segment .outside (offset + (render pieces).utf8ByteSize) rest).map (names pieces ++ ·) := by
  induction pieces generalizing offset with
  | nil => exact (congrFun Except.map_id _).symm
  | cons piece pieces ih =>
      rw [render_cons, String.toList_append, List.append_assoc, groups_piece, ih,
        String.utf8ByteSize_append, Nat.add_assoc, names_cons]
      cases groups segment .outside (offset + (piece.render.utf8ByteSize +
          (render pieces).utf8ByteSize)) rest with
      | error fault => rfl
      | ok others => simp only [Except.map, List.append_assoc]

end Reader

/-- The text of pieces is read back. -/
theorem segmentNames_render (pieces : List Piece) :
    segmentNames (render pieces) = .ok (names pieces) := by
  have all := @groups_render (render pieces) 0 pieces []
  rw [List.append_nil, groups_nil] at all
  rw [segmentNames, all, Except.map, List.append_nil]

/-! ### Where reading stops -/

/-- What no piece begins, and what is answered where it stands. -/
inductive Stops (segment : String) (offset : ℕ) : List Char → TemplateError → Prop where
  | unmatched (after : List Char) : Stops segment offset ('\x7d' :: after) (.unmatched segment offset)
  | unclosed {after : List Char} (closeFree : '\x7d' ∉ after) :
      Stops segment offset ('\x7b' :: after) (.unclosed segment offset)
  | emptyName (after : List Char) :
      Stops segment offset ('\x7b' :: '\x7d' :: after) (.emptyName segment)
  | nested {inner more : List Char} (free : '\x7b' ∉ inner ∧ '\x7d' ∉ inner)
      (closeFree : '\x7d' ∉ more) (after : List Char) :
      Stops segment offset ('\x7b' :: (inner ++ '\x7b' :: (more ++ '\x7d' :: after)))
        (.nested segment (offset + 1 + width inner))

lemma Stops.groups_eq {segment : String} {offset : ℕ} {rest : List Char} {fault : TemplateError}
    (stops : Stops segment offset rest fault) : groups segment .outside offset rest = .error fault := by
  cases stops with
  | unmatched after => rfl
  | unclosed closeFree => rw [groups_opening, groups_unclosed closeFree]
  | emptyName after => rfl
  | nested free closeFree after =>
      rw [groups_opening, groups_inside free, groups_inside_cons (by decide), if_pos rfl,
        Option.none_or, groups_nested closeFree]

/-- Characters are those of some pieces, followed by nothing or by what no piece begins. -/
def Splits (segment : String) (offset : ℕ) (cs : List Char) : Prop :=
  ∃ pieces rest, cs = (render pieces).toList ++ rest ∧
    (rest = [] ∨ ∃ fault, Stops segment (offset + (render pieces).utf8ByteSize) rest fault)

section Splits

variable {segment : String} {offset : ℕ} {cs after : List Char}

lemma Stops.splits {fault : TemplateError} (stops : Stops segment offset cs fault) :
    Splits segment offset cs :=
  ⟨[], cs, rfl, .inr ⟨fault, stops⟩⟩

lemma Splits.cons (piece : Piece) (splits : Splits segment (offset + piece.render.utf8ByteSize) after) :
    Splits segment offset (piece.render.toList ++ after) := by
  obtain ⟨pieces, rest, rfl, stops⟩ := splits
  refine ⟨piece :: pieces, rest, ?_, ?_⟩
  · rw [render_cons, String.toList_append, List.append_assoc]
  · rwa [render_cons, String.utf8ByteSize_append, ← Nat.add_assoc]

/-- What follows an opening brace splits if all that is shorter does. -/
lemma splits_opened {rest : List Char}
    (shorter : ∀ offset after, after.length < rest.length → Splits segment offset after) :
    Splits segment offset ('\x7b' :: rest) := by
  by_cases closed : '\x7d' ∈ rest
  · obtain ⟨name, after, rfl, closeFree⟩ := List.eq_append_cons_of_mem closed
    by_cases opened : '\x7b' ∈ name
    · obtain ⟨inner, more, rfl, openFree⟩ := List.eq_append_cons_of_mem opened
      simp only [List.mem_append, List.mem_cons, not_or] at closeFree
      rw [List.append_assoc, List.cons_append]
      exact (Stops.nested ⟨openFree, closeFree.1⟩ closeFree.2.2 after).splits
    · cases empty : name with
      | nil => exact (Stops.emptyName after).splits
      | cons d others =>
          have some : String.ofList name ≠ "" := by
            rw [Ne, ← String.toList_eq_nil_iff, String.toList_ofList, empty]
            exact List.cons_ne_nil _ _
          have plain : Plain (String.ofList name) := by
            rw [Plain, String.toList_ofList]
            exact ⟨opened, closeFree⟩
          have chars : '\x7b' :: (name ++ '\x7d' :: after) =
              (Piece.group _ some plain).render.toList ++ after := by
            simp [Piece.render]
          rw [← empty, chars]
          exact .cons _ (shorter _ after (by rw [List.length_append, List.length_cons]; omega))
  · exact (Stops.unclosed closed).splits

/-- All characters split, from any place on. -/
theorem splits (segment : String) (offset : ℕ) (cs : List Char) : Splits segment offset cs := by
  induction length : cs.length using Nat.strong_induction_on generalizing offset cs with
  | _ n ih =>
      subst length
      cases cs with
      | nil => exact ⟨[], [], rfl, .inl rfl⟩
      | cons c rest =>
          have shorter : ∀ offset after, after.length ≤ rest.length → Splits segment offset after :=
            fun offset after le => ih after.length (Nat.lt_succ_of_le le) offset after rfl
          by_cases closes : c = '\x7d'
          · exact closes ▸ (Stops.unmatched rest).splits
          by_cases opens : c = '\x7b'
          · exact opens ▸ splits_opened fun offset after lt => shorter offset after (Nat.le_of_lt lt)
          have plain : Plain (String.singleton c) := by
            simpa [Plain] using ⟨Ne.symm opens, Ne.symm closes⟩
          have chars : c :: rest = (Piece.text _ plain).render.toList ++ rest := by
            simp [Piece.render]
          exact chars ▸ .cons _ (shorter _ rest (Nat.le_refl _))

end Splits

/-- A segment is a sequence of pieces, or it is reported what stands after the first pieces. -/
theorem segmentNames_cases (segment : String) :
    (∃ pieces, render pieces = segment) ∨
      ∃ pieces rest fault, segment = render pieces ++ String.ofList rest ∧
        Stops segment (render pieces).utf8ByteSize rest fault ∧ segmentNames segment = .error fault := by
  obtain ⟨pieces, rest, eq, rfl | ⟨fault, stops⟩⟩ := splits segment 0 segment.toList
  · rw [List.append_nil, String.toList_inj] at eq
    exact .inl ⟨pieces, eq.symm⟩
  · refine .inr ⟨pieces, rest, fault, ?_, ?_, ?_⟩
    · rw [← String.toList_inj, String.toList_append, String.toList_ofList, eq]
    · rwa [Nat.zero_add] at stops
    · rw [segmentNames, eq, groups_render, stops.groups_eq]
      rfl

lemma segmentNames_eq_ok_iff {segment : String} :
    (∃ names, segmentNames segment = .ok names) ↔ Proper segment := by
  constructor
  · rintro ⟨names, ok⟩
    rcases segmentNames_cases segment with proper | ⟨-, -, fault, -, -, failed⟩
    · exact proper
    · cases ok.symm.trans failed
  · rintro ⟨pieces, rfl⟩
    exact ⟨_, segmentNames_render pieces⟩

end PathTemplate

/-- What an error says about the segment that it is reported for: a brace stands at its position, and what
comes before the group of the brace is a sequence of pieces. -/
def TemplateError.Locates (segment : String) : TemplateError → Prop
  | .unclosed reported position => reported = segment ∧ ∃ before after,
      segment = before ++ "\x7b" ++ after ∧ position = before.utf8ByteSize ∧
        PathTemplate.Proper before ∧ '\x7d' ∉ after.toList
  | .emptyName reported => reported = segment ∧ ∃ before after,
      segment = before ++ "\x7b\x7d" ++ after ∧ PathTemplate.Proper before
  | .unmatched reported position => reported = segment ∧ ∃ before after,
      segment = before ++ "\x7d" ++ after ∧ position = before.utf8ByteSize ∧
        PathTemplate.Proper before
  | .nested reported position => reported = segment ∧ ∃ before inner more after,
      segment = before ++ "\x7b" ++ inner ++ "\x7b" ++ more ++ "\x7d" ++ after ∧
        position = (before ++ "\x7b" ++ inner).utf8ByteSize ∧
        PathTemplate.Proper before ∧ PathTemplate.Plain inner ∧ '\x7d' ∉ more.toList

namespace PathTemplate

/-- What is reported where reading stops is about the segment. -/
lemma Stops.locates {before segment : String} {rest : List Char} {fault : TemplateError}
    (stops : Stops segment before.utf8ByteSize rest fault) (proper : Proper before)
    (whole : segment = before ++ String.ofList rest) : fault.Locates segment := by
  cases stops with
  | unmatched after =>
      refine ⟨rfl, before, String.ofList after, ?_, rfl, proper⟩
      rw [← String.toList_inj, whole]
      simp
  | @unclosed after closeFree =>
      refine ⟨rfl, before, String.ofList after, ?_, rfl, proper, ?_⟩
      · rw [← String.toList_inj, whole]
        simp
      · rwa [String.toList_ofList]
  | emptyName after =>
      refine ⟨rfl, before, String.ofList after, ?_, proper⟩
      rw [← String.toList_inj, whole]
      simp
  | @nested inner more free closeFree after =>
      refine ⟨rfl, before, String.ofList inner, String.ofList more, String.ofList after, ?_, ?_, proper,
        ?_, ?_⟩
      · rw [← String.toList_inj, whole]
        simp
      · rw [String.utf8ByteSize_append, String.utf8ByteSize_append, width]
        rfl
      · rwa [Plain, String.toList_ofList]
      · rwa [String.toList_ofList]

/-- An error is reported for a segment that is no sequence of pieces, and is about it. -/
theorem locates_of_segmentNames {segment : String} {fault : TemplateError}
    (failed : segmentNames segment = .error fault) : ¬Proper segment ∧ fault.Locates segment := by
  refine ⟨fun proper => ?_, ?_⟩
  · obtain ⟨names, ok⟩ := segmentNames_eq_ok_iff.2 proper
    cases ok.symm.trans failed
  · rcases segmentNames_cases segment with ⟨pieces, rfl⟩ | ⟨pieces, rest, other, whole, stops, failed'⟩
    · cases (segmentNames_render pieces).symm.trans failed
    · obtain rfl := Except.error.inj (failed'.symm.trans failed)
      exact stops.locates ⟨pieces, rfl⟩ whole

/-! ### Paths -/

/-- Names are those of a list, each once, in the order in which they first occur. -/
structure FirstOccurrences (names all : List String) : Prop where
  once : names.Nodup
  same : ∀ name, name ∈ names ↔ name ∈ all
  order : names.Pairwise fun a b => all.idxOf a < all.idxOf b

lemma firstOccurrences_eraseDups (all : List String) : FirstOccurrences all.eraseDups all :=
  ⟨nodup_eraseDups all, fun _ => List.mem_eraseDups, pairwise_idxOf_eraseDups all⟩

/-- **Paths are read by the grammar of their segments**, which are cut at the slashes in just one way.
There are placeholders if and only if every segment is a sequence of pieces; they are the names of the
groups, each once, in the order of their first occurrences.  What is reported otherwise is about the first
segment that is no such sequence. -/
theorem placeholders_spec (path : String) :
    ∃ segments, (∀ cut, Text.Cut '/' path cut ↔ cut = segments) ∧
      ((∃ names, placeholders path = .ok names) ↔ ∀ segment ∈ segments, Proper segment) ∧
      (∀ rows : List (List Piece), rows.map render = segments →
        ∃ found, placeholders path = .ok found ∧ FirstOccurrences found (rows.flatMap names)) ∧
      ∀ fault, placeholders path = .error fault →
        ∃ before segment after, segments = before ++ segment :: after ∧
          (∀ other ∈ before, Proper other) ∧ ¬Proper segment ∧ fault.Locates segment := by
  refine ⟨Text.splitOn '/' path, fun cut => Text.cut_iff, ⟨?_, ?_⟩, ?_, ?_⟩
  · rintro ⟨found, ok⟩ segment mem
    obtain ⟨rows, all, -⟩ := bind_eq_ok_iff.1 ok
    obtain ⟨names, -, read⟩ := exists_mem_of_forall₂ (mapM_eq_ok_iff.1 all) mem
    exact segmentNames_eq_ok_iff.1 ⟨names, read⟩
  · intro proper
    obtain ⟨rows, all⟩ := exists_mapM_eq_ok fun segment mem =>
      segmentNames_eq_ok_iff.2 (proper segment mem)
    exact ⟨_, bind_eq_ok_iff.2 ⟨rows, all, rfl⟩⟩
  · intro rows written
    have all : (Text.splitOn '/' path).mapM segmentNames = .ok (rows.map names) := by
      rw [← written, mapM_eq_ok_iff, List.forall₂_map_left_iff, List.forall₂_map_right_iff]
      exact List.forall₂_same.2 fun pieces _ => segmentNames_render pieces
    exact ⟨_, bind_eq_ok_iff.2 ⟨_, all, rfl⟩, firstOccurrences_eraseDups _⟩
  · intro fault failed
    rcases bind_eq_error_iff.1 failed with failed | ⟨rows, -, failed⟩
    · obtain ⟨before, segment, after, split, earlier, failed⟩ := mapM_eq_error_iff.1 failed
      obtain ⟨improper, locates⟩ := locates_of_segmentNames failed
      exact ⟨before, segment, after, split,
        fun other mem => segmentNames_eq_ok_iff.1 (earlier other mem), improper, locates⟩
    · cases failed

/-- The position counts the bytes of the segment, and not of the path. -/
example : placeholders "/é\x7bid\x7d/ü\x7ba\x7bb\x7d/\x7b" = .error (.nested "ü\x7ba\x7bb\x7d" 4) := by
  decide

end PathTemplate

end SchemaCompiler
