import SchemaCompiler.Proofs.Except
import SchemaCompiler.Proofs.Schema.Reference

/-!
What references denote.

The name of a component is escaped twice in a reference: `~` and `/` are replaced first, then bytes are
percent-encoded.  This is undone in the opposite order, the pairs `~1` and `~0` being replaced one after
the other in the whole text.  No replacement brings forth a pair for the next one, so that a name comes
back whatever it is made of.

* `Text.replacePair`: the replacement of a pair of characters by one;
* `Json.Pointer.unescapeChars_eq`: pointers are unescaped by two replacements, one after the other;
* `Reference.Denotes`, `Reference.DenotesIn`: what it takes for a reference to denote a name, of a schema or
  of a component in another section;
* `Reference.denotes_ofName`: every name but the empty one is denoted, by the reference that is written
  for it; and references that denote the same are written alike.
-/

namespace SchemaCompiler

/-! ### Replacements of pairs -/

namespace Text

/-- Replaces the occurrences of a character. -/
def replaceChar (old : Char) (new cs : List Char) : List Char :=
  cs.flatMap fun c => if c = old then new else [c]

/-- Replaces the occurrences of a pair of characters from left to right. -/
def replacePair (first second new : Char) : List Char → List Char
  | c :: d :: rest =>
    if c = first ∧ d = second then new :: replacePair first second new rest
    else c :: replacePair first second new (d :: rest)
  | cs => cs

variable {first second new c : Char} {cs : List Char}

lemma replacePair_pair :
    replacePair first second new (first :: second :: cs) = new :: replacePair first second new cs :=
  if_pos ⟨rfl, rfl⟩

/-- A character that no pair begins with is kept. -/
lemma replacePair_cons (apart : c = first → cs.head? ≠ some second) :
    replacePair first second new (c :: cs) = c :: replacePair first second new cs := by
  cases cs with
  | nil => rfl
  | cons d rest => exact if_neg fun pair => apart pair.1 (congrArg some pair.2)

/-- The first character is kept, or is the new one. -/
lemma head?_replacePair {d : Char} (head : (replacePair first second new cs).head? = some d) :
    cs.head? = some d ∨ d = new := by
  cases cs with
  | nil => exact .inl head
  | cons c rest =>
      by_cases apart : c = first → rest.head? ≠ some second
      · rw [replacePair_cons apart] at head
        exact .inl head
      · obtain ⟨rfl, pair⟩ := Classical.not_imp.1 apart
        obtain ⟨after, rfl⟩ := List.head?_eq_some_iff.1 (not_not.1 pair)
        rw [replacePair_pair] at head
        exact .inr (Option.some.inj head).symm

end Text

/-! ### Pointers -/

namespace Json.Pointer

/-- Escaping replaces `~` and then `/`, in the whole text each time. -/
lemma escape_eq (segment : String) : escape segment =
    String.ofList (Text.replaceChar '/' ['~', '1'] (Text.replaceChar '~' ['~', '0'] segment.toList)) := by
  rw [escape, Text.replaceChar, Text.replaceChar, List.flatMap_assoc]
  refine congrArg String.ofList (List.flatMap_congr fun c _ => ?_)
  rw [escapeChar]
  by_cases tilde : c = '~' <;> by_cases slash : c = '/' <;> simp [tilde, slash]

/-- Unescaping replaces `~1` and then `~0`, in the whole text each time. -/
theorem unescapeChars_eq (cs : List Char) : unescapeChars cs =
    Text.replacePair '~' '0' '~' (Text.replacePair '~' '1' '/' cs) := by
  fun_induction unescapeChars cs with
  | case1 rest ih =>
      rw [Text.replacePair_pair, Text.replacePair_cons (c := '/') fun eq => absurd eq (by decide), ih]
  | case2 rest ih =>
      rw [Text.replacePair_cons (c := '~') fun _ => by simp,
        Text.replacePair_cons (c := '0') fun eq => absurd eq (by decide), Text.replacePair_pair, ih]
  | case3 c rest noSlash noTilde ih =>
      have first : c = '~' → rest.head? ≠ some '1' := by
        rintro rfl head
        obtain ⟨after, rfl⟩ := List.head?_eq_some_iff.1 head
        exact noSlash after rfl rfl
      have second : c = '~' → (Text.replacePair '~' '1' '/' rest).head? ≠ some '0' := by
        rintro rfl head
        obtain ⟨after, rfl⟩ := List.head?_eq_some_iff.1 ((Text.head?_replacePair head).resolve_right (by decide))
        exact noTilde after rfl rfl
      rw [Text.replacePair_cons first, Text.replacePair_cons second, ih]
  | case4 => rfl

end Json.Pointer

/-! ### References -/

namespace Reference

/-- A segment of a reference names a component: it is decoded, and `~1` and then `~0` are replaced in it. -/
lemma segmentName?_eq_ok_iff {reference segment name : String} :
    segmentName? reference segment = .ok name ↔ ∃ decoded, segment ≠ "" ∧ '/' ∉ segment.toList ∧
      Text.percentDecode? segment = some decoded ∧
      name.toList = Text.replacePair '~' '0' '~' (Text.replacePair '~' '1' '/' decoded.toList) := by
  have unescaped : ∀ decoded : String, Json.Pointer.unescape decoded = name ↔
      name.toList = Text.replacePair '~' '0' '~' (Text.replacePair '~' '1' '/' decoded.toList) := by
    intro decoded
    rw [← Json.Pointer.unescapeChars_eq, ← String.toList_inj, Json.Pointer.unescape,
      String.toList_ofList, eq_comm]
  simp only [segmentName?_eq_ok_iff_unescape, unescaped, exists_and_left]

/-- A reference denotes a name: after the beginning of references stands one segment, which is decoded, and
in which `~1` and then `~0` are replaced. -/
def Denotes (reference name : String) : Prop :=
  ∃ segment decoded, reference = componentPrefix ++ segment ∧ segment ≠ "" ∧ '/' ∉ segment.toList ∧
    Text.percentDecode? segment = some decoded ∧
    name.toList = Text.replacePair '~' '0' '~' (Text.replacePair '~' '1' '/' decoded.toList)

theorem name?_eq_ok_iff {reference name : String} :
    name? reference = .ok name ↔ Denotes reference name := by
  simp only [name?_eq_ok_iff_segment, segmentName?_eq_ok_iff, Denotes, exists_and_left]

/-- A reference denotes a name in a section of the components: after the beginning of references into the
section stands one segment, which is decoded, and in which `~1` and then `~0` are replaced. -/
def DenotesIn (sectionName reference name : String) : Prop :=
  ∃ segment decoded, reference = "#/components/" ++ sectionName ++ "/" ++ segment ∧ segment ≠ "" ∧
    '/' ∉ segment.toList ∧ Text.percentDecode? segment = some decoded ∧
    name.toList = Text.replacePair '~' '0' '~' (Text.replacePair '~' '1' '/' decoded.toList)

theorem nameIn?_eq_some_iff {sectionName reference name : String} :
    nameIn? sectionName reference = some name ↔ DenotesIn sectionName reference name := by
  rw [nameIn?]
  constructor
  · intro named
    split at named
    · cases named
    · next segment begun =>
        obtain ⟨decoded, denotes⟩ := segmentName?_eq_ok_iff.1 (eq_ok_of_toOption named)
        exact ⟨segment, decoded, Text.stripPrefix?_eq_some_iff.1 begun, denotes⟩
  · rintro ⟨segment, decoded, rfl, denotes⟩
    rw [Text.stripPrefix?_eq_some_iff.2 rfl]
    exact congrArg Except.toOption (segmentName?_eq_ok_iff.2 ⟨decoded, denotes⟩)

/-- **Names survive escaping.**  References are written by replacing `~` and then `/`, and read by replacing
`~1` and then `~0`.  Every name but the empty one is denoted by the reference that is written for it, what a
reference denotes is such a name, and references denote the same component if and only if they are written
alike again. -/
theorem denotes_ofName :
    (∀ name, ofName name = componentPrefix ++ Text.percentEncode encoded (String.ofList
        (Text.replaceChar '/' ['~', '1'] (Text.replaceChar '~' ['~', '0'] name.toList)))) ∧
      (∀ reference name, name? reference = .ok name ↔ Denotes reference name) ∧
      (∀ name, name ≠ "" → name? (ofName name) = .ok name) ∧
      (∀ reference name, name? reference = .ok name → name ≠ "" ∧ name? (ofName name) = .ok name) ∧
      ∀ reference reference' name name', name? reference = .ok name → name? reference' = .ok name' →
        (name = name' ↔ ofName name = ofName name') := by
  refine ⟨fun name => ?_, fun _ _ => name?_eq_ok_iff, fun _ => name?_ofName,
    fun reference name denotes => ?_,
    fun _ _ name name' _ _ => ⟨congrArg ofName, ofName_injective⟩⟩
  · rw [ofName, Json.Pointer.escape_eq]
  · have named := ne_empty_of_name? denotes
    exact ⟨named, name?_ofName named⟩

/-- A name that is made of escapes, as it is written and in two other ways. -/
theorem denotes_ofName_escapes :
    name? (ofName "~1/%7E01é") = .ok "~1/%7E01é" ∧
      name? "#/components/schemas/%7e01~1%257E0%31é" = .ok "~1/%7E01é" ∧
      name? "#/components/schemas/~01%7E1%25%37E01%c3%a9" = .ok "~1/%7E01é" ∧
      ofName "~1/%7E01é" = "#/components/schemas/~01~1%257E01%C3%A9" := by
  obtain ⟨-, -, written, -, -⟩ := denotes_ofName
  refine ⟨written _ (by decide), eq_ok_of_toOption (by decide +kernel),
    eq_ok_of_toOption (by decide +kernel), by decide +kernel⟩

end Reference

end SchemaCompiler
