import Mathlib.Tactic
import SchemaCompiler.Schema.Reference

/-!
A written reference tells the component that it refers to.

* `Text.percentDecode?_percentEncode`: decoding undoes percent-encoding, whatever is encoded besides
  the percent sign;
* `Text.mem_of_mem_percentEncode`: encoding brings in no characters but those of percent triples;
* `Reference.ofName_injective`: different components have different references;
* `Reference.name?_ofName`, `Reference.ne_empty_of_name?`: every name but the empty one is denoted, by the
  reference that is written for it.
-/

namespace SchemaCompiler

namespace Text

/-! ### Bytes -/

/-- The bytes of a string as a list are collected from the front. -/
lemma byteLoop_eq (bytes : ByteArray) (i : ℕ) (collected : List UInt8) :
    ByteArray.toList.loop bytes i collected = collected.reverse ++ bytes.data.toList.drop i := by
  fun_induction ByteArray.toList.loop bytes i collected with
  | case1 i collected more ih =>
      have inside : i < bytes.data.toList.length := by simpa using more
      have head : bytes.get! i = bytes.data.toList[i] := by
        have bound : i < bytes.data.size := more
        cases bytes
        simp [ByteArray.get!, getElem!_pos, bound]
      rw [ih, List.drop_eq_getElem_cons inside, head, List.reverse_cons, List.append_assoc]
      rfl
  | case2 i collected done =>
      rw [List.drop_eq_nil_of_le (by simpa using done), List.append_nil]

lemma byteArray_toList (bytes : ByteArray) : bytes.toList = bytes.data.toList := by
  rw [ByteArray.toList, byteLoop_eq]
  rfl

lemma toList_toUTF8_singleton (c : Char) :
    (String.singleton c).toUTF8.toList = String.utf8EncodeChar c := by
  rw [byteArray_toList, String.toUTF8_eq_toByteArray, String.singleton_eq_ofList,
    String.toByteArray_ofList, List.utf8Encode_singleton, List.toList_data_toByteArray]

lemma toList_toUTF8 (s : String) : s.toUTF8.toList = s.toList.flatMap String.utf8EncodeChar := by
  rw [byteArray_toList, String.toUTF8_eq_toByteArray, ← String.ofList_toList (s := s),
    String.toByteArray_ofList, List.utf8Encode, List.toList_data_toByteArray, String.toList_ofList]

/-- A byte of ASCII stands for the character of its number. -/
lemma toNat_of_mem_utf8EncodeChar {c : Char} {byte : UInt8} (mem : byte ∈ String.utf8EncodeChar c)
    (ascii : byte.toNat < 128) : c.toNat = byte.toNat := by
  have value : c.val.toNat = c.toNat := rfl
  rw [String.utf8EncodeChar.eq_1, value] at mem
  split_ifs at mem <;>
    simp only [List.mem_cons, List.not_mem_nil, or_false, ← UInt8.toNat_inj, UInt8.toNat_ofNat'] at mem <;>
    omega

/-! ### Percent-encoding -/

lemma percentBytes_triple (byte : UInt8) (rest : List Char) :
    percentBytes (percentTriple byte ++ rest) = byte :: percentBytes rest := by
  have high : byte.toNat / 16 < 16 := by
    have := byte.toNat_lt
    omega
  have low : byte.toNat % 16 < 16 := Nat.mod_lt _ (by decide)
  have sum : byte.toNat / 16 * 16 + byte.toNat % 16 = byte.toNat := by omega
  simp only [percentTriple, List.cons_append, List.nil_append, percentBytes,
    hexValue?_upperHexDigit high, hexValue?_upperHexDigit low, sum, UInt8.ofNat_toNat]

lemma percentBytes_ascii {n : ℕ} (ascii : n < 128) (ne : Char.ofNat n ≠ '%') (rest : List Char) :
    percentBytes (Char.ofNat n :: rest) = UInt8.ofNat n :: percentBytes rest := by
  have bytes : ∀ m : Fin 128, String.utf8EncodeChar (Char.ofNat m.val) = [UInt8.ofNat m.val] := by
    decide
  rw [percentBytes]
  · rw [toList_toUTF8_singleton, bytes ⟨n, ascii⟩]
    rfl
  · intro a b rest eq
    exact absurd eq ne

/-- Decoding gives back the bytes that were encoded. -/
lemma percentBytes_flatMap_percentByte {encoded : Char → Bool} (percent : encoded '%' = true)
    (bytes : List UInt8) : percentBytes (bytes.flatMap (percentByte encoded)) = bytes := by
  induction bytes with
  | nil => rfl
  | cons byte rest ih =>
      rw [List.flatMap_cons, percentByte]
      split
      · next plain =>
          rw [Bool.and_eq_true, decide_eq_true_eq, Bool.not_eq_true'] at plain
          rw [List.singleton_append, percentBytes_ascii plain.1, ih, UInt8.ofNat_toNat]
          intro eq
          rw [eq, percent] at plain
          cases plain.2
      · rw [percentBytes_triple, ih]

theorem percentDecode?_percentEncode {encoded : Char → Bool} (percent : encoded '%' = true)
    (s : String) : percentDecode? (percentEncode encoded s) = some s := by
  rw [percentDecode?, percentEncode, String.toList_ofList, percentBytes_flatMap_percentByte percent,
    byteArray_toList, Array.toArray_toList, String.toUTF8_eq_toByteArray, String.fromUTF8?,
    dif_pos s.isValidUTF8]
  rfl

lemma percentEncode_ne_empty {encoded : Char → Bool} {s : String} (some : s ≠ "") :
    percentEncode encoded s ≠ "" := by
  obtain ⟨c, rest, eq⟩ := List.exists_cons_of_ne_nil (String.toList_eq_nil_iff.not.2 some)
  obtain ⟨byte, bytes, eq'⟩ := List.exists_cons_of_ne_nil (@String.utf8EncodeChar_ne_nil c)
  have first : percentByte encoded byte ≠ [] := by
    rw [percentByte]
    split <;> exact List.cons_ne_nil _ _
  rw [Ne, ← String.toList_eq_nil_iff, percentEncode, String.toList_ofList, toList_toUTF8, eq,
    List.flatMap_cons, eq', List.cons_append, List.flatMap_cons]
  exact List.append_ne_nil_of_left_ne_nil first _

/-- A character other than those of percent triples is there before the encoding as well. -/
lemma mem_of_mem_percentEncode {encoded : Char → Bool} {s : String} {c : Char} (percent : c ≠ '%')
    (digit : ∀ n < 16, c ≠ upperHexDigit n) (mem : c ∈ (percentEncode encoded s).toList) :
    c ∈ s.toList := by
  rw [percentEncode, String.toList_ofList, List.mem_flatMap] at mem
  obtain ⟨byte, among, mem⟩ := mem
  rw [toList_toUTF8, List.mem_flatMap] at among
  obtain ⟨d, there, among⟩ := among
  rw [percentByte] at mem
  split at mem
  · next plain =>
      rw [Bool.and_eq_true, decide_eq_true_eq] at plain
      rw [List.mem_singleton, ← toNat_of_mem_utf8EncodeChar among plain.1, Char.ofNat_toNat] at mem
      rwa [mem]
  · have := byte.toNat_lt
    simp only [percentTriple, List.mem_cons, List.not_mem_nil, or_false, percent, false_or] at mem
    rcases mem with eq | eq
    · exact absurd eq (digit _ (by omega))
    · exact absurd eq (digit _ (by omega))

/-- At least one byte is read from every row of characters. -/
lemma percentBytes_ne_nil {cs : List Char} (some : cs ≠ []) : percentBytes cs ≠ [] := by
  fun_cases percentBytes cs with
  | case1 => exact absurd rfl some
  | case2 => exact List.cons_ne_nil _ _
  | case3 => exact List.cons_ne_nil _ _
  | case4 c =>
      rw [toList_toUTF8_singleton]
      exact List.append_ne_nil_of_left_ne_nil String.utf8EncodeChar_ne_nil _

lemma percentDecode?_ne_empty {s decoded : String} (some : s ≠ "")
    (ok : percentDecode? s = .some decoded) : decoded ≠ "" := by
  rintro rfl
  rw [percentDecode?, String.fromUTF8?] at ok
  split at ok
  · next valid =>
      have bytes : (percentBytes s.toList).toArray = #[] :=
        congrArg (fun s : String => s.toByteArray.data) (Option.some.inj ok)
      refine percentBytes_ne_nil (String.toList_eq_nil_iff.not.2 some) ?_
      simpa using bytes
  · cases ok

end Text

lemma Text.stripPrefix?_eq_some_iff {start s rest : String} :
    stripPrefix? start s = some rest ↔ s = start ++ rest := by
  rw [stripPrefix?, Option.map_eq_some_iff]
  constructor
  · rintro ⟨cs, found, rfl⟩
    rw [← String.toList_inj, String.toList_append, String.toList_ofList]
    exact (List.isPrefixOf?_eq_some_iff_append_eq.1 found).symm
  · rintro rfl
    refine ⟨rest.toList, ?_, String.ofList_toList⟩
    rw [String.toList_append]
    exact List.isPrefixOf?_eq_some_iff_append_eq.2 rfl

/-! ### Segments of pointers -/

lemma Json.Pointer.unescapeChars_ne_nil {cs : List Char} (some : cs ≠ []) : unescapeChars cs ≠ [] := by
  fun_cases unescapeChars cs with
  | case4 => exact absurd rfl some
  | _ => exact List.cons_ne_nil _ _

lemma Json.Pointer.notMem_escape (segment : String) : '/' ∉ (escape segment).toList := by
  rw [escape, String.toList_ofList, List.mem_flatMap]
  rintro ⟨c, -, mem⟩
  rw [escapeChar] at mem
  split_ifs at mem with tilde slash
  · simp at mem
  · simp at mem
  · exact slash (List.mem_singleton.1 mem).symm

lemma Json.Pointer.escape_ne_empty {segment : String} (some : segment ≠ "") : escape segment ≠ "" := by
  intro eq
  have back := unescape_escape segment
  rw [eq] at back
  exact some back.symm

/-! ### References -/

namespace Reference

theorem ofName_injective {a b : String} (eq : ofName a = ofName b) : a = b := by
  have decoded := congrArg Text.percentDecode? ((String.append_right_inj _).1 eq)
  rw [Text.percentDecode?_percentEncode (by decide), Text.percentDecode?_percentEncode (by decide),
    Option.some.injEq] at decoded
  rw [← Json.Pointer.unescape_escape a, decoded, Json.Pointer.unescape_escape]

/-- The segment of a reference is not empty and has no further ones; it is decoded and unescaped. -/
lemma segmentName?_eq_ok_iff_unescape {reference segment name : String} :
    segmentName? reference segment = .ok name ↔ segment ≠ "" ∧ '/' ∉ segment.toList ∧
      ∃ decoded, Text.percentDecode? segment = some decoded ∧ Json.Pointer.unescape decoded = name := by
  rw [segmentName?]
  by_cases written : (segment.isEmpty || segment.toList.contains '/') = true
  · rw [if_pos written]
    simp only [Bool.or_eq_true, String.isEmpty_iff, List.contains_iff_mem] at written
    exact ⟨nofun, fun ⟨nonempty, whole, _⟩ => absurd written (not_or.2 ⟨nonempty, whole⟩)⟩
  · rw [if_neg written]
    simp only [Bool.or_eq_true, String.isEmpty_iff, List.contains_iff_mem, not_or] at written
    rw [← and_assoc, and_iff_right written]
    cases Text.percentDecode? segment <;> simp

/-- After the beginning of references stands a segment, which names the component. -/
lemma name?_eq_ok_iff_segment {reference name : String} :
    name? reference = .ok name ↔
      ∃ segment, reference = componentPrefix ++ segment ∧ segmentName? reference segment = .ok name := by
  simp only [name?, ← Text.stripPrefix?_eq_some_iff]
  cases Text.stripPrefix? componentPrefix reference <;> simp

/-- A reference denotes the component that it was written for. -/
lemma name?_ofName {name : String} (named : name ≠ "") : name? (ofName name) = .ok name := by
  refine name?_eq_ok_iff_segment.2 ⟨_, ofName.eq_1 name, segmentName?_eq_ok_iff_unescape.2 ⟨?_, ?_, ?_⟩⟩
  · exact Text.percentEncode_ne_empty (Json.Pointer.escape_ne_empty named)
  · exact fun mem => Json.Pointer.notMem_escape name
      (Text.mem_of_mem_percentEncode (by decide) (by decide) mem)
  · have decoded : Text.percentDecode? (Text.percentEncode encoded (Json.Pointer.escape name)) =
        some (Json.Pointer.escape name) := Text.percentDecode?_percentEncode (by decide) _
    exact ⟨_, decoded, Json.Pointer.unescape_escape name⟩

/-- What a reference denotes has a name. -/
lemma ne_empty_of_name? {reference name : String} (denotes : name? reference = .ok name) :
    name ≠ "" := by
  obtain ⟨segment, -, named⟩ := name?_eq_ok_iff_segment.1 denotes
  obtain ⟨written, -, decoded, ok, rfl⟩ := segmentName?_eq_ok_iff_unescape.1 named
  have some := Text.percentDecode?_ne_empty written ok
  rw [Json.Pointer.unescape, Ne, ← String.toList_eq_nil_iff, String.toList_ofList]
  exact Json.Pointer.unescapeChars_ne_nil (String.toList_eq_nil_iff.not.2 some)

end Reference

end SchemaCompiler
