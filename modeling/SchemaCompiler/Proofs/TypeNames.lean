import Mathlib
import SchemaCompiler.Proofs.Naming

/-!
Names of types.

A name of a type is an identifier that no written module relies on, and so it is its own name of a type,
also with a number.

* `Naming.Declarable`: identifiers that are not reserved;
* `Naming.Capitalized`: rows of letters and digits that begin with a capital letter;
* `Naming.typeName_cases`, `Naming.declarable_typeName`: names of types are declarable;
* `Naming.typeName_variant`: a name of a type, perhaps with a number, stays as it is.
-/

namespace SchemaCompiler.Naming

/-- An identifier that is not reserved. -/
structure Declarable (name : String) : Prop where
  bare : Text.isBare name.toList = true
  keyword : name ∉ Text.keywords
  reserved : name ∉ reservedTypes

lemma isAlpha_of_isDigit {c : Char} (digit : c.isDigit = true) : c.isAlpha = false := by
  simp only [Char.isDigit, Char.isAlpha, Char.isUpper, Char.isLower, Bool.and_eq_true,
    decide_eq_true_eq, Bool.or_eq_false_iff, Bool.and_eq_false_iff, decide_eq_false_iff_not,
    UInt32.le_iff_toNat_le, ge_iff_le, Char.reduceVal, UInt32.reduceToNat] at digit ⊢
  omega

lemma isDigit_of_startsIdentifier {c : Char} (starts : Text.startsIdentifier c = true) :
    c.isDigit = false := by
  by_contra digit
  rw [Bool.not_eq_false] at digit
  simp only [Text.startsIdentifier, isAlpha_of_isDigit digit, Bool.false_or, Bool.or_eq_true,
    decide_eq_true_eq] at starts
  rcases starts with rfl | rfl <;> cases digit

/-- What is made up like a name has a first character, which is no digit. -/
lemma begins_of_isBare {name : String} (bare : Text.isBare name.toList = true) :
    name.isEmpty = false ∧ beginsWithDigit name = false := by
  rw [beginsWithDigit, ← Bool.not_eq_true, String.isEmpty_iff, ← String.toList_eq_nil_iff]
  cases chars : name.toList with
  | nil =>
      rw [chars] at bare
      cases bare
  | cons c rest =>
      rw [chars] at bare
      exact ⟨List.cons_ne_nil _ _, isDigit_of_startsIdentifier (Bool.and_eq_true_iff.1 bare).1⟩

/-- A declarable name stays as it is. -/
lemma Declarable.typeName_eq {name : String} (h : Declarable name) : typeName name = name := by
  have identifier : Text.isIdentifier name = true := by
    simp [Text.isIdentifier, h.bare, h.keyword]
  simp [typeName, identifier, begins_of_isBare h.bare, h.reserved]

/-! ### Numbers -/

lemma toList_number (k : ℕ) : (toString k).toList = Nat.toDigits 10 k := by
  rw [Nat.toString_eq_ofList_toDigits, String.toList_ofList]

lemma isDigit_of_mem_number {k : ℕ} {c : Char} (mem : c ∈ (toString k).toList) : c.isDigit = true := by
  rw [toList_number] at mem
  exact Nat.isDigit_of_mem_toDigits (by decide) (by decide) mem

/-- The last character of a number is a digit. -/
lemma getLast?_append_number (name : String) (k : ℕ) :
    (name ++ toString k).toList.getLast?.any Char.isDigit = true := by
  have some : (toString k).toList ≠ [] := by
    rw [toList_number]
    exact Nat.toDigits_ne_nil
  rw [String.toList_append, List.getLast?_append_of_ne_nil _ some, List.getLast?_eq_some_getLast some,
    Option.any_some]
  exact isDigit_of_mem_number (List.getLast_mem some)

/-- A declarable name with a number is declarable. -/
lemma Declarable.append_number {name : String} (h : Declarable name) (k : ℕ) :
    Declarable (name ++ toString k) := by
  have ends : ∀ word ∈ Text.keywords ++ reservedTypes,
      word.toList.getLast?.any Char.isDigit = false := by
    decide
  have other : name ++ toString k ∉ Text.keywords ++ reservedTypes := fun mem => by
    have digit := getLast?_append_number name k
    rw [ends _ mem] at digit
    cases digit
  rw [List.mem_append, not_or] at other
  refine ⟨?_, other.1, other.2⟩
  have digits : (toString k).toList.all Text.continuesIdentifier = true :=
    List.all_eq_true.2 fun c mem => by
      simp [Text.continuesIdentifier, Char.isAlphanum, isDigit_of_mem_number mem]
  have bare := h.bare
  rw [String.toList_append]
  cases chars : name.toList with
  | nil =>
      rw [chars] at bare
      cases bare
  | cons c rest =>
      rw [chars, Text.isBare, Bool.and_eq_true] at bare
      rw [List.cons_append, Text.isBare, List.all_append, bare.1, bare.2, digits]
      rfl

/-! ### Words -/

/-- The words of a row of characters have letters and digits alone, and there is no empty word. -/
lemma mem_wordsFrom {word row w : List Char} (alphanumeric : ∀ c ∈ word, c.isAlphanum = true)
    (mem : w ∈ wordsFrom word row) : w ≠ [] ∧ ∀ c ∈ w, c.isAlphanum = true := by
  fun_induction wordsFrom word row with
  | case1 word empty => cases mem
  | case2 word some =>
      obtain rfl := List.mem_singleton.1 mem
      exact ⟨fun eq => some (by rw [eq]; rfl), alphanumeric⟩
  | case3 word c rest own ih =>
      refine ih (fun d mem => ?_) mem
      rcases List.mem_append.1 mem with mem | mem
      · exact alphanumeric d mem
      · rw [List.mem_singleton.1 mem]
        exact own
  | case4 word c rest other empty ih => exact ih (List.forall_mem_nil _) mem
  | case5 word c rest other some ih =>
      rcases List.mem_cons.1 mem with rfl | mem
      · exact ⟨fun eq => some (by rw [eq]; rfl), alphanumeric⟩
      · exact ih (List.forall_mem_nil _) mem

lemma isAlphanum_toUpper (c : Char) : c.toUpper.isAlphanum = c.isAlphanum := by
  by_cases lower : c.isLower = true
  · have alpha : c.isAlpha = true := Bool.or_eq_true_iff.2 (.inr lower)
    rw [Char.isAlphanum, Char.isAlphanum, Char.isAlpha_toUpper_eq_isAlpha, alpha, Bool.true_or,
      Bool.true_or]
  · rw [Char.toUpper_eq_of_not_isLower lower]

lemma isAlphanum_toLower (c : Char) : c.toLower.isAlphanum = c.isAlphanum := by
  by_cases upper : c.isUpper = true
  · have alpha : c.isAlpha = true := Bool.or_eq_true_iff.2 (.inl upper)
    rw [Char.isAlphanum, Char.isAlphanum, Char.isAlpha_toLower_eq_isAlpha, alpha, Bool.true_or,
      Bool.true_or]
  · rw [Char.toLower_eq_of_not_isUpper upper]

lemma isAlphanum_of_mem_capitalizeAfter {lower first : Bool} {word : List Char}
    (alphanumeric : ∀ c ∈ word, c.isAlphanum = true) {c : Char}
    (mem : c ∈ capitalizeAfter lower first word) : c.isAlphanum = true := by
  induction word generalizing lower first with
  | nil => cases mem
  | cons d rest ih =>
      rw [List.forall_mem_cons] at alphanumeric
      rw [capitalizeAfter] at mem
      rcases List.mem_cons.1 mem with rfl | mem
      · split
        · rw [isAlphanum_toUpper, alphanumeric.1]
        · rw [isAlphanum_toLower, alphanumeric.1]
      · exact ih alphanumeric.2 mem

/-- A text as one word has letters and digits alone, and begins with a capital letter or a digit. -/
lemma pascalCase_spec (s : String) :
    (∀ c ∈ (pascalCase s).toList, c.isAlphanum = true) ∧
      ∀ c, (pascalCase s).toList.head? = some c → c.isUpper = true ∨ c.isDigit = true := by
  have own : ∀ w ∈ words s, w ≠ [] ∧ ∀ c ∈ w, c.isAlphanum = true := fun w mem =>
    mem_wordsFrom (List.forall_mem_nil _) mem
  rw [pascalCase, String.toList_ofList]
  constructor
  · intro c mem
    obtain ⟨w, among, mem⟩ := List.mem_flatMap.1 mem
    exact isAlphanum_of_mem_capitalizeAfter (own w among).2 mem
  · intro c head
    cases written : words s with
    | nil =>
        rw [written] at head
        cases head
    | cons w rest =>
        obtain ⟨some, alphanumeric⟩ := own w (by rw [written]; exact List.mem_cons_self)
        obtain ⟨d, others, rfl⟩ := List.exists_cons_of_ne_nil some
        rw [written] at head
        obtain rfl : d.toUpper = c := Option.some.inj head
        have alphanumeric := alphanumeric d List.mem_cons_self
        rw [Char.isUpper_toUpper_eq_isAlpha]
        by_cases alpha : d.isAlpha = true
        · exact .inl alpha
        · have digit : d.isDigit = true := (Bool.or_eq_true_iff.1 alphanumeric).resolve_left alpha
          have lower : ¬d.isLower = true := fun lower => alpha (Bool.or_eq_true_iff.2 (.inr lower))
          rw [Char.toUpper_eq_of_not_isLower lower]
          exact .inr digit

/-! ### Capital letters -/

/-- A row of letters and digits that begins with a capital letter. -/
structure Capitalized (word : String) : Prop where
  begins : word.toList.head?.any Char.isUpper = true
  alphanumeric : ∀ c ∈ word.toList, c.isAlphanum = true

/-- What begins with a capital letter is made up like a name if names can go on with its characters. -/
lemma isBare_iff_of_isUpper {word : String} (begins : word.toList.head?.any Char.isUpper = true) :
    Text.isBare word.toList = true ↔ ∀ c ∈ word.toList, Text.continuesIdentifier c = true := by
  cases chars : word.toList with
  | nil =>
      rw [chars] at begins
      cases begins
  | cons c rest =>
      rw [chars, List.head?_cons, Option.any_some] at begins
      have alpha : c.isAlpha = true := Bool.or_eq_true_iff.2 (.inl begins)
      rw [List.forall_mem_cons, Text.isBare, ← List.all_eq_true]
      simp [Text.startsIdentifier, Text.continuesIdentifier, Char.isAlphanum, alpha]

/-- No keyword begins with a capital letter. -/
lemma notMem_keywords_of_isUpper {word : String} (begins : word.toList.head?.any Char.isUpper = true) :
    word ∉ Text.keywords := by
  have small : ∀ keyword ∈ Text.keywords, keyword.toList.head?.any Char.isUpper = false := by decide
  intro mem
  rw [small word mem] at begins
  cases begins

lemma Capitalized.declarable {word : String} (capitalized : Capitalized word)
    (free : word ∉ reservedTypes) : Declarable word := by
  refine ⟨(isBare_iff_of_isUpper capitalized.begins).2 fun c mem => ?_,
    notMem_keywords_of_isUpper capitalized.begins, free⟩
  rw [Text.continuesIdentifier, capitalized.alphanumeric c mem]
  rfl

/-- A text as one word is capitalized unless it is empty or begins with a digit. -/
lemma capitalized_pascalCase {s : String} (some : (pascalCase s).isEmpty = false)
    (letter : beginsWithDigit (pascalCase s) = false) : Capitalized (pascalCase s) := by
  obtain ⟨alphanumeric, begins⟩ := pascalCase_spec s
  refine ⟨?_, alphanumeric⟩
  cases head : (pascalCase s).toList.head? with
  | none =>
      rw [List.head?_eq_none_iff, String.toList_eq_nil_iff, ← String.isEmpty_iff, some] at head
      cases head
  | some c =>
      rw [beginsWithDigit, head, Option.any_some] at letter
      exact (begins c head).resolve_right (Bool.eq_false_iff.1 letter)

/-! ### Names of types -/

/-- A name of a type is the name itself, which is declarable, or a capitalized one that is not reserved. -/
lemma typeName_cases (name : String) :
    typeName name = name ∧ Declarable name ∨
      Capitalized (typeName name) ∧ typeName name ∉ reservedTypes := by
  have renamed : ∀ word : String, Capitalized word →
      Capitalized (if reservedTypes.contains word then word ++ "Model" else word) ∧
        (if reservedTypes.contains word then word ++ "Model" else word) ∉ reservedTypes := by
    intro word capitalized
    split
    · next reserved =>
        -- no reserved name is another one with the suffix
        have all : ∀ word ∈ reservedTypes, (word ++ "Model").toList.head?.any Char.isUpper = true ∧
            (word ++ "Model").toList.all Char.isAlphanum = true ∧ word ++ "Model" ∉ reservedTypes := by
          decide
        obtain ⟨begins, alphanumeric, free⟩ := all word (List.contains_iff_mem.1 reserved)
        exact ⟨⟨begins, List.all_eq_true.1 alphanumeric⟩, free⟩
    · next free => exact ⟨capitalized, fun mem => free (List.contains_iff_mem.2 mem)⟩
  rw [typeName]
  by_cases identifier : Text.isIdentifier name = true
  · obtain ⟨bare, keyword⟩ := Bool.and_eq_true_iff.1 identifier
    obtain ⟨some, letter⟩ := begins_of_isBare bare
    simp only [identifier, some, letter, if_true, Bool.false_eq_true, if_false]
    by_cases reserved : name ∈ reservedTypes
    · have all : ∀ word ∈ reservedTypes, word.toList.head?.any Char.isUpper = true ∧
          word.toList.all Char.isAlphanum = true := by
        decide
      exact .inr (renamed name ⟨(all name reserved).1, List.all_eq_true.1 (all name reserved).2⟩)
    · rw [if_neg fun contains => reserved (List.contains_iff_mem.1 contains)]
      refine .inl ⟨rfl, bare, fun mem => ?_, reserved⟩
      rw [List.contains_iff_mem.2 mem] at keyword
      cases keyword
  · rw [if_neg identifier]
    refine .inr ?_
    dsimp only
    split
    · exact ⟨⟨by decide, List.all_eq_true.1 (by decide)⟩, by decide⟩
    · next some =>
        split
        · next digit =>
            have first : ("T" ++ pascalCase name).toList = 'T' :: (pascalCase name).toList := by
              rw [String.toList_append]
              rfl
            refine renamed _ ⟨by rw [first]; rfl, ?_⟩
            rw [first, List.forall_mem_cons]
            exact ⟨rfl, (pascalCase_spec name).1⟩
        · next letter =>
            exact renamed _ (capitalized_pascalCase (Bool.eq_false_iff.2 some) (Bool.eq_false_iff.2 letter))

/-- A name of a type is declarable. -/
lemma declarable_typeName (name : String) : Declarable (typeName name) := by
  rcases typeName_cases name with ⟨self, declarable⟩ | ⟨capitalized, free⟩
  · rwa [self]
  · exact capitalized.declarable free

/-- A name of a type, perhaps with a number, stays as it is. -/
theorem typeName_variant {name variant : String} (h : Variant (typeName name) variant) :
    typeName variant = variant := by
  rcases h with rfl | ⟨k, -, rfl⟩
  · exact (declarable_typeName name).typeName_eq
  · exact ((declarable_typeName name).append_number k).typeName_eq

end SchemaCompiler.Naming
