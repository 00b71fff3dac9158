import SchemaCompiler.Proofs.Json.Text
import SchemaCompiler.Proofs.Table
import SchemaCompiler.Schema.Canonical

/-!
The normal form of a value, which its canonical form is the text of.

* `Json.normal`: a value with its order-free lists and its members sorted and plain numbers;
* `Json.normalAt_eq`: the value of a keyword is sorted before or after its parts are;
* `Json.Safe`: all integers of a value are in range;
* `Json.get?_normal`: the members of a normal form are found under their old names;
* `Canonical.ofJson_eq_ok_iff`: the values that have a canonical form, and the form;
* `Canonical.ofJson_eq_iff`: two canonical forms are equal if and only if the normal forms are.
-/

namespace SchemaCompiler

namespace Json

/-! ### Item by item, member by member -/

lemma arrangeItems_eq (items : List Json) : arrangeItems items = items.map arrange := by
  induction items with
  | nil => rfl
  | cons item rest ih => rw [arrangeItems, ih, List.map_cons]

lemma arrangeMembers_eq (members : List (String × Json)) :
    arrangeMembers members = members.map fun m => (m.1, arrangeKeyword m.1 m.2.arrange) := by
  induction members with
  | nil => rfl
  | cons member rest ih => rw [arrangeMembers, ih, List.map_cons]

lemma sortMembersOfItems_eq (items : List Json) :
    sortMembersOfItems items = items.map sortMembers := by
  induction items with
  | nil => rfl
  | cons item rest ih => rw [sortMembersOfItems, ih, List.map_cons]

lemma sortMembersOfMembers_eq (members : List (String × Json)) :
    sortMembersOfMembers members = Table.mapValues sortMembers members := by
  induction members with
  | nil => rfl
  | cons member rest ih =>
      rw [sortMembersOfMembers, ih, Table.mapValues, Table.mapValues, List.map_cons]

/-! ### Normal forms -/

/-- The value with its order-free lists and its members sorted and plain numbers. -/
def normal (v : Json) : Json := v.arrange.sortMembers.plain

/-- The normal form of the value of a keyword, sorted if it is an order-free list. -/
def normalAt (keyword : String) (v : Json) : Json :=
  (arrangeKeyword keyword v.arrange).sortMembers.plain

lemma normalAt_of_not_orderFree {keyword : String} (h : orderFree keyword = false) (v : Json) :
    normalAt keyword v = v.normal := by
  rw [normalAt, normal]
  cases v.arrange <;> simp [arrangeKeyword, h]

lemma arrange_object (members : List (String × Json)) :
    arrange (.object members) = .object (arrangeMembers members) := by rw [arrange]

@[simp]
lemma normalAt_object (keyword : String) (members : List (String × Json)) :
    normalAt keyword (.object members) = normal (.object members) := by
  rw [normalAt, normal, arrange_object, arrangeKeyword]
  exact nofun

@[simp]
lemma normalAt_string (keyword s : String) : normalAt keyword (.string s) = .string s := rfl

@[simp]
lemma normalAt_bool (keyword : String) (b : Bool) : normalAt keyword (.bool b) = .bool b := rfl

@[simp]
lemma normalAt_number (keyword : String) (n : Number) :
    normalAt keyword (.number n) = .number n.plain := rfl

@[simp]
lemma normal_null : normal .null = .null := rfl

@[simp]
lemma normal_string (s : String) : normal (.string s) = .string s := rfl

@[simp]
lemma normal_number (n : Number) : normal (.number n) = .number n.plain := rfl

lemma normal_array (items : List Json) : normal (.array items) = .array (items.map normal) := by
  rw [normal, arrange, sortMembers, plain, arrangeItems_eq, sortMembersOfItems_eq, plainItems_eq,
    List.map_map, List.map_map]
  rfl

/-- The nulls of a list are told apart by their number alone. -/
lemma filter_isNull_eq (items : List Json) :
    items.filter isNull = List.replicate (items.filter isNull).length .null := by
  refine List.eq_replicate_iff.2 ⟨rfl, fun v mem => ?_⟩
  have null := (List.mem_filter.1 mem).2
  cases v <;> first | rfl | cases null

/-- Values can be changed before or after sorting if their order and their kinds stay. -/
lemma sortScalars_map {f : Json → Json} (null : ∀ v, (f v).isNull = v.isNull)
    (string : ∀ v, (f v).isString = v.isString) (number : ∀ v, (f v).isNumber = v.isNumber)
    (order : ∀ v w, scalarLe (f v) (f w) = scalarLe v w) (items : List Json) :
    sortScalars (items.map f) = (sortScalars items).map f := by
  simp only [sortScalars, List.filter_map, Function.comp_def, null, List.all_map, string, number]
  split
  · rw [List.map_append, List.map_mergeSort fun v _ w _ => (order v w).symm]
  · rw [List.map_append]

lemma normalAt_array {keyword : String} (free : orderFree keyword = true) (items : List Json) :
    normalAt keyword (.array items) = .array (sortScalars (items.map normal)) := by
  have sorted : sortScalars ((items.map arrange).map fun v => v.sortMembers.plain) =
      (sortScalars (items.map arrange)).map fun v => v.sortMembers.plain := by
    refine sortScalars_map (fun v => ?_) (fun v => ?_) (fun v => ?_) (fun v w => ?_) _
    · cases v <;> rfl
    · cases v <;> rfl
    · cases v <;> rfl
    · cases v <;> cases w <;> simp [sortMembers, plain, scalarLe, Number.value_plain]
  rw [normalAt, arrange, arrangeKeyword, if_pos free, sortMembers, plain, arrangeItems_eq,
    sortMembersOfItems_eq, plainItems_eq, List.map_map]
  refine congrArg _ (sorted.symm.trans ?_)
  rw [List.map_map]
  rfl

/-- The members with the normal forms of their values, in their old order. -/
def normalMembers (members : List (String × Json)) : List (String × Json) :=
  members.map fun m => (m.1, normalAt m.1 m.2)

lemma normal_object (members : List (String × Json)) :
    normal (.object members) = .object (Table.sort (normalMembers members)) := by
  rw [normal, arrange, sortMembers, plain, arrangeMembers_eq, sortMembersOfMembers_eq, plainMembers_eq]
  change Json.object (Table.mapValues plain (Table.sort _)) = _
  rw [Table.mapValues_sort, Table.mapValues, Table.mapValues, List.map_map, List.map_map, normalMembers]
  rfl

@[simp]
lemma isNull_normal (v : Json) : v.normal.isNull = v.isNull := by cases v <;> rfl

@[simp]
lemma isString_normal (v : Json) : v.normal.isString = v.isString := by cases v <;> rfl

@[simp]
lemma isNumber_normal (v : Json) : v.normal.isNumber = v.isNumber := by cases v <;> rfl

lemma scalarLe_normal (v w : Json) : scalarLe v.normal w.normal = scalarLe v w := by
  cases v <;> cases w <;>
    simp [normal, arrange, sortMembers, plain, scalarLe, Number.value_plain]

lemma sortScalars_map_normal (items : List Json) :
    sortScalars (items.map normal) = (sortScalars items).map normal :=
  sortScalars_map isNull_normal isString_normal isNumber_normal scalarLe_normal items

/-- What becomes of the value of a keyword depends on its normal form alone. -/
lemma normalAt_eq (keyword : String) (v : Json) : normalAt keyword v = arrangeKeyword keyword v.normal := by
  cases v with
  | array items =>
      rw [normal_array, arrangeKeyword]
      split
      · next free => exact normalAt_array free items
      · next ordered => rw [normalAt_of_not_orderFree (by simpa using ordered), normal_array]
  | object members => rw [normalAt_object, normal_object, arrangeKeyword]; exact nofun
  | _ => rfl

lemma get?_normalMembers (members : List (String × Json)) (keyword : String) :
    Table.get? (normalMembers members) keyword =
      (Table.get? members keyword).map (normalAt keyword) := by
  rw [normalMembers, Table.get?_map]
  exact fun _ => rfl

/-- The members of a normal form are found under their old names. -/
lemma get?_normal {members others : List (String × Json)}
    (eq : normal (.object members) = normal (.object others)) (keyword : String) :
    (Table.get? members keyword).map (normalAt keyword) =
      (Table.get? others keyword).map (normalAt keyword) := by
  rw [normal_object, normal_object, object.injEq] at eq
  rw [← get?_normalMembers, ← Table.get?_sort, eq, Table.get?_sort, get?_normalMembers]

/-! ### Safe values -/

/-- All integers of the value are in range. -/
def Safe (v : Json) : Prop := v.firstUnsafe? = none

lemma safe_number_iff {n : Number} :
    Safe (.number n) ↔ ∀ value, n = .integer value → value.natAbs ≤ safeLimit := by
  cases n with
  | integer value => simp [Safe, firstUnsafe?]
  | real x => simp [Safe, firstUnsafe?]

@[simp]
lemma safe_null : Safe .null := rfl

@[simp]
lemma safe_bool (b : Bool) : Safe (.bool b) := rfl

@[simp]
lemma safe_string (s : String) : Safe (.string s) := rfl

@[simp]
lemma safe_array_iff {items : List Json} : Safe (.array items) ↔ ∀ v ∈ items, Safe v := by
  rw [Safe, firstUnsafe?]
  induction items with
  | nil => simp [firstUnsafeItem?]
  | cons item rest ih => rw [firstUnsafeItem?, Option.or_eq_none_iff, ih, List.forall_mem_cons, Safe]

lemma safe_object_iff {members : List (String × Json)} :
    Safe (.object members) ↔ ∀ m ∈ members, Safe m.2 := by
  rw [Safe, firstUnsafe?]
  induction members with
  | nil => simp [firstUnsafeMember?]
  | cons member rest ih =>
      rw [firstUnsafeMember?, Option.or_eq_none_iff, ih, List.forall_mem_cons, Safe]

lemma sortScalars_perm (items : List Json) : (sortScalars items).Perm items := by
  have split := List.filter_append_perm (fun v : Json => !v.isNull) items
  simp only [Bool.not_not] at split
  rw [sortScalars]
  split
  · exact ((List.mergeSort_perm _ _).append_right _).trans split
  · exact split

lemma safe_arrangeKeyword_iff {keyword : String} {v : Json} :
    Safe (arrangeKeyword keyword v) ↔ Safe v := by
  rw [arrangeKeyword.eq_def]
  split
  · split
    · simp only [safe_array_iff, (sortScalars_perm _).mem_iff]
    · rfl
  · rfl

/-- Whether integers are in range does not depend on order. -/
lemma safe_arrange_iff {v : Json} : Safe v.arrange ↔ Safe v := by
  induction v using ind with
  | null => rfl
  | bool => rfl
  | number => rfl
  | string => rfl
  | array items ih =>
      rw [arrange, safe_array_iff, safe_array_iff, arrangeItems_eq, List.forall_mem_map]
      exact forall₂_congr ih
  | object members ih =>
      rw [arrange, safe_object_iff, safe_object_iff, arrangeMembers_eq, List.forall_mem_map]
      exact forall₂_congr fun m h => safe_arrangeKeyword_iff.trans (ih m h)

end Json

/-! ### Canonical forms -/

namespace Canonical

/-- A value has a canonical form if its integers are in range, and then it is the text of its normal
form. -/
theorem ofJson_eq_ok_iff {v : Json} {c : Canonical} :
    ofJson v = .ok c ↔ v.Safe ∧ c.text = v.normal.canonicalText := by
  rw [← Json.safe_arrange_iff, Json.Safe, Json.normal, Json.canonicalText_plain, ofJson]
  split
  · next n found => simp [found]
  · next found =>
      simp only [found, Except.ok.injEq, true_and]
      exact ⟨fun eq => by rw [← eq], fun eq => by rw [← eq]⟩

/-- Two canonical forms are equal if and only if the normal forms are. -/
theorem ofJson_eq_iff {v w : Json} {c d : Canonical} (hv : ofJson v = .ok c) (hw : ofJson w = .ok d) :
    c = d ↔ v.normal = w.normal := by
  have cv := (ofJson_eq_ok_iff.1 hv).2
  have dw := (ofJson_eq_ok_iff.1 hw).2
  rw [Json.normal, Json.canonicalText_plain] at cv dw
  rw [Json.normal, Json.normal, ← Json.canonicalText_eq_iff, ← cv, ← dw]
  exact ⟨fun eq => by rw [eq], fun eq => by cases c; cases d; exact congrArg _ eq⟩

end Canonical

end SchemaCompiler
