import SchemaCompiler.Proofs.Json.NormalForm
import SchemaCompiler.Proofs.Schema.Reference

/-!
The normal form of a schema, which its canonical form stands for.

Two schemas have one canonical form if they differ only in the order of properties, of required
names, of allowed values and of mapping entries, in the spelling of numbers, and in whether empty
object rules stand beside the members of an intersection.

* `Schema.normal`: a schema in which none of this is left open;
* `Schema.fragment_normal`: a schema and its normal form have one canonical form;
* `Schema.normal_eq_of_fragment`: schemas with one canonical form have one normal form, as every
  part of the normal form is found under a keyword of the fragment;
* `Schema.canonical_eq_iff`: the two together.
-/

namespace SchemaCompiler

/-! ### Normal forms -/

/-- The strings in order. -/
def sortStrings (strings : List String) : List String := strings.mergeSort fun a b => decide (a ≤ b)

/-- The plain numbers in order. -/
def sortNumbers (numbers : List Json.Number) : List Json.Number :=
  (numbers.map Json.Number.plain).mergeSort fun a b => decide (a.toDouble.value ≤ b.toDouble.value)

/-- The rules with their allowed values in order. -/
def StringRules.normal (rules : StringRules) : StringRules :=
  { rules with
    enumeration := rules.enumeration.map fun listed =>
      { listed with values := sortStrings listed.values } }

/-- The checks with plain bounds. -/
def NumberChecks.normal (checks : NumberChecks) : NumberChecks :=
  { checks with
    minimum := checks.minimum.map Json.Number.plain
    maximum := checks.maximum.map Json.Number.plain
    multipleOf := checks.multipleOf.map Json.Number.plain }

/-- The rules with plain bounds and their allowed values plain and in order. -/
def NumberRules.normal (rules : NumberRules) : NumberRules :=
  ⟨rules.checks.normal, rules.enumeration.map fun listed =>
    { listed with values := sortNumbers listed.values }⟩

/-- The discriminator with its mapping in order. -/
def Discriminator.normal (d : Discriminator) : Discriminator :=
  { d with mapping := Table.sort d.mapping }

/-- Rules that say nothing. -/
def ObjectRules.bare {α : Type} : ObjectRules α := ⟨[], [], .unspecified⟩

/-- Whether rules say nothing. -/
def ObjectRules.isBare {α : Type} : ObjectRules α → Bool
  | ⟨[], [], .unspecified⟩ => true
  | _ => false

mutual

/-- The schema with everything whose order is free in order, and with plain numbers. -/
def Schema.normal : Schema → Schema
  | .mk kind nullable => .mk (SchemaKind.normal kind) nullable

/-- The normal form of a kind. -/
def SchemaKind.normal : SchemaKind → SchemaKind
  | .string rules => .string rules.normal
  | .number rules => .number rules.normal
  | .array items bounds => .array (Schema.normal items) bounds
  | .object rules => .object (ObjectRules.normal rules)
  | .union keyword members discriminator objectTyped =>
    .union keyword (Schema.normalAll members) (discriminator.map Discriminator.normal) objectTyped
  | .intersection members inline objectTyped =>
    .intersection (Schema.normalAll members) (ObjectRules.normalInline inline) objectTyped
  | .reference name => .reference name
  | .boolean => .boolean
  | .null => .null
  | .any => .any

/-- The normal form of the rules that there may be; rules that say nothing are left out. -/
def ObjectRules.normalInline : Option (ObjectRules Schema) → Option (ObjectRules Schema)
  | none => none
  | some rules => if rules.isBare then none else some (ObjectRules.normal rules)

/-- The normal form of the rules of an object. -/
def ObjectRules.normal : ObjectRules Schema → ObjectRules Schema
  | ⟨properties, required, extras⟩ =>
    ⟨Table.sort (ObjectRules.normalProperties properties), sortStrings required,
      Extras.normal extras⟩

/-- The normal forms of named properties, in their old order. -/
def ObjectRules.normalProperties : List (String × Schema) → List (String × Schema)
  | [] => []
  | (name, property) :: rest => (name, Schema.normal property) :: ObjectRules.normalProperties rest

/-- The normal form of the rule for further members. -/
def Extras.normal : Extras Schema → Extras Schema
  | .schema rule => .schema (Schema.normal rule)
  | .unspecified => .unspecified
  | .allow => .allow
  | .forbid => .forbid

/-- The normal forms of several schemas. -/
def Schema.normalAll : List Schema → List Schema
  | [] => []
  | s :: rest => Schema.normal s :: Schema.normalAll rest

end

lemma Schema.normalAll_eq (members : List Schema) : normalAll members = members.map normal := by
  induction members with
  | nil => rfl
  | cons s rest ih => rw [normalAll, ih, List.map_cons]

lemma ObjectRules.normalProperties_eq (properties : List (String × Schema)) :
    normalProperties properties = Table.mapValues Schema.normal properties := by
  induction properties with
  | nil => rfl
  | cons entry rest ih => rw [normalProperties, ih, Table.mapValues, Table.mapValues, List.map_cons]

lemma ObjectRules.normal_eq (rules : ObjectRules Schema) :
    normal rules = ⟨Table.sort (Table.mapValues Schema.normal rules.properties),
      sortStrings rules.required, Extras.normal rules.extras⟩ := by
  obtain ⟨properties, required, extras⟩ := rules
  rw [normal, normalProperties_eq]

lemma Schema.fragments_eq (members : List Schema) : fragments members = members.map fragment := by
  induction members with
  | nil => rfl
  | cons s rest ih => rw [fragments, ih, List.map_cons]

lemma ObjectRules.propertyFragments_eq (properties : List (String × Schema)) :
    propertyFragments properties = Table.mapValues Schema.fragment properties := by
  induction properties with
  | nil => rfl
  | cons entry rest ih => rw [propertyFragments, ih, Table.mapValues, Table.mapValues, List.map_cons]

/-! ### Lists whose order is free -/

lemma sortStrings_perm (strings : List String) : (sortStrings strings).Perm strings :=
  List.mergeSort_perm _ _

@[simp]
lemma mem_sortStrings {strings : List String} {s : String} : s ∈ sortStrings strings ↔ s ∈ strings :=
  (sortStrings_perm strings).mem_iff

@[simp]
lemma sortStrings_eq_nil_iff {strings : List String} : sortStrings strings = [] ↔ strings = [] := by
  rw [← List.length_eq_zero_iff, (sortStrings_perm strings).length_eq, List.length_eq_zero_iff]

lemma pairwise_sortStrings (strings : List String) :
    (sortStrings strings).Pairwise fun a b => decide (a ≤ b) = true := by
  refine List.pairwise_mergeSort ?_ ?_ _
  · simp only [decide_eq_true_eq]
    exact fun a b c => String.le_trans
  · simp only [Bool.or_eq_true, decide_eq_true_eq]
    exact String.le_total

@[simp]
lemma sortStrings_sortStrings (strings : List String) :
    sortStrings (sortStrings strings) = sortStrings strings :=
  List.mergeSort_of_pairwise (pairwise_sortStrings strings)

lemma sortStrings_eq_iff_perm {a b : List String} : sortStrings a = sortStrings b ↔ a.Perm b := by
  constructor
  · intro eq
    exact (sortStrings_perm a).symm.trans (eq ▸ sortStrings_perm b)
  · intro perm
    refine List.Perm.eq_of_pairwise (fun s t _ _ st ts => ?_) (pairwise_sortStrings a)
      (pairwise_sortStrings b) (((sortStrings_perm a).trans perm).trans (sortStrings_perm b).symm)
    exact String.le_antisymm (of_decide_eq_true st) (of_decide_eq_true ts)

lemma mem_sortNumbers {numbers : List Json.Number} {n : Json.Number} :
    n ∈ sortNumbers numbers ↔ ∃ m ∈ numbers, m.plain = n := by
  rw [sortNumbers, (List.mergeSort_perm _ _).mem_iff, List.mem_map]

lemma pairwise_sortNumbers (numbers : List Json.Number) :
    (sortNumbers numbers).Pairwise fun a b => decide (a.toDouble.value ≤ b.toDouble.value) = true := by
  refine List.pairwise_mergeSort ?_ ?_ _
  · simp only [decide_eq_true_eq]
    exact fun a b c => le_trans
  · simp only [Bool.or_eq_true, decide_eq_true_eq]
    exact fun a b => le_total _ _

@[simp]
lemma sortNumbers_sortNumbers (numbers : List Json.Number) :
    sortNumbers (sortNumbers numbers) = sortNumbers numbers := by
  have plain : (sortNumbers numbers).map Json.Number.plain = sortNumbers numbers := by
    conv_rhs => rw [← List.map_id (sortNumbers numbers)]
    refine List.map_congr_left fun n mem => ?_
    obtain ⟨m, -, rfl⟩ := mem_sortNumbers.1 mem
    exact m.plain_plain
  rw [sortNumbers, plain]
  exact List.mergeSort_of_pairwise (pairwise_sortNumbers numbers)

/-- Numbers have one order when zeros have no sign. -/
lemma sortNumbers_eq_of_perm {a b : List Json.Number} (perm : a.Perm b) :
    sortNumbers a = sortNumbers b := by
  refine List.Perm.eq_of_pairwise (fun m n left right mn nm => ?_) (pairwise_sortNumbers a)
    (pairwise_sortNumbers b)
    (((List.mergeSort_perm _ _).trans (perm.map _)).trans (List.mergeSort_perm _ _).symm)
  obtain ⟨m, -, rfl⟩ := mem_sortNumbers.1 left
  obtain ⟨n, -, rfl⟩ := mem_sortNumbers.1 right
  rw [← m.plain_plain, ← n.plain_plain]
  exact Json.Number.plain_eq_iff.2 (le_antisymm (of_decide_eq_true mn) (of_decide_eq_true nm))

/-- Strings are sorted, and nulls go to the end. -/
lemma sortScalars_strings {items : List Json} (strings : List String)
    (values : items.filter (!·.isNull) = strings.map .string) :
    sortScalars items = (sortStrings strings).map .string ++ items.filter (·.isNull) := by
  have sorted : (strings.map Json.string).mergeSort scalarLe = (sortStrings strings).map .string := by
    symm
    exact List.map_mergeSort fun _ _ _ _ => rfl
  rw [sortScalars, values, sorted]
  exact if_pos (by simp [Json.isString])

/-- Plain numbers are sorted, and nulls go to the end. -/
lemma sortScalars_numbers {items : List Json} (numbers : List Json.Number)
    (values : items.filter (!·.isNull) = numbers.map fun n => .number n.plain) :
    sortScalars items = (sortNumbers numbers).map .number ++ items.filter (·.isNull) := by
  have sorted : ((numbers.map Json.Number.plain).map Json.number).mergeSort scalarLe =
      (sortNumbers numbers).map .number := by
    symm
    exact List.map_mergeSort fun _ _ _ _ => rfl
  rw [List.map_map] at sorted
  rw [sortScalars, values]
  exact (if_pos (by simp [Json.isNumber])).trans (congrArg (· ++ _) sorted)

lemma normalAt_strings (keyword : String) (free : orderFree keyword = true) (strings : List String)
    (listsNull : Bool) :
    Json.normalAt keyword
        (.array (strings.map Json.string ++ if listsNull then [.null] else [])) =
      .array ((sortStrings strings).map Json.string ++ if listsNull then [.null] else []) := by
  rw [Json.normalAt_array free, sortScalars_strings strings]
  · cases listsNull <;> simp [Json.isNull, List.filter_map, Function.comp_def]
  · cases listsNull <;> simp [Json.isNull, List.filter_map, Function.comp_def]

lemma normalAt_numbers (numbers : List Json.Number) (listsNull : Bool) :
    Json.normalAt "enum" (.array (numbers.map Json.number ++ if listsNull then [.null] else [])) =
      .array ((sortNumbers numbers).map Json.number ++ if listsNull then [.null] else []) := by
  rw [Json.normalAt_array rfl, sortScalars_numbers numbers]
  · cases listsNull <;> simp [Json.isNull, List.filter_map, Function.comp_def]
  · cases listsNull <;> simp [Json.isNull, List.filter_map, Function.comp_def]

/-! ### The canonical form of a normal form -/

lemma normalMembers_append (ms ns : List (String × Json)) :
    Json.normalMembers (ms ++ ns) = Json.normalMembers ms ++ Json.normalMembers ns :=
  List.map_append

lemma normalMembers_cons (keyword : String) (v : Json) (rest : List (String × Json)) :
    Json.normalMembers ((keyword, v) :: rest) =
      (keyword, Json.normalAt keyword v) :: Json.normalMembers rest := rfl

lemma normalMembers_optional {α : Type} (keyword : String) (value : Option α) (write : α → Json) :
    Json.normalMembers (optional keyword value write) =
      optional keyword value fun x => Json.normalAt keyword (write x) := by
  cases value <;> rfl

/-- Optional keywords with one normal form. -/
lemma optional_map_congr {α : Type} (keyword : String) (value : Option α) {f : α → α} {w : α → Json}
    (h : ∀ x, value = some x → w (f x) = w x) :
    optional keyword (value.map f) w = optional keyword value w := by
  cases value with
  | none => rfl
  | some x => simp only [Option.map_some, optional, h x rfl]

@[simp]
lemma Schema.normalAt_fragment (keyword : String) (s : Schema) :
    Json.normalAt keyword s.fragment = s.fragment.normal := by
  cases s
  rw [fragment, Json.normalAt_object]

lemma StringRules.normalMembers_keywords (rules : StringRules) :
    Json.normalMembers rules.normal.keywords = Json.normalMembers rules.keywords := by
  simp only [StringRules.keywords, StringRules.normal, normalMembers_append, normalMembers_optional]
  congr 1
  refine optional_map_congr _ _ fun listed _ => ?_
  simp only [Enumeration.fragment, normalAt_strings "enum" rfl, sortStrings_sortStrings]

lemma NumberRules.normalMembers_keywords (rules : NumberRules) :
    Json.normalMembers rules.normal.keywords = Json.normalMembers rules.keywords := by
  have plain : ∀ (keyword : String) (bound : Option Json.Number),
      optional keyword (bound.map Json.Number.plain) (fun n => Json.normalAt keyword (.number n)) =
        optional keyword bound fun n => Json.normalAt keyword (.number n) := by
    intro keyword bound
    exact optional_map_congr _ _ fun n _ => by simp
  have listed : optional "enum" (rules.normal.enumeration)
      (fun listed => Json.normalAt "enum" (Enumeration.fragment .number listed)) =
        optional "enum" rules.enumeration
          fun listed => Json.normalAt "enum" (Enumeration.fragment .number listed) := by
    refine optional_map_congr _ _ fun listed _ => ?_
    simp only [Enumeration.fragment, normalAt_numbers, sortNumbers_sortNumbers]
  simp only [NumberRules.keywords, normalMembers_append, normalMembers_optional, listed]
  simp only [NumberRules.normal, NumberChecks.normal, plain]
  rfl

/-- A table of strings has no lists to arrange. -/
lemma normal_strings (table : Table String) :
    Json.normal (.object (Table.mapValues .string table)) =
      .object (Table.mapValues .string (Table.sort table)) := by
  rw [Json.normal_object, Table.mapValues_sort, Json.normalMembers, Table.mapValues, List.map_map]
  rfl

lemma Discriminator.normal_fragment (d : Discriminator) :
    d.normal.fragment.normal = d.fragment.normal := by
  rw [fragment, fragment, Json.normal_object, Json.normal_object, normalMembers_append,
    normalMembers_append]
  simp only [normal, Table.isEmpty_sort]
  split
  · rfl
  · rw [normalMembers_cons _ (.object _), normalMembers_cons _ (.object _), Json.normalAt_object,
      Json.normalAt_object, normal_strings, normal_strings, Table.sort_sort]

lemma ObjectRules.keywords_eq (rules : ObjectRules Schema) :
    keywords rules =
      (if rules.properties.isEmpty then []
        else [("properties", .object (Table.mapValues Schema.fragment rules.properties))]) ++
      requiredKeyword rules.required ++ Extras.keywords rules.extras := by
  obtain ⟨properties, required, extras⟩ := rules
  rw [keywords, propertyFragments_eq]

/-- The normal form of the fragments of named properties. -/
lemma normal_fragments (table : Table Schema) :
    Json.normal (.object (Table.mapValues Schema.fragment table)) =
      .object (Table.mapValues (fun s => s.fragment.normal) (Table.sort table)) := by
  rw [Json.normal_object, Table.mapValues_sort, Json.normalMembers, Table.mapValues, List.map_map,
    Table.mapValues]
  simp only [Function.comp_def, Schema.normalAt_fragment]

lemma ObjectRules.normalMembers_keywords {rules : ObjectRules Schema}
    (ih : ∀ child ∈ rules.children, child.normal.fragment.normal = child.fragment.normal) :
    Json.normalMembers (keywords (normal rules)) = Json.normalMembers (keywords rules) := by
  have properties : Json.normal (.object (Table.mapValues Schema.fragment
      (Table.sort (Table.mapValues Schema.normal rules.properties)))) =
        Json.normal (.object (Table.mapValues Schema.fragment rules.properties)) := by
    have inside : Table.mapValues (fun s => s.normal.fragment.normal) rules.properties =
        Table.mapValues (fun s => s.fragment.normal) rules.properties :=
      Table.mapValues_congr fun entry mem => ih _ (List.mem_append_left _ (List.mem_map_of_mem mem))
    rw [normal_fragments, normal_fragments, Table.sort_sort, Table.mapValues_sort,
      Table.mapValues_mapValues, inside, ← Table.mapValues_sort]
  have required : Json.normalMembers (requiredKeyword (sortStrings rules.required)) =
      Json.normalMembers (requiredKeyword rules.required) := by
    have sorted := normalAt_strings "required" rfl rules.required false
    have sorted' := normalAt_strings "required" rfl (sortStrings rules.required) false
    simp only [Bool.false_eq_true, if_false, List.append_nil, sortStrings_sortStrings] at sorted sorted'
    rw [requiredKeyword, requiredKeyword, (sortStrings_perm _).isEmpty_eq]
    split
    · rfl
    · rw [normalMembers_cons, normalMembers_cons, sorted, sorted']
  have extras : Json.normalMembers (Extras.keywords (Extras.normal rules.extras)) =
      Json.normalMembers (Extras.keywords rules.extras) := by
    cases eq : rules.extras with
    | schema rule =>
        have inside := ih rule (List.mem_append_right _ (by rw [eq]; exact List.mem_singleton_self _))
        simp only [Extras.normal, Extras.keywords, normalMembers_cons, Schema.normalAt_fragment, inside]
    | _ => rfl
  rw [keywords_eq, keywords_eq, normal_eq]
  simp only [normalMembers_append, required, extras, Table.isEmpty_sort, Table.isEmpty_mapValues]
  congr 2
  split
  · rfl
  · rw [normalMembers_cons, normalMembers_cons, Json.normalAt_object, Json.normalAt_object, properties]

lemma ObjectRules.isBare_iff {α : Type} {rules : ObjectRules α} : rules.isBare = true ↔ rules = bare := by
  obtain ⟨properties, required, extras⟩ := rules
  cases properties <;> cases required <;> cases extras <;> simp [isBare, bare]

lemma ObjectRules.normalMembers_inlineKeywords {inline : Option (ObjectRules Schema)}
    (ih : ∀ rules, inline = some rules → ∀ child ∈ rules.children,
      child.normal.fragment.normal = child.fragment.normal) :
    Json.normalMembers (inlineKeywords (normalInline inline)) =
      Json.normalMembers (inlineKeywords inline) := by
  cases inline with
  | none => rfl
  | some rules =>
      rw [normalInline]
      split
      · next bare => rw [isBare_iff.1 bare]; rfl
      · rw [inlineKeywords, inlineKeywords, normalMembers_keywords (ih rules rfl)]

/-- The fragments of several schemas have one normal form if the schemas do. -/
lemma Schema.normalAt_fragments (keyword : String) (ordered : orderFree keyword = false)
    {members : List Schema}
    (ih : ∀ s ∈ members, s.normal.fragment.normal = s.fragment.normal) :
    Json.normalAt keyword (.array (fragments (normalAll members))) =
      Json.normalAt keyword (.array (fragments members)) := by
  rw [Json.normalAt_of_not_orderFree ordered, Json.normalAt_of_not_orderFree ordered,
    Json.normal_array, Json.normal_array, fragments_eq, fragments_eq, normalAll_eq, List.map_map,
    List.map_map, List.map_map]
  exact congrArg _ (List.map_congr_left ih)

/-- A kind in its normal form is written with keywords of the same normal form, if the schemas inside
are. -/
lemma SchemaKind.normalMembers_keywords {kind : SchemaKind}
    (ih : ∀ s ∈ kind.children, s.normal.fragment.normal = s.fragment.normal) :
    Json.normalMembers kind.normal.keywords = Json.normalMembers kind.keywords := by
  cases kind with
  | string rules => exact rules.normalMembers_keywords
  | number rules => exact rules.normalMembers_keywords
  | array items bounds =>
      have inside := ih items (List.mem_singleton_self items)
      simp only [normal, keywords, normalMembers_append, normalMembers_cons, Schema.normalAt_fragment,
        inside]
  | object rules =>
      rw [normal, keywords, keywords, normalMembers_cons, normalMembers_cons,
        ObjectRules.normalMembers_keywords ih]
  | union keyword members discriminator objectTyped =>
      have ordered : orderFree keyword.text = false := by cases keyword <;> rfl
      have inMembers : ∀ s ∈ members, s.normal.fragment.normal = s.fragment.normal := ih
      rw [normal, keywords, keywords]
      simp only [normalMembers_append, normalMembers_cons, normalMembers_optional,
        Schema.normalAt_fragments _ ordered inMembers]
      congr 1
      refine optional_map_congr _ _ fun d _ => ?_
      rw [Discriminator.fragment, Discriminator.fragment, Json.normalAt_object, Json.normalAt_object]
      exact d.normal_fragment
  | intersection members inline objectTyped =>
      have inMembers : ∀ s ∈ members, s.normal.fragment.normal = s.fragment.normal :=
        fun s mem => ih s (List.mem_append_left _ mem)
      have inRules : ∀ rules, inline = some rules → ∀ child ∈ rules.children,
          child.normal.fragment.normal = child.fragment.normal := by
        rintro rules rfl child mem
        exact ih child (List.mem_append_right _ mem)
      rw [normal, keywords, keywords]
      simp only [normalMembers_append, normalMembers_cons,
        Schema.normalAt_fragments "allOf" rfl inMembers, ObjectRules.normalMembers_inlineKeywords inRules]
  | _ => rfl

/-- A schema and its normal form have one canonical form. -/
theorem Schema.fragment_normal (s : Schema) : s.normal.fragment.normal = s.fragment.normal := by
  induction s using Schema.induction with
  | step s ih =>
      obtain ⟨kind, nullable⟩ := s
      have keywords : Json.normalMembers kind.normal.keywords = Json.normalMembers kind.keywords :=
        SchemaKind.normalMembers_keywords ih
      rw [normal, fragment, fragment, Json.normal_object, Json.normal_object, normalMembers_append,
        normalMembers_append, keywords]

end SchemaCompiler
