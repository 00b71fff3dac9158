import SchemaCompiler.Proofs.Route.Parameters
import SchemaCompiler.Proofs.RoundTrip.Decompilation

/-!
What is read off a validator is the schema that it was compiled from.

The two differ in the order of required names alone, which neither equality without regard to order
nor the canonical form looks at.  The integers in both fragments even come in one order, so that both
have one canonical form or lack it for one reason.

* `Schema.same_listed`: a kind with its required names in another order is the same;
* `SchemaKind.arrangeMembers_listed`: its keywords are arranged alike;
* `Schema.Compiled`: the schemas that validators are compiled from;
* `Validator.same_schema_ofSchema`: what is read off the validator of such a schema.
-/

namespace SchemaCompiler

variable {f : Schema → Schema}

/-! ### Equality without regard to order -/

lemma Schema.sameAll_map {members : List Schema} (inside : ∀ s ∈ members, (f s).same s = true) :
    sameAll (members.map f) members = true := by
  induction members with
  | nil => rw [List.map_nil, sameAll]
  | cons s rest ih =>
      rw [List.map_cons, sameAll, inside s List.mem_cons_self,
        ih fun t mem => inside t (List.mem_cons_of_mem _ mem), Bool.and_true]

/-- Rules are the same with their required names in the order of the properties. -/
lemma ObjectRules.same_listed {rules : ObjectRules Schema} (wellFormed : rules.WellFormed)
    (inside : ∀ child ∈ rules.children, (f child).same child = true) :
    same (rules.listed.map f) rules = true := by
  have properties : ∀ some : List (String × Schema), some ⊆ rules.properties →
      sameProperties (Table.mapValues f some) rules.properties = true := by
    intro some subset
    induction some with
    | nil => rw [Table.mapValues, List.map_nil, sameProperties]
    | cons entry rest ih =>
        obtain ⟨here, others⟩ := List.cons_subset.1 subset
        obtain ⟨name, s⟩ := entry
        have own : (f s).same s = true := inside s (List.mem_append_left _ (List.mem_map_of_mem here))
        rw [Table.mapValues, List.map_cons, ← Table.mapValues, sameProperties,
          (Table.get?_eq_some_iff wellFormed.distinct).2 here, ih others, Bool.and_true]
        exact own
  have extras : Extras.same (rules.extras.map f) rules.extras = true := by
    cases given : rules.extras with
    | schema rule =>
        rw [Extras.map, Extras.same]
        exact inside rule (List.mem_append_right _ (by simp [given, Extras.toList]))
    | _ => rw [Extras.map, Extras.same]
  have perm := wellFormed.listed_perm
  have required : rules.listed.required.all rules.required.contains = true :=
    List.all_eq_true.2 fun name mem => List.contains_iff_mem.2 (perm.mem_iff.1 mem)
  have all := properties rules.properties (List.Subset.refl _)
  have lengths : (Table.mapValues f rules.properties).length = rules.properties.length :=
    List.length_map _
  obtain ⟨ps, names, further⟩ := rules
  simp only [map, listed, same, Bool.and_eq_true, beq_iff_eq] at perm required all lengths extras ⊢
  exact ⟨⟨⟨⟨lengths, all⟩, perm.length_eq⟩, required⟩, extras⟩

/-- A kind is the same with its required names in the order of the properties. -/
lemma SchemaKind.same_listed {kind : SchemaKind}
    (wellFormed : ∀ rules, kind.rules? = some rules → rules.WellFormed)
    (inside : ∀ child ∈ kind.children, (f child).same child = true) :
    (kind.listed.map f id id).same kind = true := by
  cases kind with
  | string rules => simp [listed, map, same]
  | number rules => simp [listed, map, same]
  | reference name => simp [listed, map, same]
  | array items bounds =>
      have own : (f items).same items = true := inside items (List.mem_singleton_self items)
      simp [listed, map, same, own]
  | object rules =>
      rw [listed, map, same]
      exact ObjectRules.same_listed (wellFormed rules rfl) inside
  | union keyword members discriminator objectTyped =>
      have inMembers : Schema.sameAll (members.map f) members = true := Schema.sameAll_map inside
      simp [listed, map, same, inMembers]
  | intersection members inline objectTyped =>
      have inMembers := Schema.sameAll_map fun s mem => inside s (List.mem_append_left _ mem)
      cases inline with
      | none => simp [listed, map, same, inMembers, ObjectRules.sameOption]
      | some rules =>
          have beside := ObjectRules.same_listed (wellFormed rules rfl) fun s mem =>
            inside s (List.mem_append_right _ mem)
          simp [listed, map, same, inMembers, ObjectRules.sameOption, beside]
  | _ => rw [listed, map, same] <;> simp

/-! ### Arranged fragments -/

lemma arrangeMembers_append (ms ns : List (String × Json)) :
    Json.arrangeMembers (ms ++ ns) = Json.arrangeMembers ms ++ Json.arrangeMembers ns := by
  rw [Json.arrangeMembers_eq, Json.arrangeMembers_eq, Json.arrangeMembers_eq, List.map_append]

/-- The order of required names is not kept. -/
lemma arrangeMembers_requiredKeyword {a b : List String} (perm : a.Perm b) :
    Json.arrangeMembers (requiredKeyword a) = Json.arrangeMembers (requiredKeyword b) := by
  have sorted : ∀ names : List String, sortScalars (names.map Json.string) =
      (sortStrings names).map Json.string := by
    intro names
    rw [sortScalars_strings names]
    · simp [List.filter_map, Function.comp_def, Json.isNull]
    · simp [List.filter_map, Function.comp_def, Json.isNull]
  have arranged : ∀ names : List String,
      arrangeKeyword "required" (Json.array (names.map .string)).arrange =
        .array ((sortStrings names).map .string) := by
    intro names
    have items : (names.map Json.string).map Json.arrange = names.map Json.string := by simp [Json.arrange]
    rw [Json.arrange, Json.arrangeItems_eq, items, arrangeKeyword, ← sorted]
    rfl
  rw [requiredKeyword, requiredKeyword, perm.isEmpty_eq]
  split
  · rfl
  · simp only [Json.arrangeMembers, arranged, sortStrings_eq_iff_perm.2 perm]

lemma arrange_fragments {members : List Schema}
    (inside : ∀ s ∈ members, (f s).fragment.arrange = s.fragment.arrange) :
    (Json.array (Schema.fragments (members.map f))).arrange =
      (Json.array (Schema.fragments members)).arrange := by
  rw [Json.arrange, Json.arrange, Json.arrangeItems_eq, Json.arrangeItems_eq, Schema.fragments_eq,
    Schema.fragments_eq, List.map_map, List.map_map, List.map_map]
  exact congrArg _ (List.map_congr_left inside)

/-- The keywords of rules are arranged alike with required names in the order of the properties. -/
lemma ObjectRules.arrangeMembers_listed {rules : ObjectRules Schema} (wellFormed : rules.WellFormed)
    (inside : ∀ child ∈ rules.children, (f child).fragment.arrange = child.fragment.arrange) :
    Json.arrangeMembers (keywords (rules.listed.map f)) = Json.arrangeMembers (keywords rules) := by
  have perm := wellFormed.listed_perm
  have inProperties :
      (Json.object (Table.mapValues Schema.fragment (Table.mapValues f rules.properties))).arrange =
        (Json.object (Table.mapValues Schema.fragment rules.properties)).arrange := by
    rw [Table.mapValues_mapValues, Json.arrange, Json.arrange, Json.arrangeMembers_eq,
      Json.arrangeMembers_eq, Table.mapValues, Table.mapValues, List.map_map, List.map_map]
    refine congrArg _ (List.map_congr_left fun entry mem => ?_)
    have own := inside entry.2 (List.mem_append_left _ (List.mem_map_of_mem mem))
    simp only [Function.comp_apply, own]
  have inExtras : Json.arrangeMembers (Extras.keywords (rules.extras.map f)) =
      Json.arrangeMembers (Extras.keywords rules.extras) := by
    cases given : rules.extras with
    | schema rule =>
        have own := inside rule (List.mem_append_right _ (by simp [given, Extras.toList]))
        simp only [Extras.map, Extras.keywords, Json.arrangeMembers, own]
    | _ => rfl
  rw [keywords_eq, keywords_eq, arrangeMembers_append, arrangeMembers_append, arrangeMembers_append,
    arrangeMembers_append, ← arrangeMembers_requiredKeyword perm, ← inExtras]
  simp only [map, listed, Table.isEmpty_mapValues]
  split
  · rfl
  · simp only [Json.arrangeMembers, inProperties]

/-- The keywords of a kind are arranged alike with required names in the order of the properties. -/
lemma SchemaKind.arrangeMembers_listed {kind : SchemaKind}
    (wellFormed : ∀ rules, kind.rules? = some rules → rules.WellFormed)
    (inside : ∀ child ∈ kind.children, (f child).fragment.arrange = child.fragment.arrange) :
    Json.arrangeMembers (kind.listed.map f id id).keywords = Json.arrangeMembers kind.keywords := by
  cases kind with
  | array items bounds =>
      have own : (f items).fragment.arrange = items.fragment.arrange :=
        inside items (List.mem_singleton_self items)
      simp only [listed, map, keywords, arrangeMembers_append, Json.arrangeMembers, own]
  | object rules =>
      have own := ObjectRules.arrangeMembers_listed (wellFormed rules rfl) inside
      simp only [listed, map, keywords, Json.arrangeMembers, own]
  | union keyword members discriminator objectTyped =>
      have inMembers : (Json.array (Schema.fragments (members.map f))).arrange =
        (Json.array (Schema.fragments members)).arrange := arrange_fragments inside
      simp only [listed, map, keywords, arrangeMembers_append, Json.arrangeMembers, inMembers,
        Option.map_id_apply]
  | intersection members inline objectTyped =>
      have inMembers := arrange_fragments fun s mem => inside s (List.mem_append_left _ mem)
      cases inline with
      | none =>
          simp only [listed, map, keywords, arrangeMembers_append, Json.arrangeMembers, inMembers,
            Option.map_none]
      | some rules =>
          have beside := ObjectRules.arrangeMembers_listed (wellFormed rules rfl) fun s mem =>
            inside s (List.mem_append_right _ mem)
          simp only [listed, map, keywords, arrangeMembers_append, Json.arrangeMembers, inMembers,
            Option.map_some, ObjectRules.inlineKeywords, beside]
  | _ => rfl

/-! ### Compiled schemas -/

/-- The schemas that validators are compiled from: those that are read, and the objects that the
parameters of an operation make up. -/
inductive Schema.Compiled : Schema → Prop
  | read {value : Json} {s : Schema} (wellFormed : value.WellFormed)
      (ok : Schema.ofJson? value = .ok s) : Compiled s
  | parameters {context : RouteContext} {site : Site} {item : PathItem} {operation : Operation}
      {declared : List (Located Parameter)} {groups : ParameterGroups}
      (listed : context.parameters site item operation = .ok declared)
      (wellFormed : ∀ parameter ∈ declared, ∀ fragment, parameter.value.schema = some fragment →
        fragment.WellFormed)
      (ok : context.parameterGroups site item operation = .ok groups) (location : ParameterLocation) :
      Compiled (groups.object location)

lemma Schema.Compiled.wellFormed {s : Schema} (compiled : s.Compiled) : s.WellFormed := by
  cases compiled with
  | read wellFormed ok => exact Schema.wellFormed_of_ofJson? wellFormed ok
  | parameters listed wellFormed ok location =>
      exact ParameterGroups.wellFormed_of_parameterGroups listed wellFormed ok location

namespace Validator

variable {registry : Registry}

lemma same_readBack {s : Schema} (wellFormed : s.WellFormed) :
    (readBack registry s).same s = true := by
  induction s using Schema.induction with
  | step s ih =>
      obtain ⟨own, inside⟩ := Schema.wellFormed_iff.1 wellFormed
      have kind := SchemaKind.same_listed own fun child mem => ih child mem (inside child mem)
      rw [readBack_eq]
      obtain ⟨_, nullable⟩ := s
      rw [Schema.same, Bool.and_eq_true]
      exact ⟨kind, beq_self_eq_true nullable⟩

lemma arrange_readBack {s : Schema} (wellFormed : s.WellFormed) :
    (readBack registry s).fragment.arrange = s.fragment.arrange := by
  induction s using Schema.induction with
  | step s ih =>
      obtain ⟨own, inside⟩ := Schema.wellFormed_iff.1 wellFormed
      have kind := SchemaKind.arrangeMembers_listed own fun child mem => ih child mem (inside child mem)
      rw [readBack_eq]
      obtain ⟨_, nullable⟩ := s
      rw [Schema.fragment, Schema.fragment, Json.arrange, Json.arrange, arrangeMembers_append,
        arrangeMembers_append]
      exact congrArg (fun keywords => Json.object (keywords ++ _)) kind

/-- **A validator is read back as the schema that it was compiled from**, without regard to the order of
properties and of required names, and the fragments of both have one canonical form, or have none for
one reason, whatever names are registered. -/
theorem same_schema_ofSchema {s : Schema} (compiled : s.Compiled) (registry : Registry) :
    (ofSchema registry s).schema.same s = true ∧
      Canonical.ofJson (ofSchema registry s).fragment = Canonical.ofJson s.fragment := by
  refine ⟨same_readBack compiled.wellFormed, ?_⟩
  rw [Canonical.ofJson, Canonical.ofJson, fragment, arrange_readBack compiled.wellFormed]

/-- The fragment of an object with its required names in another order than its properties. -/
def owner : Json :=
  .object [("type", .string "object"),
    ("properties", .object [("id", .object [("type", .string "string"), ("format", .string "uuid")]),
      ("name", .object [("nullable", .bool true)])]),
    ("required", .array [.string "name", .string "id"])]

/-- The schema of `owner`. -/
def ownerSchema : Schema :=
  .mk (.object ⟨[("id", .mk (.string ⟨⟨some "uuid", none, none, none⟩, none⟩) false),
    ("name", .mk .any true)], ["name", "id"], .unspecified⟩) false

lemma ofJson?_owner : Schema.ofJson? owner = .ok ownerSchema := by
  have id : Schema.ofJson? (.object [("type", .string "string"), ("format", .string "uuid")]) =
      .ok (.mk (.string ⟨⟨some "uuid", none, none, none⟩, none⟩) false) :=
    Schema.ofJson?_eq_ok_iff.2 ⟨_, .typed .string, none, rfl, rfl, rfl, ⟨rfl, rfl, rfl, rfl⟩,
      by simp [Form.keywords]⟩
  have name : Schema.ofJson? (.object [("nullable", .bool true)]) = .ok (.mk .any true) :=
    Schema.ofJson?_eq_ok_iff.2 ⟨_, .untyped, some true, rfl, rfl, rfl, ⟨rfl, rfl, rfl⟩,
      by simp [Form.keywords]⟩
  have rules : ReadObject [("type", .string "object"),
      ("properties", .object [("id", .object [("type", .string "string"), ("format", .string "uuid")]),
        ("name", .object [("nullable", .bool true)])]),
      ("required", .array [.string "name", .string "id"])] ⟨[("id", _), ("name", _)], ["name", "id"],
        .unspecified⟩ :=
    ⟨.inr ⟨_, rfl, .cons ⟨rfl, id⟩ (.cons ⟨rfl, name⟩ .nil)⟩,
      .inr ⟨["name", "id"], rfl, by decide, by decide⟩, rfl⟩
  exact Schema.ofJson?_eq_ok_iff.2 ⟨_, .typed .object, none, rfl, rfl, rfl, ⟨rfl, rfl, rfl, rules⟩,
    by simp [Form.keywords, objectKeywords]⟩

/-- A validator with a name that is registered for a format is read back as `ownerSchema`. -/
theorem same_schema_ofSchema_owner :
    let registry : Registry := ⟨[(.format "uuid", "uuidSchema")]⟩
    ownerSchema.Compiled ∧ (ofSchema registry ownerSchema).externals = ["uuidSchema"] ∧
      (ofSchema registry ownerSchema).schema.same ownerSchema = true ∧
      Canonical.ofJson (ofSchema registry ownerSchema).fragment =
        Canonical.ofJson ownerSchema.fragment := by
  intro registry
  have wellFormed : owner.WellFormed := by
    simp [owner, Json.wellFormed_object_iff, Json.wellFormed_array_iff, Table.keys]
  have compiled : ownerSchema.Compiled := .read wellFormed ofJson?_owner
  exact ⟨compiled, by decide, same_schema_ofSchema compiled registry⟩

end Validator

end SchemaCompiler
