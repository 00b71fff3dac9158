import SchemaCompiler.Proofs.Validator.Basic
import SchemaCompiler.Proofs.Validator.Equations

/-!
External names take no part in validation.

What a registry changes about validators is that some strings, numbers and truth values stand behind a
name.  Taking these names away changes neither the tags of members nor the issues that are found, and what
is left of the validator of a schema is its validator under the empty registry.

* `Validator.stripped`, `Store.stripped`: what is left without these names;
* `Validator.searchTags_stripped`, `Validator.memberTags_stripped`: the tags of members;
* `Validator.issueAt?_stripped`: the issues with a value, whatever names were followed before;
* `Validator.stripped_ofSchema`, `Store.stripped_ofSchemas`: what is left of the validators of schemas.
-/

namespace SchemaCompiler.Validator

/-! ### Taking names away -/

/-- A string, number or truth value without listed values. -/
def isPrimitive : Validator → Bool
  | string _ | number _ | boolean => true
  | _ => false

mutual

/-- A validator without the external names of primitives. -/
@[simp]
def stripped : Validator → Validator
  | string checks => string checks
  | number checks => number checks
  | boolean => boolean
  | null => null
  | unknown => unknown
  | strings listed checks => strings listed checks
  | numbers listed checks => numbers listed checks
  | array item bounds => array (stripped item) bounds
  | object fields extras => object (strippedFields fields) (strippedExtras extras)
  | union keyword members discriminator objectTyped =>
    union keyword (strippedAll members) discriminator objectTyped
  | intersection members inlined objectTyped =>
    intersection (strippedAll members) inlined objectTyped
  | reference name => reference name
  | external name base => if base.isPrimitive then base else external name (stripped base)
  | nullable inner => nullable (stripped inner)

/-- Fields without the external names of primitives. -/
def strippedFields : List (Field Validator) → List (Field Validator)
  | [] => []
  | ⟨name, rule, optional⟩ :: rest => ⟨name, stripped rule, optional⟩ :: strippedFields rest

/-- The validator of further members without the external names of primitives. -/
def strippedExtras : Extras Validator → Extras Validator
  | .unspecified => .unspecified
  | .allow => .allow
  | .forbid => .forbid
  | .schema rule => .schema (stripped rule)

/-- Several validators without the external names of primitives. -/
def strippedAll : List Validator → List Validator
  | [] => []
  | v :: rest => stripped v :: strippedAll rest

end

lemma strippedAll_eq (validators : List Validator) : strippedAll validators = validators.map stripped := by
  induction validators with
  | nil => rfl
  | cons v rest ih => rw [strippedAll, ih, List.map_cons]

lemma strippedFields_eq (fields : List (Field Validator)) :
    strippedFields fields = fields.map fun field => ⟨field.name, field.rule.stripped, field.optional⟩ := by
  induction fields with
  | nil => rfl
  | cons field rest ih => rw [strippedFields, ih, List.map_cons]

/-- A primitive has no names to take away. -/
lemma stripped_of_isPrimitive {v : Validator} (primitive : v.isPrimitive = true) : v.stripped = v := by
  cases v <;> first | rfl | cases primitive

/-- A name is taken away together with what surrounds the base, or stays around what is left of it. -/
lemma stripped_external (name : String) (base : Validator) :
    (external name base).stripped = base.stripped ∨
      (external name base).stripped = external name base.stripped := by
  rw [stripped]
  split
  · next primitive => exact .inl (stripped_of_isPrimitive primitive).symm
  · exact .inr rfl

/-- The named validators of a store without the external names of primitives. -/
def Store.stripped (store : Store) : Store :=
  ⟨Table.mapValues Validator.stripped store.entries, store.links⟩

lemma Store.get?_stripped (store : Store) (name : String) :
    store.stripped.get? name = (store.get? name).map Validator.stripped := by
  rw [get?, get?, stripped, Table.get?_mapValues]
  cases Table.get? store.entries name with
  | some v => rfl
  | none =>
      cases Table.get? store.links name with
      | none => rfl
      | some target => exact Table.get?_mapValues _ _ _

/-! ### Tags -/

variable {store : Store}

lemma enumValues_stripped (v : Validator) : enumValues v.stripped = enumValues v := by
  cases v with
  | external name base =>
      rw [stripped]
      split
      · rfl
      · rw [enumValues, enumValues, enumValues_stripped base]
  | nullable inner => rw [stripped, enumValues, enumValues, enumValues_stripped inner]
  | _ => rfl

lemma fieldTags_stripped (property : String) (fields : List (Field Validator)) :
    fieldTags property (strippedFields fields) = fieldTags property fields := by
  rw [fieldTags, fieldTags, strippedFields_eq, List.find?_map]
  simp only [Function.comp_def]
  cases fields.find? fun field => field.name = property with
  | none => rfl
  | some field => exact enumValues_stripped field.rule

lemma searchTagsOfAll_stripped {property : String} {visited : List String} {members : List Validator}
    (inside : ∀ member ∈ members, ∀ later, visited ⊆ later →
      searchTags store.stripped property later member.stripped = searchTags store property later member) :
    searchTagsOfAll store.stripped property visited (strippedAll members) =
      searchTagsOfAll store property visited members := by
  induction members generalizing visited with
  | nil => rw [strippedAll, searchTagsOfAll, searchTagsOfAll]
  | cons member rest ih =>
      rw [strippedAll, searchTagsOfAll, searchTagsOfAll, inside member (.head _) visited (List.Subset.refl _)]
      rw [ih fun other among later grows =>
        inside other (.tail _ among) later (List.Subset.trans (TagSearch.grows _) grows)]

/-- The search for tags does not depend on the names. -/
lemma searchTags_stripped (property : String) (visited : List String) (v : Validator) :
    searchTags store.stripped property visited v.stripped = searchTags store property visited v := by
  cases v with
  | object fields extras => rw [stripped, searchTags, searchTags, fieldTags_stripped]
  | intersection members inlined objectTyped =>
      rw [stripped, searchTags, searchTags]
      exact searchTagsOfAll_stripped fun member among later grows =>
        have := unvisited_anti store.names grows
        searchTags_stripped property later member
  | reference name =>
      rw [stripped]
      -- the same references are stopped at in both stores, as the names that were visited are the same
      by_cases seen : name ∈ visited
      · rw [searchTags_of_visited seen, searchTags_of_visited seen]
      · have missing : store.get? name = none → store.stripped.get? name = none := fun missing => by
          rw [Store.get?_stripped, missing, Option.map_none]
        cases found : store.get? name with
        | none => rw [searchTags_of_missing seen found, searchTags_of_missing seen (missing found)]
        | some target =>
            have := unvisited_cons_lt (Store.mem_names_of_get? found) seen
            have found' : store.stripped.get? name = some target.stripped := by
              rw [Store.get?_stripped, found, Option.map_some]
            rw [searchTags_of_found seen found, searchTags_of_found seen found',
              searchTags_stripped property (name :: visited) target]
  | external name base =>
      have inside := searchTags_stripped property visited base
      rcases stripped_external name base with eq | eq
      · rw [eq, inside, searchTags]
      · rw [eq, searchTags, inside, searchTags]
  | nullable inner =>
      rw [stripped, searchTags, searchTags, searchTags_stripped property visited inner]
  | _ => simp [searchTags]
termination_by (unvisited store.names visited, sizeOf v)
decreasing_by
  · subst_vars
    exact .right' _ this (sizeOf_lt_intersection among _ _)
  · exact .left _ _ this
  · subst_vars
    exact .right _ (sizeOf_lt_external _ _)
  · subst_vars
    exact .right _ (sizeOf_lt_nullable _)

/-- The strings that a property is limited to do not depend on the names. -/
lemma literalTags_stripped (property : String) (visited : List String) (v : Validator) :
    literalTags store.stripped property visited v.stripped = literalTags store property visited v := by
  rw [literalTags, literalTags, searchTags_stripped]

/-- The tags that select a member do not depend on the names. -/
lemma memberTags_stripped (discriminator : Discriminator) (member : Validator) :
    memberTags store.stripped discriminator member.stripped = memberTags store discriminator member := by
  rw [memberTags.eq_def, memberTags.eq_def, literalTags_stripped]
  cases literalTags store discriminator.property [] member with
  | cons first rest => rfl
  | nil =>
      -- a name around a reference hides it, and stays
      cases member with
      | external name base =>
          rw [stripped]
          split
          · cases base <;> first | rfl | contradiction
          · rfl
      | _ => rfl

lemma selected?_stripped (discriminator : Discriminator) (members : List Validator)
    (object : Table Json) :
    selected? store.stripped discriminator (members.map stripped) object =
      (selected? store discriminator members object).map stripped := by
  rw [selected?, selected?, Option.map_bind]
  refine Option.bind_congr fun tag _ => ?_
  rw [List.find?_map]
  simp only [Function.comp_def, memberTags_stripped]

lemma selecting?_stripped (discriminator : Option Discriminator) (members : List Validator) :
    selecting? discriminator (members.map stripped) = selecting? discriminator members := by
  rw [selecting?, selecting?, List.length_map]

/-! ### Issues -/

section Parts

variable {store' : Store} {visited : List String} {value : Json}

lemma itemsIssue?_congr {v w : Validator} {items : List Json} (index : ℕ)
    (inside : ∀ item ∈ items, issueAt? store [] v item = issueAt? store' [] w item) :
    itemsIssue? store v index items = itemsIssue? store' w index items := by
  induction items generalizing index with
  | nil => rw [itemsIssue?, itemsIssue?]
  | cons item rest ih =>
      obtain ⟨first, others⟩ := List.forall_mem_cons.1 inside
      rw [itemsIssue?, itemsIssue?, first, ih (index + 1) others]

lemma fieldsIssue?_map {f : Validator → Validator} {fields : List (Field Validator)} {members : Table Json}
    (inside : ∀ field ∈ fields, ∀ part, Table.get? members field.name = some part →
      issueAt? store' [] (f field.rule) part = issueAt? store [] field.rule part) :
    fieldsIssue? store' (fields.map fun field => ⟨field.name, f field.rule, field.optional⟩) members =
      fieldsIssue? store fields members := by
  induction fields with
  | nil => rw [List.map_nil, fieldsIssue?, fieldsIssue?]
  | cons field rest ih =>
      obtain ⟨first, others⟩ := List.forall_mem_cons.1 inside
      rw [List.map_cons, fieldsIssue?_cons, fieldsIssue?_cons, ih others]
      cases found : Table.get? members field.name with
      | some part =>
          dsimp only
          rw [first part found]
      | none => rfl

lemma someAccepts_map {f : Validator → Validator} {members : List Validator}
    (inside : ∀ member ∈ members,
      issueAt? store' visited (f member) value = issueAt? store visited member value) :
    someAccepts store' visited (members.map f) value = someAccepts store visited members value := by
  induction members with
  | nil => rw [List.map_nil, someAccepts, someAccepts]
  | cons member rest ih =>
      obtain ⟨first, others⟩ := List.forall_mem_cons.1 inside
      rw [List.map_cons, someAccepts, someAccepts, first, ih others]

lemma allIssue?_map {f : Validator → Validator} {members : List Validator}
    (inside : ∀ member ∈ members,
      issueAt? store' visited (f member) value = issueAt? store visited member value) :
    allIssue? store' visited (members.map f) value = allIssue? store visited members value := by
  induction members with
  | nil => rw [List.map_nil, allIssue?, allIssue?]
  | cons member rest ih =>
      obtain ⟨first, others⟩ := List.forall_mem_cons.1 inside
      rw [List.map_cons, allIssue?, allIssue?, first, ih others]

lemma extrasIssue?_stripped {named : List String} {extras : Extras Validator}
    {members : List (String × Json)}
    (inside : ∀ rule, extras = .schema rule → ∀ entry ∈ members,
      issueAt? store.stripped [] rule.stripped entry.2 = issueAt? store [] rule entry.2) :
    extrasIssue? store.stripped named (strippedExtras extras) members =
      extrasIssue? store named extras members := by
  induction members with
  | nil => rw [extrasIssue?, extrasIssue?]
  | cons entry rest ih =>
      obtain ⟨name, part⟩ := entry
      have later := ih fun rule eq entry mem => inside rule eq entry (List.mem_cons_of_mem _ mem)
      cases extras with
      | schema rule =>
          rw [strippedExtras] at later ⊢
          rw [extrasIssue?, extrasIssue?, later, inside rule rfl _ List.mem_cons_self]
      | _ =>
          rw [strippedExtras] at later ⊢
          rw [extrasIssue?, extrasIssue?, later]

lemma issueAt?_stripped_array {item : Validator} (bounds : ItemBounds)
    (inside : ∀ w part, sizeOf part < sizeOf value →
      issueAt? store.stripped [] w.stripped part = issueAt? store [] w part) :
    issueAt? store.stripped visited (array item bounds).stripped value =
      issueAt? store visited (array item bounds) value := by
  cases value with
  | array items =>
      have each : ∀ x ∈ items, issueAt? store.stripped [] item.stripped x = issueAt? store [] item x :=
        fun x mem => inside item x (Json.sizeOf_lt_array mem)
      rw [stripped, issueAt?, issueAt?, itemsIssue?_congr 0 each]
  | _ => simp [issueAt?]

lemma issueAt?_stripped_object {fields : List (Field Validator)} {extras : Extras Validator}
    (inside : ∀ w part, sizeOf part < sizeOf value →
      issueAt? store.stripped [] w.stripped part = issueAt? store [] w part) :
    issueAt? store.stripped visited (object fields extras).stripped value =
      issueAt? store visited (object fields extras) value := by
  cases value with
  | object members =>
      have inFields : ∀ field ∈ fields, ∀ part, Table.get? members field.name = some part →
          issueAt? store.stripped [] field.rule.stripped part = issueAt? store [] field.rule part :=
        fun field _ part found => inside field.rule part (Json.sizeOf_lt_object (Table.mem_of_get? found))
      have inExtras : ∀ rule, extras = .schema rule → ∀ entry ∈ members,
          issueAt? store.stripped [] rule.stripped entry.2 = issueAt? store [] rule entry.2 :=
        fun rule _ entry mem => inside rule entry.2 (Json.sizeOf_lt_object mem)
      have names : (strippedFields fields).map Field.name = fields.map Field.name := by
        rw [strippedFields_eq, List.map_map]
        rfl
      rw [stripped, issueAt?, issueAt?, names, strippedFields_eq, fieldsIssue?_map inFields,
        extrasIssue?_stripped inExtras]
  | _ => simp [issueAt?]

lemma issueAt?_stripped_union (keyword : UnionKeyword) {members : List Validator}
    (discriminator : Option Discriminator) (objectTyped : Bool)
    (each : ∀ member ∈ members, issueAt? store.stripped visited member.stripped value =
      issueAt? store visited member value) :
    issueAt? store.stripped visited (union keyword members discriminator objectTyped).stripped value =
      issueAt? store visited (union keyword members discriminator objectTyped) value := by
  rw [stripped, strippedAll_eq, issueAt?_union, issueAt?_union, selecting?_stripped, someAccepts_map each]
  cases selecting? discriminator members with
  | none => rfl
  | some used =>
      cases value with
      | object entries =>
          -- the same member is selected, and it is one of those that nothing changes for
          dsimp only
          rw [selected?_stripped]
          cases found : selected? store used members entries with
          | none => rfl
          | some member => exact each member (mem_of_selected? found)
      | _ => rfl

lemma issueAt?_stripped_reference {name : String}
    (followed : ∀ target, store.get? name = some target → name ∉ visited →
      issueAt? store.stripped (name :: visited) target.stripped value =
        issueAt? store (name :: visited) target value) :
    issueAt? store.stripped visited (reference name).stripped value =
      issueAt? store visited (reference name) value := by
  rw [stripped, issueAt?_reference, issueAt?_reference, Store.get?_stripped]
  cases found : store.get? name with
  | none => rfl
  | some target =>
      dsimp only [Option.map_some]
      split
      · rfl
      · next new => exact followed target found new

end Parts

/-- **The external names of primitives take no part in validation**: the first issue with a value is the
same without them, whatever names were followed before. -/
theorem issueAt?_stripped (visited : List String) (v : Validator) (value : Json) :
    issueAt? store.stripped visited v.stripped value = issueAt? store visited v value := by
  -- the values inside start anew, without names that were followed
  have inside : ∀ w part, sizeOf part < sizeOf value →
      issueAt? store.stripped [] w.stripped part = issueAt? store [] w part :=
    fun w part smaller => issueAt?_stripped [] w part
  cases v with
  | array item bounds => exact issueAt?_stripped_array bounds inside
  | object fields extras => exact issueAt?_stripped_object inside
  | union keyword members discriminator objectTyped =>
      exact issueAt?_stripped_union keyword discriminator objectTyped fun member mem =>
        issueAt?_stripped visited member value
  | intersection members inlined objectTyped =>
      have each : ∀ member ∈ members, issueAt? store.stripped visited member.stripped value =
          issueAt? store visited member value :=
        fun member mem => issueAt?_stripped visited member value
      rw [stripped, strippedAll_eq, issueAt?, issueAt?, allIssue?_map each]
  | reference name =>
      exact issueAt?_stripped_reference fun target found new =>
        have := unvisited_cons_lt (Store.mem_names_of_get? found) new
        issueAt?_stripped (name :: visited) target value
  | external name base =>
      have same := issueAt?_stripped visited base value
      rcases stripped_external name base with eq | eq
      · rw [eq, same, issueAt?]
      · rw [eq, issueAt?, same, issueAt?]
  | nullable inner =>
      rw [stripped, issueAt?, issueAt?, issueAt?_stripped visited inner value]
  | _ => rw [stripped, issueAt?, issueAt?]
termination_by (sizeOf value, unvisited store.names visited, sizeOf v)
decreasing_by
  · exact .left _ _ smaller
  · subst_vars
    exact .right _ (.right _ (sizeOf_lt_union mem _ _ _))
  · subst_vars
    exact .right _ (.right _ (sizeOf_lt_intersection mem _ _))
  · exact .right _ (.left _ _ this)
  · subst_vars
    exact .right _ (.right _ (sizeOf_lt_external _ _))
  · subst_vars
    exact .right _ (.right _ (sizeOf_lt_nullable _))

/-! ### Validators of schemas -/

variable (registry : Registry)

/-- Nothing is registered for any kind. -/
lemma external?_empty (kind : SchemaKind) : Registry.empty.external? kind = none := by
  cases kind with
  | string rules =>
      obtain ⟨⟨format, least, greatest, pattern⟩, enumeration⟩ := rules
      cases enumeration <;> cases format <;> rfl
  | number rules =>
      obtain ⟨checks, enumeration⟩ := rules
      cases enumeration <;> rfl
  | _ => rfl

lemma stripped_orExternal {base : Validator} (primitive : base.isPrimitive = true) (name : Option String) :
    (base.orExternal name).stripped = base := by
  cases name with
  | none => exact stripped_of_isPrimitive primitive
  | some name => rw [orExternal, stripped, if_pos primitive]

lemma stripped_ofSchemas {members : List Schema}
    (inside : ∀ child ∈ members, (ofSchema registry child).stripped = ofSchema .empty child) :
    strippedAll (ofSchemas registry members) = ofSchemas .empty members := by
  rw [strippedAll_eq, ofSchemas_eq, ofSchemas_eq, List.map_map]
  exact List.map_congr_left inside

lemma stripped_ofRules {rules : ObjectRules Schema}
    (inside : ∀ child ∈ rules.children, (ofSchema registry child).stripped = ofSchema .empty child) :
    (ofRules registry rules).stripped = ofRules .empty rules := by
  obtain ⟨properties, required, extras⟩ := rules
  have fields : strippedFields (ofProperties registry required properties) =
      ofProperties .empty required properties := by
    rw [strippedFields_eq, ofProperties_eq, ofProperties_eq, List.map_map]
    refine List.map_congr_left fun entry mem => ?_
    rw [Function.comp_apply, inside entry.2 (List.mem_append_left _ (List.mem_map_of_mem mem))]
  have further : strippedExtras (ofExtras registry extras) = ofExtras .empty extras := by
    cases extras with
    | schema rule =>
        rw [ofExtras, strippedExtras, ofExtras,
          inside rule (List.mem_append_right _ List.mem_cons_self)]
    | _ => rfl
  rw [ofRules, stripped, fields, further, ofRules]

lemma stripped_ofKind {kind : SchemaKind}
    (inside : ∀ child ∈ kind.children, (ofSchema registry child).stripped = ofSchema .empty child) :
    (ofKind registry kind).stripped = ofKind .empty kind := by
  cases kind with
  | string rules =>
      obtain ⟨checks, enumeration⟩ := rules
      cases enumeration with
      | none => rw [ofKind, stripped_orExternal rfl, ofKind, external?_empty, orExternal]
      | some listed => rfl
  | number rules =>
      obtain ⟨checks, enumeration⟩ := rules
      cases enumeration with
      | none => rw [ofKind, stripped_orExternal rfl, ofKind, external?_empty, orExternal]
      | some listed => rfl
  | boolean => exact stripped_orExternal rfl _
  | array items bounds => rw [ofKind, stripped, inside items List.mem_cons_self, ofKind]
  | object rules => exact stripped_ofRules registry inside
  | union keyword members discriminator objectTyped =>
      have members' : strippedAll (ofSchemas registry members) = ofSchemas .empty members :=
        stripped_ofSchemas registry inside
      rw [ofKind, stripped, members', ofKind]
  | intersection members inline objectTyped =>
      have members' := stripped_ofSchemas registry fun child mem => inside child (List.mem_append_left _ mem)
      cases inline with
      | none => rw [ofKind, stripped, members', ofKind]
      | some rules =>
          have beside := stripped_ofRules registry fun child mem =>
            inside child (List.mem_append_right _ mem)
          rw [ofKind, stripped, strippedAll_eq, List.map_append, ← strippedAll_eq, members',
            List.map_singleton, beside, ofKind]
  | _ => rfl

/-- **Without these names a schema has one validator**, whatever is registered. -/
theorem stripped_ofSchema (s : Schema) : (ofSchema registry s).stripped = ofSchema .empty s := by
  induction s using Schema.induction with
  | step s ih =>
    obtain ⟨kind, nullable⟩ := s
    have base := stripped_ofKind registry ih
    cases nullable with
    | false => exact base
    | true => exact congrArg Validator.nullable base

lemma Store.stripped_ofSchemas (schemas : Table Schema) (links : Table String) :
    (ofSchemas registry schemas links).stripped = ofSchemas .empty schemas links := by
  rw [ofSchemas, stripped, Table.mapValues_mapValues, ofSchemas,
    Table.mapValues_congr fun entry _ => Validator.stripped_ofSchema registry entry.2]

end SchemaCompiler.Validator
