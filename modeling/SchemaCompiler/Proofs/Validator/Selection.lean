import SchemaCompiler.Proofs.Resolution.Deduplication
import SchemaCompiler.Proofs.Schema.Twin
import SchemaCompiler.Proofs.Validator.Basic
import SchemaCompiler.Proofs.Validator.Tags

/-!
Deduplication and the selection of members.

The literal tags of members are kept by deduplication, as they are found along references.  The tags
that a member has by its name are not: the name changes, and of the targets of a mapping only those
that are written as references change with it.

* `Validator.mem_literalTags_twin_iff`: the literal tags of twins are the same;
* `Validator.KeepsNames`: renaming keeps whether a string is a tag of members by their names;
* `Validator.keepsNames_of_references`: it does where all targets are written as references and no two
  names of the union become one;
* `Validator.selectedIndex_resolve_eq_iff`: deduplication preserves what a tag selects if and only if
  it keeps this.
-/

namespace SchemaCompiler.Validator

variable {registry : Registry} {f : Renaming} {known : String → Prop} {store store' : Store}
  {property tag : String}

/-! ### Literal tags -/

/-- The strings that a kind is limited to. -/
def listedStrings : SchemaKind → List String
  | .string ⟨_, some listed⟩ => listed.values
  | _ => []

lemma enumValues_orExternal {base : Validator} (none : enumValues base = []) (name : Option String) :
    enumValues (base.orExternal name) = [] := by
  cases name with
  | none => exact none
  | some name => exact none

lemma enumValues_ofKind (kind : SchemaKind) :
    enumValues (ofKind registry kind) = listedStrings kind := by
  cases kind with
  | string rules =>
      obtain ⟨checks, enumeration⟩ := rules
      cases enumeration with
      | none =>
          rw [ofKind]
          exact enumValues_orExternal rfl _
      | some listed => rfl
  | number rules =>
      obtain ⟨checks, enumeration⟩ := rules
      cases enumeration with
      | none =>
          rw [ofKind]
          exact enumValues_orExternal rfl _
      | some listed => rfl
  | boolean =>
      rw [ofKind]
      exact enumValues_orExternal rfl _
  | object rules =>
      obtain ⟨properties, required, extras⟩ := rules
      rfl
  | intersection members inline objectTyped => cases inline <;> rfl
  | _ => rfl

lemma enumValues_ofSchema (s : Schema) :
    enumValues (ofSchema registry s) = listedStrings s.kind := by
  obtain ⟨kind, nullable⟩ := s
  cases nullable <;> exact enumValues_ofKind kind

lemma listedStrings_map (g : Schema → Schema) (name : String → String)
    (selection : Discriminator → Discriminator) (kind : SchemaKind) :
    listedStrings (kind.map g name selection) = listedStrings kind := by
  cases kind <;> rfl

lemma mem_listedStrings_normal_iff {kind : SchemaKind} :
    tag ∈ listedStrings kind.normal ↔ tag ∈ listedStrings kind := by
  cases kind with
  | string rules =>
      obtain ⟨checks, enumeration⟩ := rules
      cases enumeration with
      | none => rfl
      | some listed => exact mem_sortStrings
  | _ => rfl

/-- Twins are limited to the same strings. -/
lemma mem_enumValues_iff {s t : Schema} (twin : Schema.Twin f known s t) :
    tag ∈ enumValues (ofSchema registry s) ↔ tag ∈ enumValues (ofSchema registry t) := by
  obtain ⟨k, n⟩ := s
  obtain ⟨l, m⟩ := t
  rw [enumValues_ofSchema, enumValues_ofSchema, Schema.kind, Schema.kind,
    ← @mem_listedStrings_normal_iff _ l, ← twin.same_mk.1, mem_listedStrings_normal_iff,
    listedStrings_map]

lemma mem_fieldTags_iff {required : List String} {properties : Table Schema} :
    tag ∈ fieldTags property (ofProperties registry required properties) ↔
      ∃ s, Table.get? properties property = some s ∧ tag ∈ enumValues (ofSchema registry s) := by
  induction properties with
  | nil => simp [ofProperties, fieldTags, Table.get?]
  | cons entry rest ih =>
      obtain ⟨name, s⟩ := entry
      rw [ofProperties, fieldTags, List.find?_cons, Table.get?_cons]
      by_cases eq : name = property
      · simp [eq]
      · simpa [eq, fieldTags] using ih

lemma not_limitedIn_orExternal {n : ℕ} {base : Validator}
    (none : ∀ n, ¬LimitedIn store property tag n base) (name : Option String) :
    ¬LimitedIn store property tag n (base.orExternal name) := by
  cases name with
  | none => exact none n
  | some name =>
      cases n with
      | zero => exact id
      | succ n => exact none n

lemma at?_property (rules : ObjectRules Schema) (nullable : Bool) (name : String) :
    (Schema.mk (.object rules) nullable).at? [.property name] = Table.get? rules.properties name := by
  rw [Schema.at?, Schema.kind, SchemaKind.at?, ObjectRules.at?]
  cases Table.get? rules.properties name <;> rfl

/-- The rules of objects that are twins limit a property to the same strings. -/
lemma limitedIn_rules_iff {rules rules' : ObjectRules Schema} {n m : Bool}
    (twin : Schema.Twin f known (.mk (.object rules) n) (.mk (.object rules') m)) {height : ℕ} :
    LimitedIn store property tag height (ofRules registry rules) ↔
      LimitedIn store' property tag height (ofRules registry rules') := by
  cases height with
  | zero => rfl
  | succ height =>
      have there := fun s => @Schema.Twin.exists_at? _ _ _ _ twin [.property property] s
      have back := fun t => @Schema.Twin.exists_at?_symm _ _ _ _ twin [.property property] t
      rw [at?_property, at?_property] at there back
      obtain ⟨properties, required, extras⟩ := rules
      obtain ⟨properties', required', extras'⟩ := rules'
      rw [ofRules, ofRules, LimitedIn, LimitedIn, mem_fieldTags_iff, mem_fieldTags_iff]
      constructor
      · rintro ⟨s, found, mem⟩
        obtain ⟨t, found', pair⟩ := there s found
        exact ⟨t, found', (mem_enumValues_iff pair).1 mem⟩
      · rintro ⟨t, found, mem⟩
        obtain ⟨s, found', pair⟩ := back t found
        exact ⟨s, found', (mem_enumValues_iff pair).2 mem⟩

/-- Whether schemas of a kind can limit properties: objects, and what is made of other schemas or leads
to one for the value itself. -/
def limits : SchemaKind → Bool
  | .object _ => true
  | .intersection _ _ _ => true
  | .reference _ => true
  | _ => false

lemma limits_map (g : Schema → Schema) (name : String → String)
    (selection : Discriminator → Discriminator) (kind : SchemaKind) :
    limits (kind.map g name selection) = limits kind := by
  cases kind <;> rfl

lemma limits_normal (kind : SchemaKind) : limits kind.normal = limits kind := by
  cases kind <;> rfl

lemma not_limitedIn_ofKind {kind : SchemaKind} (none : limits kind = false) {height : ℕ} :
    ¬LimitedIn store property tag height (ofKind registry kind) := by
  cases kind with
  | string rules =>
      obtain ⟨checks, enumeration⟩ := rules
      cases enumeration with
      | none =>
          rw [ofKind]
          exact not_limitedIn_orExternal (fun n => by cases n <;> exact id) _
      | some listed => cases height <;> exact id
  | number rules =>
      obtain ⟨checks, enumeration⟩ := rules
      cases enumeration with
      | none =>
          rw [ofKind]
          exact not_limitedIn_orExternal (fun n => by cases n <;> exact id) _
      | some listed => cases height <;> exact id
  | boolean =>
      rw [ofKind]
      exact not_limitedIn_orExternal (fun n => by cases n <;> exact id) _
  | object => cases none
  | intersection => cases none
  | reference => cases none
  | _ => cases height <;> exact id

/-- Rules that say nothing limit nothing. -/
lemma not_limitedIn_bare {height : ℕ} :
    ¬LimitedIn store property tag height (ofRules registry .bare) := by
  cases height with
  | zero => exact id
  | succ height => exact List.not_mem_nil

/-- What limits the validator of an intersection. -/
lemma limitedIn_intersection_iff {members : List Schema} {inline : Option (ObjectRules Schema)}
    {objectTyped : Bool} {height : ℕ} :
    LimitedIn store property tag (height + 1)
        (ofKind registry (.intersection members inline objectTyped)) ↔
      (∃ member ∈ members, LimitedIn store property tag height (ofSchema registry member)) ∨
        ∃ rules, inline = some rules ∧ LimitedIn store property tag height (ofRules registry rules) := by
  cases inline with
  | none =>
      rw [ofKind, LimitedIn, ofSchemas_eq]
      simp
  | some rules =>
      rw [ofKind, LimitedIn, ofSchemas_eq]
      simp [or_and_right, exists_or]

/-- Rules that are left out of the normal form limit nothing. -/
lemma not_limitedIn_inline {inline : Option (ObjectRules Schema)}
    (none : ObjectRules.normalInline inline = none) {height : ℕ} :
    ¬∃ rules, inline = some rules ∧ LimitedIn store property tag height (ofRules registry rules) := by
  rintro ⟨rules, rfl, h⟩
  rw [ObjectRules.normalInline] at none
  split at none
  · next bare =>
      rw [ObjectRules.isBare_iff.1 bare] at h
      exact not_limitedIn_bare h
  · cases none

/-- Intersections that are twins limit a property to the same strings if their members do. -/
lemma limitedIn_intersection_twin_iff {height : ℕ}
    (inside : ∀ s t, Schema.Twin f known s t →
      (LimitedIn store property tag height (ofSchema registry s) ↔
        LimitedIn store' property tag height (ofSchema registry t)))
    {members members' : List Schema} {inline inline' : Option (ObjectRules Schema)}
    {objectTyped objectTyped' n m : Bool}
    (twin : Schema.Twin f known (.mk (.intersection members inline objectTyped) n)
      (.mk (.intersection members' inline' objectTyped') m)) :
    LimitedIn store property tag (height + 1)
        (ofKind registry (.intersection members inline objectTyped)) ↔
      LimitedIn store' property tag (height + 1)
        (ofKind registry (.intersection members' inline' objectTyped')) := by
  obtain ⟨same, -⟩ := twin.same_mk
  simp only [SchemaKind.map, SchemaKind.normal, SchemaKind.intersection.injEq, Schema.normalAll_eq,
    List.map_map] at same
  have members :=
    exists_mem_iff_of_forall₂ (twin.members (fun _ => List.mem_append_left _) same.1) inside
  rw [limitedIn_intersection_iff, limitedIn_intersection_iff]
  refine or_congr members ?_
  rcases Schema.normalInline_cases same.2.1 with ⟨none, none'⟩ | beside
  · exact iff_of_false (not_limitedIn_inline none) (not_limitedIn_inline none')
  · obtain ⟨rules, rules', rfl, rfl, -, -, eq⟩ := beside
    simp only [Option.some.injEq, exists_eq_left']
    exact inside (.mk (.object rules) false) (.mk (.object rules') false)
      (twin.rules (fun _ => List.mem_append_right _) eq)

/-- The validators of twins limit a property to the same strings. -/
theorem limitedIn_iff (linked : Linked registry f known (Schema.Twin f known) store store')
    {height : ℕ} {s t : Schema} (twin : Schema.Twin f known s t) :
    LimitedIn store property tag height (ofSchema registry s) ↔
      LimitedIn store' property tag height (ofSchema registry t) := by
  induction height generalizing s t with
  | zero => rfl
  | succ height ih =>
      obtain ⟨k, n⟩ := s
      obtain ⟨l, m⟩ := t
      obtain ⟨same, rfl⟩ := twin.same_mk
      cases n with
      | true => exact ih twin.withoutNull
      | false =>
          change LimitedIn store property tag (height + 1) (ofKind registry k) ↔
            LimitedIn store' property tag (height + 1) (ofKind registry l)
          -- kinds that limit nothing are left out first, so that only three are compared
          cases limited : limits k with
          | false =>
              have limited' : limits l = false := by
                rw [← limits_normal, ← same, limits_normal, limits_map, limited]
              exact iff_of_false (not_limitedIn_ofKind limited) (not_limitedIn_ofKind limited')
          | true =>
              cases k with
              | object rules =>
                  cases l with
                  | object rules' => exact limitedIn_rules_iff twin
                  | _ => cases same
              | intersection members inline objectTyped =>
                  cases l with
                  | intersection => exact limitedIn_intersection_twin_iff (fun _ _ => ih) twin
                  | _ => cases same
              | reference name =>
                  cases l with
                  | reference name' =>
                      obtain ⟨refers, rfl⟩ := twin.reference
                      obtain ⟨s, t, found, found', pair⟩ := linked name refers
                      rw [ofKind, ofKind, LimitedIn, LimitedIn, found, found']
                      simpa only [Option.some.injEq, exists_eq_left'] using ih pair
                  | _ => cases same
              | _ => cases limited

/-- The literal tags of twins are the same. -/
theorem mem_literalTags_twin_iff (linked : Linked registry f known (Schema.Twin f known) store store')
    {s t : Schema} (twin : Schema.Twin f known s t) :
    tag ∈ literalTags store property [] (ofSchema registry s) ↔
      tag ∈ literalTags store' property [] (ofSchema registry t) := by
  rw [mem_literalTags_iff, mem_literalTags_iff]
  exact exists_congr fun height => limitedIn_iff linked twin

lemma literalTags_twin_eq_nil_iff (linked : Linked registry f known (Schema.Twin f known) store store')
    {s t : Schema} (twin : Schema.Twin f known s t) :
    literalTags store property [] (ofSchema registry s) = [] ↔
      literalTags store' property [] (ofSchema registry t) = [] := by
  rw [List.eq_nil_iff_forall_not_mem, List.eq_nil_iff_forall_not_mem]
  exact forall_congr' fun tag => not_congr (mem_literalTags_twin_iff linked twin)

/-! ### Tags of names -/

lemma orExternal_ne_reference {base : Validator} (ne : ∀ name, base ≠ .reference name)
    (external : Option String) (name : String) : base.orExternal external ≠ .reference name := by
  cases external with
  | none => exact ne name
  | some external => exact nofun

/-- Only references have validators that are references. -/
lemma ofSchema_eq_reference_iff {s : Schema} {name : String} :
    ofSchema registry s = .reference name ↔ s = .ofName name := by
  obtain ⟨kind, nullable⟩ := s
  constructor
  · intro eq
    cases nullable with
    | true => cases eq
    | false =>
        change ofKind registry kind = .reference name at eq
        cases kind with
        | string rules =>
            obtain ⟨checks, enumeration⟩ := rules
            cases enumeration with
            | none => exact absurd eq (orExternal_ne_reference (fun _ => Validator.noConfusion) _ name)
            | some listed => cases eq
        | number rules =>
            obtain ⟨checks, enumeration⟩ := rules
            cases enumeration with
            | none => exact absurd eq (orExternal_ne_reference (fun _ => Validator.noConfusion) _ name)
            | some listed => cases eq
        | boolean => exact absurd eq (orExternal_ne_reference (fun _ => Validator.noConfusion) _ name)
        | intersection members inline objectTyped => cases inline <;> cases eq
        | object rules =>
            obtain ⟨properties, required, extras⟩ := rules
            cases eq
        | reference target =>
            cases eq
            rfl
        | _ => cases eq
  · rintro ⟨⟩
    rfl

/-- The order of a mapping does not matter. -/
lemma mem_nominalTags_normal_iff {discriminator : Discriminator} {name : String} :
    tag ∈ nominalTags discriminator.normal name ↔ tag ∈ nominalTags discriminator name := by
  simp only [mem_nominalTags_iff, Discriminator.normal, Table.mem_sort]

lemma twin_eq_reference_iff {s t : Schema} (twin : Schema.Twin f known s t) {name : String} :
    ofSchema registry t = .reference name ↔
      ∃ target, ofSchema registry s = .reference target ∧ f.apply target = name := by
  simp only [ofSchema_eq_reference_iff, twin.eq_ofName_iff]

/-- The tags of a member are kept unless it has them by its name. -/
lemma memberTags_agree_iff (linked : Linked registry f known (Schema.Twin f known) store store')
    {d d' : Discriminator} (selection : (d.rename f).normal = d'.normal) {s t : Schema}
    (twin : Schema.Twin f known s t) :
    (tag ∈ memberTags store d (ofSchema registry s) ↔
        tag ∈ memberTags store' d' (ofSchema registry t)) ↔
      ∀ name, ofSchema registry s = .reference name →
        literalTags store d.property [] (.reference name) = [] →
        (tag ∈ nominalTags d name ↔ tag ∈ nominalTags (d.rename f) (f.apply name)) := by
  have property : d'.property = d.property :=
    (congrArg Discriminator.property selection).symm
  have nominal : ∀ name, tag ∈ nominalTags d' name ↔ tag ∈ nominalTags (d.rename f) name :=
    fun name => by rw [← mem_nominalTags_normal_iff, ← selection, mem_nominalTags_normal_iff]
  rw [mem_memberTags_iff, mem_memberTags_iff, property,
    ← mem_literalTags_twin_iff linked twin, ← literalTags_twin_eq_nil_iff linked twin]
  simp only [twin_eq_reference_iff twin, nominal]
  generalize ofSchema registry s = v
  by_cases own : ∃ name, v = .reference name ∧ literalTags store d.property [] v = []
  · obtain ⟨name, rfl, none⟩ := own
    simp [none]
  · -- the name of the member does not count, neither before nor after
    have before : ¬(literalTags store d.property [] v = [] ∧
        ∃ name, v = .reference name ∧ tag ∈ nominalTags d name) := by
      rintro ⟨none, name, eq, -⟩
      exact own ⟨name, eq, none⟩
    have after : ¬(literalTags store d.property [] v = [] ∧
        ∃ name, (∃ target, v = .reference target ∧ f.apply target = name) ∧
          tag ∈ nominalTags (d.rename f) name) := by
      rintro ⟨none, -, ⟨name, eq, -⟩, -⟩
      exact own ⟨name, eq, none⟩
    rw [or_iff_left before, or_iff_left after]
    exact iff_of_true Iff.rfl fun name eq none => absurd ⟨name, eq, eq ▸ none⟩ own

/-- Renaming keeps whether a string is a tag of members by their names: of the members without literal
tags, up to the first member that has the tag. -/
def KeepsNames (f : Renaming) (store : Store) (d : Discriminator) (members : List Validator)
    (tag : String) : Prop :=
  ∀ before name after, members = before ++ .reference name :: after →
    literalTags store d.property [] (.reference name) = [] →
    (∀ member ∈ before, tag ∉ memberTags store d member) →
    (tag ∈ nominalTags d name ↔ tag ∈ nominalTags (d.rename f) (f.apply name))

/-- Of the targets of a mapping, references follow a renaming. -/
lemma mappedName_renameTarget (f : Renaming) {target : String}
    (reference : ∃ name, target = componentPrefix ++ name) :
    mappedName (renameTarget f target) = f.apply (mappedName target) := by
  obtain ⟨name, rfl⟩ := reference
  rw [renameTarget_append, mappedName, mappedName, Text.stripPrefix?_eq_some_iff.2 rfl,
    Text.stripPrefix?_eq_some_iff.2 rfl]
  rfl

/-- Names are kept if all targets of the mapping are written as references, none of another name comes
to be one of a member, and members that no target is of stay as they are. -/
theorem keepsNames_of_references {d : Discriminator} {members : List Validator}
    (references : ∀ entry ∈ d.mapping, ∃ name, entry.2 = componentPrefix ++ name)
    (apart : ∀ name, .reference name ∈ members → ∀ entry ∈ d.mapping,
      f.apply (mappedName entry.2) = f.apply name → mappedName entry.2 = name)
    (unmapped : ∀ name, .reference name ∈ members →
      (∀ entry ∈ d.mapping, mappedName entry.2 ≠ name) → f.apply name = name) :
    KeepsNames f store d members tag := by
  rintro before name after rfl - -
  have member : .reference name ∈ before ++ .reference name :: after := by simp
  have follows : ∀ entry ∈ d.mapping,
      (mappedName (renameTarget f entry.2) = f.apply name ↔ mappedName entry.2 = name) := by
    intro entry mem
    rw [mappedName_renameTarget f (references entry mem)]
    exact ⟨apart name member entry mem, congrArg f.apply⟩
  have mapped : (∃ target, (tag, target) ∈ (d.rename f).mapping ∧ mappedName target = f.apply name) ↔
      ∃ target, (tag, target) ∈ d.mapping ∧ mappedName target = name := by
    simp only [Discriminator.rename, Table.mapValues, List.mem_map, Prod.mk.injEq]
    constructor
    · rintro ⟨-, ⟨entry, mem, rfl, rfl⟩, eq⟩
      exact ⟨entry.2, mem, (follows entry mem).1 eq⟩
    · rintro ⟨target, mem, eq⟩
      exact ⟨_, ⟨(tag, target), mem, rfl, rfl⟩, (follows (tag, target) mem).2 eq⟩
  have none : (∀ entry ∈ (d.rename f).mapping, mappedName entry.2 ≠ f.apply name) ↔
      ∀ entry ∈ d.mapping, mappedName entry.2 ≠ name := by
    rw [Discriminator.rename, Table.mapValues, List.forall_mem_map]
    exact forall₂_congr fun entry mem => not_congr (follows entry mem)
  rw [mem_nominalTags_iff, mem_nominalTags_iff, mapped, none]
  refine or_congr_right (and_congr_right fun alone => ?_)
  rw [unmapped name member alone]

/-- A tag selects members at one index of two unions that are twins if and only if renaming keeps
whether it is a tag of members by their names. -/
lemma selectedIndex_eq_iff (linked : Linked registry f known (Schema.Twin f known) store store')
    {d d' : Discriminator} (selection : (d.rename f).normal = d'.normal) {members members' : List Schema}
    (twins : List.Forall₂ (Schema.Twin f known) members members') :
    selectedIndex store d (ofSchemas registry members) tag =
        selectedIndex store' d' (ofSchemas registry members') tag ↔
      KeepsNames f store d (ofSchemas registry members) tag := by
  have agree : List.Forall₂ (fun v w =>
      (memberTags store d v).contains tag = (memberTags store' d' w).contains tag ↔
        ∀ name, v = .reference name → literalTags store d.property [] (.reference name) = [] →
          (tag ∈ nominalTags d name ↔ tag ∈ nominalTags (d.rename f) (f.apply name)))
      (ofSchemas registry members) (ofSchemas registry members') := by
    rw [ofSchemas_eq, ofSchemas_eq, List.forall₂_map_left_iff, List.forall₂_map_right_iff]
    refine twins.imp fun s t twin => ?_
    rw [Bool.eq_iff_iff, List.contains_iff_mem, List.contains_iff_mem]
    exact memberTags_agree_iff linked selection twin
  rw [selectedIndex, selectedIndex, findIdx?_eq_iff agree]
  simp only [← Bool.not_eq_true, List.contains_iff_mem]
  constructor
  · exact fun all before name after split none earlier =>
      all before (.reference name) after split earlier name rfl none
  · rintro all before - after split earlier name rfl none
    exact all before name after split none earlier

/-! ### Deduplication -/

/-- **When deduplication preserves selection.**  At the place of a union in a component its entry has
a union as well.  A tag selects the members at one index of both, each in the store of its own table,
if and only if merging keeps whether it is a tag of members by their names. -/
theorem selectedIndex_resolve_eq_iff (registry : Registry) {components : Table Schema}
    {resolution : Resolution} (distinct : (Table.keys components).Nodup)
    (refers : ∀ name s, (name, s) ∈ components → ∀ target ∈ s.references,
      target ∈ Table.keys components)
    (ok : Resolution.resolve components [] = .ok resolution) (links links' : Table String) :
    ∀ name s, (name, s) ∈ components →
      ∃ t, Table.get? resolution.table (resolution.canonicalName name) = some t ∧
        ∀ place keyword members d objectTyped nullable,
          s.at? place = some (.mk (.union keyword members (some d) objectTyped) nullable) →
          ∃ members' d',
            t.at? place = some (.mk (.union keyword members' (some d') objectTyped) nullable) ∧
            ∀ tag,
              selectedIndex (.ofSchemas registry components links) d
                    (ofSchemas registry members) tag =
                  selectedIndex (.ofSchemas registry resolution.table links') d'
                    (ofSchemas registry members') tag ↔
                KeepsNames (.ofTable resolution.renames) (.ofSchemas registry components links) d
                  (ofSchemas registry members) tag := by
  have merged := Resolution.merged_of_resolve distinct ok
  have pair := fun name s => @Resolution.twin_of_resolve _ _ distinct refers ok name s
  have linked := @linked_ofSchemas registry _ _ _ _ distinct merged.distinct pair links links'
  intro name s mem
  obtain ⟨t, there, twin⟩ := pair name s mem
  refine ⟨t, there, fun place keyword members d objectTyped nullable found => ?_⟩
  obtain ⟨⟨kind, admits⟩, found', union⟩ := twin.exists_at? found
  obtain ⟨same, rfl⟩ := union.same_mk
  cases kind with
  | union keyword' members' discriminator' objectTyped' =>
      simp only [SchemaKind.map, SchemaKind.normal, SchemaKind.union.injEq, Schema.normalAll_eq,
        List.map_map] at same
      obtain ⟨rfl, alike, selection, rfl⟩ := same
      cases discriminator' with
      | none => cases selection
      | some d' =>
          refine ⟨members', d', found', fun tag => ?_⟩
          exact selectedIndex_eq_iff linked (Option.some.inj selection)
            (union.members (fun _ mem => mem) alike)
  | _ => cases same

/-- Objects with a kind, and with whatever else the rules for further members allow. -/
def animal (extras : Extras Schema) : Schema :=
  .mk (.object ⟨[("kind", .mk (.string ⟨⟨none, none, none, none⟩, none⟩) false)], [], extras⟩) false

/-- The discriminator that maps a tag to each of two components, by its name alone. -/
def byKind : Discriminator := ⟨"kind", [("cat", "Cat"), ("dog", "Dog")]⟩

/-- The members of a union: references to two components. -/
def petMembers (dog : String) : List Schema := [.ofName "Cat", .ofName dog]

/-- A union of references to two components. -/
def petOf (dog : String) : Schema := .mk (.union .oneOf (petMembers dog) (some byKind) false) false

/-- Two components, a union of references to them, and one more component that has the form of the
second. -/
def pets : Table Schema :=
  [("Animal", animal .unspecified), ("Cat", animal .forbid), ("Dog", animal .unspecified),
    ("Pet", petOf "Dog")]

/-- What deduplication leaves of them. -/
def mergedPets : Table Schema :=
  [("Animal", animal .unspecified), ("Cat", animal .forbid), ("Pet", petOf "Animal")]

lemma resolve_pets : Resolution.resolve pets [] = .ok ⟨mergedPets, [("Dog", "Animal")], []⟩ := by
  obtain ⟨a, formAnimal⟩ : ∃ a, Resolution.canonical (animal .unspecified) = .ok a :=
    Schema.exists_canonical_iff.2 rfl
  obtain ⟨c, formCat⟩ : ∃ c, Resolution.canonical (animal .forbid) = .ok c :=
    Schema.exists_canonical_iff.2 rfl
  have formPet : ∀ dog, ∃ p, Resolution.canonical (petOf dog) = .ok p ∧ p ≠ c ∧ p ≠ a := by
    intro dog
    obtain ⟨p, form⟩ : ∃ p, Resolution.canonical (petOf dog) = .ok p :=
      Schema.exists_canonical_iff.2 rfl
    refine ⟨p, form, fun eq => ?_, fun eq => ?_⟩
    · cases (Schema.canonical_eq_iff form formCat).1 eq
    · cases (Schema.canonical_eq_iff form formAnimal).1 eq
  have ne : c ≠ a := fun eq => by cases (Schema.canonical_eq_iff formCat formAnimal).1 eq
  obtain ⟨p, formOfDog, neCat, neAnimal⟩ := formPet "Dog"
  obtain ⟨q, formOfAnimal, neCat', neAnimal'⟩ := formPet "Animal"
  have first : Resolution.duplicates [] pets = .ok [("Dog", "Animal")] := by
    simp [pets, Resolution.duplicates, Resolution.lookup_cons, formAnimal, formCat, formOfDog, ne,
      ne.symm, neCat, neAnimal, bind, Except.bind, pure, Except.pure]
  have second : Resolution.duplicates [] mergedPets = .ok [] := by
    simp [mergedPets, Resolution.duplicates, Resolution.lookup_cons, formAnimal, formCat, formOfAnimal,
      ne, neCat', neAnimal', bind, Except.bind, pure, Except.pure]
  have merged : Resolution.merge pets = .ok (mergedPets, [("Dog", "Animal")]) := by
    rw [Resolution.merge, Resolution.mergeRounds, first]
    change Resolution.mergeRounds mergedPets [("Dog", "Animal")] = _
    rw [Resolution.mergeRounds, second]
    rfl
  have forms : mergedPets.mapM (fun entry => return (← Resolution.canonical entry.2, entry.1)) =
      .ok [(a, "Animal"), (c, "Cat"), (q, "Pet")] := by
    simp [mergedPets, formAnimal, formCat, formOfAnimal, bind, Except.bind, pure, Except.pure]
  have closed : Resolution.dangling? mergedPets mergedPets = none := rfl
  have order : ReferenceGraph.emissionOrder mergedPets = ["Animal", "Cat", "Pet"] := by
    decide +kernel
  have cycles : ReferenceGraph.cycles mergedPets = [] := by decide
  simp only [Resolution.resolve, bind_eq_ok_iff]
  refine ⟨_, merged, _, forms, _, rfl, ?_⟩
  simp only [List.foldl_nil, closed, order, cycles]
  rfl

lemma pets_refer : ∀ name s, (name, s) ∈ pets → ∀ target ∈ s.references, target ∈ Table.keys pets := by
  simp only [pets, List.mem_cons, List.not_mem_nil, or_false, Prod.mk.injEq]
  rintro name s (⟨-, rfl⟩ | ⟨-, rfl⟩ | ⟨-, rfl⟩ | ⟨-, rfl⟩) <;> decide

/-- A component that a union refers to is merged into another one. -/
theorem selectedIndex_resolve_eq_iff_pets :
    Resolution.resolve pets [] = .ok ⟨mergedPets, [("Dog", "Animal")], []⟩ ∧
      ∃ t, Table.get? mergedPets "Pet" = some t ∧
        ∀ place keyword members d objectTyped nullable,
          (petOf "Dog").at? place =
              some (.mk (.union keyword members (some d) objectTyped) nullable) →
          ∃ members' d',
            t.at? place = some (.mk (.union keyword members' (some d') objectTyped) nullable) ∧
            ∀ tag,
              selectedIndex (.ofSchemas .empty pets []) d (ofSchemas .empty members) tag =
                  selectedIndex (.ofSchemas .empty mergedPets []) d' (ofSchemas .empty members') tag ↔
                KeepsNames (.ofTable [("Dog", "Animal")]) (.ofSchemas .empty pets []) d
                  (ofSchemas .empty members) tag :=
  ⟨resolve_pets, selectedIndex_resolve_eq_iff .empty (by decide) pets_refer resolve_pets [] []
    "Pet" (petOf "Dog") (by simp [pets])⟩

/-- Selection is not preserved: a target that is a name alone does not follow when what it names is
merged into another component.  A tag selects the second member of a union in a component and no
member of the union in its entry. -/
theorem selectedIndex_resolve_pets_ne :
    (Table.keys pets).Nodup ∧
      (∀ name s, (name, s) ∈ pets → ∀ target ∈ s.references, target ∈ Table.keys pets) ∧
      Resolution.resolve pets [] = .ok ⟨mergedPets, [("Dog", "Animal")], []⟩ ∧
      ("Pet", petOf "Dog") ∈ pets ∧ ("Pet", petOf "Animal") ∈ mergedPets ∧
      selectedIndex (.ofSchemas .empty pets []) byKind
        (ofSchemas .empty (petMembers "Dog")) "dog" = some 1 ∧
      selectedIndex (.ofSchemas .empty mergedPets []) byKind
        (ofSchemas .empty (petMembers "Animal")) "dog" = none :=
  ⟨by decide, pets_refer, resolve_pets, by simp [pets], by simp [mergedPets], by cbv, by cbv⟩

end SchemaCompiler.Validator
