import SchemaCompiler.Proofs.Schema.Renaming

/-!
Places in a schema.

A place is given by the steps that lead to it from the top, by which keyword, property or member each
of them goes.  So a place is the same in schemas that differ in the order of properties.

* `Schema.at?`: the schema at a place;
* `Schema.at?_rename`, `Schema.at?_normal`: renaming and normal forms keep places;
* `Schema.within_of_at?`: what is at a place stands in the schema.
-/

namespace SchemaCompiler

/-- A step to a schema directly inside another one. -/
inductive Schema.Step where
  | items
  | property (name : String)
  | further
  | member (index : ℕ)

/-- The schema that a step into the rules of an object leads to. -/
def ObjectRules.at? (rules : ObjectRules Schema) : Schema.Step → Option Schema
  | .property name => Table.get? rules.properties name
  | .further => rules.extras.toList.head?
  | _ => none

/-- The schema that a step leads to.  Rules that stand beside the members of an intersection are
stepped into as those of an object are. -/
def SchemaKind.at? : SchemaKind → Schema.Step → Option Schema
  | .array items _, .items => some items
  | .object rules, step => rules.at? step
  | .union _ members _ _, .member index => members[index]?
  | .intersection members _ _, .member index => members[index]?
  | .intersection _ inline _, step => inline.bind (·.at? step)
  | _, _ => none

/-- The schema at a place. -/
def Schema.at? (s : Schema) : List Schema.Step → Option Schema
  | [] => some s
  | step :: rest => (s.kind.at? step).bind fun child => child.at? rest

/-! ### Renaming -/

lemma Extras.toList_map (f : Schema → Schema) (extras : Extras Schema) :
    (extras.map f).toList = extras.toList.map f := by
  cases extras <;> rfl

lemma ObjectRules.at?_map (f : Schema → Schema) (rules : ObjectRules Schema) (step : Schema.Step) :
    (rules.map f).at? step = (rules.at? step).map f := by
  cases step with
  | property name => exact Table.get?_mapValues f rules.properties name
  | further => rw [at?, at?, map, Extras.toList_map, List.head?_map]
  | _ => rfl

lemma SchemaKind.at?_map (f : Schema → Schema) (name : String → String)
    (selection : Discriminator → Discriminator) (kind : SchemaKind) (step : Schema.Step) :
    (kind.map f name selection).at? step = (kind.at? step).map f := by
  cases kind with
  | array items bounds => cases step <;> rfl
  | object rules => exact ObjectRules.at?_map f rules step
  | union keyword members discriminator objectTyped =>
      cases step with
      | member index => exact List.getElem?_map
      | _ => rfl
  | intersection members inline objectTyped =>
      have beside : (inline.map (ObjectRules.map f)).bind (·.at? step) =
          (inline.bind (·.at? step)).map f := by
        cases inline with
        | none => rfl
        | some rules => exact ObjectRules.at?_map f rules step
      cases step with
      | member index => exact List.getElem?_map
      | _ => exact beside
  | _ => cases step <;> rfl

/-- Renaming keeps places. -/
theorem Schema.at?_rename (f : Renaming) (s : Schema) (place : List Schema.Step) :
    (s.rename f).at? place = (s.at? place).map (rename f) := by
  induction place generalizing s with
  | nil => rfl
  | cons step rest ih =>
      rw [at?, at?, kind_rename, SchemaKind.at?_map]
      cases s.kind.at? step with
      | none => rfl
      | some child => exact ih child

/-! ### Normal forms -/

lemma ObjectRules.at?_normal (rules : ObjectRules Schema) (step : Schema.Step) :
    (normal rules).at? step = (rules.at? step).map Schema.normal := by
  obtain ⟨properties, required, extras⟩ := rules
  rw [normal_eq]
  cases step with
  | property name => rw [at?, at?, Table.get?_sort, Table.get?_mapValues]
  | further =>
      rw [at?, at?]
      cases extras <;> rfl
  | _ => rfl

lemma SchemaKind.at?_normal (kind : SchemaKind) (step : Schema.Step) :
    kind.normal.at? step = (kind.at? step).map Schema.normal := by
  cases kind with
  | array items bounds => cases step <;> rfl
  | object rules => exact ObjectRules.at?_normal rules step
  | union keyword members discriminator objectTyped =>
      rw [normal, Schema.normalAll_eq]
      cases step with
      | member index => exact List.getElem?_map
      | _ => rfl
  | intersection members inline objectTyped =>
      rw [normal, Schema.normalAll_eq]
      have beside : (ObjectRules.normalInline inline).bind (·.at? step) =
          (inline.bind (·.at? step)).map Schema.normal := by
        cases inline with
        | none => rfl
        | some rules =>
            rw [ObjectRules.normalInline]
            split
            · next bare =>
                rw [ObjectRules.isBare_iff.1 bare]
                cases step <;> rfl
            · exact ObjectRules.at?_normal rules step
      cases step with
      | member index => exact List.getElem?_map
      | _ => exact beside
  | _ => cases step <;> rfl

/-- Normal forms keep places. -/
theorem Schema.at?_normal (s : Schema) (place : List Schema.Step) :
    s.normal.at? place = (s.at? place).map normal := by
  induction place generalizing s with
  | nil => rfl
  | cons step rest ih =>
      obtain ⟨kind, nullable⟩ := s
      rw [at?, at?, normal, Schema.kind, Schema.kind, SchemaKind.at?_normal]
      cases kind.at? step with
      | none => rfl
      | some child => exact ih child

/-! ### What is at a place -/

lemma ObjectRules.mem_children_of_at? {rules : ObjectRules Schema} {step : Schema.Step} {child : Schema}
    (found : rules.at? step = some child) : child ∈ rules.children := by
  cases step with
  | property name =>
      exact List.mem_append_left _ (List.mem_map_of_mem (f := Prod.snd) (Table.mem_of_get? found))
  | further => exact List.mem_append_right _ (List.mem_of_head? found)
  | _ => cases found

lemma SchemaKind.mem_children_of_at? {kind : SchemaKind} {step : Schema.Step} {child : Schema}
    (found : kind.at? step = some child) : child ∈ kind.children := by
  cases kind with
  | array items bounds =>
      cases step with
      | items =>
          cases found
          exact List.mem_singleton_self _
      | _ => cases found
  | object rules => exact ObjectRules.mem_children_of_at? found
  | union keyword members discriminator objectTyped =>
      cases step with
      | member index => exact List.mem_of_getElem? found
      | _ => cases found
  | intersection members inline objectTyped =>
      have beside : inline.bind (·.at? step) = some child →
          child ∈ (inline.map ObjectRules.children).getD [] := by
        intro found
        obtain ⟨rules, rfl, found⟩ := Option.bind_eq_some_iff.1 found
        exact ObjectRules.mem_children_of_at? found
      cases step with
      | member index => exact List.mem_append_left _ (List.mem_of_getElem? found)
      | _ => exact List.mem_append_right _ (beside found)
  | _ => cases step <;> cases found

lemma Schema.within_of_at? {s t : Schema} {place : List Schema.Step} (found : s.at? place = some t) :
    s.Within t := by
  induction place generalizing s with
  | nil =>
      cases found
      exact .self _
  | cons step rest ih =>
      obtain ⟨child, here, found⟩ := Option.bind_eq_some_iff.1 found
      exact .child (SchemaKind.mem_children_of_at? here) (ih found)

end SchemaCompiler
