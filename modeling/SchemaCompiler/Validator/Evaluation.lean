import SchemaCompiler.Validator.Checks
import SchemaCompiler.Validator.Tags

/-!
Validation of values.

References are looked up in a store.  The names that led to a validator for one and the same value
are remembered, so that a cycle of references is an issue instead of an endless search; they are
forgotten for the values inside.

* `Validator.issue?`: the first issue with a value, if there is one;
* `Validator.Store.accepts`: whether a value has none.
-/

namespace SchemaCompiler.Validator

/-- The member of a discriminated union that the tag of an object selects. -/
def selected? (store : Store) (discriminator : Discriminator) (members : List Validator)
    (object : Table Json) : Option Validator :=
  ((Table.get? object discriminator.property).bind Json.string?).bind fun tag =>
    members.find? fun member => (memberTags store discriminator member).contains tag

theorem sizeOf_selected? {store : Store} {discriminator : Discriminator} {members : List Validator}
    {object : Table Json} {member : Validator}
    (h : selected? store discriminator members object = some member) :
    sizeOf member < sizeOf members := by
  rw [selected?] at h
  obtain ⟨tag, _, found⟩ := Option.bind_eq_some_iff.1 h
  exact List.sizeOf_lt_of_mem (List.mem_of_find?_eq_some found)

theorem sizeOf_union_selected? {store : Store} {used : Discriminator}
    {members : List Validator} {object : Table Json} {member : Validator} {keyword : UnionKeyword}
    {written : Option Discriminator} {objectTyped : Bool}
    (h : selected? store used members object = some member) :
    sizeOf member < sizeOf (union keyword members written objectTyped) := by
  have := sizeOf_selected? h
  simp
  omega

/-- The discriminator of a union that selects its member: there are two members at least. -/
def selecting? (discriminator : Option Discriminator) (members : List Validator) :
    Option Discriminator :=
  if 2 ≤ members.length then discriminator else none

/-- The first issue that the checks of strings find. -/
def stringIssue? (checks : StringChecks) : Json → Option Issue
  | .string text => (checks.issue? text).map .here
  | other => some (.wrongType "string" other)

/-- The first issue that the checks of numbers find. -/
def numberIssue? (checks : NumberChecks) : Json → Option Issue
  | .number n => (checks.issue? n).map .here
  | other => some (.wrongType (if checks.integer then "integer" else "number") other)

/-- Whether a value is a string that is listed. -/
def listedStringIssue? (listed : List String) : Json → Option Issue
  | .string text => if listed.contains text then none else some (.here .notAllowed)
  | other => some (.wrongType "string" other)

/-- Whether a value is numerically equal to a number that is listed. -/
def listedNumberIssue? (listed : List Json.Number) : Json → Option Issue
  | .number n => if listed.any (·.equals n) then none else some (.here .notAllowed)
  | other => some (.wrongType "number" other)

mutual

/-- The first issue with a value, after some names were followed for it. -/
def issueAt? (store : Store) (visited : List String) (v : Validator) (value : Json) :
    Option Issue :=
  match v with
  | string checks => stringIssue? checks value
  | number checks => numberIssue? checks value
  | boolean => if value.bool?.isSome then none else some (.wrongType "boolean" value)
  | null => if value.isNull then none else some (.wrongType "null" value)
  | unknown => none
  | strings listed _ => listedStringIssue? listed.values value
  | numbers listed _ => listedNumberIssue? listed.values value
  | array item bounds =>
    match value with
    | .array items =>
      match bounds.issue? items.length with
      | some kind => some (.here kind)
      | none => itemsIssue? store item 0 items
    | other => some (.wrongType "array" other)
  | object fields extras =>
    match value with
    | .object members =>
      match fieldsIssue? store fields members with
      | some issue => some issue
      | none => extrasIssue? store (fields.map Field.name) extras members
    | other => some (.wrongType "object" other)
  | union _ members discriminator _ =>
    match selecting? discriminator members with
    | some discriminator =>
      match value with
      | .object entries =>
        match _ : selected? store discriminator members entries with
        | some member => issueAt? store visited member (.object entries)
        | none => some (.here (.unknownDiscriminator discriminator.property))
      | other => some (.wrongType "object" other)
    | none =>
      if someAccepts store visited members value then none else some (.here .noMatchingMember)
  | intersection members _ _ => allIssue? store visited members value
  | reference name =>
    match _ : store.get? name with
    | none => some (.here (.unknownSchema name))
    | some target =>
      if _ : name ∈ visited then some (.here (.cyclicReference name))
      else issueAt? store (name :: visited) target value
  | external _ base => issueAt? store visited base value
  | nullable inner => if value.isNull then none else issueAt? store visited inner value
  termination_by (sizeOf value, unvisited store.names visited, sizeOf v)
  decreasing_by
    all_goals first
      | exact Prod.Lex.right _
          (Prod.Lex.left _ _ (unvisited_cons_lt (Store.mem_names_of_get? ‹_›) ‹_›))
      | (apply Prod.Lex.right; apply Prod.Lex.right; exact sizeOf_union_selected? ‹_›)
      | (apply Prod.Lex.right; apply Prod.Lex.right
         simp only [union.sizeOf_spec, intersection.sizeOf_spec, external.sizeOf_spec,
          nullable.sizeOf_spec]
         omega)
      | (apply Prod.Lex.left; simp only [Json.array.sizeOf_spec, Json.object.sizeOf_spec]; omega)

/-- The first issue with an item from an index on. -/
def itemsIssue? (store : Store) (v : Validator) (index : Nat) (items : List Json) : Option Issue :=
  match items with
  | [] => none
  | item :: rest =>
    match issueAt? store [] v item with
    | some issue => some (issue.within (.item index))
    | none => itemsIssue? store v (index + 1) rest
  termination_by (sizeOf items, unvisited store.names [], sizeOf v)
  decreasing_by all_goals (apply Prod.Lex.left; simp only [List.cons.sizeOf_spec]; omega)

/-- The first issue with a field of an object. -/
def fieldsIssue? (store : Store) (fields : List (Field Validator)) (members : Table Json) :
    Option Issue :=
  match fields with
  | [] => none
  | ⟨name, rule, optional⟩ :: rest =>
    match _ : Table.get? members name with
    | some value =>
      match issueAt? store [] rule value with
      | some issue => some (issue.within (.field name))
      | none => fieldsIssue? store rest members
    | none =>
      if optional then fieldsIssue? store rest members
      else some (.here (.missingProperty name))
  termination_by (sizeOf members, unvisited store.names [], sizeOf fields)
  decreasing_by
    all_goals first
      | exact Prod.Lex.left _ _ (Table.sizeOf_get? ‹_›)
      | (apply Prod.Lex.right; apply Prod.Lex.right; simp only [List.cons.sizeOf_spec]; omega)

/-- The first issue with a member that no field names. -/
def extrasIssue? (store : Store) (named : List String) (extras : Extras Validator)
    (members : List (String × Json)) : Option Issue :=
  match members with
  | [] => none
  | (name, value) :: rest =>
    if named.contains name then extrasIssue? store named extras rest
    else
      match extras with
      | .unspecified => extrasIssue? store named .unspecified rest
      | .allow => extrasIssue? store named .allow rest
      | .forbid => some (.here (.unexpectedProperty name))
      | .schema rule =>
        match issueAt? store [] rule value with
        | some issue => some (issue.within (.field name))
        | none => extrasIssue? store named (.schema rule) rest
  termination_by (sizeOf members, unvisited store.names [], sizeOf extras)
  decreasing_by
    all_goals (apply Prod.Lex.left; simp only [List.cons.sizeOf_spec, Prod.mk.sizeOf_spec]; omega)

/-- Whether one of several validators finds nothing wrong. -/
def someAccepts (store : Store) (visited : List String) (members : List Validator) (value : Json) :
    Bool :=
  match members with
  | [] => false
  | member :: rest =>
    (issueAt? store visited member value).isNone || someAccepts store visited rest value
  termination_by (sizeOf value, unvisited store.names visited, sizeOf members)
  decreasing_by
    all_goals (apply Prod.Lex.right; apply Prod.Lex.right; simp only [List.cons.sizeOf_spec]; omega)

/-- The first issue that one of several validators finds. -/
def allIssue? (store : Store) (visited : List String) (members : List Validator) (value : Json) :
    Option Issue :=
  match members with
  | [] => none
  | member :: rest =>
    match issueAt? store visited member value with
    | some issue => some issue
    | none => allIssue? store visited rest value
  termination_by (sizeOf value, unvisited store.names visited, sizeOf members)
  decreasing_by
    all_goals (apply Prod.Lex.right; apply Prod.Lex.right; simp only [List.cons.sizeOf_spec]; omega)

end

/-- The first issue with a value. -/
def issue? (v : Validator) (store : Store) (value : Json) : Option Issue := issueAt? store [] v value

/-- Whether there is nothing wrong with a value. -/
def accepts (v : Validator) (store : Store) (value : Json) : Bool := (v.issue? store value).isNone

end SchemaCompiler.Validator
