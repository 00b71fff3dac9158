import SchemaCompiler.Proofs.Table
import SchemaCompiler.Validator.Evaluation

/-!
How validation proceeds.

The search for tags and the search for issues follow references under guards that recursion needs.  Here
are their steps without these, and the sizes by which proofs about them recur.

* `Json.sizeOf_lt_array`, `Validator.sizeOf_lt_union`: what is inside a value or a validator is smaller;
* `Validator.searchTags_of_found`, `Validator.issueAt?_reference`: a name that is followed;
* `Validator.issueAt?_union`, `Validator.fieldsIssue?_cons`: the members and the fields that are searched;
* `Validator.mem_of_selected?`: a tag selects one of the members.
-/

namespace SchemaCompiler

/-! ### Sizes -/

namespace Json

lemma sizeOf_lt_array {items : List Json} {item : Json} (mem : item ∈ items) :
    sizeOf item < sizeOf (array items) := by
  have := List.sizeOf_lt_of_mem mem
  simp only [array.sizeOf_spec]
  omega

lemma sizeOf_lt_object {members : List (String × Json)} {entry : String × Json} (mem : entry ∈ members) :
    sizeOf entry.2 < sizeOf (object members) := by
  have := List.sizeOf_lt_of_mem mem
  obtain ⟨name, part⟩ := entry
  simp only [object.sizeOf_spec, Prod.mk.sizeOf_spec] at this ⊢
  omega

end Json

namespace Validator

lemma sizeOf_lt_union {members : List Validator} {member : Validator} (mem : member ∈ members)
    (keyword : UnionKeyword) (discriminator : Option Discriminator) (objectTyped : Bool) :
    sizeOf member < sizeOf (union keyword members discriminator objectTyped) := by
  have := List.sizeOf_lt_of_mem mem
  simp only [union.sizeOf_spec]
  omega

lemma sizeOf_lt_intersection {members : List Validator} {member : Validator} (mem : member ∈ members)
    (inlined objectTyped : Bool) :
    sizeOf member < sizeOf (intersection members inlined objectTyped) := by
  have := List.sizeOf_lt_of_mem mem
  simp only [intersection.sizeOf_spec]
  omega

lemma sizeOf_lt_external (name : String) (base : Validator) :
    sizeOf base < sizeOf (external name base) := by
  simp only [external.sizeOf_spec]
  omega

lemma sizeOf_lt_nullable (inner : Validator) : sizeOf inner < sizeOf (nullable inner) := by
  simp only [nullable.sizeOf_spec]
  omega

/-! ### Steps -/

section Search

variable {store : Store} {property name : String} {visited : List String}

lemma searchTags_of_visited (seen : name ∈ visited) :
    searchTags store property visited (reference name) = .here [] visited := by
  rw [searchTags, dif_pos seen]

lemma searchTags_of_missing (new : name ∉ visited) (missing : store.get? name = none) :
    searchTags store property visited (reference name) = (TagSearch.here [] (name :: visited)).through := by
  rw [searchTags, dif_neg new]
  split
  · next found => cases missing.symm.trans found
  · rfl

lemma searchTags_of_found (new : name ∉ visited) {target : Validator}
    (found : store.get? name = some target) :
    searchTags store property visited (reference name) =
      (searchTags store property (name :: visited) target).through := by
  rw [searchTags, dif_neg new]
  split
  · next found' =>
      cases found.symm.trans found'
      rfl
  · next missing => cases found.symm.trans missing

end Search

lemma mem_of_selected? {discriminator : Discriminator} {members : List Validator}
    {object : Table Json} {member : Validator}
    (found : selected? store discriminator members object = some member) : member ∈ members := by
  rw [selected?] at found
  obtain ⟨tag, -, found⟩ := Option.bind_eq_some_iff.1 found
  exact List.mem_of_find?_eq_some found

lemma issueAt?_reference (store : Store) (visited : List String) (name : String) (value : Json) :
    issueAt? store visited (reference name) value =
      match store.get? name with
      | none => some (.here (.unknownSchema name))
      | some target =>
        if name ∈ visited then some (.here (.cyclicReference name))
        else issueAt? store (name :: visited) target value := by
  rw [issueAt?]
  split
  · next absent => rw [absent]
  · next target found =>
      rw [found]
      rfl

lemma issueAt?_union (store : Store) (visited : List String) (keyword : UnionKeyword)
    (members : List Validator) (discriminator : Option Discriminator) (objectTyped : Bool)
    (value : Json) :
    issueAt? store visited (union keyword members discriminator objectTyped) value =
      match selecting? discriminator members with
      | some used =>
        match value with
        | .object entries =>
          match selected? store used members entries with
          | some member => issueAt? store visited member (.object entries)
          | none => some (.here (.unknownDiscriminator used.property))
        | other => some (.wrongType "object" other)
      | none =>
        if someAccepts store visited members value then none else some (.here .noMatchingMember) := by
  rw [issueAt?]
  cases selecting? discriminator members with
  | none => rfl
  | some used =>
      cases value with
      | object entries =>
          dsimp only
          split <;> next found => rw [found]
      | _ => rfl

lemma fieldsIssue?_cons (store : Store) (field : Field Validator) (rest : List (Field Validator))
    (members : Table Json) : fieldsIssue? store (field :: rest) members =
      match Table.get? members field.name with
      | some value =>
        match issueAt? store [] field.rule value with
        | some issue => some (issue.within (.field field.name))
        | none => fieldsIssue? store rest members
      | none =>
        if field.optional then fieldsIssue? store rest members
        else some (.here (.missingProperty field.name)) := by
  obtain ⟨name, rule, optional⟩ := field
  rw [fieldsIssue?]
  split
  · next value found => exact found ▸ rfl
  · next absent => exact absent ▸ rfl

end Validator

end SchemaCompiler
