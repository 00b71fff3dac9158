import Mathlib.Tactic
import SchemaCompiler.Proofs.Validator.TagSearch

/-!
The tags of the members of a discriminated union.

* `Validator.LimitedIn`: a property of a validator is limited to some strings, one of which is a tag,
  as is found along a chain of references up to a length;
* `Validator.mem_literalTags_iff`: the search for such strings finds exactly these, also along
  references that lead back to where they came from;
* `Validator.mem_literalTags_intersection_iff`: those of an intersection are those of its members;
* `Validator.nominalTags`: the tags that a member has by its name;
* `Validator.mem_memberTags_iff`: a member is selected by literal tags, or else by those of its name;
* `Validator.selectedIndex`: the index of the first member that a tag selects.
-/

namespace SchemaCompiler.Validator

/-- A property of a validator is limited to some strings, one of which is the tag; it is found in a
number of steps at most. -/
def LimitedIn (store : Store) (property tag : String) : ℕ → Validator → Prop
  | 0, _ => False
  | _ + 1, .object fields _ => tag ∈ fieldTags property fields
  | n + 1, .intersection members _ _ => ∃ member ∈ members, LimitedIn store property tag n member
  | n + 1, .reference name =>
    ∃ target, store.get? name = some target ∧ LimitedIn store property tag n target
  | n + 1, .external _ base => LimitedIn store property tag n base
  | n + 1, .nullable inner => LimitedIn store property tag n inner
  | _ + 1, _ => False

variable {store : Store} {property tag : String}

/-- A property is limited to the strings of the objects at the ends of chains. -/
lemma exists_limitedIn_iff {v : Validator} :
    (∃ n, LimitedIn store property tag n v) ↔
      ∃ fields extras, Reaches store v (.object fields extras) ∧ tag ∈ fieldTags property fields := by
  constructor
  · rintro ⟨n, limited⟩
    induction n generalizing v with
    | zero => exact limited.elim
    | succ n ih =>
        -- each step of the search is one of a chain
        have step : ∀ w, Passes store v w → LimitedIn store property tag n w →
            ∃ fields extras, Reaches store v (.object fields extras) ∧ tag ∈ fieldTags property fields := by
          intro w passes limited
          obtain ⟨fields, extras, reaches, mem⟩ := ih limited
          exact ⟨fields, extras, reaches.head passes, mem⟩
        cases v with
        | object fields extras => exact ⟨fields, extras, .refl, limited⟩
        | intersection members inlined objectTyped =>
            obtain ⟨member, among, limited⟩ := limited
            exact step member (.member among inlined objectTyped) limited
        | reference name =>
            obtain ⟨target, found, limited⟩ := limited
            exact step target (.reference found) limited
        | external name base => exact step base (.inside (.external name base)) limited
        | nullable inner => exact step inner (.inside (.nullable inner)) limited
        | _ => exact limited.elim
  · rintro ⟨fields, extras, reaches, mem⟩
    induction reaches using Relation.ReflTransGen.head_induction_on with
    | refl => exact ⟨1, mem⟩
    | head passes _ ih =>
        obtain ⟨n, limited⟩ := ih
        refine ⟨n + 1, ?_⟩
        cases passes with
        | reference found => exact ⟨_, found, limited⟩
        | member among => exact ⟨_, among, limited⟩
        | inside wraps => cases wraps <;> exact limited

/-- The search finds exactly the strings that a property is limited to. -/
theorem mem_literalTags_iff {v : Validator} :
    tag ∈ literalTags store property [] v ↔ ∃ n, LimitedIn store property tag n v := by
  rw [literalTags, mem_tags_iff, exists_limitedIn_iff]

lemma mem_literalTags_intersection_iff {members : List Validator} {inlined objectTyped : Bool} :
    tag ∈ literalTags store property [] (.intersection members inlined objectTyped) ↔
      ∃ member ∈ members, tag ∈ literalTags store property [] member := by
  simp only [mem_literalTags_iff]
  constructor
  · rintro ⟨n, limited⟩
    cases n with
    | zero => exact limited.elim
    | succ n =>
        obtain ⟨member, among, limited⟩ := limited
        exact ⟨member, among, n, limited⟩
  · rintro ⟨member, among, n, limited⟩
    exact ⟨n + 1, member, among, limited⟩

/-! ### Members -/

/-- The tags that a member has by its name: those that are mapped to the name, or else the name. -/
def nominalTags (discriminator : Discriminator) (name : String) : List String :=
  match (discriminator.mapping.filter fun entry => mappedName entry.2 = name).map Prod.fst with
  | [] => [name]
  | mapped => mapped

/-- The tags of a name are those that are mapped to it; without any, the name is the tag. -/
lemma mem_nominalTags_iff {discriminator : Discriminator} {name : String} :
    tag ∈ nominalTags discriminator name ↔
      (∃ target, (tag, target) ∈ discriminator.mapping ∧ mappedName target = name) ∨
        (∀ entry ∈ discriminator.mapping, mappedName entry.2 ≠ name) ∧ tag = name := by
  have mapped : tag ∈
      (discriminator.mapping.filter fun entry => mappedName entry.2 = name).map Prod.fst ↔
        ∃ target, (tag, target) ∈ discriminator.mapping ∧ mappedName target = name := by
    simp
  rw [← mapped, nominalTags]
  split
  · next none =>
      have unmapped : ∀ entry ∈ discriminator.mapping, mappedName entry.2 ≠ name := by
        simpa using none
      rw [none, List.mem_singleton, and_iff_right unmapped, or_iff_right (List.not_mem_nil)]
  · next some =>
      refine (or_iff_left fun alone => some ?_).symm
      simpa using alone.1

/-- A member is selected by literal tags, or else by those of its name. -/
theorem mem_memberTags_iff {discriminator : Discriminator} {member : Validator} :
    tag ∈ memberTags store discriminator member ↔
      tag ∈ literalTags store discriminator.property [] member ∨
        literalTags store discriminator.property [] member = [] ∧
          ∃ name, member = .reference name ∧ tag ∈ nominalTags discriminator name := by
  rw [memberTags.eq_def]
  cases literal : literalTags store discriminator.property [] member with
  | nil =>
      cases member with
      | reference name =>
          refine ⟨fun mem => .inr ⟨rfl, name, rfl, mem⟩, ?_⟩
          rintro (mem | ⟨-, other, eq, mem⟩)
          · cases mem
          · cases eq
            exact mem
      | _ => simp
  | cons first rest => simp

/-- The index of the first member that a tag selects. -/
def selectedIndex (store : Store) (discriminator : Discriminator) (members : List Validator)
    (tag : String) : Option ℕ :=
  members.findIdx? fun member => (memberTags store discriminator member).contains tag

/-- An object is validated by the member at the index that its tag selects. -/
theorem selected?_eq_bind_selectedIndex (store : Store) (discriminator : Discriminator)
    (members : List Validator) (object : Table Json) :
    selected? store discriminator members object =
      ((Table.get? object discriminator.property).bind Json.string?).bind fun tag =>
        (selectedIndex store discriminator members tag).bind (members[·]?) := by
  rw [selected?]
  refine Option.bind_congr fun tag _ => ?_
  rw [selectedIndex, List.find?_eq_bind_findIdx?_getElem?]

end SchemaCompiler.Validator
