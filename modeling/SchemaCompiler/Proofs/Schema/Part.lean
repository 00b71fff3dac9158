import Mathlib.Tactic
import SchemaCompiler.Proofs.List
import SchemaCompiler.Proofs.Schema.Parser
import SchemaCompiler.Proofs.Schema.Renaming

/-!
Schemas inside a fragment.

A fragment that is read has schemas at some of its keywords, and what stands there is what the schemas
inside are read from.  So the references inside a fragment are the references of its schema.

* `Keywords.Part`: what stands in a fragment where a schema is read;
* `Json.Inside`, `Json.RefersTo`: the same at any depth, and the references there;
* `ReadForm.exists_part`, `Schema.exists_child_of_part`: the schemas inside are read from the parts;
* `Schema.mem_references_iff_refersTo`: the references of a schema are those inside its fragment.
-/

namespace SchemaCompiler

/-! ### Parts -/

/-- What stands in a fragment where a schema is read. -/
inductive Keywords.Part (keywords : Keywords) : Json → Prop where
  | items {part : Json} (found : Table.get? keywords "items" = some part) : Part keywords part
  | further {part : Json} (found : Table.get? keywords "additionalProperties" = some part) :
      Part keywords part
  | property {entries : List (String × Json)} {name : String} {part : Json}
      (found : Table.get? keywords "properties" = some (.object entries))
      (mem : (name, part) ∈ entries) : Part keywords part
  | member (c : Composition) {items : List Json} {part : Json}
      (found : Table.get? keywords c.text = some (.array items)) (mem : part ∈ items) :
      Part keywords part

lemma Keywords.Part.sizeOf_lt {keywords : Keywords} {part : Json} (here : keywords.Part part) :
    sizeOf part < sizeOf keywords := by
  cases here with
  | items found => exact Table.sizeOf_get? found
  | further found => exact Table.sizeOf_get? found
  | property found mem =>
      have := Table.sizeOf_get?_object found
      have := List.sizeOf_lt_of_mem mem
      simp only [Prod.mk.sizeOf_spec] at this
      omega
  | member c found mem =>
      have := Table.sizeOf_get?_array found
      have := List.sizeOf_lt_of_mem mem
      omega

/-- What stands in a fragment where a schema is read, at any depth. -/
inductive Json.Inside : Json → Json → Prop where
  | self (fragment : Json) : Inside fragment fragment
  | part {keywords : Keywords} {part inner : Json} (here : keywords.Part part)
      (inside : Inside part inner) : Inside (.object keywords) inner

/-- A reference stands in a fragment, at any depth. -/
def Json.RefersTo (fragment reference : Json) : Prop :=
  ∃ keywords, fragment.Inside (.object keywords) ∧ Table.get? keywords "$ref" = some reference

section Reading

variable {keywords : Keywords}

/-- A part of a fragment that a schema inside is read from. -/
def ReadInside (keywords : Keywords) (child : Schema) : Prop :=
  ∃ part, keywords.Part part ∧ Schema.ofJson? part = .ok child

lemma ReadMembers.exists_part {c : Composition} {members : List Schema}
    (read : ReadMembers keywords c.text members) {child : Schema} (mem : child ∈ members) :
    ReadInside keywords child := by
  obtain ⟨items, found, -, all⟩ := read
  obtain ⟨item, among, ok⟩ := exists_mem_of_forall₂ all.flip mem
  exact ⟨item, .member c found among, ok⟩

lemma ReadObject.exists_part {rules : ObjectRules Schema} (read : ReadObject keywords rules)
    {child : Schema} (mem : child ∈ rules.children) : ReadInside keywords child := by
  obtain ⟨properties, required, extras⟩ := rules
  rcases List.mem_append.1 mem with mem | mem
  · obtain ⟨⟨name, s⟩, among, rfl⟩ := List.mem_map.1 mem
    rcases read.properties with ⟨-, eq⟩ | ⟨entries, found, all⟩
    · rw [eq] at among
      cases among
    · obtain ⟨entry, among', -, ok⟩ := exists_mem_of_forall₂ all.flip among
      exact ⟨entry.2, .property found among', ok⟩
  · cases extras with
    | schema rule =>
        obtain rfl := List.mem_singleton.1 mem
        obtain ⟨part, found, ok⟩ := read.extras
        exact ⟨part, .further found, ok⟩
    | _ => cases mem

/-- What stands inside a schema is read from a part of its fragment. -/
theorem ReadForm.exists_part {nullable : Bool} {form : Form} {kind : SchemaKind}
    (read : ReadForm keywords nullable form kind) {child : Schema} (mem : child ∈ kind.children) :
    ReadInside keywords child := by
  cases read.readKind with
  | array found ok =>
      obtain rfl := List.mem_singleton.1 mem
      exact ⟨_, .items found, ok⟩
  | object own => exact ReadObject.exists_part own mem
  | @union keyword _ _ _ all => exact ReadMembers.exists_part (c := .union keyword) all mem
  | @intersection members inline _ all beside =>
      rcases List.mem_append.1 mem with mem | mem
      · exact ReadMembers.exists_part (c := .intersection) all mem
      · cases inline with
        | none => cases mem
        | some rules => exact (beside rules rfl).exists_part mem
  | _ => cases mem

/-- The rules of an object in a kind, which may stand beside the members of an intersection. -/
def SchemaKind.rules? : SchemaKind → Option (ObjectRules Schema)
  | .object rules => some rules
  | .intersection _ inline _ => inline
  | _ => none

lemma SchemaKind.children_of_rules? {kind : SchemaKind} {rules : ObjectRules Schema}
    (found : kind.rules? = some rules) {child : Schema} (mem : child ∈ rules.children) :
    child ∈ kind.children := by
  cases kind with
  | object => cases found; exact mem
  | intersection members inline objectTyped =>
      obtain rfl : inline = some rules := found
      exact List.mem_append_right _ mem
  | _ => cases found

/-- The rules of an object in a kind are read from the fragment. -/
lemma ReadForm.rules {nullable : Bool} {form : Form} {kind : SchemaKind}
    (read : ReadForm keywords nullable form kind) {rules : ObjectRules Schema}
    (found : kind.rules? = some rules) : ReadObject keywords rules := by
  cases read.readKind with
  | object own =>
      cases found
      exact own
  | intersection _ beside => exact beside rules found
  | _ => cases found

/-! ### The schemas that are read from the parts -/

/-- The keywords of objects are read in two forms. -/
lemma Form.eq_of_objectKeyword {form : Form} {keyword : String} (among : keyword ∈ objectKeywords)
    (known : keyword ∈ form.keywords) :
    form = .typed .object ∨ form = .composition .intersection := by
  simp only [objectKeywords, List.mem_cons, List.not_mem_nil, or_false] at among
  cases form with
  | reference => rcases among with rfl | rfl | rfl <;> simp [Form.keywords] at known
  | untyped => rcases among with rfl | rfl | rfl <;> simp [Form.keywords] at known
  | typed type =>
      cases type with
      | object => exact .inl rfl
      | _ => rcases among with rfl | rfl | rfl <;> simp [Form.keywords] at known
  | composition c =>
      cases c with
      | intersection => exact .inr rfl
      | union keyword' =>
          cases keyword' <;> rcases among with rfl | rfl | rfl <;>
            simp [Form.keywords, UnionKeyword.text] at known

/-- Where a keyword of objects stands, the rules of an object are read. -/
lemma ReadForm.exists_rules {nullable : Bool} {form : Form} {kind : SchemaKind}
    (read : ReadForm keywords nullable form kind) {keyword : String} (among : keyword ∈ objectKeywords)
    (known : keyword ∈ form.keywords) {value : Json} (found : Table.get? keywords keyword = some value) :
    ∃ rules, kind.rules? = some rules ∧ ReadObject keywords rules := by
  rcases Form.eq_of_objectKeyword among known with rfl | rfl
  · obtain ⟨-, -, -, read⟩ := read
    cases kind with
    | object rules => exact ⟨rules, rfl, read⟩
    | _ => exact read.elim
  · obtain ⟨-, -, read⟩ := read
    cases kind with
    | intersection members inline objectTyped =>
        cases inline with
        | none =>
            have absent := read.2.2 keyword among
            rw [found] at absent
            cases absent
        | some rules => exact ⟨rules, rfl, read.2.2.2⟩
    | _ => exact read.elim

/-- A schema stands in an object of rules at each of its properties. -/
lemma ReadObject.exists_property {rules : ObjectRules Schema} (read : ReadObject keywords rules)
    {entries : List (String × Json)} (found : Table.get? keywords "properties" = some (.object entries))
    {name : String} {part : Json} (mem : (name, part) ∈ entries) :
    ∃ child ∈ rules.children, Schema.ofJson? part = .ok child := by
  rcases read.properties with ⟨absent, -⟩ | ⟨entries', found', all⟩
  · cases found.symm.trans absent
  · obtain rfl := Json.object.inj (Option.some.inj (found.symm.trans found'))
    obtain ⟨property, among, -, ok⟩ := exists_mem_of_forall₂ all mem
    exact ⟨property.2, List.mem_append_left _ (List.mem_map_of_mem among), ok⟩

/-- Further members have a schema, unless they are just allowed or forbidden. -/
lemma ReadObject.exists_further {rules : ObjectRules Schema} (read : ReadObject keywords rules)
    {part : Json} (found : Table.get? keywords "additionalProperties" = some part) :
    (∃ child ∈ rules.children, Schema.ofJson? part = .ok child) ∨ ∃ allowed, part = .bool allowed := by
  obtain ⟨-, -, extras⟩ := read
  cases given : rules.extras with
  | unspecified =>
      rw [given] at extras
      cases found.symm.trans extras
  | allow =>
      rw [given] at extras
      exact .inr ⟨true, Option.some.inj (found.symm.trans extras)⟩
  | forbid =>
      rw [given] at extras
      exact .inr ⟨false, Option.some.inj (found.symm.trans extras)⟩
  | schema rule =>
      rw [given] at extras
      obtain ⟨part', found', ok⟩ := extras
      obtain rfl := Option.some.inj (found.symm.trans found')
      refine .inl ⟨rule, List.mem_append_right _ ?_, ok⟩
      rw [given]
      exact List.mem_singleton_self rule

/-- The items of an array are a schema inside. -/
lemma ReadForm.exists_items {nullable : Bool} {form : Form} {kind : SchemaKind}
    (read : ReadForm keywords nullable form kind) (known : "items" ∈ form.keywords) {part : Json}
    (found : Table.get? keywords "items" = some part) :
    ∃ child ∈ kind.children, Schema.ofJson? part = .ok child := by
  cases read.readKind with
  | @array items _ _ there ok =>
      obtain rfl := Option.some.inj (found.symm.trans there)
      exact ⟨items, List.mem_singleton_self items, ok⟩
  | @union keyword => cases keyword <;> simp [Form.keywords, UnionKeyword.text] at known
  | _ => simp [Form.keywords, objectKeywords] at known

/-- Each member of a composition is a schema inside. -/
lemma ReadForm.exists_member {nullable : Bool} {form : Form} {kind : SchemaKind}
    (read : ReadForm keywords nullable form kind) {c : Composition} (known : c.text ∈ form.keywords)
    {items : List Json} (found : Table.get? keywords c.text = some (.array items)) {part : Json}
    (mem : part ∈ items) : ∃ child ∈ kind.children, Schema.ofJson? part = .ok child := by
  have composed : form = .composition c := by
    cases form with
    | composition d =>
        obtain ⟨-, first, -⟩ := read
        rw [(findComposition_eq_some_iff.1 first c).1 (by rw [found]; exact nofun)]
    | typed type =>
        obtain ⟨-, none, -⟩ := read
        cases found.symm.trans (findComposition_eq_none_iff.1 none c)
    | reference =>
        cases c with
        | union keyword =>
            cases keyword <;> simp [Form.keywords, Composition.text, UnionKeyword.text] at known
        | intersection => simp [Form.keywords, Composition.text] at known
    | untyped =>
        cases kind with
        | any =>
            obtain ⟨-, none, -⟩ := read
            cases found.symm.trans (findComposition_eq_none_iff.1 none c)
        | _ => exact read.elim
  subst composed
  obtain ⟨-, -, read⟩ := read
  have member : ∀ members, ReadMembers keywords c.text members →
      ∃ child ∈ members, Schema.ofJson? part = .ok child := by
    rintro members ⟨items', found', -, all⟩
    obtain rfl := Json.array.inj (Option.some.inj (found.symm.trans found'))
    exact exists_mem_of_forall₂ all mem
  cases c with
  | union keyword =>
      cases kind with
      | union => exact member _ read.2.2.1
      | _ => exact read.elim
  | intersection =>
      cases kind with
      | intersection members inline objectTyped =>
          obtain ⟨child, among, ok⟩ := member members read.2.1
          exact ⟨child, List.mem_append_left _ among, ok⟩
      | _ => exact read.elim

end Reading

/-- What stands in a fragment that is read is read as a schema inside, but for truth values. -/
theorem Schema.exists_child_of_part {keywords : Keywords} {s : Schema}
    (ok : Schema.ofJson? (.object keywords) = .ok s) {part : Json} (here : keywords.Part part) :
    (∃ child ∈ s.children, Schema.ofJson? part = .ok child) ∨ ∃ allowed, part = .bool allowed := by
  obtain ⟨_, form, nullable, ⟨⟩, -, -, read, all⟩ := Schema.ofJson?_eq_ok_iff.1 ok
  have known : ∀ {keyword : String} {value : Json}, Table.get? keywords keyword = some value →
      isExtension keyword = false → keyword ∉ annotations → keyword ∈ form.keywords := by
    intro keyword value found own other
    rcases all _ (Table.mem_of_get? found) with mem | extension | annotation
    · exact mem
    · rw [own] at extension
      cases extension
    · exact absurd annotation other
  cases here with
  | items found =>
      exact .inl (read.exists_items (known found (by decide) (by decide)) found)
  | further found =>
      obtain ⟨rules, inside, readRules⟩ :=
        read.exists_rules (by decide) (known found (by decide) (by decide)) found
      refine (readRules.exists_further found).imp_left ?_
      exact fun ⟨child, among, ok⟩ => ⟨child, SchemaKind.children_of_rules? inside among, ok⟩
  | property found mem =>
      obtain ⟨rules, inside, readRules⟩ :=
        read.exists_rules (by decide) (known found (by decide) (by decide)) found
      obtain ⟨child, among, ok⟩ := readRules.exists_property found mem
      exact .inl ⟨child, SchemaKind.children_of_rules? inside among, ok⟩
  | member c found mem =>
      refine .inl (read.exists_member (known found ?_ ?_) found mem)
      · cases c with
        | union keyword => cases keyword <;> decide
        | intersection => decide
      · cases c with
        | union keyword => cases keyword <;> decide
        | intersection => decide

/-! ### References -/

/-- Each schema inside a fragment that is read is read as a schema within. -/
lemma Schema.exists_within_of_inside {fragment : Json} {keywords : Keywords}
    (inside : fragment.Inside (.object keywords)) {s : Schema} (ok : Schema.ofJson? fragment = .ok s) :
    ∃ t, s.Within t ∧ Schema.ofJson? (.object keywords) = .ok t := by
  generalize whole : Json.object keywords = inner at inside
  induction inside generalizing s with
  | self => exact ⟨s, .self s, ok⟩
  | part here inside ih =>
      rcases exists_child_of_part ok here with ⟨child, among, read⟩ | ⟨allowed, rfl⟩
      · obtain ⟨t, within, read⟩ := ih read whole
        exact ⟨t, .child among within, read⟩
      · cases inside
        cases whole

/-- Each schema within a schema that is read is read from a fragment inside. -/
lemma Schema.exists_inside_of_within {s t : Schema} (within : s.Within t) {fragment : Json}
    (ok : Schema.ofJson? fragment = .ok s) :
    ∃ inner, fragment.Inside inner ∧ Schema.ofJson? inner = .ok t := by
  induction within generalizing fragment with
  | self => exact ⟨fragment, .self fragment, ok⟩
  | child among within ih =>
      obtain ⟨keywords, form, nullable, rfl, -, -, read, -⟩ := Schema.ofJson?_eq_ok_iff.1 ok
      obtain ⟨part, here, read⟩ := read.exists_part among
      obtain ⟨inner, inside, read⟩ := ih read
      exact ⟨inner, .part here inside, read⟩

/-- A schema with a reference is that reference. -/
lemma ReadForm.exists_reference {keywords : Keywords} {nullable : Bool} {form : Form}
    {kind : SchemaKind} (read : ReadForm keywords nullable form kind) {reference : Json}
    (found : Table.get? keywords "$ref" = some reference) :
    ∃ name, kind = .reference name ∧ Reference.ofJson? reference = .ok name := by
  cases form with
  | reference =>
      cases kind with
      | reference name =>
          obtain ⟨reference', found', denotes⟩ := read
          obtain rfl := Option.some.inj (found.symm.trans found')
          exact ⟨name, rfl, denotes⟩
      | _ => exact read.elim
  | typed type => cases found.symm.trans read.1
  | composition c => cases found.symm.trans read.1
  | untyped =>
      cases kind with
      | any => cases found.symm.trans read.1
      | _ => exact read.elim

/-- A reference is read from where it stands. -/
lemma ReadForm.exists_written {keywords : Keywords} {nullable : Bool} {form : Form} {name : String}
    (read : ReadForm keywords nullable form (.reference name)) :
    ∃ reference, Table.get? keywords "$ref" = some reference ∧
      Reference.ofJson? reference = .ok name := by
  cases form with
  | reference => exact read
  | typed type => cases type <;> exact read.2.2.2.elim
  | composition c => cases c <;> exact read.2.2.elim
  | untyped => exact read.elim

/-- A reference inside a fragment that is read denotes a reference of the schema. -/
lemma Schema.exists_mem_references {fragment : Json} {s : Schema} (ok : Schema.ofJson? fragment = .ok s)
    {reference : Json} (refers : fragment.RefersTo reference) :
    ∃ name ∈ s.references, Reference.ofJson? reference = .ok name := by
  obtain ⟨keywords, inside, found⟩ := refers
  obtain ⟨t, within, read⟩ := exists_within_of_inside inside ok
  obtain ⟨_, form, nullable, ⟨⟩, -, -, read, -⟩ := Schema.ofJson?_eq_ok_iff.1 read
  obtain ⟨name, kind, denotes⟩ := read.exists_reference found
  exact ⟨name, mem_references_iff.2 ⟨t, within, kind⟩, denotes⟩

/-- **The references of a schema are those inside its fragment.** -/
theorem Schema.mem_references_iff_refersTo {fragment : Json} {s : Schema}
    (ok : Schema.ofJson? fragment = .ok s) {name : String} :
    name ∈ s.references ↔
      ∃ reference, fragment.RefersTo reference ∧ Reference.ofJson? reference = .ok name := by
  constructor
  · intro mem
    obtain ⟨t, within, kind⟩ := mem_references_iff.1 mem
    obtain ⟨inner, inside, read⟩ := exists_inside_of_within within ok
    obtain ⟨keywords, form, nullable, rfl, -, -, read, -⟩ := Schema.ofJson?_eq_ok_iff.1 read
    rw [kind] at read
    obtain ⟨reference, found, denotes⟩ := read.exists_written
    exact ⟨reference, ⟨keywords, inside, found⟩, denotes⟩
  · rintro ⟨reference, refers, denotes⟩
    obtain ⟨name', mem, denotes'⟩ := exists_mem_references ok refers
    obtain rfl := Except.ok.inj (denotes.symm.trans denotes')
    exact mem

end SchemaCompiler
