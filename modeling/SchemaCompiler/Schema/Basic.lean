import SchemaCompiler.Json.Value

/-!
Schemas: the closed set of shapes that the compiler understands.

A schema is a kind and whether `null` is allowed besides.  Schemas are finite trees; a cycle can
only run through a reference, which names an entry of a component table.

* `Schema`, `SchemaKind`: the trees, with the rules of strings, numbers, arrays and objects;
* `Schema.children`: the schemas directly inside a schema;
* `Schema.same`: equality that looks at properties and required names without regard to order;
* `Schema.induction`: what holds of a schema whenever it holds of its children holds of all.
-/

namespace SchemaCompiler

/-- The allowed values of a schema that lists them. -/
structure Enumeration (α : Type) where
  values : List α
  /-- The list names `null` too, which only a nullable schema may do. -/
  listsNull : Bool
  deriving DecidableEq

/-- What is checked of a string. -/
structure StringChecks where
  format : Option String
  minLength : Option Nat
  maxLength : Option Nat
  pattern : Option String
  deriving DecidableEq

/-- The rules of a string.  A list of allowed values dominates the checks. -/
structure StringRules where
  checks : StringChecks
  enumeration : Option (Enumeration String)
  deriving DecidableEq

/-- What is checked of a number.  Bounds are kept as they are written, so that `1` and `1.0`
differ. -/
structure NumberChecks where
  integer : Bool
  format : Option String
  minimum : Option Json.Number
  maximum : Option Json.Number
  exclusiveMinimum : Bool
  exclusiveMaximum : Bool
  multipleOf : Option Json.Number
  deriving DecidableEq

/-- The rules of a number.  A list of allowed values dominates the checks. -/
structure NumberRules where
  checks : NumberChecks
  enumeration : Option (Enumeration Json.Number)
  deriving DecidableEq

/-- The bounds on the number of items of an array. -/
structure ItemBounds where
  minItems : Option Nat
  maxItems : Option Nat
  deriving DecidableEq

/-- What holds of the members that an object schema does not name.  `unspecified` and `allow`
accept the same values; they differ in what was written. -/
inductive Extras (α : Type) where
  | unspecified
  | allow
  | forbid
  | schema (rule : α)

/-- The rules of an object: named properties in order, and which of them must be there. -/
structure ObjectRules (α : Type) where
  properties : List (String × α)
  required : List String
  extras : Extras α

/-- The two keywords of a union.  They are read and compiled alike. -/
inductive UnionKeyword where
  | oneOf
  | anyOf
  deriving DecidableEq

/-- The keyword as it is written. -/
def UnionKeyword.text : UnionKeyword → String
  | oneOf => "oneOf"
  | anyOf => "anyOf"

/-- Selects a member of a union by the value of a property. -/
structure Discriminator where
  property : String
  mapping : List (String × String)
  deriving DecidableEq

mutual

/-- A schema. -/
inductive Schema where
  | mk (kind : SchemaKind) (nullable : Bool)

/-- What a schema says about the values other than `null`. -/
inductive SchemaKind where
  | string (rules : StringRules)
  | number (rules : NumberRules)
  | boolean
  | null
  | any
  | array (items : Schema) (bounds : ItemBounds)
  | object (rules : ObjectRules Schema)
  /-- `objectTyped`: the type `object` was written beside the keyword. -/
  | union (keyword : UnionKeyword) (members : List Schema) (discriminator : Option Discriminator)
      (objectTyped : Bool)
  /-- `inline`: object keywords that were written beside the members, and act as one more. -/
  | intersection (members : List Schema) (inline : Option (ObjectRules Schema)) (objectTyped : Bool)
  | reference (name : String)

end

instance : Inhabited Schema := ⟨.mk .any false⟩

namespace Schema

/-- What the schema says about the values other than `null`. -/
def kind : Schema → SchemaKind
  | mk kind _ => kind

/-- Whether `null` is allowed besides. -/
def nullable : Schema → Bool
  | mk _ nullable => nullable

/-- The name that a schema refers to, if it is a reference. -/
def reference? : Schema → Option String
  | mk (.reference name) _ => some name
  | _ => none

/-- The rules of a plain object schema. -/
def object? : Schema → Option (ObjectRules Schema)
  | mk (.object rules) _ => some rules
  | _ => none

/-- A reference that does not allow `null`. -/
def ofName (name : String) : Schema := mk (.reference name) false

end Schema

/-- The schema for the members that are not named, as a list of at most one. -/
def Extras.toList {α : Type} : Extras α → List α
  | schema rule => [rule]
  | _ => []

/-- The schemas directly inside an object's rules. -/
def ObjectRules.children {α : Type} (rules : ObjectRules α) : List α :=
  rules.properties.map Prod.snd ++ rules.extras.toList

/-- The schemas directly inside a kind. -/
def SchemaKind.children : SchemaKind → List Schema
  | array items _ => [items]
  | object rules => rules.children
  | union _ members _ _ => members
  | intersection members inline _ => members ++ (inline.map ObjectRules.children).getD []
  | _ => []

/-- The schemas directly inside a schema. -/
def Schema.children (s : Schema) : List Schema := s.kind.children

theorem Schema.sizeOf_children {s child : Schema} (h : child ∈ s.children) :
    sizeOf child < sizeOf s := by
  have properties : ∀ (rules : ObjectRules Schema), child ∈ rules.children →
      sizeOf child < sizeOf rules := by
    intro rules h
    obtain ⟨properties, required, extras⟩ := rules
    simp only [ObjectRules.children, List.mem_append, List.mem_map] at h
    rcases h with ⟨⟨name, value⟩, hmem, rfl⟩ | h
    · have := List.sizeOf_lt_of_mem hmem
      simp at this ⊢
      omega
    · cases extras <;> simp [Extras.toList] at h
      subst h
      simp
      omega
  obtain ⟨kind, nullable⟩ := s
  cases kind <;> simp [Schema.children, SchemaKind.children, Schema.kind] at h
  case array items bounds => subst h; simp; omega
  case object rules => have := properties rules h; simp; omega
  case union keyword members discriminator typed =>
    have := List.sizeOf_lt_of_mem h
    simp
    omega
  case intersection members inline typed =>
    rcases h with h | h
    · have := List.sizeOf_lt_of_mem h
      simp
      omega
    · cases inline <;> simp at h
      rename_i rules
      have := properties rules h
      simp
      omega

/-- Induction over schemas by way of their children. -/
theorem Schema.induction {motive : Schema → Prop}
    (step : ∀ s, (∀ child ∈ s.children, motive child) → motive s) (s : Schema) : motive s :=
  step s fun child _ => Schema.induction step child
termination_by sizeOf s
decreasing_by exact Schema.sizeOf_children ‹_›

/-! ### Equality without regard to order -/

mutual

/-- Equality of schemas, properties and required names being compared as sets. -/
def Schema.same : Schema → Schema → Bool
  | .mk a m, .mk b n => SchemaKind.same a b && m == n

/-- Equality of kinds. -/
def SchemaKind.same : SchemaKind → SchemaKind → Bool
  | .string a, .string b => a == b
  | .number a, .number b => a == b
  | .boolean, .boolean => true
  | .null, .null => true
  | .any, .any => true
  | .array a m, .array b n => Schema.same a b && m == n
  | .object a, .object b => ObjectRules.same a b
  | .union j as c m, .union k bs d n => j == k && Schema.sameAll as bs && c == d && m == n
  | .intersection as c m, .intersection bs d n =>
    Schema.sameAll as bs && ObjectRules.sameOption c d && m == n
  | .reference a, .reference b => a == b
  | _, _ => false

/-- Equality of the rules that there may be. -/
def ObjectRules.sameOption : Option (ObjectRules Schema) → Option (ObjectRules Schema) → Bool
  | none, none => true
  | some a, some b => ObjectRules.same a b
  | _, _ => false

/-- Equality of the rules of objects. -/
def ObjectRules.same : ObjectRules Schema → ObjectRules Schema → Bool
  | ⟨ps, r, e⟩, ⟨qs, t, f⟩ =>
    ps.length == qs.length && ObjectRules.sameProperties ps qs &&
      r.length == t.length && r.all t.contains && Extras.same e f

/-- Every property has an equal one of its name. -/
def ObjectRules.sameProperties : List (String × Schema) → List (String × Schema) → Bool
  | [], _ => true
  | (name, a) :: ps, qs =>
    (match Table.get? qs name with
      | some b => Schema.same a b
      | none => false) && ObjectRules.sameProperties ps qs

/-- Equality of the rules for further members. -/
def Extras.same : Extras Schema → Extras Schema → Bool
  | .unspecified, .unspecified => true
  | .allow, .allow => true
  | .forbid, .forbid => true
  | .schema a, .schema b => Schema.same a b
  | _, _ => false

/-- Equality member by member. -/
def Schema.sameAll : List Schema → List Schema → Bool
  | [], [] => true
  | a :: as, b :: bs => Schema.same a b && Schema.sameAll as bs
  | _, _ => false

end

end SchemaCompiler
