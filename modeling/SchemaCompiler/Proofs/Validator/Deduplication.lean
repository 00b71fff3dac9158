import SchemaCompiler.Proofs.Resolution.Deduplication
import SchemaCompiler.Proofs.Schema.Twin
import SchemaCompiler.Proofs.Validator.Alike

/-!
Deduplication preserves validation.

The entry that a component stands for differs from the component in what its references are called
and in what canonical forms leave open: the order of properties, of required names and of allowed
values, and the spelling of numbers.  None of this matters to validation, so the validators of the
two correspond to each other, along references too.

* `Schema.Plain`: no discriminator, no multiples, no intersection with rules that say nothing;
* `Validator.Counterpart`: the validators of a schema and of one with the same normal form after
  renaming;
* `Validator.correspondence_of_linked`: these correspond to each other;
* `Validator.accepts_resolve_eq`: a component and its entry accept the same values.
-/

namespace SchemaCompiler

/-! ### Plain schemas -/

/-- A kind with no discriminator, no multiples and no rules that say nothing. -/
def SchemaKind.Plain : SchemaKind → Prop
  | .number rules => rules.checks.multipleOf = none
  | .union _ _ discriminator _ => discriminator = none
  | .intersection _ inline _ => ∀ rules, inline = some rules → rules.isBare = false
  | _ => True

/-- A schema with no discriminator, no multiples and no rules that say nothing in it. -/
def Schema.Plain (s : Schema) : Prop := ∀ t, s.Within t → t.kind.Plain

lemma Schema.plain_iff {s : Schema} : s.Plain ↔ s.kind.Plain ∧ ∀ child ∈ s.children, child.Plain := by
  constructor
  · intro plain
    exact ⟨plain s (.self s), fun child among t within => plain t (.child among within)⟩
  · rintro ⟨own, inside⟩ t within
    cases within with
    | self => exact own
    | child among within => exact inside _ among t within

lemma SchemaKind.plain_map_iff {f : Schema → Schema} {name : String → String}
    {selection : Discriminator → Discriminator} {kind : SchemaKind} :
    (kind.map f name selection).Plain ↔ kind.Plain := by
  cases kind with
  | union => simp [Plain]
  | intersection => simp [Plain, ObjectRules.isBare_map]
  | _ => rfl

lemma Schema.plain_rename_iff {f : Renaming} {s : Schema} : (s.rename f).Plain ↔ s.Plain := by
  have kind : ∀ t : Schema, (t.rename f).kind.Plain ↔ t.kind.Plain := fun t => by
    rw [kind_rename, SchemaKind.plain_map_iff]
  constructor
  · exact fun plain t within => (kind t).1 (plain _ (within_rename_iff.2 ⟨t, within, rfl⟩))
  · rintro plain u within
    obtain ⟨t, within', rfl⟩ := within_rename_iff.1 within
    exact (kind t).2 (plain t within')

namespace Validator

/-! ### Counterparts -/

/-- Plain schemas of which one is the twin of the other. -/
structure Paired (f : Renaming) (known : String → Prop) (s t : Schema) : Prop
    extends Schema.Twin f known s t where
  plain : s.Plain
  plain' : t.Plain

variable {registry : Registry} {f : Renaming} {known : String → Prop} {store store' : Store}

lemma Paired.within {s t u v : Schema} (paired : Paired f known s t) (within : s.Within u)
    (within' : t.Within v) (same : (u.rename f).normal = v.normal) : Paired f known u v :=
  ⟨paired.toTwin.within within same, fun w inner => paired.plain w (within.trans inner),
    fun w inner => paired.plain' w (within'.trans inner)⟩

lemma Paired.child {s t u v : Schema} (paired : Paired f known s t) (among : u ∈ s.children)
    (among' : v ∈ t.children) (same : (u.rename f).normal = v.normal) : Paired f known u v :=
  paired.within (.child among (.self u)) (.child among' (.self v)) same

lemma Paired.withoutNull {k l : SchemaKind} {n m : Bool} (paired : Paired f known (.mk k n) (.mk l m)) :
    Paired f known (.mk k false) (.mk l false) := by
  obtain ⟨own, inside⟩ := Schema.plain_iff.1 paired.plain
  obtain ⟨own', inside'⟩ := Schema.plain_iff.1 paired.plain'
  exact ⟨paired.toTwin.withoutNull, Schema.plain_iff.2 ⟨own, inside⟩,
    Schema.plain_iff.2 ⟨own', inside'⟩⟩

lemma Paired.rules {s t : Schema} (paired : Paired f known s t) {rules rules' : ObjectRules Schema}
    (among : ∀ u ∈ rules.children, u ∈ s.children) (among' : ∀ v ∈ rules'.children, v ∈ t.children)
    (eq : (rules.map (Schema.rename f)).normal = rules'.normal) :
    Paired f known (.mk (.object rules) false) (.mk (.object rules') false) :=
  ⟨paired.toTwin.rules among eq,
    Schema.plain_iff.2 ⟨trivial, fun u mem => (Schema.plain_iff.1 paired.plain).2 u (among u mem)⟩,
    Schema.plain_iff.2 ⟨trivial, fun v mem => (Schema.plain_iff.1 paired.plain').2 v (among' v mem)⟩⟩

/-- The validators of such schemas, and those that are left when what goes around them is taken
away. -/
inductive Counterpart (registry : Registry) (f : Renaming) (known : String → Prop) :
    Validator → Validator → Prop
  | schema {s t : Schema} (paired : Paired f known s t) :
      Counterpart registry f known (.ofSchema registry s) (.ofSchema registry t)
  | string (checks : StringChecks) : Counterpart registry f known (.string checks) (.string checks)
  | number {checks checks' : NumberChecks} (same : ∀ n, checks.Passed n ↔ checks'.Passed n) :
      Counterpart registry f known (.number checks) (.number checks')
  | boolean : Counterpart registry f known .boolean .boolean

/-- The validators of members correspond to each other one by one. -/
lemma counterparts_of_members {s t : Schema} (paired : Paired f known s t) {ms ns : List Schema}
    (among : ∀ u ∈ ms, u ∈ s.children) (among' : ∀ v ∈ ns, v ∈ t.children)
    (eq : ms.map (fun u => (u.rename f).normal) = ns.map Schema.normal) :
    List.Forall₂ (Counterpart registry f known) (ofSchemas registry ms) (ofSchemas registry ns) := by
  rw [ofSchemas_eq, ofSchemas_eq, List.forall₂_map_left_iff, List.forall₂_map_right_iff]
  refine (forall₂_with_mem (paired.toTwin.members among eq)).imp ?_
  rintro u v ⟨mem, mem', twin⟩
  exact .schema (paired.child (among u mem) (among' v mem') twin.same)

lemma corresponds_object {rules rules' : ObjectRules Schema} {n m : Bool}
    (paired : Paired f known (.mk (.object rules) n) (.mk (.object rules') m)) :
    Corresponds store store' (Counterpart registry f known) (ofKind registry (.object rules))
      (ofKind registry (.object rules')) := by
  have inside : ∀ p q, p ∈ rules.children → q ∈ rules'.children → (p.rename f).normal = q.normal →
      Counterpart registry f known (ofSchema registry p) (ofSchema registry q) :=
    fun p q mem mem' eq => .schema (paired.child mem mem' eq)
  rw [ofKind, ofKind]
  refine corresponds_rules (SchemaKind.object.inj paired.same_mk.1) ?_ ?_
  · exact fun name p q mem mem' => inside p q
      (List.mem_append_left _ (List.mem_map_of_mem mem))
      (List.mem_append_left _ (List.mem_map_of_mem mem'))
  · exact fun p q eq eq' => inside p q
      (List.mem_append_right _ (by simp [eq, Extras.toList]))
      (List.mem_append_right _ (by simp [eq', Extras.toList]))

lemma corresponds_intersection {members members' : List Schema}
    {inline inline' : Option (ObjectRules Schema)} {objectTyped objectTyped' n m : Bool}
    (paired : Paired f known (.mk (.intersection members inline objectTyped) n)
      (.mk (.intersection members' inline' objectTyped') m)) :
    Corresponds store store' (Counterpart registry f known)
      (ofKind registry (.intersection members inline objectTyped))
      (ofKind registry (.intersection members' inline' objectTyped')) := by
  obtain ⟨eq, -⟩ := paired.same_mk
  simp only [SchemaKind.map, SchemaKind.normal, SchemaKind.intersection.injEq, Schema.normalAll_eq,
    List.map_map] at eq
  obtain ⟨sameMembers, sameInline, -⟩ := eq
  have plain := (Schema.plain_iff.1 paired.plain).1
  have plain' := (Schema.plain_iff.1 paired.plain').1
  have all := @counterparts_of_members registry _ _ _ _ paired members members'
    (fun _ => List.mem_append_left _) (fun _ => List.mem_append_left _) sameMembers
  cases inline with
  | none =>
      cases inline' with
      | none =>
          rw [ofKind, ofKind]
          exact .intersection all
      | some rules' =>
          rw [ObjectRules.normalInline, plain' rules' rfl] at sameInline
          cases sameInline
  | some rules =>
      have speaks : (rules.map (Schema.rename f)).isBare = false := by
        rw [ObjectRules.isBare_map]
        exact plain rules rfl
      rw [Option.map_some, ObjectRules.normalInline, speaks] at sameInline
      cases inline' with
      | none => cases sameInline
      | some rules' =>
          rw [ObjectRules.normalInline, plain' rules' rfl] at sameInline
          have beside := paired.rules (fun _ => List.mem_append_right _)
            (fun _ => List.mem_append_right _) (Option.some.inj sameInline)
          rw [ofKind, ofKind]
          exact .intersection (List.rel_append all (.cons (.schema beside) .nil))

/-- The validators of kinds correspond to each other if their normal forms agree. -/
lemma corresponds_kind (linked : Linked registry f known (Paired f known) store store')
    {k l : SchemaKind} {n m : Bool} (paired : Paired f known (.mk k n) (.mk l m)) :
    Corresponds store store' (Counterpart registry f known) (ofKind registry k) (ofKind registry l) := by
  obtain ⟨same, -⟩ := paired.same_mk
  have plain : k.Plain := (Schema.plain_iff.1 paired.plain).1
  have plain' : l.Plain := (Schema.plain_iff.1 paired.plain').1
  cases k with
  | string rules =>
      cases l with
      | string rules' => exact corresponds_string (SchemaKind.string.inj same) .string
      | _ => cases same
  | number rules =>
      cases l with
      | number rules' =>
          have single : rules.checks.multipleOf = none := plain
          have single' : rules'.checks.multipleOf = none := plain'
          refine corresponds_number (SchemaKind.number.inj same) (fun _ n => ?_) fun _ _ => .number
          rw [NumberChecks.Divides, NumberChecks.Divides, single, single']
      | _ => cases same
  | boolean =>
      cases l with
      | boolean =>
          rw [ofKind]
          exact corresponds_orExternal .boolean .boolean _
      | _ => cases same
  | null =>
      cases l with
      | null => exact .null
      | _ => cases same
  | any =>
      cases l with
      | any => exact .unknown
      | _ => cases same
  | array items bounds =>
      cases l with
      | array items' bounds' =>
          obtain ⟨sameItems, rfl⟩ := SchemaKind.array.inj same
          have inside := paired.child (List.mem_singleton_self _) (List.mem_singleton_self _) sameItems
          rw [ofKind, ofKind]
          exact .array (.schema inside)
      | _ => cases same
  | object rules =>
      cases l with
      | object rules' => exact corresponds_object paired
      | _ => cases same
  | union keyword members discriminator objectTyped =>
      cases l with
      | union keyword' members' discriminator' objectTyped' =>
          obtain rfl : discriminator = none := plain
          obtain rfl : discriminator' = none := plain'
          simp only [SchemaKind.map, SchemaKind.normal, SchemaKind.union.injEq, Schema.normalAll_eq,
            List.map_map] at same
          rw [ofKind, ofKind]
          exact .union (counterparts_of_members paired (fun _ mem => mem) (fun _ mem => mem) same.2.1)
      | _ => cases same
  | intersection members inline objectTyped =>
      cases l with
      | intersection => exact corresponds_intersection paired
      | _ => cases same
  | reference name =>
      cases l with
      | reference name' =>
          obtain ⟨refers, rfl⟩ := paired.toTwin.reference
          obtain ⟨s, t, found, found', pair⟩ := linked name refers
          rw [ofKind, ofKind]
          exact .reference found found' (.schema pair)
      | _ => cases same

/-- Counterparts correspond to each other. -/
theorem correspondence_of_linked (linked : Linked registry f known (Paired f known) store store') :
    Correspondence store store' (Counterpart registry f known) := by
  intro v w pair
  cases pair with
  | @schema s t paired =>
      obtain ⟨k, n⟩ := s
      obtain ⟨l, m⟩ := t
      obtain ⟨-, rfl⟩ := paired.same_mk
      have kinds := corresponds_kind linked paired
      rw [ofSchema, ofSchema]
      cases n with
      | false => exact kinds
      | true => exact .nullable (.schema paired.withoutNull)
  | string checks => exact .string checks
  | number same => exact .number same
  | boolean => exact .boolean

/-! ### Deduplication -/

/-- **Deduplication preserves validation**: a component and the entry that it stands for accept the
same values, each in the store of its own table. -/
theorem accepts_resolve_eq (registry : Registry) {components : Table Schema} {resolution : Resolution}
    (distinct : (Table.keys components).Nodup)
    (refers : ∀ name s, (name, s) ∈ components → ∀ target ∈ s.references,
      target ∈ Table.keys components)
    (plain : ∀ name s, (name, s) ∈ components → s.Plain)
    (ok : Resolution.resolve components [] = .ok resolution) (links links' : Table String) :
    ∀ name s, (name, s) ∈ components →
      ∃ t, Table.get? resolution.table (resolution.canonicalName name) = some t ∧
        ∀ value, (ofSchema registry s).accepts (.ofSchemas registry components links) value =
          (ofSchema registry t).accepts (.ofSchemas registry resolution.table links') value := by
  have merged := Resolution.merged_of_resolve distinct ok
  have pair : ∀ name s, (name, s) ∈ components →
      ∃ t, Table.get? resolution.table (resolution.canonicalName name) = some t ∧
        Paired (.ofTable resolution.renames) (· ∈ Table.keys components) s t := by
    intro name s mem
    obtain ⟨t, there, twin⟩ := Resolution.twin_of_resolve distinct refers ok mem
    obtain ⟨u, input, renamed⟩ := merged.own _ t there
    refine ⟨t, there, twin, plain name s mem, ?_⟩
    rw [renamed, Schema.plain_rename_iff]
    exact plain _ u (Table.mem_of_get? input)
  have linked := @linked_ofSchemas registry _ _ _ _ distinct merged.distinct pair links links'
  intro name s mem
  obtain ⟨t, there, paired⟩ := pair name s mem
  exact ⟨t, there, (correspondence_of_linked linked).accepts_eq (.schema paired)⟩

/-- A component that refers to itself, and one of the same form, which is merged into it. -/
theorem accepts_resolve_eq_ring :
    let ring : Schema := .mk (.union .anyOf [.ofName "Ring", .mk .boolean false] none false) false
    let components : Table Schema := [("Ring", ring), ("Loop", ring)]
    ∃ resolution, Resolution.resolve components [] = .ok resolution ∧
      resolution.canonicalName "Loop" = "Ring" ∧
      ∀ name s, (name, s) ∈ components →
        ∃ t, Table.get? resolution.table (resolution.canonicalName name) = some t ∧
          ∀ value, (ofSchema .empty s).accepts (.ofSchemas .empty components []) value =
            (ofSchema .empty t).accepts (.ofSchemas .empty resolution.table resolution.renames)
              value := by
  intro ring components
  have only : ∀ name s, (name, s) ∈ components → s = ring := by
    intro name s mem
    rcases List.mem_cons.1 mem with eq | mem
    · exact (Prod.mk.inj eq).2
    · exact (Prod.mk.inj (List.mem_singleton.1 mem)).2
  have refers : ∀ target ∈ ring.references, target ∈ Table.keys components := by decide
  have plain : ring.Plain := by
    intro t within
    cases within with
    | self => rfl
    | child among within =>
        rcases List.mem_cons.1 among with rfl | among
        · cases within with
          | self => trivial
          | child among => cases among
        · obtain rfl := List.mem_singleton.1 among
          cases within with
          | self => trivial
          | child among => cases among
  have merged : (Resolution.resolve components []).toOption.map
      (fun resolution => resolution.canonicalName "Loop") = some "Ring" := by decide +kernel
  cases ok : Resolution.resolve components [] with
  | error fault =>
      rw [ok] at merged
      cases merged
  | ok resolution =>
      rw [ok] at merged
      exact ⟨resolution, rfl, Option.some.inj merged,
        accepts_resolve_eq .empty (by decide) (fun name s mem => only name s mem ▸ refers)
          (fun name s mem => only name s mem ▸ plain) ok [] resolution.renames⟩

end Validator

end SchemaCompiler
