import SchemaCompiler.Proofs.List
import SchemaCompiler.Proofs.Schema.Place

/-!
Schemas that differ in the names of components and in what canonical forms leave open.

* `Schema.Twin`: after renaming a schema has the normal form of another one;
* `Twin.exists_at?`, `Twin.exists_at?_symm`: then there are twins at the same places in both;
* `Twin.members`: and the members of unions and intersections are twins one by one.
-/

namespace SchemaCompiler

namespace Schema

/-- After renaming a schema has the normal form of another one, and its references are known. -/
structure Twin (f : Renaming) (known : String → Prop) (s t : Schema) : Prop where
  same : (s.rename f).normal = t.normal
  refers : ∀ name ∈ s.references, known name

variable {f : Renaming} {known : String → Prop} {s t : Schema}

lemma Twin.at?_eq (twin : Twin f known s t) (place : List Step) :
    (s.at? place).map (fun u => (u.rename f).normal) = (t.at? place).map normal := by
  rw [← at?_normal, ← twin.same, at?_normal, at?_rename, Option.map_map]
  rfl

lemma Twin.within (twin : Twin f known s t) {u v : Schema} (within : s.Within u)
    (same : (u.rename f).normal = v.normal) : Twin f known u v :=
  ⟨same, fun name mem => twin.refers name (within.references_subset mem)⟩

/-- What is at a place has a twin there. -/
theorem Twin.exists_at? (twin : Twin f known s t) {place : List Step} {u : Schema}
    (found : s.at? place = some u) : ∃ v, t.at? place = some v ∧ Twin f known u v := by
  have eq := twin.at?_eq place
  rw [found, Option.map_some] at eq
  obtain ⟨v, there, same⟩ := Option.map_eq_some_iff.1 eq.symm
  exact ⟨v, there, twin.within (within_of_at? found) same.symm⟩

/-- What is at a place is the twin of something there. -/
theorem Twin.exists_at?_symm (twin : Twin f known s t) {place : List Step} {v : Schema}
    (found : t.at? place = some v) : ∃ u, s.at? place = some u ∧ Twin f known u v := by
  have eq := twin.at?_eq place
  rw [found, Option.map_some] at eq
  obtain ⟨u, here, same⟩ := Option.map_eq_some_iff.1 eq
  exact ⟨u, here, twin.within (within_of_at? here) same⟩

/-- Twins are of one kind, up to normal forms. -/
lemma Twin.same_mk {k l : SchemaKind} {n m : Bool} (twin : Twin f known (.mk k n) (.mk l m)) :
    (k.map (rename f) f.apply (Discriminator.rename f)).normal = l.normal ∧ n = m := by
  have same := twin.same
  rw [rename_mk, normal, normal] at same
  exact mk.inj same

/-- Whether `null` is admitted besides does not matter. -/
lemma Twin.withoutNull {k l : SchemaKind} {n m : Bool} (twin : Twin f known (.mk k n) (.mk l m)) :
    Twin f known (.mk k false) (.mk l false) := by
  refine ⟨?_, twin.refers⟩
  rw [rename_mk, normal, normal, twin.same_mk.1]

/-- What a reference refers to is known, and its twin refers to what the name becomes. -/
lemma Twin.reference {name name' : String} {n m : Bool}
    (twin : Twin f known (.mk (.reference name) n) (.mk (.reference name') m)) :
    known name ∧ f.apply name = name' :=
  ⟨twin.refers name (mem_references_iff.2 ⟨_, .self _, rfl⟩),
    SchemaKind.reference.inj twin.same_mk.1⟩

/-- Twins of references are references to what the names become. -/
lemma Twin.eq_ofName_iff (twin : Twin f known s t) {name : String} :
    t = ofName name ↔ ∃ target, s = ofName target ∧ f.apply target = name := by
  obtain ⟨k, n⟩ := s
  obtain ⟨l, m⟩ := t
  obtain ⟨same, rfl⟩ := twin.same_mk
  constructor
  · rintro ⟨⟩
    cases k with
    | reference target => exact ⟨target, rfl, SchemaKind.reference.inj same⟩
    | _ => cases same
  · rintro ⟨target, ⟨⟩, rfl⟩
    cases l with
    | reference name =>
        rw [← show f.apply target = name from SchemaKind.reference.inj same]
        rfl
    | _ => cases same

/-- Members are twins one by one. -/
lemma Twin.members (twin : Twin f known s t) {ms ns : List Schema} (among : ∀ u ∈ ms, u ∈ s.children)
    (eq : ms.map (fun u => (u.rename f).normal) = ns.map normal) :
    List.Forall₂ (Twin f known) ms ns := by
  rw [← List.forall₂_eq_eq_eq, List.forall₂_map_left_iff, List.forall₂_map_right_iff] at eq
  refine ((List.forall₂_and_left _ _).2 ⟨among, eq⟩).imp fun u v pair => ?_
  exact twin.within (.child pair.1 (.self u)) pair.2

/-- Rules beside the members of an intersection are like an object of their own. -/
lemma Twin.rules (twin : Twin f known s t) {rules rules' : ObjectRules Schema}
    (among : ∀ u ∈ rules.children, u ∈ s.children)
    (eq : (rules.map (rename f)).normal = rules'.normal) :
    Twin f known (.mk (.object rules) false) (.mk (.object rules') false) := by
  refine ⟨?_, fun name mem => twin.refers name ?_⟩
  · rw [rename_mk, normal, normal, SchemaKind.map, SchemaKind.normal, SchemaKind.normal, eq]
  · obtain ⟨u, within, here⟩ := mem_references_iff.1 mem
    cases within with
    | self => cases here
    | child mem within => exact mem_references_iff.2 ⟨u, .child (among _ mem) within, here⟩

/-- Of twins, either both have rules that say something beside the members or neither does. -/
lemma normalInline_cases {g : Schema → Schema} {inline inline' : Option (ObjectRules Schema)}
    (eq : ObjectRules.normalInline (inline.map (ObjectRules.map g)) =
      ObjectRules.normalInline inline') :
    ObjectRules.normalInline inline = none ∧ ObjectRules.normalInline inline' = none ∨
      ∃ rules rules', inline = some rules ∧ inline' = some rules' ∧ rules.isBare = false ∧
        rules'.isBare = false ∧ (rules.map g).normal = rules'.normal := by
  cases inline with
  | none => exact .inl ⟨rfl, eq.symm⟩
  | some rules =>
      rw [Option.map_some, ObjectRules.normalInline, ObjectRules.isBare_map] at eq
      cases bare : rules.isBare with
      | true =>
          rw [bare, if_pos rfl] at eq
          exact .inl ⟨by rw [ObjectRules.normalInline, bare, if_pos rfl], eq.symm⟩
      | false =>
          rw [bare, if_neg Bool.false_ne_true] at eq
          cases inline' with
          | none => cases eq
          | some rules' =>
              rw [ObjectRules.normalInline] at eq
              cases bare' : rules'.isBare with
              | true =>
                  rw [bare', if_pos rfl] at eq
                  cases eq
              | false =>
                  rw [bare', if_neg Bool.false_ne_true] at eq
                  exact .inr ⟨rules, rules', rfl, rfl, bare, bare', Option.some.inj eq⟩

end Schema

end SchemaCompiler
