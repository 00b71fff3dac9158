import Mathlib.Logic.Relation
import Mathlib.Tactic
import SchemaCompiler.Proofs.Validator.Equations

/-!
What the search for the tags of a member finds.

A reference, an intersection, an external name and a validator that admits `null` pass on what a property
is limited to.  The search follows them from the left to the right and visits no name twice, also when a
later member leads to it again.  Nothing is lost by this: when the search has ended, all that the
validator of a visited name passes on is covered by what has been found and visited.

* `Validator.Wraps`, `Validator.Passes`, `Validator.Reaches`: the steps, and chains of them;
* `Validator.mem_enumValues_iff_wraps`, `Validator.mem_fieldTags_iff_first`: the strings of a field;
* `Validator.Covers`: what a validator passes on without following a name has been found or visited;
* `Validator.Explores`: what a search finds and visits, and that it leaves nothing out;
* `Validator.explores_searchTags`: every search explores what it starts from;
* `Validator.mem_tags_iff`, `Validator.mem_visited_iff`: the strings found and the names visited are those
  at the ends of chains;
* `Validator.literalTags_of_chains`: the search visits each name once and finds the strings of exactly the
  enumerations that chains lead to.
-/

namespace SchemaCompiler.Validator

/-! ### Steps -/

/-- A validator stands right inside an external name or one that admits `null`. -/
inductive Wraps : Validator → Validator → Prop
  | external (name : String) (base : Validator) : Wraps (.external name base) base
  | nullable (inner : Validator) : Wraps (.nullable inner) inner

/-- A validator passes on what another one limits a property to. -/
inductive Passes (store : Store) : Validator → Validator → Prop
  | reference {name : String} {target : Validator} (found : store.get? name = some target) :
      Passes store (.reference name) target
  | member {members : List Validator} {member : Validator} (among : member ∈ members)
      (inlined objectTyped : Bool) : Passes store (.intersection members inlined objectTyped) member
  | inside {v w : Validator} (wraps : Wraps v w) : Passes store v w

/-- A chain of steps leads from a validator to another one. -/
abbrev Reaches (store : Store) : Validator → Validator → Prop := Relation.ReflTransGen (Passes store)

variable {store : Store} {property tag : String}

/-- A validator is limited to the strings of the enumeration inside it, if there is one. -/
lemma mem_enumValues_iff_wraps {v : Validator} :
    tag ∈ enumValues v ↔
      ∃ listed checks, Relation.ReflTransGen Wraps v (.strings listed checks) ∧ tag ∈ listed.values := by
  constructor
  · intro mem
    fun_induction enumValues v with
    | case1 listed checks => exact ⟨listed, checks, .refl, mem⟩
    | case2 name base ih =>
        obtain ⟨listed, checks, chain, mem⟩ := ih mem
        exact ⟨listed, checks, .head (.external name base) chain, mem⟩
    | case3 inner ih =>
        obtain ⟨listed, checks, chain, mem⟩ := ih mem
        exact ⟨listed, checks, .head (.nullable inner) chain, mem⟩
    | case4 => cases mem
  · rintro ⟨listed, checks, chain, mem⟩
    induction chain using Relation.ReflTransGen.head_induction_on with
    | refl => exact mem
    | head step _ ih => cases step <;> exact ih

/-- An object limits a property to the strings of its first field of that name. -/
lemma mem_fieldTags_iff_first {fields : List (Field Validator)} :
    tag ∈ fieldTags property fields ↔
      ∃ before field after, fields = before ++ field :: after ∧
        (∀ other ∈ before, other.name ≠ property) ∧ field.name = property ∧
        tag ∈ enumValues field.rule := by
  rw [fieldTags]
  constructor
  · intro mem
    cases found : fields.find? fun field => field.name = property with
    | none => simp [found] at mem
    | some field =>
        obtain ⟨named, before, after, split, others⟩ := List.find?_eq_some_iff_append.1 found
        refine ⟨before, field, after, split, fun other among => ?_, of_decide_eq_true named, ?_⟩
        · simpa using others other among
        · simpa [found] using mem
  · rintro ⟨before, field, after, split, others, named, mem⟩
    have found : fields.find? (fun field => field.name = property) = some field :=
      List.find?_eq_some_iff_append.2
        ⟨decide_eq_true named, before, after, split, fun other among => by simpa using others other among⟩
    rw [found]
    exact mem

/-! ### What is left out -/

/-- The strings that a validator limits the property to without a name being followed are among the tags,
and the names that it refers to are among those visited. -/
def Covers (property : String) (tags visited : List String) : Validator → Prop
  | .object fields _ => fieldTags property fields ⊆ tags
  | .intersection members _ _ => ∀ member, (_ : member ∈ members) → Covers property tags visited member
  | .reference name => name ∈ visited
  | .external _ base => Covers property tags visited base
  | .nullable inner => Covers property tags visited inner
  | _ => True
  termination_by v => sizeOf v
  decreasing_by
    · have := List.sizeOf_lt_of_mem ‹_›
      simp
      omega
    · simp
    · simp

lemma Covers.mono {tags tags' visited visited' : List String} (more : tags ⊆ tags')
    (later : visited ⊆ visited') {v : Validator} (covers : Covers property tags visited v) :
    Covers property tags' visited' v := by
  fun_induction Covers property tags visited v with
  | case1 fields =>
      rw [Covers]
      exact List.Subset.trans covers more
  | case2 members inlined objectTyped ih =>
      rw [Covers]
      exact fun member among => ih member among (covers member among)
  | case3 name =>
      rw [Covers]
      exact later covers
  | case4 name base ih =>
      rw [Covers]
      exact ih covers
  | case5 inner ih =>
      rw [Covers]
      exact ih covers
  | case6 v => simp_all [Covers]

/-- A step from a validator that is covered leads to one that is, if it leads to one from every name that
has been visited. -/
lemma Covers.step {tags visited : List String} {v w : Validator}
    (covers : Covers property tags visited v) (passes : Passes store v w)
    (closed : ∀ name ∈ visited, ∀ target, store.get? name = some target →
      Covers property tags visited target) : Covers property tags visited w := by
  cases passes with
  | reference found =>
      rw [Covers] at covers
      exact closed _ covers _ found
  | member among =>
      rw [Covers] at covers
      exact covers _ among
  | inside wraps =>
      cases wraps <;>
      · rw [Covers] at covers
        exact covers

/-! ### Searches -/

/-- What a search that starts from some validators finds and visits: only what chains lead to, each name
once, and nothing is left out of what it starts from and of the names that it is the first to visit. -/
structure Explores (store : Store) (property : String) (roots : List Validator) {before : List String}
    (search : TagSearch before) : Prop where
  found : ∀ tag ∈ search.tags, ∃ root ∈ roots, ∃ fields extras,
    Reaches store root (.object fields extras) ∧ tag ∈ fieldTags property fields
  reached : ∀ name ∈ search.visited, name ∈ before ∨ ∃ root ∈ roots, Reaches store root (.reference name)
  covers : ∀ root ∈ roots, Covers property search.tags search.visited root
  closed : ∀ name ∈ search.visited, name ∈ before ∨ ∀ target, store.get? name = some target →
    Covers property search.tags search.visited target
  distinct : before.Nodup → search.visited.Nodup

namespace Explores

variable {before : List String}

/-- A search that ends where it begins visits nothing. -/
lemma here {tags : List String} {roots : List Validator}
    (found : ∀ tag ∈ tags, ∃ root ∈ roots, ∃ fields extras,
      Reaches store root (.object fields extras) ∧ tag ∈ fieldTags property fields)
    (covers : ∀ root ∈ roots, Covers property tags before root) :
    Explores store property roots (TagSearch.here tags before) where
  found := found
  reached _ mem := .inl mem
  covers := covers
  closed _ mem := .inl mem
  distinct := id

/-- What the first search has visited need not be visited by the second. -/
lemma andThen {member : Validator} {rest : List Validator} {search : TagSearch before}
    {next : TagSearch search.visited} (first : Explores store property [member] search)
    (second : Explores store property rest next) :
    Explores store property (member :: rest) (search.andThen next) := by
  have kept : ∀ {v : Validator}, Covers property search.tags search.visited v →
      Covers property (search.tags ++ next.tags) next.visited v :=
    Covers.mono (List.subset_append_left _ _) next.grows
  have added : ∀ {v : Validator}, Covers property next.tags next.visited v →
      Covers property (search.tags ++ next.tags) next.visited v :=
    Covers.mono (List.subset_append_right _ _) (List.Subset.refl _)
  refine ⟨fun tag mem => ?_, fun name mem => ?_, ?_, fun name mem => ?_, fun distinct => ?_⟩
  · rcases List.mem_append.1 mem with mem | mem
    · obtain ⟨root, among, leads⟩ := first.found tag mem
      exact ⟨member, .head _, List.mem_singleton.1 among ▸ leads⟩
    · obtain ⟨root, among, leads⟩ := second.found tag mem
      exact ⟨root, .tail _ among, leads⟩
  · rcases second.reached name mem with mem | ⟨root, among, reaches⟩
    · refine (first.reached name mem).imp_right fun ⟨root, among, reaches⟩ => ?_
      exact ⟨member, .head _, List.mem_singleton.1 among ▸ reaches⟩
    · exact .inr ⟨root, .tail _ among, reaches⟩
  · refine List.forall_mem_cons.2 ⟨kept (first.covers member (.head _)), fun root among => ?_⟩
    exact added (second.covers root among)
  · rcases second.closed name mem with mem | closed
    · exact (first.closed name mem).imp_right fun closed target found => kept (closed target found)
    · exact .inr fun target found => added (closed target found)
  · exact second.distinct (first.distinct distinct)

/-- A search from what a validator passes on is one from the validator, if no name is followed. -/
lemma of_passes {v : Validator} {parts : List Validator} {search : TagSearch before}
    (explores : Explores store property parts search) (passes : ∀ part ∈ parts, Passes store v part)
    (covers : Covers property search.tags search.visited v) :
    Explores store property [v] search where
  found tag mem := by
    obtain ⟨part, among, fields, extras, reaches, listed⟩ := explores.found tag mem
    exact ⟨v, .head _, fields, extras, reaches.head (passes part among), listed⟩
  reached name mem := (explores.reached name mem).imp_right fun ⟨part, among, reaches⟩ =>
    ⟨v, .head _, reaches.head (passes part among)⟩
  covers := List.forall_mem_singleton.2 covers
  closed := explores.closed
  distinct := explores.distinct

/-- A search from the validator of a name, if there is one, is one from the reference. -/
lemma through {name : String} {search : TagSearch (name :: before)}
    (explores : Explores store property (store.get? name).toList search) (new : name ∉ before) :
    Explores store property [.reference name] search.through := by
  have leads : ∀ {root w : Validator}, root ∈ (store.get? name).toList → Reaches store root w →
      Reaches store (.reference name) w := fun among reaches =>
    reaches.head (.reference (Option.mem_toList.1 among))
  have seen : name ∈ search.visited := search.grows (.head _)
  refine ⟨fun tag mem => ?_, fun other mem => ?_, ?_, fun other mem => ?_, fun distinct => ?_⟩
  · obtain ⟨root, among, fields, extras, reaches, listed⟩ := explores.found tag mem
    exact ⟨_, .head _, fields, extras, leads among reaches, listed⟩
  · rcases explores.reached other mem with mem | ⟨root, among, reaches⟩
    · rcases List.mem_cons.1 mem with rfl | mem
      · exact .inr ⟨_, .head _, .refl⟩
      · exact .inl mem
    · exact .inr ⟨_, .head _, leads among reaches⟩
  · refine List.forall_mem_singleton.2 ?_
    rw [Covers]
    exact seen
  · rcases explores.closed other mem with mem | closed
    -- the name itself was visited before the search began, and the search started from its validator
    · rcases List.mem_cons.1 mem with rfl | mem
      · exact .inr fun target found => explores.covers target (Option.mem_toList.2 found)
      · exact .inl mem
    · exact .inr closed
  · exact explores.distinct (List.nodup_cons.2 ⟨new, distinct⟩)

end Explores

lemma explores_searchTagsOfAll {members : List Validator} {visited : List String}
    (inside : ∀ member ∈ members, ∀ later, visited ⊆ later →
      Explores store property [member] (searchTags store property later member)) :
    Explores store property members (searchTagsOfAll store property visited members) := by
  induction members generalizing visited with
  | nil =>
      rw [searchTagsOfAll]
      exact .here (List.forall_mem_nil _) (List.forall_mem_nil _)
  | cons member rest ih =>
      rw [searchTagsOfAll]
      refine (inside member (.head _) visited (List.Subset.refl _)).andThen ?_
      refine ih fun other among later grows => inside other (.tail _ among) later ?_
      exact List.Subset.trans (TagSearch.grows _) grows

lemma explores_reference {name : String} {visited : List String}
    (inside : ∀ target, name ∉ visited → store.get? name = some target →
      Explores store property [target] (searchTags store property (name :: visited) target)) :
    Explores store property [.reference name] (searchTags store property visited (.reference name)) := by
  by_cases seen : name ∈ visited
  · rw [searchTags_of_visited seen]
    refine .here (List.forall_mem_nil _) (List.forall_mem_singleton.2 ?_)
    rw [Covers]
    exact seen
  · cases found : store.get? name with
    | none =>
        rw [searchTags_of_missing seen found]
        refine .through ?_ seen
        rw [found]
        exact .here (List.forall_mem_nil _) (List.forall_mem_nil _)
    | some target =>
        rw [searchTags_of_found seen found]
        refine .through ?_ seen
        rw [found]
        exact inside target seen found

/-- Every search explores what it starts from. -/
theorem explores_searchTags (visited : List String) (v : Validator) :
    Explores store property [v] (searchTags store property visited v) := by
  cases v with
  | object fields extras =>
      rw [searchTags]
      refine .here (fun tag mem => ⟨_, .head _, fields, extras, .refl, mem⟩)
        (List.forall_mem_singleton.2 ?_)
      rw [Covers]
      exact List.Subset.refl _
  | intersection members inlined objectTyped =>
      have all : Explores store property members (searchTagsOfAll store property visited members) :=
        explores_searchTagsOfAll fun member among later grows =>
          -- what earlier members have visited only leaves less to be visited here
          have := unvisited_anti store.names grows
          explores_searchTags later member
      rw [searchTags]
      refine all.of_passes (fun member among => .member among inlined objectTyped) ?_
      rw [Covers]
      exact fun member among => all.covers member among
  | reference name =>
      exact explores_reference fun target new found =>
        have := unvisited_cons_lt (Store.mem_names_of_get? found) new
        explores_searchTags (name :: visited) target
  | external name base =>
      have inside : Explores store property [base] (searchTags store property visited base) :=
        explores_searchTags visited base
      rw [searchTags]
      refine inside.of_passes (List.forall_mem_singleton.2 (.inside (.external name base))) ?_
      rw [Covers]
      exact inside.covers base (.head _)
  | nullable inner =>
      have inside : Explores store property [inner] (searchTags store property visited inner) :=
        explores_searchTags visited inner
      rw [searchTags]
      refine inside.of_passes (List.forall_mem_singleton.2 (.inside (.nullable inner))) ?_
      rw [Covers]
      exact inside.covers inner (.head _)
  | _ =>
      simp only [searchTags]
      exact .here (List.forall_mem_nil _) (List.forall_mem_singleton.2 (by simp [Covers]))
termination_by (unvisited store.names visited, sizeOf v)
decreasing_by
  · subst_vars
    exact .right' _ this (sizeOf_lt_intersection among _ _)
  · exact .left _ _ this
  · subst_vars
    exact .right _ (sizeOf_lt_external _ _)
  · subst_vars
    exact .right _ (sizeOf_lt_nullable _)

/-! ### Chains -/

variable {v : Validator}

/-- All that chains lead to is covered. -/
lemma covers_of_reaches {w : Validator} (reaches : Reaches store v w) :
    Covers property (searchTags store property [] v).tags (searchTags store property [] v).visited w := by
  have explores : Explores store property [v] (searchTags store property [] v) :=
    explores_searchTags [] v
  induction reaches with
  | refl => exact explores.covers v (.head _)
  | tail _ passes ih =>
      refine ih.step passes fun name mem target found => ?_
      exact (explores.closed name mem).resolve_left List.not_mem_nil target found

/-- The strings found are those to which the objects at the ends of chains limit the property. -/
theorem mem_tags_iff : tag ∈ (searchTags store property [] v).tags ↔
    ∃ fields extras, Reaches store v (.object fields extras) ∧ tag ∈ fieldTags property fields := by
  constructor
  · intro mem
    obtain ⟨root, among, leads⟩ := (explores_searchTags [] v).found tag mem
    exact List.mem_singleton.1 among ▸ leads
  · rintro ⟨fields, extras, reaches, mem⟩
    have covers : Covers property _ _ (.object fields extras) := covers_of_reaches reaches
    rw [Covers] at covers
    exact covers mem

/-- The names visited are those of the references at the ends of chains. -/
theorem mem_visited_iff {name : String} :
    name ∈ (searchTags store property [] v).visited ↔ Reaches store v (.reference name) := by
  constructor
  · intro mem
    obtain ⟨root, among, reaches⟩ :=
      ((explores_searchTags [] v).reached name mem).resolve_left List.not_mem_nil
    exact List.mem_singleton.1 among ▸ reaches
  · intro reaches
    have covers : Covers property _ _ (.reference name) := covers_of_reaches reaches
    rw [Covers] at covers
    exact covers

/-- **The search for tags is complete.**  It visits the names that chains of steps lead to, each once, so
it ends however the names refer to each other.  It finds exactly the strings in the enumeration of the
first field of the property in an object that a chain leads to. -/
theorem literalTags_of_chains (store : Store) (property : String) (v : Validator) :
    (searchTags store property [] v).visited.Nodup ∧
    (∀ name, name ∈ (searchTags store property [] v).visited ↔ Reaches store v (.reference name)) ∧
    ∀ tag, tag ∈ literalTags store property [] v ↔
      ∃ fields extras, Reaches store v (.object fields extras) ∧
        ∃ before field after, fields = before ++ field :: after ∧
          (∀ other ∈ before, other.name ≠ property) ∧ field.name = property ∧
          ∃ listed checks, Relation.ReflTransGen Wraps field.rule (.strings listed checks) ∧
            tag ∈ listed.values := by
  refine ⟨(explores_searchTags [] v).distinct .nil, fun name => mem_visited_iff, fun tag => ?_⟩
  rw [literalTags, mem_tags_iff]
  simp only [mem_fieldTags_iff_first, mem_enumValues_iff_wraps]

end SchemaCompiler.Validator
