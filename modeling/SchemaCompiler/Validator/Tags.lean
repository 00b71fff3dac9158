import SchemaCompiler.Error
import SchemaCompiler.Validator.Store

/-!
The tags that select the members of a discriminated union.

* `Validator.enumValues`: the strings that a property is limited to;
* `Validator.searchTags`: the search for the strings that the discriminating property of a member is
  limited to, with the names that it visits;
* `Validator.literalTags`: these strings;
* `Validator.memberTags`: the tags that select a member.
-/

namespace SchemaCompiler.Validator

/-- The strings that a validator is limited to. -/
def enumValues : Validator → List String
  | strings listed _ => listed.values
  | external _ base => enumValues base
  | nullable inner => enumValues inner
  | _ => []

/-- The strings that the first field of a name is limited to. -/
def fieldTags (property : String) (fields : List (Field Validator)) : List String :=
  match fields.find? fun field => field.name = property with
  | some field => enumValues field.rule
  | none => []

/-- What a search for tags comes to: the strings that it finds, and the names that have been visited
when it ends. -/
structure TagSearch (before : List String) where
  tags : List String
  visited : List String
  grows : before ⊆ visited

namespace TagSearch

variable {before : List String}

/-- A search that ends where it begins. -/
def here (tags before : List String) : TagSearch before := ⟨tags, before, List.Subset.refl _⟩

/-- A search that goes through a name, which is visited first. -/
def through {name : String} (search : TagSearch (name :: before)) : TagSearch before :=
  ⟨search.tags, search.visited, fun _ mem => search.grows (.tail _ mem)⟩

/-- A search and the next one, which does not visit again what the first one has visited. -/
def andThen (search : TagSearch before) (next : TagSearch search.visited) : TagSearch before :=
  ⟨search.tags ++ next.tags, next.visited, fun _ mem => next.grows (search.grows mem)⟩

end TagSearch

mutual

/-- The search for the strings that a property of an object is limited to.  References are followed
through names that have not been visited. -/
def searchTags (store : Store) (property : String) (visited : List String) :
    Validator → TagSearch visited
  | object fields _ => .here (fieldTags property fields) visited
  | intersection members _ _ => searchTagsOfAll store property visited members
  | reference name =>
    if _ : name ∈ visited then .here [] visited
    else
      match _ : store.get? name with
      | some target => (searchTags store property (name :: visited) target).through
      | none => (TagSearch.here [] (name :: visited)).through
  | external _ base => searchTags store property visited base
  | nullable inner => searchTags store property visited inner
  | _ => .here [] visited
  termination_by v => (unvisited store.names visited, sizeOf v)
  decreasing_by
    all_goals first
      | exact Prod.Lex.left _ _ (unvisited_cons_lt (Store.mem_names_of_get? ‹_›) ‹_›)
      | (apply Prod.Lex.right; simp; try omega)

/-- The search in several members.  What is visited in one of them is not visited in the next. -/
def searchTagsOfAll (store : Store) (property : String) (visited : List String) :
    List Validator → TagSearch visited
  | [] => .here [] visited
  | member :: rest =>
    let search := searchTags store property visited member
    search.andThen (searchTagsOfAll store property search.visited rest)
  termination_by members => (unvisited store.names visited, sizeOf members)
  decreasing_by
    · apply Prod.Lex.right
      simp only [List.cons.sizeOf_spec]
      omega
    · refine Prod.Lex.right' _ (unvisited_anti _ (TagSearch.grows _)) ?_
      simp only [List.cons.sizeOf_spec]
      omega

end

/-- The strings that a property of an object is limited to, when some names have been visited. -/
def literalTags (store : Store) (property : String) (visited : List String) (v : Validator) :
    List String := (searchTags store property visited v).tags

/-- The name in a mapping target: what follows the beginning of references, or all of it. -/
def mappedName (target : String) : String := (Text.stripPrefix? componentPrefix target).getD target

/-- The tags that select a member: the strings that its property is limited to, or else those that
the mapping gives its name, or else its name. -/
def memberTags (store : Store) (discriminator : Discriminator) (member : Validator) :
    List String :=
  match literalTags store discriminator.property [] member, member with
  | [], reference name =>
    match (discriminator.mapping.filter fun entry => mappedName entry.2 = name).map Prod.fst with
    | [] => [name]
    | mapped => mapped
  | tags, _ => tags

end SchemaCompiler.Validator
