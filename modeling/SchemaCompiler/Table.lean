/-!
Ordered tables: lists of named entries in the order in which the names were first given.

A table answers by name and is listed by position.  `Table.insert` keeps the place of a name that
is already there, so that the order is that of first insertion.

* `Table.get?`, `Table.contains`, `Table.keys`: the views;
* `Table.insert`, `Table.ofEntries`, `Table.mapValues`: the operations;
* `Table.get?_insert`: an insertion is seen under its own name and changes no other;
* `unvisited`: how many names are still to be followed, which bounds the way along references.
-/

namespace SchemaCompiler

/-- Named entries in order. -/
abbrev Table (α : Type u) := List (String × α)

namespace Table

variable {α : Type u} {β : Type v}

/-- The first entry under a name. -/
def get? : Table α → String → Option α
  | [], _ => none
  | (key, value) :: rest, name => if key = name then some value else get? rest name

/-- Whether a name has an entry. -/
def contains (table : Table α) (name : String) : Bool := (get? table name).isSome

/-- The names in order. -/
def keys (table : Table α) : List String := table.map Prod.fst

/-- Gives a name a new entry, in its old place if it has one and at the end otherwise. -/
def insert : Table α → String → α → Table α
  | [], name, entry => [(name, entry)]
  | (key, value) :: rest, name, entry =>
    if key = name then (key, entry) :: rest else (key, value) :: insert rest name entry

/-- The table of a list of entries: each name at its first place with its last entry. -/
def ofEntries (entries : List (String × α)) : Table α :=
  entries.foldl (fun table entry => insert table entry.1 entry.2) []

/-- Applies a function to every entry. -/
def mapValues (f : α → β) (table : Table α) : Table β := table.map fun (key, value) => (key, f value)

theorem get?_cons (key name : String) (value : α) (rest : Table α) :
    get? ((key, value) :: rest) name = if key = name then some value else get? rest name := rfl

theorem get?_insert (table : Table α) (name other : String) (entry : α) :
    get? (insert table name entry) other = if name = other then some entry else get? table other := by
  induction table with
  | nil => rfl
  | cons head rest ih =>
    obtain ⟨key, value⟩ := head
    by_cases h : key = name
    · subst h
      by_cases g : key = other <;> simp [insert, get?_cons, g]
    · by_cases g : key = other
      · subst g
        simp [insert, get?_cons, h, Ne.symm h]
      · simp [insert, get?_cons, h, g, ih]

theorem mem_keys_iff {table : Table α} {name : String} :
    name ∈ keys table ↔ contains table name = true := by
  induction table with
  | nil => exact ⟨nofun, nofun⟩
  | cons head rest ih =>
    obtain ⟨key, value⟩ := head
    by_cases h : key = name
    · simp [keys, contains, get?_cons, h]
    · have := Ne.symm h
      simp only [keys, contains] at ih
      simp [keys, contains, get?_cons, h, this, ih]

theorem sizeOf_get? [SizeOf α] {table : Table α} {name : String} {value : α}
    (h : get? table name = some value) : sizeOf value < sizeOf table := by
  induction table with
  | nil => cases h
  | cons head rest ih =>
    obtain ⟨key, entry⟩ := head
    rw [get?_cons] at h
    split at h
    · cases h
      simp
      omega
    · have := ih h
      simp
      omega

theorem mem_keys_of_get? {table : Table α} {name : String} {value : α}
    (h : get? table name = some value) : name ∈ keys table := by
  rw [mem_keys_iff, contains, h]
  rfl

end Table

/-! ### Names still to be visited -/

/-- The number of names that are not among those visited. -/
def unvisited (names visited : List String) : Nat :=
  names.countP fun name => !visited.contains name

theorem unvisited_cons_le (names : List String) (name : String) (visited : List String) :
    unvisited names (name :: visited) ≤ unvisited names visited :=
  List.countP_mono_left fun other _ => by simp

/-- The more names have been visited, the fewer are left. -/
theorem unvisited_anti {visited later : List String} (names : List String) (grows : visited ⊆ later) :
    unvisited names later ≤ unvisited names visited :=
  List.countP_mono_left fun other _ => by simpa using mt (@grows other)

/-- Visiting one of the names leaves fewer. -/
theorem unvisited_cons_lt {names : List String} {name : String} {visited : List String}
    (known : name ∈ names) (new : name ∉ visited) :
    unvisited names (name :: visited) < unvisited names visited := by
  induction names with
  | nil => simp at known
  | cons head rest ih =>
    have le := unvisited_cons_le rest name visited
    simp only [unvisited] at le ih ⊢
    rw [List.countP_cons, List.countP_cons]
    by_cases eq : head = name
    · subst eq
      simp [new] at le ⊢
      omega
    · have lt := ih ((List.mem_cons.1 known).resolve_left fun h => eq h.symm)
      by_cases seen : head ∈ visited <;> simp [eq, seen] at lt ⊢ <;> omega

end SchemaCompiler
