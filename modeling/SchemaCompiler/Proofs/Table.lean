import Mathlib.Tactic
import SchemaCompiler.Table
import SchemaCompiler.Text.Units

/-!
Laws of ordered tables.

* `Text.unitsLe_antisymm`: the order of code units is one of texts;
* `Table.sort`: a table in the order of its names' code units; sorting is stable, so that every name
  keeps its first entry (`Table.get?_sort`), and it commutes with changes of the entries;
* `Table.sort_eq_of_get?`: what is found in a table without repeated names tells its order;
* `Table.get?_mapValues`, `Table.get?_append`, `Table.get?_filter`: what is found under a name;
* `Table.get?_eq_some_iff`: in a table without repeated names all entries are found.
-/

namespace SchemaCompiler

/-! ### The order of names -/

namespace Text

lemma lexLe_trans {a b c : List ℕ} (ab : lexLe a b = true) (bc : lexLe b c = true) :
    lexLe a c = true := by
  induction a generalizing b c with
  | nil => rfl
  | cons x xs ih =>
      cases b with
      | nil => cases ab
      | cons y ys =>
          cases c with
          | nil => cases bc
          | cons z zs =>
              simp only [lexLe] at ab bc ⊢
              by_cases xy : x = y <;> by_cases yz : y = z
              · subst xy yz
                simp only [if_true] at ab bc ⊢
                exact ih ab bc
              · subst xy
                simpa only [yz, if_false] using bc
              · subst yz
                simpa only [xy, if_false] using ab
              · simp only [xy, yz, if_false, decide_eq_true_eq] at ab bc
                simp only [(ab.trans bc).ne, if_false, decide_eq_true_eq]
                exact ab.trans bc

lemma lexLe_total (a b : List ℕ) : lexLe a b = true ∨ lexLe b a = true := by
  induction a generalizing b with
  | nil => exact .inl rfl
  | cons x xs ih =>
      cases b with
      | nil => exact .inr rfl
      | cons y ys =>
          simp only [lexLe]
          rcases lt_trichotomy x y with lt | rfl | gt
          · simp [lt.ne, lt]
          · simpa using ih ys
          · simp [gt.ne, gt]

lemma unitsLe_trans (a b c : String) (ab : unitsLe a b = true) (bc : unitsLe b c = true) :
    unitsLe a c = true := lexLe_trans ab bc

lemma unitsLe_total (a b : String) : (unitsLe a b || unitsLe b a) = true := by
  rw [Bool.or_eq_true]
  exact lexLe_total _ _

lemma lexLe_antisymm {a b : List ℕ} (ab : lexLe a b = true) (ba : lexLe b a = true) : a = b := by
  induction a generalizing b with
  | nil =>
      cases b with
      | nil => rfl
      | cons y ys => cases ba
  | cons x xs ih =>
      cases b with
      | nil => cases ab
      | cons y ys =>
          simp only [lexLe] at ab ba
          by_cases eq : x = y
          · subst eq
            simp only [if_true] at ab ba
            rw [ih ab ba]
          · simp only [eq, Ne.symm eq, if_false, decide_eq_true_eq] at ab ba
            omega

/-- The code units of a character tell the character and where they end. -/
lemma charUnits_append_inj {c d : Char} {a b : List ℕ} (eq : charUnits c ++ a = charUnits d ++ b) :
    c = d ∧ a = b := by
  have scalar : ∀ e : Char, e.toNat < 0xD800 ∨ 0xDFFF < e.toNat ∧ e.toNat < 0x110000 := fun e => e.valid
  have hc := scalar c
  have hd := scalar d
  have told : c.toNat = d.toNat → c = d := fun same => Char.toNat_inj.1 same
  rw [charUnits, charUnits] at eq
  split at eq
  · split at eq
    · obtain ⟨same, rest⟩ := List.cons.inj eq
      exact ⟨told same, rest⟩
    · obtain ⟨same, -⟩ := List.cons.inj eq
      omega
  · split at eq
    · obtain ⟨same, -⟩ := List.cons.inj eq
      omega
    · obtain ⟨high, eq⟩ := List.cons.inj eq
      obtain ⟨low, rest⟩ := List.cons.inj eq
      exact ⟨told (by omega), rest⟩

/-- The code units of a text tell the text. -/
lemma units_injective {s t : String} (eq : units s = units t) : s = t := by
  have told : ∀ cs ds : List Char, cs.flatMap charUnits = ds.flatMap charUnits → cs = ds := by
    intro cs
    induction cs with
    | nil =>
        intro ds eq
        cases ds with
        | nil => rfl
        | cons d rest =>
            rw [List.flatMap_nil, List.flatMap_cons, charUnits] at eq
            split at eq <;> cases eq
    | cons c rest ih =>
        intro ds eq
        cases ds with
        | nil =>
            rw [List.flatMap_nil, List.flatMap_cons, charUnits] at eq
            split at eq <;> cases eq
        | cons d others =>
            rw [List.flatMap_cons, List.flatMap_cons] at eq
            obtain ⟨rfl, same⟩ := charUnits_append_inj eq
            rw [ih others same]
  exact String.toList_inj.1 (told _ _ eq)

lemma unitsLe_antisymm {s t : String} (st : unitsLe s t = true) (ts : unitsLe t s = true) : s = t :=
  units_injective (lexLe_antisymm st ts)

end Text

namespace Table

variable {α : Type*} {β : Type*}

/-! ### Finding entries -/

lemma get?_append (s t : Table α) (name : String) :
    get? (s ++ t) name = (get? s name).or (get? t name) := by
  induction s with
  | nil => rfl
  | cons head rest ih =>
      obtain ⟨key, value⟩ := head
      rw [List.cons_append, get?_cons, get?_cons, ih]
      split <;> rfl

/-- Entries that are changed under their names are found under them. -/
lemma get?_map {change : String × α → String × β} (kept : ∀ entry, (change entry).1 = entry.1) (t : Table α)
    (name : String) :
    get? (t.map change) name = (get? t name).map fun value => (change (name, value)).2 := by
  induction t with
  | nil => rfl
  | cons entry rest ih =>
      rw [List.map_cons, get?_cons, get?_cons, ih, kept]
      split
      · next same => rw [← same, Option.map_some]
      · rfl

lemma get?_mapValues (f : α → β) (t : Table α) (name : String) :
    get? (mapValues f t) name = (get? t name).map f := by
  rw [mapValues, get?_map]
  exact fun _ => rfl

lemma keys_mapValues (f : α → β) (t : Table α) : keys (mapValues f t) = keys t := by
  rw [keys, keys, mapValues, List.map_map]
  rfl

lemma mapValues_mapValues {γ : Type*} (g : β → γ) (f : α → β) (t : Table α) :
    mapValues g (mapValues f t) = mapValues (fun value => g (f value)) t := by
  rw [mapValues, mapValues, List.map_map]
  rfl

lemma mapValues_congr {f g : α → β} {t : Table α} (h : ∀ entry ∈ t, f entry.2 = g entry.2) :
    mapValues f t = mapValues g t :=
  List.map_congr_left fun entry mem => congrArg (Prod.mk entry.1) (h entry mem)

/-- If one change of the entries tells as much as another one, tables that the first makes equal are
made equal by the second. -/
lemma mapValues_eq_of {γ : Type*} {f : α → β} {g : α → γ} {s t : Table α}
    (eq : mapValues f s = mapValues f t)
    (told : ∀ a ∈ s, ∀ b ∈ t, f a.2 = f b.2 → g a.2 = g b.2) : mapValues g s = mapValues g t := by
  induction s generalizing t with
  | nil =>
      cases t with
      | nil => rfl
      | cons b bs => cases eq
  | cons a as ih =>
      cases t with
      | nil => cases eq
      | cons b bs =>
          obtain ⟨key, value⟩ := a
          obtain ⟨key', value'⟩ := b
          rw [mapValues, mapValues, List.map_cons, List.map_cons, List.cons_eq_cons,
            Prod.mk.injEq] at eq
          obtain ⟨⟨rfl, values⟩, rest⟩ := eq
          have first := told _ List.mem_cons_self _ List.mem_cons_self values
          have others := ih rest fun c hc d hd =>
            told c (List.mem_cons_of_mem _ hc) d (List.mem_cons_of_mem _ hd)
          exact congrArg₂ List.cons (congrArg (Prod.mk key) first) others

lemma mapValues_id (t : Table α) : mapValues (fun value => value) t = t := List.map_id t

lemma isEmpty_mapValues (f : α → β) (t : Table α) : (mapValues f t).isEmpty = t.isEmpty := by
  rw [mapValues, List.isEmpty_map]

lemma mem_of_get? {t : Table α} {name : String} {value : α} (h : get? t name = some value) :
    (name, value) ∈ t := by
  induction t with
  | nil => cases h
  | cons head rest ih =>
      obtain ⟨key, other⟩ := head
      rw [get?_cons] at h
      split at h
      · next eq =>
          cases h
          rw [eq]
          exact List.mem_cons_self
      · exact List.mem_cons_of_mem _ (ih h)

lemma get?_eq_none_iff {t : Table α} {name : String} : get? t name = none ↔ name ∉ keys t := by
  rw [mem_keys_iff, contains, Option.isSome_iff_ne_none, not_not]

lemma exists_get?_iff {t : Table α} {name : String} :
    (∃ value, get? t name = some value) ↔ name ∈ keys t := by
  rw [mem_keys_iff, contains, Option.isSome_iff_exists]

/-- In a table without repeated names every entry is found. -/
lemma get?_eq_some_iff {t : Table α} (distinct : (keys t).Nodup) {name : String} {value : α} :
    get? t name = some value ↔ (name, value) ∈ t := by
  refine ⟨mem_of_get?, fun mem => ?_⟩
  induction t with
  | nil => cases mem
  | cons head rest ih =>
      obtain ⟨key, other⟩ := head
      obtain ⟨new, distinct⟩ := List.nodup_cons.1 distinct
      rw [get?_cons]
      rcases List.mem_cons.1 mem with eq | mem
      · cases eq
        rw [if_pos rfl]
      · rw [if_neg, ih distinct mem]
        rintro rfl
        exact new (List.mem_map.2 ⟨_, mem, rfl⟩)

/-- The entries under a name, in order; the first of them is the one that is found. -/
lemma get?_eq_head? (t : Table α) (name : String) :
    get? t name = ((t.filter fun entry => entry.1 = name).map Prod.snd).head? := by
  induction t with
  | nil => rfl
  | cons head rest ih =>
      obtain ⟨key, value⟩ := head
      rw [get?_cons]
      by_cases eq : key = name <;> simp [eq, ih]

/-- Entries that are chosen by their names. -/
lemma get?_filter (keep : String → Bool) (t : Table α) (name : String) :
    get? (t.filter fun entry => keep entry.1) name = if keep name then get? t name else none := by
  induction t with
  | nil => simp [get?]
  | cons head rest ih =>
      obtain ⟨key, value⟩ := head
      by_cases kept : keep key
      · rw [List.filter_cons_of_pos (by simpa using kept), get?_cons, get?_cons, ih]
        by_cases eq : key = name
        · rw [if_pos eq, if_pos eq, ← eq, if_pos kept]
        · rw [if_neg eq, if_neg eq]
      · rw [List.filter_cons_of_neg (by simpa using kept), ih, get?_cons]
        by_cases eq : key = name
        · rw [← eq, if_neg kept, if_neg kept]
        · rw [if_neg eq]

lemma keys_filter_sublist (keep : String × α → Bool) (t : Table α) :
    (keys (t.filter keep)).Sublist (keys t) := List.filter_sublist.map _

lemma mem_keys_append_iff {s t : Table α} {name : String} :
    name ∈ keys (s ++ t) ↔ name ∈ keys s ∨ name ∈ keys t := by
  rw [keys, List.map_append, List.mem_append, keys, keys]

/-! ### Insertions -/

lemma get?_insert_self (t : Table α) (name : String) (entry : α) :
    get? (insert t name entry) name = some entry := by
  rw [get?_insert, if_pos rfl]

lemma mem_keys_insert_iff {t : Table α} {name other : String} {entry : α} :
    other ∈ keys (insert t name entry) ↔ other = name ∨ other ∈ keys t := by
  rw [← exists_get?_iff, ← exists_get?_iff, get?_insert]
  by_cases eq : name = other
  · simp [eq]
  · simp [eq, Ne.symm eq]

lemma insert_of_notMem {t : Table α} {name : String} (new : name ∉ keys t) (entry : α) :
    insert t name entry = t ++ [(name, entry)] := by
  induction t with
  | nil => rfl
  | cons head rest ih =>
      obtain ⟨key, value⟩ := head
      rw [keys, List.map_cons, List.mem_cons, not_or] at new
      rw [insert, if_neg (Ne.symm new.1), ih new.2, List.cons_append]

/-- A new entry under an old name leaves the names. -/
lemma keys_insert_of_mem {t : Table α} {name : String} (old : name ∈ keys t) (entry : α) :
    keys (insert t name entry) = keys t := by
  induction t with
  | nil => cases old
  | cons head rest ih =>
      obtain ⟨key, value⟩ := head
      rw [insert]
      split
      · rfl
      · next other =>
          have later := (List.mem_cons.1 old).resolve_left fun eq => other eq.symm
          exact congrArg (key :: ·) (ih later)

lemma nodup_keys_insert {t : Table α} (distinct : (keys t).Nodup) (name : String) (entry : α) :
    (keys (insert t name entry)).Nodup := by
  induction t with
  | nil => exact List.nodup_singleton name
  | cons head rest ih =>
      obtain ⟨key, value⟩ := head
      obtain ⟨new, distinct⟩ := List.nodup_cons.1 distinct
      rw [insert]
      split
      · exact List.nodup_cons.2 ⟨new, distinct⟩
      · next other =>
          refine List.nodup_cons.2 ⟨fun mem => ?_, ih distinct⟩
          rcases mem_keys_insert_iff.1 mem with eq | mem
          · exact other eq
          · exact new mem

lemma mem_insert {t : Table α} {name : String} {entry : α} {other : String × α}
    (mem : other ∈ insert t name entry) : other = (name, entry) ∨ other ∈ t := by
  induction t with
  | nil => exact .inl (List.mem_singleton.1 mem)
  | cons head rest ih =>
      obtain ⟨key, value⟩ := head
      rw [insert] at mem
      split at mem
      · next eq =>
          rw [eq] at mem
          exact (List.mem_cons.1 mem).imp_right (List.mem_cons_of_mem _)
      · rcases List.mem_cons.1 mem with eq | mem
        · exact .inr (eq ▸ List.mem_cons_self)
        · exact (ih mem).imp_right (List.mem_cons_of_mem _)

lemma mapValues_insert (f : α → β) (t : Table α) (name : String) (entry : α) :
    mapValues f (insert t name entry) = insert (mapValues f t) name (f entry) := by
  induction t with
  | nil => rfl
  | cons first rest ih =>
      obtain ⟨key, value⟩ := first
      have cons : ∀ (value : α) (t : Table α),
          mapValues f ((key, value) :: t) = (key, f value) :: mapValues f t := fun _ _ => rfl
      rw [insert, cons, insert]
      split
      · exact cons entry rest
      · rw [cons, ih]

/-- The last of several insertions under a name counts. -/
lemma get?_foldl_insert {more : Table α} (distinct : (keys more).Nodup) (base : Table α)
    (name : String) :
    get? (more.foldl (fun t entry => insert t entry.1 entry.2) base) name =
      (get? more name).or (get? base name) := by
  induction more generalizing base with
  | nil => rfl
  | cons head rest ih =>
      obtain ⟨key, value⟩ := head
      obtain ⟨new, distinct⟩ := List.nodup_cons.1 distinct
      rw [List.foldl_cons, ih distinct, get?_cons, get?_insert]
      by_cases eq : key = name
      · rw [if_pos eq, if_pos eq, get?_eq_none_iff.2 (by rwa [← eq])]
        rfl
      · rw [if_neg eq, if_neg eq]

/-- Entries under new names are appended. -/
lemma foldl_insert_eq_append {base more : Table α} (distinct : (keys (base ++ more)).Nodup) :
    more.foldl (fun t entry => insert t entry.1 entry.2) base = base ++ more := by
  induction more generalizing base with
  | nil => rw [List.append_nil, List.foldl_nil]
  | cons head rest ih =>
      have new : head.1 ∉ keys base := by
        rw [keys, List.map_append, List.nodup_append] at distinct
        exact fun mem => distinct.2.2 _ mem _ List.mem_cons_self rfl
      rw [List.foldl_cons, insert_of_notMem new, ih (by simpa using distinct),
        List.append_assoc, List.singleton_append]

/-- Insertions leave the names distinct. -/
lemma nodup_keys_foldl_insert {base : Table α} (distinct : (keys base).Nodup)
    (more : List (String × α)) :
    (keys (more.foldl (fun t entry => insert t entry.1 entry.2) base)).Nodup := by
  induction more generalizing base with
  | nil => exact distinct
  | cons head rest ih => exact ih (nodup_keys_insert distinct head.1 head.2)

lemma nodup_keys_ofEntries (entries : List (String × α)) : (keys (ofEntries entries)).Nodup :=
  @nodup_keys_foldl_insert _ [] List.nodup_nil entries

/-- A table without repeated names is the table of its entries. -/
lemma ofEntries_eq_self {t : Table α} (distinct : (keys t).Nodup) : ofEntries t = t :=
  @foldl_insert_eq_append _ [] t distinct

/-! ### Sorting -/

/-- The table in the order of its names. -/
def sort (t : Table α) : Table α := t.mergeSort fun a b => Text.unitsLe a.1 b.1

lemma sort_perm (t : Table α) : (sort t).Perm t := List.mergeSort_perm _ _

@[simp]
lemma mem_sort {t : Table α} {entry : String × α} : entry ∈ sort t ↔ entry ∈ t :=
  (sort_perm t).mem_iff

@[simp]
lemma isEmpty_sort (t : Table α) : (sort t).isEmpty = t.isEmpty := (sort_perm t).isEmpty_eq

lemma pairwise_sort (t : Table α) : (sort t).Pairwise fun a b => Text.unitsLe a.1 b.1 = true :=
  List.pairwise_mergeSort (fun a b c => Text.unitsLe_trans a.1 b.1 c.1)
    (fun a b => Text.unitsLe_total a.1 b.1) t

@[simp]
lemma sort_sort (t : Table α) : sort (sort t) = sort t := List.mergeSort_of_pairwise (pairwise_sort t)

/-- Entries under different names have one order. -/
lemma sort_eq_of_perm {s t : Table α} (distinct : (keys s).Nodup) (perm : s.Perm t) : sort s = sort t := by
  refine List.Perm.eq_of_pairwise (fun a b memA memB ab ba => ?_) (pairwise_sort s) (pairwise_sort t)
    (((sort_perm s).trans perm).trans (sort_perm t).symm)
  have name := Text.unitsLe_antisymm ab ba
  exact List.inj_on_of_nodup_map distinct (mem_sort.1 memA) (perm.mem_iff.2 (mem_sort.1 memB)) name

/-- Tables without repeated names in which the same is found are the same in order. -/
lemma sort_eq_of_get? {s t : Table α} (distinct : (keys s).Nodup) (distinct' : (keys t).Nodup)
    (same : ∀ name, get? s name = get? t name) : sort s = sort t := by
  refine sort_eq_of_perm distinct ((List.perm_ext_iff_of_nodup (List.Nodup.of_map _ distinct)
    (List.Nodup.of_map _ distinct')).2 fun entry => ?_)
  rw [← get?_eq_some_iff distinct, ← get?_eq_some_iff distinct', same]

/-- Sorting is stable, so the first entry under a name stays the first. -/
@[simp]
lemma get?_sort (t : Table α) (name : String) : get? (sort t) name = get? t name := by
  have same : (t.filter fun entry => entry.1 = name).Pairwise
      fun a b => Text.unitsLe a.1 b.1 = true := by
    refine List.pairwise_of_forall_mem_list fun a ha b hb => ?_
    have ha : a.1 = name := by simpa using (List.mem_filter.1 ha).2
    have hb : b.1 = name := by simpa using (List.mem_filter.1 hb).2
    rw [ha, hb]
    simpa using Text.unitsLe_total name name
  have kept : (t.filter fun entry => entry.1 = name).Sublist
      ((sort t).filter fun entry => entry.1 = name) := by
    have trans : ∀ a b c : String × α, Text.unitsLe a.1 b.1 = true → Text.unitsLe b.1 c.1 = true →
        Text.unitsLe a.1 c.1 = true := fun a b c => Text.unitsLe_trans a.1 b.1 c.1
    have total : ∀ a b : String × α, (Text.unitsLe a.1 b.1 || Text.unitsLe b.1 a.1) = true :=
      fun a b => Text.unitsLe_total a.1 b.1
    have stable := List.sublist_mergeSort trans total same List.filter_sublist
    simpa only [List.filter_filter, Bool.and_self, sort] using
      stable.filter fun entry => entry.1 = name
  have all := kept.eq_of_length ((sort_perm t).filter _).length_eq.symm
  rw [get?_eq_head?, get?_eq_head?, all]

/-- Entries can be changed before or after sorting. -/
lemma mapValues_sort (f : α → β) (t : Table α) : mapValues f (sort t) = sort (mapValues f t) := by
  rw [sort, mapValues, List.map_mergeSort]
  · rfl
  · intro a _ b _
    rfl

end Table

end SchemaCompiler
