import SchemaCompiler.Proofs.Schema.WellFormed

/-!
What a canonical form leaves open.

Two values have one canonical form exactly if one becomes the other by finitely many changes of
spelling, each made anywhere inside the value: another order of the members of an object, another order
of a `required` or `enum` list of strings alone or of numbers alone, other places of the nulls in such
a list, and another spelling of a number.

* `Json.Respells`, `Json.Equivalent`: one change of spelling, and any number of them;
* `Json.Respells.normal_eq`: a change of spelling keeps the normal form;
* `Json.equivalent_normal`: a value becomes its normal form by changes of spelling;
* `Canonical.eq_iff_equivalent`: the equality of canonical forms.
-/

namespace SchemaCompiler

namespace Json

/-! ### Changes of spelling -/

/-- Two lists that say the same where the order of strings, of numbers and of nulls carries no
meaning. -/
inductive Reorders (as bs : List Json) : Prop where
  | scalars (perm : as.Perm bs)
      (alike : (∀ v ∈ as, v.isNull = true ∨ v.isString = true) ∨
        ∀ v ∈ as, v.isNull = true ∨ v.isNumber = true) : Reorders as bs
  | nulls (perm : as.Perm bs)
      (values : as.filter (fun v => !v.isNull) = bs.filter fun v => !v.isNull) : Reorders as bs

/-- One change of spelling, at any depth. -/
inductive Respells : Json → Json → Prop where
  | number {m n : Number} (equal : m.equals n = true) : Respells (.number m) (.number n)
  | keys {ms ns : List (String × Json)} (perm : ms.Perm ns) : Respells (.object ms) (.object ns)
  | listed {keyword : String} (free : keyword = "required" ∨ keyword = "enum") {as bs : List Json}
      (order : Reorders as bs) (before after : List (String × Json)) :
      Respells (.object (before ++ (keyword, .array as) :: after))
        (.object (before ++ (keyword, .array bs) :: after))
  | item {a b : Json} (change : Respells a b) (before after : List Json) :
      Respells (.array (before ++ a :: after)) (.array (before ++ b :: after))
  | member {a b : Json} (change : Respells a b) (name : String) (before after : List (String × Json)) :
      Respells (.object (before ++ (name, a) :: after)) (.object (before ++ (name, b) :: after))

/-- Equality up to changes of spelling. -/
def Equivalent : Json → Json → Prop := Relation.EqvGen Respells

lemma Respells.equivalent {v w : Json} (change : Respells v w) : Equivalent v w := .rel _ _ change

@[refl]
lemma Equivalent.refl (v : Json) : Equivalent v v := Relation.EqvGen.refl v

lemma Equivalent.symm {v w : Json} (h : Equivalent v w) : Equivalent w v := Relation.EqvGen.symm _ _ h

lemma Equivalent.trans {u v w : Json} (h : Equivalent u v) (h' : Equivalent v w) : Equivalent u w :=
  Relation.EqvGen.trans _ _ _ h h'

/-- Changes of a part are changes of the whole. -/
lemma Equivalent.inside {whole : Json → Json} (step : ∀ a b, Respells a b → Respells (whole a) (whole b))
    {a b : Json} (h : Equivalent a b) : Equivalent (whole a) (whole b) := by
  induction h with
  | rel _ _ change => exact (step _ _ change).equivalent
  | refl _ => rfl
  | symm _ _ _ ih => exact ih.symm
  | trans _ _ _ _ _ ih ih' => exact ih.trans ih'

/-- What can be changed one by one can be changed throughout. -/
lemma equivalent_map {α : Type} {whole : List α → Json} {f : α → α} {parts : List α}
    (each : ∀ part ∈ parts, ∀ before after,
      Equivalent (whole (before ++ part :: after)) (whole (before ++ f part :: after))) :
    Equivalent (whole parts) (whole (parts.map f)) := by
  -- the parts before the present one are changed already
  suffices ∀ before, Equivalent (whole (before ++ parts)) (whole (before ++ parts.map f)) from this []
  induction parts with
  | nil => exact fun before => .refl _
  | cons part rest ih =>
      intro before
      have first := each part List.mem_cons_self before rest
      have others := ih (fun other mem => each other (List.mem_cons_of_mem _ mem)) (before ++ [f part])
      rw [List.append_assoc, List.append_assoc] at others
      exact first.trans others

/-! ### The way to the normal form -/

lemma orderFree_iff {keyword : String} :
    orderFree keyword = true ↔ keyword = "required" ∨ keyword = "enum" := by
  rw [orderFree, Bool.or_eq_true, decide_eq_true_eq, decide_eq_true_eq]

lemma filter_notNull_sortScalars {items : List Json}
    (mixed : ((items.filter (!·.isNull)).all isString || (items.filter (!·.isNull)).all isNumber) = false) :
    (sortScalars items).filter (!·.isNull) = items.filter (!·.isNull) := by
  rw [sortScalars, mixed]
  simp [List.filter_filter]

lemma reorders_sortScalars (items : List Json) : Reorders items (sortScalars items) := by
  by_cases alike : ((items.filter (!·.isNull)).all isString ||
      (items.filter (!·.isNull)).all isNumber) = true
  · refine .scalars (sortScalars_perm items).symm ?_
    simpa [or_iff_not_imp_left] using alike
  · exact .nulls (sortScalars_perm items).symm
      (filter_notNull_sortScalars (by simpa using alike)).symm

/-- A value becomes its normal form by changes of spelling. -/
lemma equivalent_normal (v : Json) : Equivalent v v.normal := by
  induction v using ind with
  | null => rfl
  | bool => rfl
  | string => rfl
  | number n =>
      refine (Respells.number ?_).equivalent
      rw [Number.equals, Double.sameValue, n.value_plain, decide_eq_true_eq]
  | array items ih =>
      rw [normal_array]
      exact equivalent_map fun item mem before after =>
        (ih item mem).inside fun a b change => change.item before after
  | object members ih =>
      rw [normal_object]
      refine Equivalent.trans ?_ (Respells.keys (Table.sort_perm _).symm).equivalent
      refine equivalent_map fun m mem before after => ?_
      obtain ⟨keyword, v⟩ := m
      have inner := (ih _ mem).inside fun a b change => change.member keyword before after
      refine inner.trans ?_
      rw [normalAt_eq]
      generalize v.normal = w
      -- the list under an order-free keyword is sorted last
      cases w with
      | array items =>
          rw [arrangeKeyword]
          split
          · next free =>
              exact (Respells.listed (orderFree_iff.1 free) (reorders_sortScalars items)
                before after).equivalent
          · rfl
      | _ => rfl

/-! ### What a change of spelling keeps -/

lemma Reorders.perm {as bs : List Json} (order : Reorders as bs) : as.Perm bs := by
  cases order <;> assumption

/-- Values of one kind are read from that kind, nulls aside. -/
lemma exists_map_eq {α : Type} {kind : Json → Bool} {write : α → Json}
    (read : ∀ v, kind v = true → v ∈ Set.range write) {items : List Json}
    (alike : ∀ v ∈ items, v.isNull = true ∨ kind v = true) :
    ∃ parts : List α, parts.map write = items.filter (!·.isNull) := by
  change _ ∈ Set.range (List.map write)
  rw [Set.range_list_map]
  intro v mem
  obtain ⟨mem, notNull⟩ := List.mem_filter.1 mem
  exact read v ((alike v mem).resolve_left (by simpa using notNull))

lemma isString_read (v : Json) (kind : v.isString = true) : v ∈ Set.range string := by
  cases v <;> first | exact ⟨_, rfl⟩ | cases kind

lemma isNumber_read (v : Json) (kind : v.isNumber = true) : v ∈ Set.range number := by
  cases v <;> first | exact ⟨_, rfl⟩ | cases kind

/-- The normal forms of two such lists are sorted alike. -/
lemma sortScalars_eq_of_reorders {as bs : List Json} (order : Reorders as bs) :
    sortScalars (as.map normal) = sortScalars (bs.map normal) := by
  have nulls : (as.map normal).filter (·.isNull) = (bs.map normal).filter (·.isNull) := by
    rw [filter_isNull_eq (as.map normal), filter_isNull_eq (bs.map normal),
      ((order.perm.map normal).filter _).length_eq]
  have notNull : ∀ items : List Json, (items.map normal).filter (!·.isNull) =
      (items.filter (!·.isNull)).map normal := by
    intro items
    simp only [List.filter_map, Function.comp_def, isNull_normal]
  cases order with
  | nulls _ values => rw [sortScalars, sortScalars, notNull, notNull, values, nulls]
  | scalars order alike =>
      -- strings and numbers are sorted, so that only which ones there are counts
      have perm := order.filter (!·.isNull)
      rcases alike with strings | numbers
      · obtain ⟨ss, ofAs⟩ := exists_map_eq isString_read strings
        obtain ⟨ts, ofBs⟩ := exists_map_eq isString_read fun v mem =>
          strings v (order.mem_iff.2 mem)
        rw [← ofAs, ← ofBs, List.map_perm_map_iff fun _ _ => string.inj] at perm
        rw [sortScalars_strings ss, sortScalars_strings ts, sortStrings_eq_iff_perm.2 perm, nulls]
        · rw [notNull, ← ofBs, List.map_map]
          rfl
        · rw [notNull, ← ofAs, List.map_map]
          rfl
      · obtain ⟨ms, ofAs⟩ := exists_map_eq isNumber_read numbers
        obtain ⟨ns, ofBs⟩ := exists_map_eq isNumber_read fun v mem =>
          numbers v (order.mem_iff.2 mem)
        rw [← ofAs, ← ofBs, List.map_perm_map_iff fun _ _ => number.inj] at perm
        rw [sortScalars_numbers ms, sortScalars_numbers ns, sortNumbers_eq_of_perm perm, nulls]
        · rw [notNull, ← ofBs, List.map_map]
          rfl
        · rw [notNull, ← ofAs, List.map_map]
          rfl

lemma Respells.wellFormed_iff {v w : Json} (change : Respells v w) : v.WellFormed ↔ w.WellFormed := by
  induction change with
  | number _ => exact Iff.rfl
  | keys perm =>
      simp only [wellFormed_object_iff, Table.keys, (perm.map Prod.fst).nodup_iff, perm.mem_iff]
  | @listed _ _ as bs order before after =>
      have inside : (array as).WellFormed ↔ (array bs).WellFormed := by
        simp only [wellFormed_array_iff, order.perm.mem_iff]
      simp only [wellFormed_object_iff, Table.keys, List.map_append, List.map_cons,
        List.forall_mem_append, List.forall_mem_cons, inside]
  | item _ before after ih =>
      simp only [wellFormed_array_iff, List.forall_mem_append, List.forall_mem_cons, ih]
  | member _ name before after ih =>
      simp only [wellFormed_object_iff, Table.keys, List.map_append, List.map_cons,
        List.forall_mem_append, List.forall_mem_cons, ih]

lemma keys_normalMembers (members : List (String × Json)) :
    Table.keys (normalMembers members) = Table.keys members := by
  rw [normalMembers, Table.keys, List.map_map]
  rfl

/-- A change of spelling keeps the normal form. -/
lemma Respells.normal_eq {v w : Json} (change : Respells v w) (wellFormed : v.WellFormed) :
    v.normal = w.normal := by
  induction change with
  | number equal =>
      rw [normal_number, normal_number, Number.plain_eq_iff.2 (of_decide_eq_true equal)]
  | keys perm =>
      have distinct := (wellFormed_object_iff.1 wellFormed).1
      rw [← keys_normalMembers] at distinct
      rw [normal_object, normal_object, Table.sort_eq_of_perm distinct (perm.map _), normalMembers]
  | listed free order before after =>
      have sorted := sortScalars_eq_of_reorders order
      simp only [normal_object, normalMembers, List.map_append, List.map_cons,
        normalAt_array (orderFree_iff.2 free), sorted]
  | @item a _ _ before after ih =>
      have inside := wellFormed_array_iff.1 wellFormed a (by simp)
      simp only [normal_array, List.map_append, List.map_cons, ih inside]
  | @member a _ _ name before after ih =>
      have inside := (wellFormed_object_iff.1 wellFormed).2 (name, a) (by simp)
      simp only [normal_object, normalMembers, List.map_append, List.map_cons, normalAt_eq, ih inside]

lemma Equivalent.wellFormed_iff {v w : Json} (h : Equivalent v w) : v.WellFormed ↔ w.WellFormed := by
  induction h with
  | rel _ _ change => exact change.wellFormed_iff
  | refl _ => rfl
  | symm _ _ _ ih => exact ih.symm
  | trans _ _ _ _ _ ih ih' => exact ih.trans ih'

/-- Values without repeated members have one normal form if and only if they are equal up to changes
of spelling. -/
theorem normal_eq_iff {v w : Json} (wellFormed : v.WellFormed) :
    v.normal = w.normal ↔ Equivalent v w := by
  constructor
  · intro eq
    exact (equivalent_normal v).trans (eq ▸ (equivalent_normal w).symm)
  · intro h
    induction h with
    | rel _ _ change => exact change.normal_eq wellFormed
    | refl _ => rfl
    | symm a b h ih => exact (ih ((Equivalent.wellFormed_iff h).2 wellFormed)).symm
    | trans a b c h _ ih ih' =>
        exact (ih wellFormed).trans (ih' ((Equivalent.wellFormed_iff h).1 wellFormed))

end Json

/-- **Canonical forms are equal if and only if the values are equal up to changes of spelling.** -/
theorem Canonical.eq_iff_equivalent {v w : Json} {c d : Canonical} (hv : ofJson v = .ok c)
    (hw : ofJson w = .ok d) (wellFormed : v.WellFormed) : c = d ↔ Json.Equivalent v w :=
  (ofJson_eq_iff hv hw).trans (Json.normal_eq_iff wellFormed)

/-- The members, the listed numbers, the place of `null` and the sign of zero differ. -/
theorem Canonical.eq_iff_equivalent_zeros :
    let zero := Json.number (.integer 0)
    let minusZero := Json.number (.real (Double.zero true))
    let one := Json.number (.integer 1)
    let v := Json.object [("enum", .array [one, .null, zero]), ("type", .string "number")]
    let w := Json.object [("type", .string "number"), ("enum", .array [minusZero, one, .null])]
    ∃ c, ofJson v = .ok c ∧ ofJson w = .ok c ∧ v.WellFormed ∧ Json.Equivalent v w := by
  intro zero minusZero one v w
  have wellFormed : v.WellFormed := by
    simp [v, zero, one, Json.wellFormed_object_iff, Json.wellFormed_array_iff, Table.keys]
    trivial
  have safe : v.Safe ∧ w.Safe := ⟨rfl, rfl⟩
  have hv : ofJson v = .ok ⟨v.normal.canonicalText⟩ := ofJson_eq_ok_iff.2 ⟨safe.1, rfl⟩
  have hw : ofJson w = .ok ⟨w.normal.canonicalText⟩ := ofJson_eq_ok_iff.2 ⟨safe.2, rfl⟩
  have listed : v.Respells (.object [("enum", .array [zero, one, .null]), ("type", .string "number")]) :=
    .listed (.inr rfl)
      (.scalars (((List.Perm.swap zero .null []).cons one).trans (.swap zero one [.null]))
        (.inr (by decide))) [] [("type", .string "number")]
  have respelled : Json.Respells
      (.object [("enum", .array [zero, one, .null]), ("type", .string "number")])
      (.object [("enum", .array [minusZero, one, .null]), ("type", .string "number")]) :=
    .member (.item (.number (by decide +kernel)) [] [one, .null]) "enum" [] [("type", .string "number")]
  have ordered : Json.Respells
      (.object [("enum", .array [minusZero, one, .null]), ("type", .string "number")]) w :=
    .keys (.swap _ _ [])
  have equivalent := (listed.equivalent.trans respelled.equivalent).trans ordered.equivalent
  have eq := (eq_iff_equivalent hv hw wellFormed).2 equivalent
  exact ⟨_, hv, eq ▸ hw, wellFormed, equivalent⟩

end SchemaCompiler
