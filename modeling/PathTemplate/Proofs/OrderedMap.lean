import PathTemplate.OrderedMap

namespace PathTemplate
namespace OrderedMap

/-!
# Laws of insertion-ordered maps

Every operation that writes is a run of `set`, so there is one law for a single write and one
induction for a run of them.  Lookups are stated for all names at once; order is stated through the
list of entries, which determines the map.  That a map has no name twice is what lets a write move
past others.
-/

variable {β : Type}

@[ext] theorem ext {left right : OrderedMap β} (same : left.entries = right.entries) :
    left = right := by
  cases left
  cases right
  cases same
  rfl

@[simp] theorem setAll_cons (m : OrderedMap β) (e : String × β) (rest : List (String × β)) :
    m.setAll (e :: rest) = (m.set e.1 e.2).setAll rest :=
  rfl

/-! ## Lookups -/

private theorem lookup_cons_eq (e : String × β) (rest : List (String × β)) (name : String) :
    (e :: rest).lookup name = if name = e.1 then some e.2 else rest.lookup name := by
  by_cases same : name = e.1
  · rw [List.lookup_cons, beq_iff_eq.mpr same, if_pos same]
  · rw [List.lookup_cons, beq_eq_false_iff_ne.mpr same, if_neg same]

private theorem lookup_setEntry (name other : String) (value : β) (es : List (String × β)) :
    (setEntry name value es).lookup other =
      if other = name then some value else es.lookup other := by
  induction es with
  | nil => exact lookup_cons_eq (name, value) [] other
  | cons e rest inductionHypothesis =>
      obtain ⟨first, held⟩ := e
      by_cases written : first = name
      · subst written
        rw [setEntry, if_pos rfl, lookup_cons_eq, lookup_cons_eq]
        split <;> rfl
      · rw [setEntry, if_neg written, lookup_cons_eq, lookup_cons_eq, inductionHypothesis]
        by_cases same : other = first
        · rw [if_pos same, if_pos same, if_neg (same ▸ written)]
        · rw [if_neg same, if_neg same]

/-- A write is seen under its own name and under no other. -/
@[simp] theorem find?_set (m : OrderedMap β) (name other : String) (value : β) :
    (m.set name value).find? other = if other = name then some value else m.find? other :=
  lookup_setEntry name other value m.entries

theorem find?_setAll_of_not_mem (m : OrderedMap β) {es : List (String × β)} {name : String}
    (absent : name ∉ es.map Prod.fst) : (m.setAll es).find? name = m.find? name := by
  induction es generalizing m with
  | nil => rfl
  | cons e rest inductionHypothesis =>
      rw [List.map_cons, List.mem_cons, not_or] at absent
      simp [inductionHypothesis (m.set e.1 e.2) absent.2, absent.1]

/-- Names that are not overridden keep what they had. -/
theorem find?_merge_of_not_mem (m overrides : OrderedMap β) {name : String}
    (absent : name ∉ overrides.names) : (m.merge overrides).find? name = m.find? name :=
  m.find?_setAll_of_not_mem absent

/-- Where no name is given twice, every entry is found under its name. -/
theorem lookup_eq_some_of_mem {es : List (String × β)} (distinct : (es.map Prod.fst).Nodup)
    {e : String × β} (member : e ∈ es) : es.lookup e.1 = some e.2 := by
  induction es with
  | nil => cases member
  | cons head rest inductionHypothesis =>
      rw [List.map_cons, List.nodup_cons] at distinct
      rw [lookup_cons_eq]
      rcases List.mem_cons.mp member with same | later
      · rw [if_pos (congrArg Prod.fst same), same]
      · have different : e.1 ≠ head.1 := by
          intro same
          exact distinct.1 (same ▸ List.mem_map_of_mem later)
        rw [if_neg different]
        exact inductionHypothesis distinct.2 later

theorem find?_eq_some_of_mem {m : OrderedMap β} {e : String × β} (member : e ∈ m.entries) :
    m.find? e.1 = some e.2 :=
  lookup_eq_some_of_mem m.nodup member

/-! ## Order -/

private theorem setEntry_of_not_mem {name : String} (value : β) {es : List (String × β)}
    (absent : name ∉ es.map Prod.fst) : setEntry name value es = es ++ [(name, value)] := by
  induction es with
  | nil => rfl
  | cons e rest inductionHypothesis =>
      obtain ⟨first, held⟩ := e
      rw [List.map_cons, List.mem_cons, not_or] at absent
      rw [setEntry, if_neg (Ne.symm absent.1), inductionHypothesis absent.2, List.cons_append]

/-- Writing names that are new and distinct appends them in the order they are written. -/
theorem entries_setAll (m : OrderedMap β) {es : List (String × β)}
    (fresh : ((m.entries ++ es).map Prod.fst).Nodup) :
    (m.setAll es).entries = m.entries ++ es := by
  induction es generalizing m with
  | nil => exact (List.append_nil _).symm
  | cons e rest inductionHypothesis =>
      have absent : e.1 ∉ m.entries.map Prod.fst := by
        rw [List.map_append, List.nodup_append] at fresh
        intro member
        exact fresh.2.2 _ member _ List.mem_cons_self rfl
      have written : (m.set e.1 e.2).entries = m.entries ++ [e] := setEntry_of_not_mem e.2 absent
      have regrouped : (m.set e.1 e.2).entries ++ rest = m.entries ++ e :: rest := by
        rw [written, List.append_assoc, List.singleton_append]
      rw [setAll_cons, inductionHypothesis (m.set e.1 e.2) (regrouped ▸ fresh), regrouped]

theorem entries_ofList {es : List (String × β)} (distinct : (es.map Prod.fst).Nodup) :
    (ofList es).entries = es :=
  entries_setAll empty distinct

/-- A map is built anew from its entries. -/
@[simp] theorem ofList_entries (m : OrderedMap β) : ofList m.entries = m :=
  ext (entries_ofList m.nodup)

theorem find?_ofList_map {α : Type} (keys : List α) (name : α → String) (value : α → β)
    (distinct : (keys.map name).Nodup) {key : α} (member : key ∈ keys) :
    (ofList (keys.map fun k => (name k, value k))).find? (name key) = some (value key) := by
  have names : (keys.map fun k => (name k, value k)).map Prod.fst = keys.map name := by
    rw [List.map_map]
    rfl
  have listed : (name key, value key) ∈ (ofList (keys.map fun k => (name k, value k))).entries := by
    rw [entries_ofList (names ▸ distinct)]
    exact List.mem_map_of_mem member
  exact find?_eq_some_of_mem listed

/-! ## Names and removal -/

@[simp] theorem contains_iff {m : OrderedMap β} {name : String} :
    m.contains name = true ↔ name ∈ m.names := by
  rw [contains, List.any_eq_true, names, List.mem_map]
  simp only [beq_iff_eq]

private theorem setEntry_of_mem {name : String} (value : β) {es : List (String × β)}
    (present : name ∈ es.map Prod.fst) :
    (setEntry name value es).map Prod.fst = es.map Prod.fst := by
  induction es with
  | nil => cases present
  | cons e rest inductionHypothesis =>
      obtain ⟨first, held⟩ := e
      by_cases here : first = name
      · rw [setEntry, if_pos here, List.map_cons, List.map_cons]
      · have later : name ∈ rest.map Prod.fst :=
          (List.mem_cons.mp present).resolve_left (Ne.symm here)
        rw [setEntry, if_neg here, List.map_cons, List.map_cons, inductionHypothesis later]

/-- A write moves no name, and brings a new one in at the end. -/
@[simp] theorem names_set (m : OrderedMap β) (name : String) (value : β) :
    (m.set name value).names = if name ∈ m.names then m.names else m.names ++ [name] := by
  by_cases present : name ∈ m.names
  · rw [if_pos present]
    exact setEntry_of_mem value present
  · have appended : (m.set name value).entries = m.entries ++ [(name, value)] :=
      setEntry_of_not_mem value present
    rw [if_neg present, names, names, appended, List.map_append, List.map_singleton]

@[simp] theorem names_erase (m : OrderedMap β) (name : String) :
    (m.erase name).names = m.names.filter (· ≠ name) := by
  rw [names, names, erase, List.filter_map]
  rfl

private theorem lookup_filter (name other : String) (es : List (String × β)) :
    (es.filter (·.1 ≠ name)).lookup other = if other = name then none else es.lookup other := by
  induction es with
  | nil => simp only [List.filter_nil, List.lookup_nil, ite_self]
  | cons e rest inductionHypothesis =>
      by_cases taken : e.1 = name
      · rw [List.filter_cons_of_neg (by simp [taken]), inductionHypothesis, lookup_cons_eq]
        by_cases same : other = name
        · rw [if_pos same, if_pos same]
        · rw [if_neg same, if_neg same, if_neg (taken ▸ same)]
      · rw [List.filter_cons_of_pos (by simp [taken]), lookup_cons_eq, lookup_cons_eq,
          inductionHypothesis]
        by_cases here : other = e.1
        · rw [if_pos here, if_neg (here ▸ taken), if_pos here]
        · rw [if_neg here, if_neg here]

/-- A name that was taken out has no value, and every other name keeps its own. -/
@[simp] theorem find?_erase (m : OrderedMap β) (name other : String) :
    (m.erase name).find? other = if other = name then none else m.find? other :=
  lookup_filter name other m.entries

/-- Where no name is given twice, the first entry of a name is the only one. -/
private theorem eraseIdx_eq_filter {name : String} {es : List (String × β)}
    (distinct : (es.map Prod.fst).Nodup) {place : Nat}
    (found : es.findIdx? (·.1 == name) = some place) :
    es[place]?.map Prod.snd = es.lookup name ∧ es.eraseIdx place = es.filter (·.1 ≠ name) := by
  induction es generalizing place with
  | nil => cases found
  | cons e rest inductionHypothesis =>
      rw [List.map_cons, List.nodup_cons] at distinct
      rw [List.findIdx?_cons] at found
      by_cases here : e.1 = name
      · rw [if_pos (beq_iff_eq.mpr here)] at found
        cases found
        have others : rest.filter (·.1 ≠ name) = rest := by
          rw [List.filter_eq_self]
          intro other member
          apply decide_eq_true
          intro same
          apply distinct.1
          rw [here, ← same]
          exact List.mem_map_of_mem member
        rw [lookup_cons_eq, if_pos here.symm, List.filter_cons_of_neg (by simp [here]), others]
        exact ⟨rfl, rfl⟩
      · rw [if_neg (by simp [here]), Option.map_eq_some_iff] at found
        rcases found with ⟨before, foundLater, rfl⟩
        have later := inductionHypothesis distinct.2 foundLater
        rw [lookup_cons_eq, if_neg (Ne.symm here), List.filter_cons_of_pos (by simp [here]),
          List.getElem?_cons_succ, List.eraseIdx_cons_succ]
        exact ⟨later.1, congrArg (e :: ·) later.2⟩

/-- Removing gives back the value that was there, and leaves the other entries in their order. -/
@[simp] theorem remove_eq (m : OrderedMap β) (name : String) :
    m.remove name = (m.find? name, m.erase name) := by
  rw [remove]
  cases found : m.entries.findIdx? (·.1 == name) with
  | none =>
      rw [List.findIdx?_eq_none_iff] at found
      have absent : ∀ e ∈ m.entries, e.1 ≠ name := by
        intro e member
        exact beq_eq_false_iff_ne.mp (found e member)
      have kept : m.entries.filter (·.1 ≠ name) = m.entries := by
        rw [List.filter_eq_self]
        intro e member
        exact decide_eq_true (absent e member)
      have noValue : m.find? name = none := by
        rw [find?, List.lookup_eq_none_iff]
        intro e member
        exact bne_iff_ne.mpr (Ne.symm (absent e member))
      rw [noValue]
      exact congrArg (Prod.mk none) (ext kept.symm)
  | some place =>
      have only := eraseIdx_eq_filter m.nodup found
      exact Prod.ext only.1 (ext only.2)

/-! ## Merging

What is written over a map may be put together first.  A name keeps the place of its first write and
the value of its last, however the later writes are grouped. -/

theorem find?_setAll (m : OrderedMap β) {es : List (String × β)}
    (distinct : (es.map Prod.fst).Nodup) (name : String) :
    (m.setAll es).find? name = (es.lookup name).or (m.find? name) := by
  induction es generalizing m with
  | nil => rfl
  | cons e rest inductionHypothesis =>
      rw [List.map_cons, List.nodup_cons] at distinct
      rw [setAll_cons, lookup_cons_eq]
      by_cases same : name = e.1
      · subst same
        rw [find?_setAll_of_not_mem _ distinct.1]
        simp
      · simp [inductionHypothesis (m.set e.1 e.2) distinct.2, same]

/-- An overriding value counts, and any other name keeps what it had. -/
@[simp] theorem find?_merge (m overrides : OrderedMap β) (name : String) :
    (m.merge overrides).find? name = (overrides.find? name).or (m.find? name) :=
  m.find?_setAll overrides.nodup name

/-- Only the last of two writes to a name counts. -/
@[simp] theorem set_set (m : OrderedMap β) (name : String) (first second : β) :
    (m.set name first).set name second = m.set name second := by
  apply ext
  change setEntry name second (setEntry name first m.entries) = setEntry name second m.entries
  induction m.entries with
  | nil => simp only [setEntry, if_true]
  | cons e rest inductionHypothesis =>
      by_cases same : e.1 = name
      · simp only [setEntry, if_pos same]
      · simp only [setEntry, if_neg same, inductionHypothesis]

private theorem setEntry_comm {name other : String} (different : name ≠ other) (value held : β)
    {es : List (String × β)} (present : name ∈ es.map Prod.fst) :
    setEntry name value (setEntry other held es) =
      setEntry other held (setEntry name value es) := by
  induction es with
  | nil => cases present
  | cons e rest inductionHypothesis =>
      by_cases here : e.1 = name
      · have apart : e.1 ≠ other := here ▸ different
        simp only [setEntry, if_pos here, if_neg apart]
      · have later : name ∈ rest.map Prod.fst :=
          (List.mem_cons.mp present).resolve_left (Ne.symm here)
        by_cases there : e.1 = other
        · simp only [setEntry, if_pos there, if_neg here]
        · simp only [setEntry, if_neg here, if_neg there, inductionHypothesis later]

/-- A name that is present is written in its place, before or after the others. -/
theorem set_comm_of_mem (m : OrderedMap β) {name other : String} (present : name ∈ m.names)
    (different : name ≠ other) (value held : β) :
    (m.set other held).set name value = (m.set name value).set other held :=
  ext (setEntry_comm different value held present)

theorem mem_names_set {m : OrderedMap β} {name other : String} {value : β} :
    other ∈ (m.set name value).names ↔ other = name ∨ other ∈ m.names :=
  mem_keys_setEntry

private theorem setAll_set_comm (m : OrderedMap β) {name : String} (present : name ∈ m.names)
    {es : List (String × β)} (absent : name ∉ es.map Prod.fst) (value : β) :
    (m.setAll es).set name value = (m.set name value).setAll es := by
  induction es generalizing m with
  | nil => rfl
  | cons e rest inductionHypothesis =>
      rw [List.map_cons, List.mem_cons, not_or] at absent
      have stillPresent : name ∈ (m.set e.1 e.2).names := mem_names_set.mpr (Or.inr present)
      rw [setAll_cons, setAll_cons, inductionHypothesis (m.set e.1 e.2) stillPresent absent.2,
        m.set_comm_of_mem present absent.1]

/-- A write behind a run of writes may be made within the run instead. -/
theorem setAll_setEntry (m : OrderedMap β) {es : List (String × β)}
    (distinct : (es.map Prod.fst).Nodup) (name : String) (value : β) :
    m.setAll (setEntry name value es) = (m.setAll es).set name value := by
  induction es generalizing m with
  | nil => rfl
  | cons e rest inductionHypothesis =>
      obtain ⟨first, held⟩ := e
      rw [List.map_cons, List.nodup_cons] at distinct
      by_cases same : first = name
      · subst same
        have present : first ∈ (m.set first held).names := mem_names_set.mpr (Or.inl rfl)
        calc
          m.setAll (setEntry first value ((first, held) :: rest)) =
              (m.set first value).setAll rest := by
            rw [setEntry, if_pos rfl, setAll_cons]
          _ = ((m.set first held).set first value).setAll rest := by
            rw [set_set]
          _ = ((m.set first held).setAll rest).set first value :=
            (setAll_set_comm _ present distinct.1 _).symm
      · rw [setEntry, if_neg same]
        exact inductionHypothesis (m.set first held) distinct.2

theorem merge_set (m overrides : OrderedMap β) (name : String) (value : β) :
    m.merge (overrides.set name value) = (m.merge overrides).set name value :=
  m.setAll_setEntry overrides.nodup name value

/-- What is written to the overrides may be written behind the merge instead. -/
theorem merge_setAll (m overrides : OrderedMap β) (es : List (String × β)) :
    m.merge (overrides.setAll es) = (m.merge overrides).setAll es := by
  induction es generalizing overrides with
  | nil => rfl
  | cons e rest inductionHypothesis =>
      rw [setAll_cons, setAll_cons, inductionHypothesis, merge_set]

/-- Merging is associative, entries and order alike. -/
theorem merge_assoc (first second third : OrderedMap β) :
    (first.merge second).merge third = first.merge (second.merge third) :=
  (merge_setAll first second third.entries).symm

/-- Writing one list of entries behind another merges what each of them writes alone: repeated names
may be put together on either side first. -/
theorem ofList_append (es more : List (String × β)) :
    ofList (es ++ more) = (ofList es).merge (ofList more) := by
  have behind : ofList (es ++ more) = (ofList es).setAll more := List.foldl_append
  rw [behind]
  exact (merge_setAll (ofList es) empty more).symm

/-- Overrides that may be missing are merged before they are written, or one after the other. -/
theorem elim_merge (base : OrderedMap β) (first second : Option (OrderedMap β)) :
    (first.merge merge second).elim base base.merge =
      second.elim (first.elim base base.merge) (first.elim base base.merge).merge := by
  cases first with
  | none =>
      cases second with
      | none => rfl
      | some later => rfl
  | some earlier =>
      cases second with
      | none => rfl
      | some later => exact (merge_assoc base earlier later).symm

end OrderedMap
end PathTemplate
