import PathTemplate.Params
import PathTemplate.Query
import PathTemplate.Proofs.OrderedMap

namespace PathTemplate
namespace OrderedMap

/-!
# What merging leaves

A map is told by two things that can be looked at: its names in their order, and the value of each
name.  Merging acts on both separately.  The names of the overrides that are not there yet are added
at the end, and every name of the overrides takes the value that it has there.  The laws of merging
are read off from that, except for associativity, which is a law of single writes.

An absent value is a value like any other here, so overrides that mark a parameter as absent do so in
what they are merged into.  Nothing is ever taken out by merging.
-/

variable {β : Type}

theorem map_find?_names (m : OrderedMap β) :
    m.names.map (fun name => (name, m.find? name)) = m.entries.map (fun e => (e.1, some e.2)) := by
  rw [names, List.map_map]
  apply List.map_congr_left
  intro e member
  exact congrArg (Prod.mk e.1) (find?_eq_some_of_mem member)

/-- Maps with the same names in the same order and the same value under each name are the same. -/
theorem eq_of_find? {left right : OrderedMap β} (sameNames : left.names = right.names)
    (sameValues : ∀ name, left.find? name = right.find? name) : left = right := by
  have paired : left.entries.map (fun e => (e.1, some e.2)) =
      right.entries.map (fun e => (e.1, some e.2)) := by
    rw [← map_find?_names, ← map_find?_names, sameNames]
    simp only [sameValues]
  have told : ∀ e other : String × β, (e.1, some e.2) = (other.1, some other.2) → e = other := by
    intro e other same
    have parts := Prod.mk.inj same
    exact Prod.ext parts.1 (Option.some.inj parts.2)
  exact ext ((List.map_inj_right told).mp paired)

/-! ## Names -/

/-- Writing distinct names moves none of those that are there, and adds the others in the order in
which they are written. -/
theorem names_setAll (m : OrderedMap β) {es : List (String × β)}
    (distinct : (es.map Prod.fst).Nodup) :
    (m.setAll es).names = m.names ++ (es.map Prod.fst).filter (· ∉ m.names) := by
  induction es generalizing m with
  | nil => exact (List.append_nil _).symm
  | cons e rest inductionHypothesis =>
      rw [List.map_cons, List.nodup_cons] at distinct
      rw [setAll_cons, inductionHypothesis (m.set e.1 e.2) distinct.2, names_set, List.map_cons]
      by_cases present : e.1 ∈ m.names
      · rw [if_pos present, List.filter_cons_of_neg (by simpa using present)]
      · -- Among the later names there is no second one like this to be kept out.
        have sameOthers : (rest.map Prod.fst).filter (· ∉ m.names ++ [e.1]) =
            (rest.map Prod.fst).filter (· ∉ m.names) := by
          apply List.filter_congr
          intro name listed
          have different : name ≠ e.1 := by
            intro same
            exact distinct.1 (same ▸ listed)
          rw [decide_eq_decide, List.mem_append, List.mem_singleton, or_iff_left different]
        rw [if_neg present, List.filter_cons_of_pos (by simpa using present), sameOthers,
          List.append_assoc, List.singleton_append]

theorem names_merge (m overrides : OrderedMap β) :
    (m.merge overrides).names = m.names ++ overrides.names.filter (· ∉ m.names) :=
  m.names_setAll overrides.nodup

/-! ## Values -/

theorem find?_merge_of_mem (m : OrderedMap β) {overrides : OrderedMap β} {name : String}
    (present : name ∈ overrides.names) :
    (m.merge overrides).find? name = overrides.find? name := by
  rcases List.mem_map.mp present with ⟨e, listed, rfl⟩
  simp [find?_eq_some_of_mem listed]

/-! ## Laws -/

/-- A map merged into itself adds no name and changes no value. -/
theorem merge_self (m : OrderedMap β) : m.merge m = m := by
  have nothingNew : m.names.filter (· ∉ m.names) = [] := by
    rw [List.filter_eq_nil_iff]
    intro name present new
    exact of_decide_eq_true new present
  apply eq_of_find?
  · rw [names_merge, nothingNew, List.append_nil]
  · intro name
    simp

/-- Merging is an action of maps on maps that is biased to the right.  Overrides may be merged before
they are written; the empty map and the map itself leave a map as it is.  A name of the overrides
has their value, be it an absent one, and any other name keeps its own.  No name that was there
moves, and the new ones follow in the order of the overrides. -/
theorem merge_right_biased (first second third : OrderedMap β) :
    (first.merge second).merge third = first.merge (second.merge third) ∧
    first.merge empty = first ∧ empty.merge first = first ∧ first.merge first = first ∧
    (∀ name ∈ second.names, (first.merge second).find? name = second.find? name) ∧
    (∀ name, name ∉ second.names → (first.merge second).find? name = first.find? name) ∧
    (first.merge second).names = first.names ++ second.names.filter (· ∉ first.names) := by
  refine ⟨merge_assoc first second third, rfl, first.ofList_entries, first.merge_self, ?_, ?_,
    first.names_merge second⟩
  · intro name present
    exact first.find?_merge_of_mem present
  · intro name absent
    exact first.find?_merge_of_not_mem second absent

example :
    let held : Params := ofList [("id", some "7"), ("tab", some "info"), ("lang", none)]
    let overrides : Params := ofList [("new", some ""), ("tab", none), ("lang", some "de")]
    let query : Query := ofList [("page", "1"), ("q", "x")]
    (held.merge overrides).entries =
        [("id", some "7"), ("tab", none), ("lang", some "de"), ("new", some "")] ∧
      (query.merge (ofList [("sort", "asc"), ("page", "2")])).entries =
        [("page", "2"), ("q", "x"), ("sort", "asc")] := by
  decide +kernel

end OrderedMap
end PathTemplate
