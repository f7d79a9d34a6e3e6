import PathTemplate.Params
import PathTemplate.Query
import PathTemplate.Proofs.OrderedMap

namespace PathTemplate

/-!
# Runs of operations

What a map holds after a run of operations is told by what happened to it: which names were written
and which were taken out, the earliest event first.  The value of a name is the one written last, and
the names stand in the order in which they came in for good.  A history says this without a map, and
reads it from its two ends: the latest event on a name decides on its value, and the earliest write
that no removal follows decides on its place.

Merging writes every entry of the overrides, in their order, so the past of the overrides does not
matter beyond what they hold.  Collecting pairs and reading a search string begin a new map.
-/

/-- What happens to a map: a name is written, or it is taken out. -/
inductive Event (β : Type) where
  | write (name : String) (value : β)
  | remove (name : String)
deriving DecidableEq, Repr

namespace Event

variable {β : Type}

/-- The name that an event is about. -/
def name : Event β → String
  | write name _ => name
  | remove name => name

/-- The value that an event leaves under its name. -/
def value? : Event β → Option β
  | write _ value => some value
  | remove _ => none

/-- Whether an event takes a name out. -/
def removes (name : String) : Event β → Bool
  | write _ _ => false
  | remove other => other == name

/-- The write of an entry. -/
def ofEntry (e : String × β) : Event β :=
  write e.1 e.2

end Event

/-- Events in the order in which they happened. -/
abbrev History (β : Type) := List (Event β)

namespace History

variable {β : Type}

/-- The value a name was given last, unless it was taken out since. -/
def last? (history : History β) (name : String) : Option β :=
  (history.reverse.find? (·.name == name)).bind Event.value?

/-- The names that were written and not taken out since, in the order of the first such write. -/
def names : History β → List String
  | [] => []
  | .write name _ :: later =>
      if later.any (Event.removes name) then names later
      else name :: (names later).filter (· ≠ name)
  | .remove _ :: later => names later

/-! ## One more event -/

/-- The latest event on a name decides on its value. -/
@[simp] theorem last?_append_singleton (history : History β) (e : Event β) (name : String) :
    last? (history ++ [e]) name = if name = e.name then e.value? else history.last? name := by
  rw [last?, List.reverse_append, List.reverse_singleton, List.singleton_append, List.find?_cons]
  by_cases same : name = e.name
  · rw [if_pos same, beq_iff_eq.mpr same.symm, Option.bind_some]
  · rw [if_neg same, beq_eq_false_iff_ne.mpr (Ne.symm same)]
    rfl

private theorem names_write (name : String) (value : β) (later : History β) :
    names (.write name value :: later) =
      if later.any (Event.removes name) then names later
      else name :: (names later).filter (· ≠ name) :=
  rfl

/-- A write does not move a name that is there, and brings in one that is not at the end. -/
@[simp] theorem names_append_write (history : History β) (name : String) (value : β) :
    names (history ++ [.write name value]) =
      if name ∈ history.names then history.names else history.names ++ [name] := by
  induction history with
  | nil => rfl
  | cons e later inductionHypothesis =>
      cases e with
      | remove other => exact inductionHypothesis
      | write first held =>
          have sameRemovals : (later ++ [Event.write name value]).any (Event.removes first) =
              later.any (Event.removes first) := by
            simp [Event.removes]
          rw [List.cons_append, names_write, names_write, sameRemovals, inductionHypothesis]
          by_cases removed : later.any (Event.removes first) = true
          · rw [if_pos removed, if_pos removed]
          · rw [if_neg removed, if_neg removed]
            by_cases here : name = first
            · -- Its place is here, so a later write of it does not count.
              subst here
              rw [if_pos List.mem_cons_self]
              split
              · rfl
              · simp
            · have sameMembers : name ∈ first :: (names later).filter (· ≠ first) ↔
                  name ∈ names later := by
                simp [here]
              by_cases present : name ∈ names later
              · rw [if_pos present, if_pos (sameMembers.mpr present)]
              · rw [if_neg present, if_neg (mt sameMembers.mp present)]
                simp [here]

/-- A removal leaves the other names in their order. -/
@[simp] theorem names_append_remove (history : History β) (name : String) :
    names (history ++ [.remove name]) = history.names.filter (· ≠ name) := by
  induction history with
  | nil => rfl
  | cons e later inductionHypothesis =>
      cases e with
      | remove other => exact inductionHypothesis
      | write first held =>
          have oneMore : (later ++ [Event.remove name]).any (Event.removes first) =
              (later.any (Event.removes first) || name == first) := by
            rw [List.any_append, List.any_cons, List.any_nil, Event.removes, Bool.or_false]
          rw [List.cons_append, names_write, names_write, oneMore, inductionHypothesis]
          by_cases removed : later.any (Event.removes first) = true
          · rw [removed, Bool.true_or, if_pos rfl, if_pos rfl]
          · rw [Bool.not_eq_true] at removed
            rw [removed, Bool.false_or]
            by_cases here : name = first
            · simp [here]
            · simp [here, Ne.symm here, Bool.and_comm]

/-- Where nothing is ever taken out, the names are those that were written at all. -/
theorem mem_names_ofEntry {writes : List (String × β)} {name : String} :
    name ∈ names (writes.map Event.ofEntry) ↔ ∃ value, (name, value) ∈ writes := by
  induction writes with
  | nil => simp only [List.map_nil, names, List.not_mem_nil, exists_false]
  | cons e later inductionHypothesis =>
      obtain ⟨first, held⟩ := e
      have noRemoval : (later.map Event.ofEntry).any (Event.removes first) = false := by
        rw [List.any_map, List.any_eq_false]
        exact fun _ _ => Bool.false_ne_true
      have stays : names (Event.ofEntry (first, held) :: later.map Event.ofEntry) =
          first :: (names (later.map Event.ofEntry)).filter (· ≠ first) := by
        rw [Event.ofEntry, names_write, noRemoval, if_neg Bool.false_ne_true]
      rw [List.map_cons, stays, List.mem_cons, List.mem_filter, inductionHypothesis]
      constructor
      · intro listed
        rcases listed with same | ⟨⟨value, member⟩, -⟩
        · exact ⟨held, same ▸ List.mem_cons_self⟩
        · exact ⟨value, List.mem_cons_of_mem _ member⟩
      · intro written
        rcases written with ⟨value, member⟩
        rcases List.mem_cons.mp member with here | further
        · exact Or.inl (congrArg Prod.fst here)
        · by_cases same : name = first
          · exact Or.inl same
          · exact Or.inr ⟨⟨value, further⟩, decide_eq_true same⟩

end History

/-! ## Maps with a history -/

namespace OrderedMap

variable {β : Type}

/-- A map holds just what its history tells. -/
structure Records (m : OrderedMap β) (history : History β) : Prop where
  names : m.names = history.names
  values : ∀ name, m.find? name = history.last? name

namespace Records

variable {m : OrderedMap β} {history : History β}

theorem empty : Records (empty : OrderedMap β) [] where
  names := rfl
  values _ := rfl

theorem set (records : Records m history) (name : String) (value : β) :
    Records (m.set name value) (history ++ [.write name value]) where
  names := by
    simp [records.names]
  values := by
    intro other
    rw [find?_set, History.last?_append_singleton, records.values]
    rfl

theorem remove (records : Records m history) (name : String) :
    Records (m.remove name).2 (history ++ [.remove name]) where
  names := by
    simp [records.names]
  values := by
    intro other
    rw [remove_eq, find?_erase, History.last?_append_singleton, records.values]
    rfl

theorem setAll (records : Records m history) (es : List (String × β)) :
    Records (m.setAll es) (history ++ es.map Event.ofEntry) := by
  induction es generalizing m history with
  | nil =>
      rw [List.map_nil, List.append_nil]
      exact records
  | cons e rest inductionHypothesis =>
      have later := inductionHypothesis (records.set e.1 e.2)
      rw [List.append_assoc] at later
      exact later

theorem merge (records : Records m history) (overrides : OrderedMap β) :
    Records (m.merge overrides) (history ++ overrides.entries.map Event.ofEntry) :=
  records.setAll overrides.entries

theorem ofList (es : List (String × β)) : Records (ofList es) (es.map Event.ofEntry) :=
  empty.setAll es

/-- What every single operation keeps, a run of operations keeps.  The past is recorded in any form
that tells a history. -/
theorem foldl {Operation Past : Type} {tells : Past → History β}
    {apply : OrderedMap β → Operation → OrderedMap β} {record : Past → Operation → Past}
    (step : ∀ {m past}, Records m (tells past) → ∀ operation,
      Records (apply m operation) (tells (record past operation)))
    {past : Past} (records : Records m (tells past)) (operations : List Operation) :
    Records (operations.foldl apply m) (tells (operations.foldl record past)) := by
  induction operations generalizing m past with
  | nil => exact records
  | cons operation rest inductionHypothesis => exact inductionHypothesis (step records operation)

end Records
end OrderedMap

open OrderedMap (Records)

/-! ## Parameter values -/

namespace Params

/-- The operations on parameter values. -/
inductive Operation where
  /-- Give a name a value. -/
  | insert (name value : String)
  /-- Mark a name's value as absent. -/
  | unset (name : String)
  /-- Write the entries of other parameter values. -/
  | merge (overrides : Params)
  /-- Begin anew with pairs, which are inserted one after the other. -/
  | collect (pairs : List (String × String))

namespace Operation

/-- The parameter values behind an operation. -/
def apply (p : Params) : Operation → Params
  | insert name value => p.insert name value
  | unset name => p.unset name
  | merge overrides => OrderedMap.merge p overrides
  | collect pairs => ofPairs pairs

/-- The writes behind an operation.  An absent value is written like any other. -/
def record (writes : List (String × Option String)) : Operation → List (String × Option String)
  | insert name value => writes ++ [(name, some value)]
  | unset name => writes ++ [(name, none)]
  | merge overrides => writes ++ overrides.entries
  | collect pairs => pairs.map (fun e => (e.1, some e.2))

end Operation

/-- The parameter values behind a run of operations that begins with none. -/
def run (operations : List Operation) : Params :=
  operations.foldl Operation.apply OrderedMap.empty

/-- What a run writes, the earliest write first. -/
def writes (operations : List Operation) : List (String × Option String) :=
  operations.foldl Operation.record []

/-- The history of a run: nothing is ever taken out of parameter values. -/
def history (operations : List Operation) : History (Option String) :=
  (writes operations).map Event.ofEntry

theorem records_apply {p : Params} {writes : List (String × Option String)}
    (records : Records p (writes.map Event.ofEntry)) (operation : Operation) :
    Records (operation.apply p) ((operation.record writes).map Event.ofEntry) := by
  cases operation with
  | insert name value =>
      rw [Operation.record, List.map_append]
      exact records.set name (some value)
  | unset name =>
      rw [Operation.record, List.map_append]
      exact records.set name none
  | merge overrides =>
      rw [Operation.record, List.map_append]
      exact records.merge overrides
  | collect pairs => exact Records.ofList (pairs.map fun e => (e.1, some e.2))

theorem records_run (operations : List Operation) :
    Records (run operations) (history operations) :=
  Records.foldl records_apply .empty operations

end Params

/-! ## Queries -/

namespace Query

/-- The operations on queries. -/
inductive Operation where
  /-- Give a name a value. -/
  | insert (name value : String)
  /-- Write the entries of another query. -/
  | merge (overrides : Query)
  /-- Take a name out. -/
  | remove (name : String)
  /-- Begin anew with pairs, which are inserted one after the other. -/
  | collect (pairs : List (String × String))
  /-- Begin anew with what a search string says. -/
  | parse (search : String)

namespace Operation

/-- The query behind an operation. -/
def apply (q : Query) : Operation → Query
  | insert name value => q.set name value
  | merge overrides => OrderedMap.merge q overrides
  | remove name => (q.remove name).2
  | collect pairs => OrderedMap.ofList pairs
  | parse search => Query.parse search

/-- The history behind an operation. -/
def record (history : History String) : Operation → History String
  | insert name value => history ++ [.write name value]
  | merge overrides => history ++ overrides.entries.map Event.ofEntry
  | remove name => history ++ [.remove name]
  | collect pairs => pairs.map Event.ofEntry
  | parse search => (Form.parse search.toList).map Event.ofEntry

end Operation

/-- The query behind a run of operations that begins with none. -/
def run (operations : List Operation) : Query :=
  operations.foldl Operation.apply OrderedMap.empty

/-- The history of a run. -/
def history (operations : List Operation) : History String :=
  operations.foldl Operation.record []

theorem records_apply {q : Query} {history : History String} (records : Records q history)
    (operation : Operation) : Records (operation.apply q) (operation.record history) := by
  cases operation with
  | insert name value => exact records.set name value
  | merge overrides => exact records.merge overrides
  | remove name => exact records.remove name
  | collect pairs => exact Records.ofList pairs
  | parse search => exact Records.ofList (Form.parse search.toList)

theorem records_run (operations : List Operation) :
    Records (run operations) (history operations) :=
  @Records.foldl _ _ _ _ id _ _ records_apply [] .empty operations

end Query

/-- Names are distinct after every run of operations, and they stand in the order in which they were
first written, or first written since they were last taken out.  The value of a name is the one
written last, and there is none if the name was never written, if it was marked as absent then, or
if it was taken out since.  Parameter values list every name that was ever set or unset.  A write
moves no name that is there; removing gives back the value that was there and leaves the other
entries as they stand, and a name that is written again behind its removal is the last one. -/
theorem runs_follow_histories :
    (∀ operations : List Params.Operation,
      let p := Params.run operations
      let history := Params.history operations
      p.names.Nodup ∧ p.names = history.names ∧
      (∀ name, p.get? name = (history.last? name).join) ∧
      (∀ name, p.contains name = true ↔ ∃ value, (name, value) ∈ Params.writes operations) ∧
      ∀ name value,
        (p.insert name value).names = (if name ∈ p.names then p.names else p.names ++ [name]) ∧
        (p.unset name).names = if name ∈ p.names then p.names else p.names ++ [name]) ∧
    ∀ operations : List Query.Operation,
      let q := Query.run operations
      let history := Query.history operations
      q.names.Nodup ∧ q.names = history.names ∧
      (∀ name, q.find? name = history.last? name) ∧
      (∀ name, (q.remove name).1 = q.find? name ∧
        (q.remove name).2.entries = q.entries.filter (·.1 ≠ name)) ∧
      ∀ name value,
        (q.set name value).names = (if name ∈ q.names then q.names else q.names ++ [name]) ∧
        ((q.remove name).2.set name value).names = q.names.filter (· ≠ name) ++ [name] := by
  constructor
  · intro operations p history
    have records : Records p history := Params.records_run operations
    have listed : ∀ name, p.contains name = true ↔
        ∃ value, (name, value) ∈ Params.writes operations := by
      intro name
      rw [OrderedMap.contains_iff, records.names]
      exact History.mem_names_ofEntry
    refine ⟨p.nodup, records.names, ?_, listed, ?_⟩
    · intro name
      rw [Params.get?, records.values]
    · intro name value
      exact ⟨p.names_set name (some value), p.names_set name none⟩
  · intro operations q history
    have records : Records q history := Query.records_run operations
    refine ⟨q.nodup, records.names, records.values, ?_, ?_⟩
    · intro name
      rw [q.remove_eq]
      exact ⟨rfl, rfl⟩
    · intro name value
      refine ⟨q.names_set name value, ?_⟩
      simp

example :
    (Query.run [.parse "a=1&b=2&a=3", .insert "b" "4", .remove "a", .insert "a" "5"]).entries =
        [("b", "4"), ("a", "5")] ∧
      (Params.run [.insert "a" "1", .insert "b" "2", .unset "a",
        .merge (OrderedMap.ofList [("c", none), ("b", some "3")])]).entries =
        [("a", none), ("b", some "3"), ("c", none)] := by
  decide +kernel

end PathTemplate
