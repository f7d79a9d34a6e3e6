/-!
Maps from names to values that remember the order of insertion.  Writing to a name that is present
changes its value and not its place; removing a name closes the gap.
-/

namespace PathTemplate

/-- An insertion-ordered map; no name occurs twice. -/
structure OrderedMap (β : Type) where
  entries : List (String × β)
  nodup : (entries.map Prod.fst).Nodup

namespace OrderedMap

variable {β : Type}

/-- Write a value into a list of entries: in place, or at the end if the name is new. -/
def setEntry (name : String) (value : β) : List (String × β) → List (String × β)
  | [] => [(name, value)]
  | (k, v) :: rest => if k = name then (k, value) :: rest else (k, v) :: setEntry name value rest

theorem mem_keys_setEntry {name other : String} {value : β} {es : List (String × β)} :
    other ∈ (setEntry name value es).map Prod.fst ↔ other = name ∨ other ∈ es.map Prod.fst := by
  induction es with
  | nil => simp [setEntry]
  | cons e rest inductionHypothesis =>
      obtain ⟨first, held⟩ := e
      by_cases here : first = name
      · simp [setEntry, here]
      · simp only [setEntry, here, if_false, List.map_cons, List.mem_cons, inductionHypothesis]
        exact or_left_comm

theorem nodup_keys_setEntry {name : String} {value : β} {es : List (String × β)}
    (distinct : (es.map Prod.fst).Nodup) : ((setEntry name value es).map Prod.fst).Nodup := by
  induction es with
  | nil => simp [setEntry]
  | cons e rest inductionHypothesis =>
      obtain ⟨first, held⟩ := e
      rw [List.map_cons, List.nodup_cons] at distinct
      by_cases here : first = name
      · subst here
        simpa only [setEntry, if_true, List.map_cons, List.nodup_cons] using distinct
      · have absent : first ∉ (setEntry name value rest).map Prod.fst := by
          intro listed
          rcases mem_keys_setEntry.mp listed with same | later
          · exact here same
          · exact distinct.1 later
        simp only [setEntry, here, if_false, List.map_cons, List.nodup_cons]
        exact ⟨absent, inductionHypothesis distinct.2⟩

def empty : OrderedMap β :=
  ⟨[], List.nodup_nil⟩

/-- Write a value: in place if the name is present, at the end otherwise. -/
def set (m : OrderedMap β) (name : String) (value : β) : OrderedMap β :=
  ⟨setEntry name value m.entries, nodup_keys_setEntry m.nodup⟩

def find? (m : OrderedMap β) (name : String) : Option β :=
  m.entries.lookup name

def contains (m : OrderedMap β) (name : String) : Bool :=
  m.entries.any (·.1 == name)

def erase (m : OrderedMap β) (name : String) : OrderedMap β :=
  ⟨m.entries.filter (·.1 ≠ name), m.nodup.sublist (List.filter_sublist.map _)⟩

/-- Take a name out at the place where it is found, and give back the value it had. -/
def remove (m : OrderedMap β) (name : String) : Option β × OrderedMap β :=
  match m.entries.findIdx? (·.1 == name) with
  | none => (none, m)
  | some i =>
      (m.entries[i]?.map Prod.snd,
        ⟨m.entries.eraseIdx i, m.nodup.sublist ((List.eraseIdx_sublist _ i).map _)⟩)

def names (m : OrderedMap β) : List String :=
  m.entries.map Prod.fst

def size (m : OrderedMap β) : Nat :=
  m.entries.length

def isEmpty (m : OrderedMap β) : Bool :=
  m.entries.isEmpty

def setAll (m : OrderedMap β) (es : List (String × β)) : OrderedMap β :=
  es.foldl (fun m e => m.set e.1 e.2) m

/-- The map built by writing a list of entries; the last value of a repeated name wins. -/
def ofList (es : List (String × β)) : OrderedMap β :=
  empty.setAll es

/-- Write every entry of `overrides` on top of `m`. -/
def merge (m overrides : OrderedMap β) : OrderedMap β :=
  m.setAll overrides.entries

instance [DecidableEq β] : DecidableEq (OrderedMap β) := fun a b =>
  if same : a.entries = b.entries then
    isTrue (by cases a; cases b; cases same; rfl)
  else
    isFalse (fun equal => same (congrArg entries equal))

end OrderedMap
end PathTemplate
