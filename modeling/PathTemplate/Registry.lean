import PathTemplate.Failure
import PathTemplate.Route
import PathTemplate.Settings

/-!
Registries: named routes, each with what it is for.  Names are distinct, and a registry lists them
in order.  It is built from settings, and the earliest setting that does not compile or that repeats
a name decides how building fails.
-/

namespace PathTemplate

structure Entry where
  description : Option String
  route : Route
deriving DecidableEq, Repr

/-- Entries by name, in increasing order of name. -/
structure Registry where
  entries : List (String × Entry)
  sorted : (entries.map Prod.fst).Pairwise (· < ·)

namespace Registry

/-- Put an entry in its place in an ordered list. -/
def place (name : String) (entry : Entry) : List (String × Entry) → List (String × Entry)
  | [] => [(name, entry)]
  | e :: rest =>
      if name < e.1 then (name, entry) :: e :: rest else e :: place name entry rest

theorem mem_names_place {name other : String} {entry : Entry} {es : List (String × Entry)} :
    other ∈ (place name entry es).map Prod.fst ↔ other = name ∨ other ∈ es.map Prod.fst := by
  induction es with
  | nil => simp [place]
  | cons e rest inductionHypothesis =>
      by_cases before : name < e.1
      · simp [place, before]
      · simp only [place, before, if_false, List.map_cons, List.mem_cons, inductionHypothesis]
        exact or_left_comm

theorem sorted_place {name : String} {entry : Entry} {es : List (String × Entry)}
    (absent : name ∉ es.map Prod.fst) (sorted : (es.map Prod.fst).Pairwise (· < ·)) :
    ((place name entry es).map Prod.fst).Pairwise (· < ·) := by
  induction es with
  | nil => simp [place]
  | cons e rest inductionHypothesis =>
      rw [List.map_cons, List.mem_cons, not_or] at absent
      rw [List.map_cons, List.pairwise_cons] at sorted
      by_cases before : name < e.1
      · have first : ∀ other ∈ e.1 :: rest.map Prod.fst, name < other := by
          intro other listed
          rcases List.mem_cons.mp listed with rfl | later
          · exact before
          · exact String.lt_trans before (sorted.1 other later)
        simp only [place, before, if_true, List.map_cons, List.pairwise_cons]
        exact ⟨first, sorted⟩
      · have behind : e.1 < name := by
          apply Classical.byContradiction
          intro notBehind
          exact absent.1 (String.le_antisymm (String.not_lt.mp notBehind) (String.not_lt.mp before))
        have first : ∀ other ∈ (place name entry rest).map Prod.fst, e.1 < other := by
          intro other listed
          rcases mem_names_place.mp listed with rfl | later
          · exact behind
          · exact sorted.1 other later
        simp only [place, before, if_false, List.map_cons, List.pairwise_cons]
        exact ⟨first, inductionHypothesis absent.2 sorted.2⟩

def empty : Registry :=
  ⟨[], List.Pairwise.nil⟩

def names (r : Registry) : List String :=
  r.entries.map Prod.fst

def size (r : Registry) : Nat :=
  r.entries.length

def isEmpty (r : Registry) : Bool :=
  r.entries.isEmpty

def get? (r : Registry) (name : String) : Option Route :=
  (r.entries.lookup name).map Entry.route

/-- Add an entry under a new name. -/
def insert? (r : Registry) (name : String) (entry : Entry) : Option Registry :=
  if listed : name ∈ r.entries.map Prod.fst then none
  else some ⟨place name entry r.entries, sorted_place listed r.sorted⟩

/-- The entry that a setting describes. -/
def entry (s : Settings) : Except Failure Entry :=
  match Route.compile s.template s.caseSensitive with
  | .ok route => .ok ⟨s.description, route⟩
  | .error e =>
      .error ((Failure.ofCause (.library e)).within ("Invalid template for '" ++ s.name ++ "'"))

/-- Add settings one after the other, up to the first that fails. -/
def addAll (r : Registry) : List Settings → Except Failure Registry
  | [] => .ok r
  | s :: rest => do
      let e ← entry s
      match r.insert? s.name e with
      | some r => addAll r rest
      | none => .error (.ofCause (.message ("Duplicate template name: " ++ s.name)))

def ofSettings (settings : List Settings) : Except Failure Registry :=
  empty.addAll settings

/-- The registry that a configuration text describes. -/
def ofYaml (yaml : String) : Except Failure Registry :=
  match Settings.listOfYaml? yaml with
  | some settings => ofSettings settings
  | none => .error ((Failure.ofCause .yaml).within "Invalid yaml configuration")

def defaultFile : String :=
  "templates.yml"

/-- Read a registry from a file, given how files are read. -/
def load (read : String → Except FileFault String) (path : Option String) :
    Except Failure Registry :=
  let path := path.getD defaultFile
  match read path with
  | .error fault => .error ((Failure.ofCause (.file fault)).within ("Could not read " ++ path))
  | .ok yaml => (ofYaml yaml).mapError (·.within ("Failed to load " ++ path))

end Registry
end PathTemplate
