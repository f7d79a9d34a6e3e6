import Mathlib.Data.List.Induction
import Mathlib.Data.List.Nodup
import PathTemplate.Proofs.OrderedMap
import PathTemplate.Proofs.Route.Compilation
import PathTemplate.Proofs.Text.Utf8
import PathTemplate.Registry

namespace PathTemplate
namespace Registry

/-!
# Building a registry

Settings are added one after the other.  As long as each compiles and brings a new name, the
registry holds their entries and nothing else; that is all the settings say about it, so their order
is lost.  The order decides only how building fails: by the first setting that cannot be added,
which is refused for its template before its name is looked at.
-/

/-- Every template compiles, with its letters compared as its setting says, and no two settings have
one name. -/
structure Sound (settings : List Settings) : Prop where
  compiles : ∀ s ∈ settings, ∃ route, Route.compile s.template s.caseSensitive = .ok route
  distinct : (settings.map Settings.name).Nodup

/-- The first setting that keeps a list from being sound, and what building reports for it: that its
template is invalid, in the context of its name, or else that its name is taken. -/
inductive FirstFailure (settings : List Settings) : Failure → Prop where
  /-- The template does not compile, whether the name is taken or not. -/
  | invalid {before after : List Settings} {s : Settings} {fault : TemplateFault}
      (split : settings = before ++ s :: after) (sound : Sound before)
      (refused : Route.compile s.template s.caseSensitive = .error (.invalidTemplate fault)) :
      FirstFailure settings
        ⟨["Invalid template for '" ++ s.name ++ "'"], .library (.invalidTemplate fault)⟩
  | repeated {before after : List Settings} {s : Settings} {route : Route}
      (split : settings = before ++ s :: after) (sound : Sound before)
      (compiled : Route.compile s.template s.caseSensitive = .ok route)
      (taken : s.name ∈ before.map Settings.name) :
      FirstFailure settings ⟨[], .message ("Duplicate template name: " ++ s.name)⟩

/-- What a registry shows of the settings it was built from: as many entries as there are settings,
in the order of the bytes of their names, under each name what was compiled for it, and nothing
under other names. -/
structure Lists (r : Registry) (settings : List Settings) : Prop where
  size : r.size = settings.length
  increasing : (r.names.map fun name => Utf8.encode name.toList).Pairwise (· < ·)
  found : ∀ s ∈ settings, ∃ route, Route.compile s.template s.caseSensitive = .ok route ∧
    (s.name, ⟨s.description, route⟩) ∈ r.entries ∧ r.get? s.name = some route
  absent : ∀ name, name ∉ settings.map Settings.name → r.get? name = none

theorem Sound.perm {settings others : List Settings} (sound : Sound settings)
    (same : others.Perm settings) : Sound others where
  compiles := fun s member => sound.compiles s (same.mem_iff.mp member)
  distinct := (same.map Settings.name).nodup_iff.mpr sound.distinct

/-! ## Entries -/

theorem entry_of_compiled {s : Settings} {route : Route}
    (compiled : Route.compile s.template s.caseSensitive = .ok route) :
    entry s = .ok ⟨s.description, route⟩ := by
  rw [entry, compiled]

theorem entry_of_refused {s : Settings} {e : Error}
    (refused : Route.compile s.template s.caseSensitive = .error e) :
    entry s = .error ⟨["Invalid template for '" ++ s.name ++ "'"], .library e⟩ := by
  rw [entry, refused]
  rfl

theorem place_perm (name : String) (e : Entry) (es : List (String × Entry)) :
    (place name e es).Perm ((name, e) :: es) := by
  induction es with
  | nil => exact List.Perm.refl _
  | cons head rest inductionHypothesis =>
      rw [place]
      split
      · exact List.Perm.refl _
      · exact (inductionHypothesis.cons head).trans (List.Perm.swap _ _ _)

theorem nodup_names (r : Registry) : r.names.Nodup :=
  r.sorted.imp String.ne_of_lt

theorem get?_of_mem {r : Registry} {name : String} {e : Entry} (listed : (name, e) ∈ r.entries) :
    r.get? name = some e.route := by
  rw [get?, OrderedMap.lookup_eq_some_of_mem r.nodup_names listed]
  rfl

theorem get?_of_not_mem {r : Registry} {name : String} (absent : name ∉ r.names) :
    r.get? name = none := by
  have missing : r.entries.lookup name = none := by
    rw [List.lookup_eq_none_iff]
    intro e listed
    rw [bne_iff_ne]
    intro same
    exact absent (same ▸ List.mem_map_of_mem listed)
  rw [get?, missing]
  rfl

/-! ## Adding settings -/

theorem addAll_cons (r : Registry) (s : Settings) (rest : List Settings) :
    r.addAll (s :: rest) =
      match entry s with
      | .error f => .error f
      | .ok e =>
          match r.insert? s.name e with
          | some other => other.addAll rest
          | none => .error ⟨[], .message ("Duplicate template name: " ++ s.name)⟩ := by
  rw [addAll]
  cases entry s <;> rfl

/-- The registry has the entry of every setting, and no names but theirs. -/
structure Holds (r : Registry) (settings : List Settings) : Prop where
  names : r.names.Perm (settings.map Settings.name)
  entries : ∀ s ∈ settings, ∃ route, Route.compile s.template s.caseSensitive = .ok route ∧
    (s.name, ⟨s.description, route⟩) ∈ r.entries

namespace Holds

variable {r : Registry} {settings : List Settings}

theorem empty : Holds Registry.empty [] :=
  ⟨List.Perm.nil, nofun⟩

theorem mem_names (holds : Holds r settings) {name : String} :
    name ∈ r.names ↔ name ∈ settings.map Settings.name :=
  holds.names.mem_iff

/-- A setting with a new name can be added, and is then held with the others. -/
theorem insert? (holds : Holds r settings) {s : Settings} {route : Route}
    (compiled : Route.compile s.template s.caseSensitive = .ok route)
    (fresh : s.name ∉ settings.map Settings.name) :
    ∃ other, r.insert? s.name ⟨s.description, route⟩ = some other ∧
      Holds other (settings ++ [s]) := by
  have absent : s.name ∉ r.entries.map Prod.fst := fun member => fresh (holds.mem_names.mp member)
  have placed := place_perm s.name ⟨s.description, route⟩ r.entries
  rw [Registry.insert?, dif_neg absent]
  refine ⟨_, rfl, ?_, ?_⟩
  · have names := (placed.map Prod.fst).trans (holds.names.cons s.name)
    rw [List.map_append]
    exact names.trans (List.perm_append_singleton _ _).symm
  · intro t member
    rcases List.mem_append.mp member with earlier | last
    · rcases holds.entries t earlier with ⟨held, compiledToo, listed⟩
      exact ⟨held, compiledToo, placed.mem_iff.mpr (List.mem_cons_of_mem _ listed)⟩
    · rw [List.mem_singleton.mp last]
      exact ⟨route, compiled, placed.mem_iff.mpr List.mem_cons_self⟩

/-- Sound settings are all added, whatever is to be added after them. -/
theorem addAll {before middle : List Settings} (holds : Holds r before)
    (sound : Sound (before ++ middle)) :
    ∃ other, Holds other (before ++ middle) ∧
      ∀ after, r.addAll (middle ++ after) = other.addAll after := by
  induction middle generalizing r before with
  | nil =>
      rw [List.append_nil]
      exact ⟨r, holds, fun after => rfl⟩
  | cons s rest inductionHypothesis =>
      have member : s ∈ before ++ s :: rest := List.mem_append_right _ List.mem_cons_self
      rcases sound.compiles s member with ⟨route, compiled⟩
      have fresh : s.name ∉ before.map Settings.name := by
        intro taken
        have distinct := sound.distinct
        rw [List.map_append] at distinct
        exact List.disjoint_of_nodup_append distinct taken List.mem_cons_self
      rcases holds.insert? compiled fresh with ⟨next, inserted, holdsNext⟩
      rw [List.append_cons] at sound ⊢
      rcases inductionHypothesis holdsNext sound with ⟨other, holdsOther, added⟩
      refine ⟨other, holdsOther, ?_⟩
      intro after
      rw [List.cons_append, addAll_cons, entry_of_compiled compiled]
      dsimp only
      rw [inserted]
      exact added after

/-- A registry holds an entry only under the name of the setting it is from. -/
theorem mem_entries (holds : Holds r settings) {name : String} {e : Entry} :
    (name, e) ∈ r.entries ↔ ∃ s ∈ settings, s.name = name ∧ entry s = .ok e := by
  constructor
  · intro listed
    have named : name ∈ settings.map Settings.name :=
      holds.mem_names.mp (List.mem_map_of_mem listed)
    rcases List.mem_map.mp named with ⟨s, member, rfl⟩
    rcases holds.entries s member with ⟨route, compiled, listedToo⟩
    have same : (s.name, e) = (s.name, ⟨s.description, route⟩) :=
      List.inj_on_of_nodup_map r.nodup_names listed listedToo rfl
    cases same
    exact ⟨s, member, rfl, entry_of_compiled compiled⟩
  · intro described
    rcases described with ⟨s, member, rfl, held⟩
    rcases holds.entries s member with ⟨route, compiled, listed⟩
    rw [entry_of_compiled compiled] at held
    cases held
    exact listed

/-- Settings determine the registry that holds them, and their order does not matter for it. -/
theorem eq_of_perm {other : Registry} {others : List Settings} (holds : Holds r settings)
    (holdsToo : Holds other others) (same : others.Perm settings) : other = r := by
  have members : ∀ e, e ∈ other.entries ↔ e ∈ r.entries := by
    intro e
    rw [holds.mem_entries, holdsToo.mem_entries]
    simp only [same.mem_iff]
  have sorted (r : Registry) : r.entries.Pairwise (fun first second => first.1 < second.1) :=
    List.pairwise_map.mp r.sorted
  have distinct (r : Registry) : r.entries.Nodup :=
    r.nodup_names.of_map Prod.fst
  have entries : other.entries = r.entries := by
    apply List.Perm.eq_of_pairwise _ (sorted other) (sorted r)
    · exact (List.perm_ext_iff_of_nodup (distinct other) (distinct r)).mpr members
    · intro first second _ _ less more
      exact absurd (String.lt_trans less more) (String.lt_irrefl _)
  cases other
  cases r
  cases entries
  rfl

theorem lists (holds : Holds r settings) : Lists r settings where
  size := by
    have length := holds.names.length_eq
    rwa [Registry.names, List.length_map, List.length_map] at length
  increasing := by
    rw [List.pairwise_map]
    exact r.sorted.imp Utf8.encode_lt_encode
  found := by
    intro s member
    rcases holds.entries s member with ⟨route, compiled, listed⟩
    exact ⟨route, compiled, listed, get?_of_mem listed⟩
  absent := by
    intro name unknown
    exact get?_of_not_mem fun listed => unknown (holds.mem_names.mp listed)

end Holds

/-! ## Building -/

/-- What sound settings come first is held before anything else is looked at. -/
theorem Sound.ofSettings_append {before : List Settings} (sound : Sound before) :
    ∃ r, Holds r before ∧ ∀ after, ofSettings (before ++ after) = r.addAll after :=
  Holds.empty.addAll sound

theorem Sound.ofSettings {settings : List Settings} (sound : Sound settings) :
    ∃ r, ofSettings settings = .ok r ∧ Holds r settings := by
  rcases sound.ofSettings_append with ⟨r, holds, built⟩
  refine ⟨r, ?_, holds⟩
  have whole := built []
  rwa [List.append_nil] at whole

theorem FirstFailure.ofSettings {settings : List Settings} {f : Failure}
    (first : FirstFailure settings f) : ofSettings settings = .error f := by
  cases first with
  | @invalid before after s fault split sound refused =>
      rcases sound.ofSettings_append with ⟨r, holds, built⟩
      rw [split, built, addAll_cons, entry_of_refused refused]
  | @repeated before after s route split sound compiled taken =>
      rcases sound.ofSettings_append with ⟨r, holds, built⟩
      have present : s.name ∈ r.entries.map Prod.fst := holds.mem_names.mpr taken
      rw [split, built, addAll_cons, entry_of_compiled compiled]
      dsimp only
      rw [insert?, dif_pos present]

/-- Settings behind the first failure are not looked at. -/
theorem FirstFailure.append {settings : List Settings} {f : Failure}
    (first : FirstFailure settings f) (more : List Settings) :
    FirstFailure (settings ++ more) f := by
  have regrouped {before after : List Settings} {s : Settings}
      (split : settings = before ++ s :: after) :
      settings ++ more = before ++ s :: (after ++ more) := by
    rw [split, List.append_assoc, List.cons_append]
  cases first with
  | invalid split sound refused => exact .invalid (regrouped split) sound refused
  | repeated split sound compiled taken => exact .repeated (regrouped split) sound compiled taken

theorem sound_or_firstFailure (settings : List Settings) :
    Sound settings ∨ ∃ f, FirstFailure settings f := by
  -- Settings are added from the left, so it is the last one that is split off here: if the others
  -- are sound, only it can be the first failure.
  induction settings using List.reverseRecOn with
  | nil => exact Or.inl ⟨nofun, List.nodup_nil⟩
  | append_singleton before s inductionHypothesis =>
      rcases inductionHypothesis with sound | ⟨f, first⟩
      · cases compiled : Route.compile s.template s.caseSensitive with
        | error e =>
            rcases Route.compile_eq_error_iff.mp compiled with ⟨fault, -, rfl⟩
            exact Or.inr ⟨_, .invalid rfl sound compiled⟩
        | ok route =>
            by_cases taken : s.name ∈ before.map Settings.name
            · exact Or.inr ⟨_, .repeated rfl sound compiled taken⟩
            · left
              constructor
              · intro t member
                rcases List.mem_append.mp member with earlier | last
                · exact sound.compiles t earlier
                · rw [List.mem_singleton.mp last]
                  exact ⟨route, compiled⟩
              · rw [List.map_append, List.map_singleton, List.nodup_append]
                refine ⟨sound.distinct, List.nodup_singleton _, ?_⟩
                intro name member other last same
                rw [same, List.mem_singleton.mp last] at member
                exact taken member
      · exact Or.inr ⟨f, first.append [s]⟩

theorem sound_of_ofSettings {settings : List Settings} {r : Registry}
    (built : ofSettings settings = .ok r) : Sound settings ∧ Holds r settings := by
  rcases sound_or_firstFailure settings with sound | ⟨f, first⟩
  · rcases sound.ofSettings with ⟨other, builtToo, holds⟩
    rw [built] at builtToo
    cases builtToo
    exact ⟨sound, holds⟩
  · rw [first.ofSettings] at built
    cases built

theorem ofSettings_eq_error_iff (settings : List Settings) (f : Failure) :
    ofSettings settings = .error f ↔ FirstFailure settings f := by
  constructor
  · intro failed
    rcases sound_or_firstFailure settings with sound | ⟨other, first⟩
    · rcases sound.ofSettings with ⟨r, built, -⟩
      rw [failed] at built
      cases built
    · have same := first.ofSettings
      rw [failed] at same
      cases same
      exact first
  · exact FirstFailure.ofSettings

/-- A registry can be built exactly from sound settings.  It lists them in the order of the bytes of
their names, and any other order of the settings gives the same registry.  Otherwise the first
setting that does not compile or that repeats a name is reported, and as an invalid template if it
does both. -/
theorem ofSettings_iff_sound (settings : List Settings) :
    ((∃ r, ofSettings settings = .ok r) ↔ Sound settings) ∧
    (∀ r, ofSettings settings = .ok r → Lists r settings ∧
      ∀ others : List Settings, others.Perm settings → ofSettings others = .ok r) ∧
    (∀ f, ofSettings settings = .error f ↔ FirstFailure settings f) := by
  refine ⟨⟨?_, ?_⟩, ?_, ofSettings_eq_error_iff settings⟩
  · intro succeeds
    rcases succeeds with ⟨r, built⟩
    exact (sound_of_ofSettings built).1
  · intro sound
    rcases sound.ofSettings with ⟨r, built, -⟩
    exact ⟨r, built⟩
  · intro r built
    rcases sound_of_ofSettings built with ⟨sound, holds⟩
    refine ⟨holds.lists, ?_⟩
    intro others same
    rcases (sound.perm same).ofSettings with ⟨other, builtToo, holdsToo⟩
    rw [builtToo, holds.eq_of_perm holdsToo same]

/-- Two settings in either order, and a third whose template is faulty and whose name is taken. -/
theorem ofSettings_iff_sound_users :
    let user : Settings := ⟨"user", "/users/:id/:tab?", none, true⟩
    let home : Settings := ⟨"home", "/", some "Start page", false⟩
    let faulty : Settings := ⟨"user", "/users/:id/:id", none, false⟩
    (∃ r, ofSettings [user, home] = .ok r ∧ ofSettings [home, user] = .ok r ∧
      Lists r [user, home]) ∧
    ofSettings [user, home, faulty, user] =
      .error ⟨["Invalid template for 'user'"],
        .library (.invalidTemplate (.repeatedName "id" 14))⟩ := by
  intro user home faulty
  have users : Route.compile user.template user.caseSensitive =
      .ok ⟨"/users/:id/:tab?", ⟨[.literal "/users", .param ⟨"id", false⟩ (some '/'),
        .param ⟨"tab", true⟩ (some '/')]⟩, true⟩ := by decide +kernel
  have start : Route.compile home.template home.caseSensitive =
      .ok ⟨"/", ⟨[.literal "/"]⟩, false⟩ := by decide +kernel
  have refused : Route.compile faulty.template faulty.caseSensitive =
      .error (.invalidTemplate (.repeatedName "id" 14)) := by decide +kernel
  have sound : Sound [user, home] := by
    constructor
    · intro s member
      rcases List.mem_pair.mp member with rfl | rfl
      · exact ⟨_, users⟩
      · exact ⟨_, start⟩
    · decide
  constructor
  · have outcome := ofSettings_iff_sound [user, home]
    rcases outcome.1.mpr sound with ⟨r, built⟩
    rcases outcome.2.1 r built with ⟨lists, reordered⟩
    exact ⟨r, built, reordered [home, user] (List.Perm.swap _ _ _), lists⟩
  · have first : FirstFailure [user, home, faulty, user] _ := .invalid rfl sound refused
    exact ((ofSettings_iff_sound _).2.2 _).mpr first

end Registry
end PathTemplate
