import PathTemplate.Proofs.CommandLine.Pairs
import PathTemplate.Proofs.Registry

namespace PathTemplate
namespace CommandLine

/-!
# What a command comes to

A command chooses its template, reads its pairs, asks the library, and writes the answer.  Nothing
is written before the last thing that can fail: a command that fails leaves what had been written as
it was, and one that succeeds adds one document, one URL, one listing, or nothing.
-/

/-- Parameters given one after the other. -/
def paramsGiven (pairs : List (String × String)) : Params :=
  pairs.foldl (fun values pair => values.insert pair.1 pair.2) OrderedMap.empty

/-- A query given one value after the other; without any there is none. -/
def queryGiven (pairs : List (String × String)) : Option Query :=
  if pairs = [] then none
  else some (pairs.foldl (fun query pair => query.set pair.1 pair.2) OrderedMap.empty)

/-- What the choice of a template comes to.  A given text is chosen before a name, and only a name
has a configuration read. -/
inductive Chooses (read : String → Except FileFault String) (i : Invocation) :
    Except Failure Route → Prop where
  | compiled {text : String} {route : Route} (given : i.template = some text)
      (compiles : Route.compile text false = .ok route) : Chooses read i (.ok route)
  | refused {text : String} {e : Error} (given : i.template = some text)
      (refuses : Route.compile text false = .error e) :
      Chooses read i (.error (.ofCause (.library e)))
  | neither (untold : i.template = none) (unnamed : i.name = none) :
      Chooses read i
        (.error (.ofCause (.message "Either --template or --name must be given")))
  | unloaded {name : String} {f : Failure} (untold : i.template = none)
      (named : i.name = some name) (fails : Registry.load read i.config = .error f) :
      Chooses read i (.error f)
  | unknown {name : String} {registry : Registry} (untold : i.template = none)
      (named : i.name = some name) (loads : Registry.load read i.config = .ok registry)
      (absent : name ∉ registry.names) :
      Chooses read i (.error (.ofCause (.message ("No template named '" ++ name ++ "'"))))
  | listed {name : String} {registry : Registry} {entry : Entry} (untold : i.template = none)
      (named : i.name = some name) (loads : Registry.load read i.config = .ok registry)
      (member : (name, entry) ∈ registry.entries) : Chooses read i (.ok entry.route)

/-- What a command asks the library with, or the failure that keeps it from asking: that of the
template first, then the first text among the parameters that is no pair, then the first one for the
query. -/
inductive Gathers (read : String → Except FileFault String) (i : Invocation)
    (params queries : List String) : Except Failure (Route × Params × Option Query) → Prop where
  | unchosen {f : Failure} (chosen : Chooses read i (.error f)) :
      Gathers read i params queries (.error f)
  | malformedParam {route : Route} {text : String} (chosen : Chooses read i (.ok route))
      (first : FirstMalformed params text) :
      Gathers read i params queries (.error (malformed text))
  | malformedQuery {route : Route} {values : List (String × String)} {text : String}
      (chosen : Chooses read i (.ok route)) (given : List.Forall₂ Gives params values)
      (first : FirstMalformed queries text) :
      Gathers read i params queries (.error (malformed text))
  | complete {route : Route} {values asked : List (String × String)}
      (chosen : Chooses read i (.ok route)) (given : List.Forall₂ Gives params values)
      (givenToo : List.Forall₂ Gives queries asked) :
      Gathers read i params queries (.ok (route, paramsGiven values, queryGiven asked))

/-- What a command comes to: how it ends, and the text it writes. -/
inductive Answers (read : String → Except FileFault String) (i : Invocation) :
    Except Failure Bool → String → Prop where
  | matched {url : String} {leading : Bool} {route : Route}
      (action : i.action = .matchUrl url leading) (chosen : Chooses read i (.ok route)) :
      Answers read i
        (.ok (route.matchUrl url (if leading then .leading else .whole)).isMatch)
        ((route.matchUrl url (if leading then .leading else .whole)).toJson.toPretty ++ "\n")
  | unchosen {url : String} {leading : Bool} {f : Failure}
      (action : i.action = .matchUrl url leading) (chosen : Chooses read i (.error f)) :
      Answers read i (.error f) ""
  | formatted {params queries : List String} {route : Route} {values : Params}
      {query : Option Query} {url : String} (action : i.action = .format params queries)
      (gathers : Gathers read i params queries (.ok (route, values, query)))
      (formats : route.format values query = .ok url) : Answers read i (.ok true) (url ++ "\n")
  | unformatted {params queries : List String} {route : Route} {values : Params}
      {query : Option Query} {e : Error} (action : i.action = .format params queries)
      (gathers : Gathers read i params queries (.ok (route, values, query)))
      (refuses : route.format values query = .error e) :
      Answers read i (.error (.ofCause (.library e))) ""
  | unaskedFormat {params queries : List String} {f : Failure}
      (action : i.action = .format params queries)
      (gathers : Gathers read i params queries (.error f)) : Answers read i (.error f) ""
  | replaced {url : String} {params queries unset : List String} {route : Route}
      {values : Params} {query : Option Query} {shown : String}
      (action : i.action = .replace url params queries unset)
      (gathers : Gathers read i params queries (.ok (route, values, query)))
      (replaces : route.replace (Location.parse url) (some (unset.foldl Params.unset values))
        query = .ok (some shown)) : Answers read i (.ok true) (shown ++ "\n")
  | unmatched {url : String} {params queries unset : List String} {route : Route}
      {values : Params} {query : Option Query}
      (action : i.action = .replace url params queries unset)
      (gathers : Gathers read i params queries (.ok (route, values, query)))
      (matchless : route.replace (Location.parse url) (some (unset.foldl Params.unset values))
        query = .ok none) : Answers read i (.ok false) ""
  | unreplaced {url : String} {params queries unset : List String} {route : Route}
      {values : Params} {query : Option Query} {e : Error}
      (action : i.action = .replace url params queries unset)
      (gathers : Gathers read i params queries (.ok (route, values, query)))
      (refuses : route.replace (Location.parse url) (some (unset.foldl Params.unset values))
        query = .error e) : Answers read i (.error (.ofCause (.library e))) ""
  | unaskedReplace {url : String} {params queries unset : List String} {f : Failure}
      (action : i.action = .replace url params queries unset)
      (gathers : Gathers read i params queries (.error f)) : Answers read i (.error f) ""
  | listed {registry : Registry} (action : i.action = .list)
      (loads : Registry.load read i.config = .ok registry) :
      Answers read i (.ok true) (String.join (registry.entries.map listLine))
  | unloaded {f : Failure} (action : i.action = .list)
      (fails : Registry.load read i.config = .error f) : Answers read i (.error f) ""

/-! ## Steps -/

namespace Execution

variable {α β : Type}

/-- A failure ends a command where it stands. -/
@[simp] theorem after_error (f : Failure) (next : α → Execution β) (written : String) :
    (ofResult (.error f) >>= next).after written = (.error f, written) :=
  rfl

@[simp] theorem after_ok (value : α) (next : α → Execution β) (written : String) :
    (ofResult (.ok value) >>= next).after written = (next value).after written :=
  rfl

@[simp] theorem after_write (text : String) (next : Unit → Execution β) (written : String) :
    (write text >>= next).after written = (next ()).after (written ++ text) :=
  rfl

@[simp] theorem after_pure (value : α) (written : String) :
    (pure value : Execution α).after written = (.ok value, written) :=
  rfl

/-- Texts are written one behind the other. -/
@[simp] theorem after_forM_write (texts : α → String) (items : List α) (next : Unit → Execution β)
    (written : String) :
    (forM items (fun item => write (texts item)) >>= next).after written =
      (next ()).after (written ++ String.join (items.map texts)) := by
  induction items generalizing written with
  | nil =>
      rw [List.map_nil, String.join_nil, String.append_empty]
      rfl
  | cons item items inductionHypothesis =>
      rw [List.map_cons, String.join_cons, ← String.append_assoc, ← inductionHypothesis]
      rfl

end Execution

section Gathering

variable {read : String → Except FileFault String} {i : Invocation}

/-! ## Choosing the template -/

theorem chooseRoute_of_text {text : String} (given : i.template = some text) :
    chooseRoute read i = ofLibrary (Route.compile text false) := by
  rw [chooseRoute, given]

theorem readParams_of_gives {texts : List String} {pairs : List (String × String)}
    (given : List.Forall₂ Gives texts pairs) : readParams texts = .ok (paramsGiven pairs) := by
  have folded : Params.ofPairs pairs = paramsGiven pairs := by
    rw [Params.ofPairs, OrderedMap.ofList, OrderedMap.setAll, List.foldl_map]
    rfl
  rw [readParams, mapM_readPair_of_gives given, ← folded]
  rfl

theorem readParams_of_firstMalformed {texts : List String} {text : String}
    (first : FirstMalformed texts text) : readParams texts = .error (malformed text) := by
  rw [readParams, mapM_readPair_of_firstMalformed first]
  rfl

/-- Go on with what has been gathered. -/
def gather (read : String → Except FileFault String) (i : Invocation) (params queries : List String)
    (next : Route → Params → Option Query → Execution Bool) : Execution Bool := do
  let route ← .ofResult (chooseRoute read i)
  let values ← .ofResult (readParams params)
  let query ← .ofResult (readQuery queries)
  next route values query

theorem execute_of_replace {url : String} {params queries unset : List String}
    (action : i.action = .replace url params queries unset) :
    execute read i = gather read i params queries fun route values query => do
      match ← .ofResult (ofLibrary (route.replace (Location.parse url)
          (some (unset.foldl Params.unset values)) query)) with
      | some url => do
          .write (url ++ "\n")
          return true
      | none => return false := by
  rw [execute, action]
  rfl

end Gathering

end CommandLine
end PathTemplate
