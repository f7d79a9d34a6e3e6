import PathTemplate.Query
import PathTemplate.Text.Blank
import PathTemplate.Proofs.OrderedMap
import PathTemplate.Proofs.Text.Form

namespace PathTemplate
namespace Query

/-!
# Queries as search strings

A query is read back from its search string with the same entries in the same order.  No query but
the empty one has an empty or blank search string, so a URL shows whether there is a query, and no
search string contains the character that begins a fragment.

Search strings with an ampersand between them are read as one query merged into the other.
-/

@[simp] theorem toList_serialize (q : Query) : (serialize q).toList = Form.writeAll q.entries :=
  String.toList_ofList

/-- Reading undoes writing, entries and order alike. -/
@[simp] theorem parse_serialize_eq (q : Query) : parse (serialize q) = q := by
  simp [parse]

theorem equals_mem_serialize {q : Query} (nonempty : q.entries ≠ []) :
    '=' ∈ (serialize q).toList := by
  simpa using Form.equals_mem_writeAll nonempty

theorem serialize_ne_empty {q : Query} (nonempty : q.entries ≠ []) : serialize q ≠ "" := by
  intro empty
  have member := equals_mem_serialize nonempty
  rw [empty] at member
  cases member

theorem not_blank_serialize {q : Query} (nonempty : q.entries ≠ []) :
    (serialize q).toList.all isBlank = false := by
  rw [List.all_eq_false]
  exact ⟨'=', equals_mem_serialize nonempty, by decide⟩

theorem fragment_not_mem_serialize (q : Query) : '#' ∉ (serialize q).toList := by
  intro member
  rw [toList_serialize] at member
  rcases Form.mem_writeAll member with kept | percent | equals | ampersand
  · exact absurd kept (by decide)
  · exact absurd percent (by decide)
  · exact absurd equals (by decide)
  · exact absurd ampersand (by decide)

/-- Reading undoes writing, and only the query without entries is written as nothing.  What was read
from a search string, however that was written, is not changed by writing and reading it again. -/
theorem serialize_faithful (q : Query) (search : String) :
    parse (serialize q) = q ∧ (serialize q = "" ↔ q.isEmpty = true) ∧
      parse (serialize (parse search)) = parse search := by
  refine ⟨parse_serialize_eq q, ?_, parse_serialize_eq (parse search)⟩
  rw [OrderedMap.isEmpty, List.isEmpty_iff]
  constructor
  · intro nothing
    apply Classical.byContradiction
    intro nonempty
    exact serialize_ne_empty nonempty nothing
  · intro empty
    rw [serialize, empty]
    rfl

example :
    let q := parse "a=1&&b+c=%ZZ&=&%C3&a=2"
    q.entries = [("a", "2"), ("b c", "%ZZ"), ("", ""), ("\uFFFD", "")] ∧
      q.serialize = "a=2&b%20c=%25ZZ&=&%EF%BF%BD=" := by
  decide +kernel

/-- Search strings that are put together with an ampersand between them are merged: where names are
repeated, within one of them or across both, and where pieces are empty or malformed, the entries
and their order are what merging the two queries gives. -/
theorem parse_append_ampersand (first second : String) :
    parse (first ++ "&" ++ second) = (parse first).merge (parse second) := by
  have joined : (first ++ "&" ++ second).toList = first.toList ++ '&' :: second.toList := by
    simp
  rw [parse, joined, Form.parse_append, OrderedMap.ofList_append]
  rfl

example :
    (parse "b=1&a=%&&b=2").entries = [("b", "2"), ("a", "%")] ∧
      (parse "c&a=%FF&c=3").entries = [("c", "3"), ("a", "\uFFFD")] ∧
      (parse ("b=1&a=%&&b=2" ++ "&" ++ "c&a=%FF&c=3")).entries =
        [("b", "2"), ("a", "\uFFFD"), ("c", "3")] := by
  decide +kernel

end Query
end PathTemplate
