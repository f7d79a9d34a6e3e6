import PathTemplate.Text.Form
import PathTemplate.Proofs.Text.Percent
import PathTemplate.Proofs.Text.Separator

namespace PathTemplate
namespace Form

/-!
# Reading back what the form encoding writes

A written pair contains no ampersand, and the only equals sign in it is the one between name and
value, because neither is left standing by percent-encoding.  Cutting at separators therefore finds
the pairs and their two sides again.  A plus sign is a space to the reader; it is escaped by the
writer, so no written text is touched by that.
-/

/-! ## Cutting at a separator -/

theorem pieces_append (sep : Char) {piece : List Char} (absent : sep ∉ piece) (rest : List Char) :
    pieces sep (piece ++ sep :: rest) = piece :: pieces sep rest := by
  induction piece with
  | nil => rw [List.nil_append, pieces, if_pos rfl]
  | cons c tail inductionHypothesis =>
      rw [List.mem_cons, not_or] at absent
      rw [List.cons_append, pieces, if_neg (Ne.symm absent.1), inductionHypothesis absent.2]

theorem pieces_of_not_mem (sep : Char) {piece : List Char} (absent : sep ∉ piece) :
    pieces sep piece = [piece] := by
  induction piece with
  | nil => rfl
  | cons c tail inductionHypothesis =>
      rw [List.mem_cons, not_or] at absent
      rw [pieces, if_neg (Ne.symm absent.1), inductionHypothesis absent.2]

theorem pieces_ne_nil (sep : Char) (cs : List Char) : pieces sep cs ≠ [] := by
  rcases Boundary.exists_append sep cs with ⟨piece, rest, rfl, absent, rfl | ⟨more, rfl⟩⟩
  · rw [List.append_nil, pieces_of_not_mem sep absent]
    exact List.cons_ne_nil _ _
  · rw [pieces_append sep absent]
    exact List.cons_ne_nil _ _

/-- A separator between two texts keeps their pieces apart. -/
theorem pieces_append_separator (sep : Char) (first second : List Char) :
    pieces sep (first ++ sep :: second) = pieces sep first ++ pieces sep second := by
  induction first with
  | nil => exact pieces_append sep List.not_mem_nil second
  | cons c first inductionHypothesis =>
      rw [List.cons_append, pieces, pieces, inductionHypothesis]
      by_cases separator : c = sep
      · rw [if_pos separator, if_pos separator, List.cons_append]
      · rw [if_neg separator, if_neg separator]
        cases cut : pieces sep first with
        | nil => exact absurd cut (pieces_ne_nil sep first)
        | cons piece more => rfl

/-- Where two texts are put together, the last piece of one and the first piece of the other become
one piece. -/
theorem pieces_append_pieces {sep : Char} {first second last head : List Char}
    {before after : List (List Char)} (one : pieces sep first = before ++ [last])
    (other : pieces sep second = head :: after) :
    pieces sep (first ++ second) = before ++ (last ++ head) :: after := by
  induction first generalizing before last with
  | nil =>
      cases before with
      | nil =>
          cases one
          exact other
      | cons piece before => simp [pieces] at one
  | cons c first inductionHypothesis =>
      rw [pieces] at one
      rw [List.cons_append, pieces]
      by_cases separator : c = sep
      · rw [if_pos separator] at one ⊢
        cases before with
        | nil => exact absurd (List.cons.inj one).2 (pieces_ne_nil sep first)
        | cons piece before =>
            have split := List.cons.inj one
            rw [inductionHypothesis split.2, ← split.1]
            rfl
      · rw [if_neg separator] at one ⊢
        cases cut : pieces sep first with
        | nil => exact absurd cut (pieces_ne_nil sep first)
        | cons piece more =>
            rw [cut] at one
            cases before with
            | nil =>
                have split := List.cons.inj one
                have single : pieces sep first = [] ++ [piece] := by
                  rw [cut, split.2]
                  rfl
                rw [inductionHypothesis single, ← split.1]
                rfl
            | cons other before =>
                have split := List.cons.inj one
                have longer : pieces sep first = (piece :: before) ++ [last] := by
                  rw [cut, split.2]
                  rfl
                rw [inductionHypothesis longer, ← split.1]
                rfl

/-- A piece stands behind a separator or at the beginning, and it ends at a boundary. -/
theorem exists_append_of_mem_pieces {sep : Char} {cs piece : List Char}
    (member : piece ∈ pieces sep cs) : sep ∉ piece ∧ ∃ before after, cs = before ++ (piece ++ after) ∧
      (before = [] ∨ ∃ front, before = front ++ [sep]) ∧ Boundary sep after := by
  induction length : cs.length using Nat.strongRecOn generalizing cs with
  | ind n inductionHypothesis =>
      subst length
      rcases Boundary.exists_append sep cs with ⟨stretch, rest, rfl, absent, rfl | ⟨more, rfl⟩⟩
      · rw [List.append_nil, pieces_of_not_mem sep absent, List.mem_singleton] at member
        subst member
        exact ⟨absent, [], [], rfl, Or.inl rfl, .nil⟩
      · rw [pieces_append sep absent, List.mem_cons] at member
        rcases member with rfl | later
        · exact ⟨absent, [], sep :: more, rfl, Or.inl rfl, .cons more⟩
        · have shorter : more.length < (stretch ++ sep :: more).length := by
            rw [List.length_append, List.length_cons]
            omega
          rcases inductionHypothesis _ shorter later rfl with
            ⟨plain, before, after, rfl, starts, ends⟩
          refine ⟨plain, stretch ++ sep :: before, after, ?_, Or.inr ?_, ends⟩
          · rw [List.append_assoc]
            rfl
          · rcases starts with rfl | ⟨front, rfl⟩
            · exact ⟨stretch, rfl⟩
            · refine ⟨stretch ++ sep :: front, ?_⟩
              rw [List.append_assoc]
              rfl

/-- Cutting undoes joining, provided there is something to join and no piece has a separator. -/
theorem pieces_intercalate (sep : Char) {parts : List (List Char)} (nonempty : parts ≠ [])
    (absent : ∀ part ∈ parts, sep ∉ part) : pieces sep ([sep].intercalate parts) = parts := by
  induction parts with
  | nil => exact absurd rfl nonempty
  | cons part rest inductionHypothesis =>
      have here := absent part List.mem_cons_self
      cases rest with
      | nil => rw [List.intercalate_singleton, pieces_of_not_mem sep here]
      | cons next more =>
          have later := inductionHypothesis (List.cons_ne_nil next more)
            (fun other member => absent other (List.mem_cons_of_mem _ member))
          calc
            pieces sep ([sep].intercalate (part :: next :: more)) =
                pieces sep (part ++ sep :: [sep].intercalate (next :: more)) := by
              rw [List.intercalate_cons_cons, List.append_assoc, List.singleton_append]
            _ = part :: pieces sep ([sep].intercalate (next :: more)) := pieces_append sep here _
            _ = part :: next :: more := by rw [later]

private theorem mem_intercalate {sep c : Char} {parts : List (List Char)}
    (member : c ∈ [sep].intercalate parts) : c = sep ∨ ∃ part ∈ parts, c ∈ part := by
  induction parts with
  | nil => cases member
  | cons part rest inductionHypothesis =>
      cases rest with
      | nil =>
          rw [List.intercalate_singleton] at member
          exact Or.inr ⟨part, List.mem_cons_self, member⟩
      | cons next more =>
          rw [List.intercalate_cons_cons, List.append_assoc, List.singleton_append, List.mem_append,
            List.mem_cons] at member
          rcases member with here | same | later
          · exact Or.inr ⟨part, List.mem_cons_self, here⟩
          · exact Or.inl same
          · rcases inductionHypothesis later with same | ⟨other, listed, inOther⟩
            · exact Or.inl same
            · exact Or.inr ⟨other, List.mem_cons_of_mem _ listed, inOther⟩

/-! ## Names and values -/

/-- A name or a value is read back as it was written. -/
@[simp] theorem decode_encode (cs : List Char) : decode (Percent.encode cs) = cs := by
  have untouched : (Percent.encode cs).map (fun c => if c = '+' then ' ' else c) =
      (Percent.encode cs).map id := by
    refine List.map_congr_left (fun c member => if_neg ?_)
    rintro rfl
    exact Percent.not_mem_encode (by decide) (by decide) member
  rw [decode, untouched, List.map_id, Percent.decodeLenient_encode]

/-- The first equals sign of a written pair is the one behind its name. -/
@[simp] theorem pair_write (name value : String) : pair (write name value) = (name, value) := by
  have plain : '=' ∉ Percent.encode name.toList :=
    Percent.not_mem_encode (by decide) (by decide)
  have ends : Boundary '=' ('=' :: Percent.encode value.toList) := .cons _
  calc
    pair (write name value) =
        (String.ofList (decode (Percent.encode name.toList)),
          String.ofList (decode (Percent.encode value.toList))) := by
      rw [pair, write, Boundary.takeWhile_append plain ends, Boundary.dropWhile_append plain ends]
      rfl
    _ = (String.ofList name.toList, String.ofList value.toList) := by
      rw [decode_encode, decode_encode]
    _ = (name, value) := by
      rw [String.ofList_toList, String.ofList_toList]

theorem write_ne_nil (name value : String) : write name value ≠ [] :=
  List.append_ne_nil_of_right_ne_nil _ (List.cons_ne_nil _ _)

/-- What a written pair consists of. -/
theorem mem_write {name value : String} {c : Char} (member : c ∈ write name value) :
    Percent.isUnreserved c = true ∨ c = '%' ∨ c = '=' := by
  rw [write, List.mem_append, List.mem_cons] at member
  rcases member with inName | equals | inValue
  · exact (Percent.encode_unreserved inName).imp_right Or.inl
  · exact Or.inr (Or.inr equals)
  · exact (Percent.encode_unreserved inValue).imp_right Or.inl

/-! ## Search strings -/

/-- The written form of a list of pairs. -/
def writeAll (pairs : List (String × String)) : List Char :=
  ['&'].intercalate (pairs.map (fun e => write e.1 e.2))

/-- Reading gives back all pairs in order, names that are repeated or empty included. -/
@[simp] theorem parse_writeAll (pairs : List (String × String)) :
    parse (writeAll pairs) = pairs := by
  cases pairs with
  | nil => rfl
  | cons first rest =>
      have cut : pieces '&' (writeAll (first :: rest)) =
          (first :: rest).map (fun e => write e.1 e.2) := by
        refine pieces_intercalate '&' (by simp) ?_
        intro part listed member
        rcases List.mem_map.mp listed with ⟨e, _, rfl⟩
        rcases mem_write member with kept | percent | equals
        · exact absurd kept (by decide)
        · exact absurd percent (by decide)
        · exact absurd equals (by decide)
      have kept : ((first :: rest).map (fun e => write e.1 e.2)).filter (· ≠ []) =
          (first :: rest).map (fun e => write e.1 e.2) := by
        rw [List.filter_eq_self]
        intro part listed
        rcases List.mem_map.mp listed with ⟨e, _, rfl⟩
        exact decide_eq_true (write_ne_nil e.1 e.2)
      rw [parse, cut, kept, List.map_map]
      simp [Function.comp_def]

/-- An ampersand ends the piece in front of it, whatever that piece holds, so the pairs of both sides
are read as they are read alone. -/
theorem parse_append (first second : List Char) :
    parse (first ++ '&' :: second) = parse first ++ parse second := by
  rw [parse, pieces_append_separator, List.filter_append, List.map_append]
  rfl

/-- What a search string consists of. -/
theorem mem_writeAll {pairs : List (String × String)} {c : Char} (member : c ∈ writeAll pairs) :
    Percent.isUnreserved c = true ∨ c = '%' ∨ c = '=' ∨ c = '&' := by
  rcases mem_intercalate member with separator | ⟨part, listed, inPart⟩
  · exact Or.inr (Or.inr (Or.inr separator))
  · rcases List.mem_map.mp listed with ⟨e, _, rfl⟩
    rcases mem_write inPart with kept | percent | equals
    · exact Or.inl kept
    · exact Or.inr (Or.inl percent)
    · exact Or.inr (Or.inr (Or.inl equals))

/-- A search string that writes any pair has an equals sign in it, so it is not blank. -/
theorem equals_mem_writeAll {pairs : List (String × String)} (nonempty : pairs ≠ []) :
    '=' ∈ writeAll pairs := by
  cases pairs with
  | nil => exact absurd rfl nonempty
  | cons first rest =>
      have here : '=' ∈ write first.1 first.2 :=
        List.mem_append_right _ List.mem_cons_self
      cases rest with
      | nil => rwa [writeAll, List.map_singleton, List.intercalate_singleton]
      | cons next more =>
          rw [writeAll, List.map_cons, List.map_cons, List.intercalate_cons_cons, List.append_assoc,
            List.singleton_append]
          exact List.mem_append_left _ here

end Form
end PathTemplate
