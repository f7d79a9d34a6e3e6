import PathTemplate.Json

namespace PathTemplate
namespace Json

/-!
# A written value is read in one way only

The text of a value shows where the value ends.  An object ends at its own brace, a string at the
first quote that is not escaped, and the other values are words of which none begins like another.
So whatever is written behind a value, its text and the value can be told from it: two values with
the same text are the same, members and their order included.

Both written forms have this property for one reason.  They put the same marks in the same order,
and what else they put there are blanks, which no mark begins with.  A layout says where the blanks
stand, and what holds of every layout holds of both forms.
-/

/-- What holds of the plain values, and of an object as soon as it holds of the values of its
members, holds of every value. -/
@[elab_as_elim]
theorem induction {motive : Json → Prop} (null : motive .null) (bool : ∀ b, motive (.bool b))
    (string : ∀ s, motive (.string s))
    (object : ∀ members, (∀ m ∈ members, motive m.2) → motive (.object members)) (j : Json) :
    motive j := by
  refine @Json.rec motive (fun members => ∀ m ∈ members, motive m.2) (fun m => motive m.2)
    null bool string object ?_ ?_ ?_ j
  · intro m member
    cases member
  · intro first rest here later m member
    rcases List.mem_cons.mp member with rfl | further
    · exact here
    · exact later m further
  · intro name value here
    exact here

/-! ## Strings -/

/-- The value of a hexadecimal digit. -/
def hexValue (c : Char) : Nat :=
  if c.toNat < 0x3A then c.toNat - 0x30 else c.toNat - 0x57

/-- The character that is written behind a backslash, and what follows it. -/
def readEscape? : List Char → Option (Char × List Char)
  | [] => none
  | 'b' :: rest => some ('\x08', rest)
  | 'f' :: rest => some ('\x0c', rest)
  | 'n' :: rest => some ('\n', rest)
  | 'r' :: rest => some ('\r', rest)
  | 't' :: rest => some ('\t', rest)
  | 'u' :: _ :: _ :: high :: low :: rest =>
      some (Char.ofNat (16 * hexValue high + hexValue low), rest)
  | c :: rest => some (c, rest)

/-- The first character of a string, read from the text within its quotes, and what follows it;
there is none at the closing quote. -/
def unescape? : List Char → Option (Char × List Char)
  | [] => none
  | c :: rest =>
      if c = '"' then none
      else if c = '\\' then readEscape? rest
      else some (c, rest)

theorem hexValue_hexDigit : ∀ n < 16, hexValue (hexDigit n) = n := by
  decide

private theorem unescape?_control {c : Char} (control : c.toNat < 0x20) (rest : List Char) :
    unescape? ('\\' :: 'u' :: '0' :: '0' :: hexDigit (c.toNat / 16) :: hexDigit (c.toNat % 16) ::
      rest) = some (c, rest) := by
  have code : 16 * hexValue (hexDigit (c.toNat / 16)) + hexValue (hexDigit (c.toNat % 16)) =
      c.toNat := by
    rw [hexValue_hexDigit _ (by omega), hexValue_hexDigit _ (by omega), Nat.div_add_mod]
  change some (Char.ofNat _, rest) = _
  rw [code, Char.ofNat_toNat]

/-- Every character is read back from its written form, with anything behind it. -/
@[simp] theorem unescape?_escapeChar (c : Char) (rest : List Char) :
    unescape? (escapeChar c ++ rest) = some (c, rest) := by
  by_cases isQuote : c = '"'
  · rw [isQuote]
    rfl
  by_cases isBackslash : c = '\\'
  · rw [isBackslash]
    rfl
  by_cases isBackspace : c = '\x08'
  · rw [isBackspace]
    rfl
  by_cases isFormFeed : c = '\x0c'
  · rw [isFormFeed]
    rfl
  by_cases isLineFeed : c = '\n'
  · rw [isLineFeed]
    rfl
  by_cases isReturn : c = '\r'
  · rw [isReturn]
    rfl
  by_cases isTab : c = '\t'
  · rw [isTab]
    rfl
  simp only [escapeChar, isQuote, isBackslash, isBackspace, isFormFeed, isLineFeed, isReturn, isTab,
    if_false]
  by_cases control : c.toNat < 0x20
  · rw [if_pos control]
    exact unescape?_control control rest
  · rw [if_neg control, List.singleton_append, unescape?, if_neg isQuote, if_neg isBackslash]

theorem escapeChar_append_inj {c d : Char} {rest more : List Char}
    (same : escapeChar c ++ rest = escapeChar d ++ more) : c = d ∧ rest = more := by
  have read := congrArg unescape? same
  simpa using read

/-- No character is written so that it could be taken for the closing quote. -/
theorem escapeChar_append_ne (c : Char) (rest more : List Char) :
    escapeChar c ++ rest ≠ '"' :: more := by
  intro same
  have read := congrArg unescape? same
  rw [unescape?_escapeChar, unescape?, if_pos rfl] at read
  cases read

private theorem escaped_append_inj {cs ds rest more : List Char}
    (same : cs.flatMap escapeChar ++ '"' :: rest = ds.flatMap escapeChar ++ '"' :: more) :
    cs = ds ∧ rest = more := by
  induction cs generalizing ds with
  | nil =>
      cases ds with
      | nil => exact ⟨rfl, (List.cons.inj same).2⟩
      | cons d ds =>
          rw [List.flatMap_cons, List.append_assoc] at same
          exact absurd same.symm (escapeChar_append_ne d _ rest)
  | cons c cs inductionHypothesis =>
      rw [List.flatMap_cons, List.append_assoc] at same
      cases ds with
      | nil => exact absurd same (escapeChar_append_ne c _ more)
      | cons d ds =>
          rw [List.flatMap_cons, List.append_assoc] at same
          rcases escapeChar_append_inj same with ⟨rfl, sameBehind⟩
          rcases inductionHypothesis sameBehind with ⟨rfl, sameRest⟩
          exact ⟨rfl, sameRest⟩

/-- A written string shows where it ends. -/
theorem quote_append_inj {s t : String} {rest more : List Char}
    (same : quote s ++ rest = quote t ++ more) : s = t ∧ rest = more := by
  rw [quote, quote, List.append_assoc, List.append_assoc, List.cons_append, List.cons_append] at same
  rcases escaped_append_inj (List.cons.inj same).2 with ⟨sameCharacters, sameRest⟩
  exact ⟨String.toList_inj.mp sameCharacters, sameRest⟩

/-! ## Layouts -/

/-- Where the blanks of a written form stand: `line` in front of each member of an object and of its
end, by the depth of what follows, and `gap` behind the colon of a member. -/
structure Layout where
  line : Nat → List Char
  gap : List Char
  blank : ∀ depth, ∀ c ∈ line depth, c = '\n' ∨ c = ' '

namespace Layout

/-- The layout without blanks. -/
def plain : Layout where
  line _ := []
  gap := []
  blank _ _ member := absurd member List.not_mem_nil

/-- The layout with a line for each member. -/
def lined : Layout where
  line := newline
  gap := [' ']
  blank depth c member := by
    rw [newline, List.mem_cons] at member
    exact member.imp_right List.eq_of_mem_replicate

variable (layout : Layout)

/-- The text of a member, from the text of its value. -/
def member (depth : Nat) (name : String) (value : List Char) : List Char :=
  layout.line depth ++ quote name ++ ':' :: (layout.gap ++ value)

/-- Two functions write values, and the members after the first with the end of their object, in a
layout. -/
structure Writes (value : Nat → Json → List Char)
    (others : Nat → List (String × Json) → List Char) : Prop where
  null : ∀ depth, value depth .null = "null".toList
  bool : ∀ depth b, value depth (.bool b) = (if b then "true" else "false").toList
  string : ∀ depth s, value depth (.string s) = quote s
  empty : ∀ depth, value depth (.object []) = ['\x7b', '\x7d']
  first : ∀ depth m rest, value depth (.object (m :: rest)) =
    '\x7b' :: (layout.member (depth + 1) m.1 (value (depth + 1) m.2) ++ others depth rest)
  next : ∀ depth m rest, others depth (m :: rest) =
    ',' :: (layout.member (depth + 1) m.1 (value (depth + 1) m.2) ++ others depth rest)
  last : ∀ depth, others depth [] = layout.line depth ++ ['\x7d']

/-- Blanks in front of a mark are not taken for another mark. -/
theorem line_append_ne (depth : Nat) {mark other : Char} (notBlank : other ≠ '\n' ∧ other ≠ ' ')
    (different : mark ≠ other) (rest more : List Char) :
    layout.line depth ++ mark :: rest ≠ other :: more := by
  intro same
  cases blanks : layout.line depth with
  | nil =>
      rw [blanks, List.nil_append] at same
      exact different (List.cons.inj same).1
  | cons c further =>
      rw [blanks, List.cons_append] at same
      have isBlank := layout.blank depth c (blanks ▸ List.mem_cons_self)
      rw [(List.cons.inj same).1] at isBlank
      rcases isBlank with newline | space
      · exact notBlank.1 newline
      · exact notBlank.2 space

variable {layout}

theorem member_append_inj {depth : Nat} {name other : String} {value shown rest more : List Char}
    (same : layout.member depth name value ++ rest = layout.member depth other shown ++ more) :
    name = other ∧ value ++ rest = shown ++ more := by
  simp only [member, List.append_assoc, List.append_cancel_left_eq] at same
  rcases quote_append_inj same with ⟨sameName, behind⟩
  simp only [List.cons_append, List.append_assoc, List.cons.injEq, true_and,
    List.append_cancel_left_eq] at behind
  exact ⟨sameName, behind⟩

/-- An object with a member does not begin like the empty one. -/
theorem member_append_ne (depth : Nat) (name : String) (value rest more : List Char) :
    layout.member depth name value ++ rest ≠ '\x7d' :: more := by
  rw [member, quote, List.append_assoc, List.append_assoc, List.append_assoc, List.cons_append]
  exact layout.line_append_ne depth (by decide) (by decide) _ more

end Layout

/-! ## Values -/

/-- The character that the text of a value begins with. -/
def initial : Json → Char
  | null => 'n'
  | bool true => 't'
  | bool false => 'f'
  | string _ => '"'
  | object _ => '\x7b'

/-- Values whose texts begin alike are the same word, or both are strings, or both are objects. -/
theorem alike_of_initial {j other : Json} (same : j.initial = other.initial) :
    j = other ∨ (∃ s t, j = .string s ∧ other = .string t) ∨
      ∃ members further, j = .object members ∧ other = .object further := by
  rcases j with _ | (_ | _) | s | members <;> rcases other with _ | (_ | _) | t | further <;>
    simp [initial] at same ⊢

/-- The text of a value tells it from every other one, and tells what is behind it. -/
def Delimited (value : Nat → Json → List Char) (j : Json) : Prop :=
  ∀ depth other rest more, value depth j ++ rest = value depth other ++ more →
    j = other ∧ rest = more

namespace Layout.Writes

variable {layout : Layout} {value : Nat → Json → List Char}
  {others : Nat → List (String × Json) → List Char}

theorem head?_append (writes : layout.Writes value others) (depth : Nat) (j : Json)
    (rest : List Char) : (value depth j ++ rest).head? = some j.initial := by
  cases j with
  | null => rw [writes.null]; rfl
  | bool b => cases b <;> rw [writes.bool] <;> rfl
  | string s => rw [writes.string]; rfl
  | object members =>
      cases members with
      | nil => rw [writes.empty]; rfl
      | cons m further => rw [writes.first]; rfl

theorem initial_eq (writes : layout.Writes value others) {depth : Nat} {j other : Json}
    {rest more : List Char} (same : value depth j ++ rest = value depth other ++ more) :
    j.initial = other.initial := by
  have heads := congrArg List.head? same
  rw [writes.head?_append, writes.head?_append] at heads
  exact Option.some.inj heads

/-- A member whose value is delimited is delimited itself. -/
theorem member_inj {m other : String × Json} (here : Delimited value m.2) {depth : Nat}
    {rest more : List Char}
    (same : layout.member depth m.1 (value depth m.2) ++ rest =
      layout.member depth other.1 (value depth other.2) ++ more) : m = other ∧ rest = more := by
  rcases member_append_inj same with ⟨sameName, values⟩
  rcases here depth other.2 rest more values with ⟨sameValue, sameRest⟩
  exact ⟨Prod.ext sameName sameValue, sameRest⟩

/-! What is written behind an object stands behind the last of its marks. -/

private theorem empty_append (writes : layout.Writes value others) (depth : Nat)
    (rest : List Char) : value depth (.object []) ++ rest = '\x7b' :: '\x7d' :: rest := by
  rw [writes.empty]
  rfl

private theorem first_append (writes : layout.Writes value others) (depth : Nat)
    (m : String × Json) (members : List (String × Json)) (rest : List Char) :
    value depth (.object (m :: members)) ++ rest =
      '\x7b' :: (layout.member (depth + 1) m.1 (value (depth + 1) m.2) ++
        (others depth members ++ rest)) := by
  rw [writes.first, List.cons_append, List.append_assoc]

private theorem next_append (writes : layout.Writes value others) (depth : Nat)
    (m : String × Json) (members : List (String × Json)) (rest : List Char) :
    others depth (m :: members) ++ rest =
      ',' :: (layout.member (depth + 1) m.1 (value (depth + 1) m.2) ++
        (others depth members ++ rest)) := by
  rw [writes.next, List.cons_append, List.append_assoc]

private theorem last_append (writes : layout.Writes value others) (depth : Nat)
    (rest : List Char) : others depth [] ++ rest = layout.line depth ++ '\x7d' :: rest := by
  rw [writes.last, List.append_assoc, List.singleton_append]

theorem others_append_inj (writes : layout.Writes value others)
    {members further : List (String × Json)} (values : ∀ m ∈ members, Delimited value m.2)
    {depth : Nat} {rest more : List Char}
    (same : others depth members ++ rest = others depth further ++ more) :
    members = further ∧ rest = more := by
  induction members generalizing further with
  | nil =>
      rw [writes.last_append] at same
      cases further with
      | nil =>
          rw [writes.last_append, List.append_cancel_left_eq] at same
          exact ⟨rfl, (List.cons.inj same).2⟩
      | cons m further =>
          rw [writes.next_append] at same
          exact absurd same (layout.line_append_ne depth (by decide) (by decide) _ _)
  | cons m members inductionHypothesis =>
      rw [writes.next_append] at same
      cases further with
      | nil =>
          rw [writes.last_append] at same
          exact absurd same.symm (layout.line_append_ne depth (by decide) (by decide) _ _)
      | cons other further =>
          rw [writes.next_append] at same
          rcases member_inj (values m List.mem_cons_self) (List.cons.inj same).2 with
            ⟨rfl, behind⟩
          rcases inductionHypothesis
            (fun k listed => values k (List.mem_cons_of_mem _ listed)) behind with ⟨rfl, sameRest⟩
          exact ⟨rfl, sameRest⟩

/-- An object is delimited if the values of its members are. -/
theorem object_append_inj (writes : layout.Writes value others)
    {members further : List (String × Json)} (values : ∀ m ∈ members, Delimited value m.2)
    {depth : Nat} {rest more : List Char}
    (same : value depth (.object members) ++ rest = value depth (.object further) ++ more) :
    members = further ∧ rest = more := by
  cases members with
  | nil =>
      rw [writes.empty_append] at same
      cases further with
      | nil =>
          rw [writes.empty_append] at same
          exact ⟨rfl, (List.cons.inj (List.cons.inj same).2).2⟩
      | cons m further =>
          rw [writes.first_append] at same
          exact absurd (List.cons.inj same).2.symm (member_append_ne _ _ _ _ _)
  | cons m members =>
      rw [writes.first_append] at same
      cases further with
      | nil =>
          rw [writes.empty_append] at same
          exact absurd (List.cons.inj same).2 (member_append_ne _ _ _ _ _)
      | cons other further =>
          rw [writes.first_append] at same
          rcases member_inj (values m List.mem_cons_self) (List.cons.inj same).2 with
            ⟨rfl, behind⟩
          rcases writes.others_append_inj
            (fun k listed => values k (List.mem_cons_of_mem _ listed)) behind with
            ⟨rfl, sameRest⟩
          exact ⟨rfl, sameRest⟩

private theorem delimited_of_members (writes : layout.Writes value others) {j : Json}
    (values : ∀ members, j = .object members → ∀ m ∈ members, Delimited value m.2) :
    Delimited value j := by
  intro depth other rest more same
  rcases alike_of_initial (writes.initial_eq same) with rfl | ⟨s, t, rfl, rfl⟩ |
    ⟨members, further, rfl, rfl⟩
  · exact ⟨rfl, List.append_cancel_left same⟩
  · rw [writes.string, writes.string] at same
    rcases quote_append_inj same with ⟨rfl, sameRest⟩
    exact ⟨rfl, sameRest⟩
  · rcases writes.object_append_inj (values members rfl) same with ⟨rfl, sameRest⟩
    exact ⟨rfl, sameRest⟩

/-- Every value is delimited, in every layout. -/
theorem delimited (writes : layout.Writes value others) (j : Json) : Delimited value j := by
  induction j using induction with
  | null => exact writes.delimited_of_members nofun
  | bool b => exact writes.delimited_of_members nofun
  | string s => exact writes.delimited_of_members nofun
  | object members inductionHypothesis =>
      apply writes.delimited_of_members
      intro listed same
      cases same
      exact inductionHypothesis

theorem text_append_inj (writes : layout.Writes value others) (depth : Nat) {j other : Json}
    {rest more : String}
    (same : String.ofList (value depth j) ++ rest = String.ofList (value depth other) ++ more) :
    j = other ∧ rest = more := by
  have characters : value depth j ++ rest.toList = value depth other ++ more.toList := by
    simpa only [String.toList_append, String.toList_ofList] using congrArg String.toList same
  rcases writes.delimited j depth other _ _ characters with ⟨sameValue, sameRest⟩
  exact ⟨sameValue, String.toList_inj.mp sameRest⟩

end Layout.Writes

/-! ## The two written forms -/

theorem writes_compact : Layout.plain.Writes (fun _ => compact) (fun _ => compactRest) where
  null _ := by rw [compact]
  bool _ _ := by rw [compact]
  string _ _ := by rw [compact]
  empty _ := by rw [compact]
  first _ _ _ := by rw [compact]; rfl
  next _ _ _ := by rw [compactRest]; rfl
  last _ := by rw [compactRest]; rfl

theorem writes_pretty : Layout.lined.Writes pretty prettyRest where
  null _ := by rw [pretty]
  bool _ _ := by rw [pretty]
  string _ _ := by rw [pretty]
  empty _ := by rw [pretty]
  first _ _ _ := by rw [pretty]; simp [Layout.member, Layout.lined]
  next _ _ _ := by rw [prettyRest]; simp [Layout.member, Layout.lined]
  last _ := by rw [prettyRest]; rfl

/-- The compact text of a value tells it, and tells what is written behind it. -/
theorem toCompact_append_inj {j other : Json} {rest more : String}
    (same : j.toCompact ++ rest = other.toCompact ++ more) : j = other ∧ rest = more :=
  writes_compact.text_append_inj 0 same

/-- So does the text with a line for each member. -/
theorem toPretty_append_inj {j other : Json} {rest more : String}
    (same : j.toPretty ++ rest = other.toPretty ++ more) : j = other ∧ rest = more :=
  writes_pretty.text_append_inj 0 same

end Json
end PathTemplate
