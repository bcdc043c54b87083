import Snowbridge.Filter.Error
import Snowbridge.Filter.Operator
import Snowbridge.Text.Blank

/-!
# Filters as trees

A filter is read by the places of its parentheses, not by precedence. A word of negation before a
parenthesis negates all that follows. Then the first place where a connective stands between a
closing and an opening parenthesis splits the text, with a conjunction sought before a disjunction.
A pair of parentheses around the whole text makes a group. What is left is one comparison, and the
parentheses at its ends are kept as they are.
-/

namespace Snowbridge.Filter

/-- What a field is compared with, as it is written. -/
inductive Operand where
  | none
  | scalar (raw : String)
  | list (items : List String)
deriving DecidableEq

/-- A comparison, with the numbers of parentheses that open before it and close after it. -/
structure Comparison where
  opened : Nat
  closed : Nat
  field : String
  negated : Bool
  operator : Operator
  operand : Operand
deriving DecidableEq

inductive Tree where
  | not (inner : Tree)
  | join (connective : Connective) (left right : Tree)
  | group (inner : Tree)
  | compare (c : Comparison)

/-! ## Places to split -/

/-- The opening parenthesis that follows blanks, with all after it. -/
def atOpening? (cs : List Char) : Option (List Char) :=
  match Text.trimLeft cs with
  | '(' :: r => some ('(' :: r)
  | _ => none

/-- What follows the word of negation, if it is an opening parenthesis. -/
def afterNot? (cs : List Char) : Option (List Char) :=
  (Text.dropFolded? "NOT".toList cs).bind atOpening?

/-- What follows a connective, if it is an opening parenthesis. -/
def afterConnective? (k : Connective) (cs : List Char) : Option (List Char) :=
  k.spellings.findSome? fun w => (Text.dropFolded? w (Text.trimLeft cs)).bind atOpening?

/-- The first place outside quoted runs where a connective stands between a closing and an opening
parenthesis: the text up to the closing one, and the text from the opening one on. -/
def splitAtConnective? (k : Connective) (q : Sql.OpenQuote) :
    List Char → Option (List Char × List Char)
  | [] => none
  | c :: cs =>
    match if q.outside c && c == ')' then afterConnective? k cs else none with
    -- Both parentheses stay with their sides, as they may be part of a run that surrounds more.
    | some right => some ([c], right)
    | none => (splitAtConnective? k (q.step c) cs).map fun (left, right) => (c :: left, right)

/-- Whether the parenthesis that is open `depth` levels up closes at the end of the text. The depth
is an integer of any size, which stays within the length of the text. -/
def closesAtEnd (q : Sql.OpenQuote) (depth : Int) : List Char → Bool
  | [] => false
  | c :: cs =>
    if q.outside c && c == '(' then closesAtEnd (q.step c) (depth + 1) cs
    else if q.outside c && c == ')' then
      if depth - 1 == 0 then cs.isEmpty else closesAtEnd (q.step c) (depth - 1) cs
    else closesAtEnd (q.step c) depth cs

/-- The inside of a pair of parentheses around the whole text. -/
def insideGroup? (cs : List Char) : Option (List Char) :=
  match cs with
  | '(' :: r =>
    if r.getLast? == some ')' && closesAtEnd none 0 ('(' :: r) then some r.dropLast else none
  | _ => none

/-! ## Comparisons -/

/-- The run of a character at the end of a text: the text before it, and its length. -/
def splitTrailing (c : Char) (cs : List Char) : List Char × Nat :=
  ((cs.reverse.dropWhile (· == c)).reverse, (cs.reverse.takeWhile (· == c)).length)

/-- The field before a word of negation at its end. -/
def beforeNot? (field : List Char) : Option (List Char) :=
  -- A field has to be left, so a comparison of a field named NOT is not taken for a negation.
  let cut := field.length - 4
  if 0 < cut && Text.sameFolded (field.drop cut) " NOT".toList then
    some (Text.trimRight (field.take cut))
  else none

/-- Whether a value starts with a quote. -/
def startsQuoted : List Char → Bool
  | c :: _ => Sql.isQuote c
  | [] => false

/-- How many closing parentheses after a value belong to it, because the value opens more than it
closes. A value that starts with a quote takes none. -/
def borrowed (value : List Char) (closed : Nat) : Nat :=
  if startsQuoted value then 0
  else
    let (opening, closing) := Sql.parenthesisCounts value
    min (opening - closing) closed

/-- The items of a list between parentheses. -/
def listItems? (value : List Char) : Option (List (List Char)) :=
  match value with
  | '(' :: r =>
    if r.getLast? == some ')' then
      some ((Sql.splitTopLevel ',' r.dropLast).map Text.trim)
    else none
  | _ => none

/-- The operand of an operator in a text. -/
def readOperand (o : Operator) (field : String) (value : List Char) :
    Except FilterError Operand :=
  match o.operandKind with
  | .none => .ok .none
  | .list =>
    match listItems? value with
    | none => .error (.listNotWrapped field)
    | some items =>
      if items.any List.isEmpty then .error (.missingValue field o.sql)
      else .ok (.list (items.map String.ofList))
  | .scalar =>
    if value.isEmpty then .error (.missingValue field o.sql)
    else .ok (.scalar (String.ofList value))

/-- The comparison in a text. -/
def readComparison (cs : List Char) : Except FilterError Comparison :=
  let opened := (cs.takeWhile (· == '(')).length
  let (core, closed) := splitTrailing ')' (cs.dropWhile (· == '('))
  match Operator.find? (Text.trim core) with
  | none => .error (.unparsable (String.ofList cs))
  | some found =>
    let name := Text.trim found.before
    let (name, negated) :=
      match beforeNot? name with
      | some n => (n, true)
      | none => (name, false)
    if name.isEmpty then .error (.unparsable (String.ofList cs))
    else
      let value := Text.trim found.after
      -- The parenthesis that closes a list is not one around the comparison.
      let taken := borrowed value closed
      let field := String.ofList name
      match readOperand found.operator field (value ++ List.replicate taken ')') with
      | .error e => .error e
      | .ok operand => .ok ⟨opened, closed - taken, field, negated, found.operator, operand⟩

/-! ## Reading -/

theorem length_of_dropFolded? {start cs rest : List Char}
    (h : Text.dropFolded? start cs = some rest) : start.length + rest.length = cs.length := by
  induction start generalizing cs with
  | nil => simp_all [Text.dropFolded?]
  | cons p start ih =>
    cases cs with
    | nil => simp [Text.dropFolded?] at h
    | cons c cs =>
      simp only [Text.dropFolded?] at h
      split at h
      · have := ih h
        simp only [List.length_cons]
        omega
      · simp at h

theorem length_le_of_atOpening? {cs rest : List Char} (h : atOpening? cs = some rest) :
    rest.length ≤ cs.length := by
  have := Text.length_trimLeft_le cs
  unfold atOpening? at h
  split at h
  · next r heq =>
    cases h
    rw [heq] at this
    exact this
  · simp at h

theorem length_lt_of_afterNot? {cs rest : List Char} (h : afterNot? cs = some rest) :
    rest.length < cs.length := by
  obtain ⟨r, hr, ho⟩ := Option.bind_eq_some_iff.1 h
  have h₁ := length_of_dropFolded? hr
  have h₂ := length_le_of_atOpening? ho
  have h₃ : "NOT".toList.length = 3 := rfl
  omega

theorem length_le_of_afterConnective? {k : Connective} {cs rest : List Char}
    (h : afterConnective? k cs = some rest) : rest.length ≤ cs.length := by
  obtain ⟨w, -, hw⟩ := List.exists_of_findSome?_eq_some h
  obtain ⟨r, hr, ho⟩ := Option.bind_eq_some_iff.1 hw
  have h₁ := length_of_dropFolded? hr
  have h₂ := length_le_of_atOpening? ho
  have h₃ := Text.length_trimLeft_le cs
  omega

/-- Both sides of a split are shorter than the text. -/
theorem length_of_splitAtConnective? {k : Connective} {q : Sql.OpenQuote}
    {cs left right : List Char} (h : splitAtConnective? k q cs = some (left, right)) :
    right.length < cs.length ∧ left.length + right.length ≤ cs.length := by
  induction cs generalizing q left with
  | nil => simp [splitAtConnective?] at h
  | cons c cs ih =>
    simp only [splitAtConnective?] at h
    split at h
    · next r hr =>
      split at hr
      · have := length_le_of_afterConnective? hr
        cases h
        simp only [List.length_cons, List.length_nil]
        omega
      · simp at hr
    · obtain ⟨⟨l, r⟩, hlr, heq⟩ := Option.map_eq_some_iff.1 h
      simp only [Prod.mk.injEq] at heq
      obtain ⟨rfl, rfl⟩ := heq
      have := ih hlr
      simp only [List.length_cons]
      omega

theorem right_ne_nil_of_splitAtConnective? {k : Connective} {q : Sql.OpenQuote}
    {cs left right : List Char} (h : splitAtConnective? k q cs = some (left, right)) :
    0 < right.length := by
  induction cs generalizing q left with
  | nil => simp [splitAtConnective?] at h
  | cons c cs ih =>
    simp only [splitAtConnective?] at h
    split at h
    · next r hr =>
      split at hr
      · obtain ⟨w, -, hw⟩ := List.exists_of_findSome?_eq_some hr
        obtain ⟨r', -, ho⟩ := Option.bind_eq_some_iff.1 hw
        cases h
        unfold atOpening? at ho
        split at ho
        · cases ho
          simp
        · simp at ho
      · simp at hr
    · obtain ⟨⟨l, r⟩, hlr, heq⟩ := Option.map_eq_some_iff.1 h
      cases heq
      exact ih hlr

theorem length_lt_of_insideGroup? {cs inner : List Char} (h : insideGroup? cs = some inner) :
    inner.length < cs.length := by
  unfold insideGroup? at h
  split at h
  · split at h
    · cases h
      simp only [List.length_dropLast, List.length_cons]
      omega
    · simp at h
  · simp at h

/-- The filter in a text. -/
def Tree.read (cs : List Char) : Except FilterError Tree :=
  let t := Text.trim cs
  have _ht : t.length ≤ cs.length := Text.length_trim_le cs
  match hn : afterNot? t with
  | some rest =>
    have := length_lt_of_afterNot? hn
    (Tree.read rest).map .not
  | none =>
    -- The whole text is searched for a conjunction first, also to the right of a disjunction.
    match ha : splitAtConnective? .and none t with
    | some (left, right) =>
      have := length_of_splitAtConnective? ha
      have := right_ne_nil_of_splitAtConnective? ha
      (Tree.read left).bind fun l => (Tree.read right).map fun r => .join .and l r
    | none =>
      match ho : splitAtConnective? .or none t with
      | some (left, right) =>
        have := length_of_splitAtConnective? ho
        have := right_ne_nil_of_splitAtConnective? ho
        (Tree.read left).bind fun l => (Tree.read right).map fun r => .join .or l r
      | none =>
        match hg : insideGroup? t with
        | some inner =>
          have := length_lt_of_insideGroup? hg
          (Tree.read inner).map .group
        | none => (readComparison t).map .compare
termination_by cs.length

/-- The filter in a text; a blank text holds none. -/
def Tree.ofText (filter : String) : Except FilterError (Option Tree) :=
  let cs := Text.trim filter.toList
  if cs.isEmpty then .ok none else (Tree.read cs).map some

end Snowbridge.Filter
