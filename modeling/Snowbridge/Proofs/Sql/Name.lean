import Snowbridge.Proofs.Sql.Search

/-!
# Names in statements

The names that a statement lists are the contents of the runs between double quotes in the part of
its text between two words (`listedNames`). They are read off a written list as they were put there,
if what stands before the list and in it shows neither of the two words outside quotes
(`listedNames_eq`).
-/

namespace Snowbridge.Sql

/-! ## Reading -/

/-- The contents of the runs between double quotes, from left to right. What was taken of an open
run is kept from its last character to its first. -/
def quotedNames : Option (List Char) → List Char → List String
  | _, [] => []
  | none, '"' :: cs => quotedNames (some []) cs
  | none, _ :: cs => quotedNames none cs
  | some taken, '"' :: '"' :: cs => quotedNames (some ('"' :: taken)) cs
  | some taken, '"' :: cs => String.ofList taken.reverse :: quotedNames none cs
  | some taken, c :: cs => quotedNames (some (c :: taken)) cs

/-- The part of a text between two words that stand outside quotes. -/
def between? (opening closing cs : List Char) : Option (List Char) :=
  (splitAtWord? opening none cs).bind fun (_, rest) =>
    (splitAtWord? closing none rest).map Prod.fst

/-- The names between two words. -/
def listedNames (opening closing sql : String) : List String :=
  ((between? opening.toList closing.toList sql.toList).map (quotedNames none)).getD []

/-! ## Lists of names -/

section Names

variable {sep tail : String}

/-- Characters other than quotes name nothing. -/
theorem quotedNames_append {xs : List Char} (hxs : '"' ∉ xs) (ys : List Char) :
    quotedNames none (xs ++ ys) = quotedNames none ys := by
  induction xs with
  | nil => rfl
  | cons x xs ih =>
    rw [List.mem_cons, not_or] at hxs
    rw [List.cons_append, quotedNames, ih hxs.2]
    exact fun h => hxs.1 h.symm

/-- A doubled quote belongs to the name, and the first quote that stands alone ends it. -/
theorem quotedNames_doubled (taken cs ys : List Char) (hys : ys.head? ≠ some '"') :
    quotedNames (some taken) (doubled '"' cs ++ '"' :: ys) =
      String.ofList (taken.reverse ++ cs) :: quotedNames none ys := by
  induction cs generalizing taken with
  | nil =>
    cases ys with
    | nil => simp [doubled, quotedNames]
    | cons y ys =>
      have hy : y ≠ '"' := by simpa using hys
      simp [doubled, quotedNames, hy]
  | cons c cs ih =>
    rw [doubled_cons, List.append_assoc]
    -- a quote of the name is doubled, so it is read as a pair and the run goes on
    by_cases hc : c = '"'
    · subst hc
      simpa [quotedNames] using ih ('"' :: taken)
    · simpa [hc, quotedNames] using ih (c :: taken)

/-- A written identifier names what was written. -/
theorem quotedNames_quoteIdentifier (name : String) {ys : List Char} (hys : ys.head? ≠ some '"') :
    quotedNames none ((quoteIdentifier name).toList ++ ys) = name :: quotedNames none ys := by
  have hrun := quotedNames_doubled [] name.toList ys hys
  rw [List.reverse_nil, List.nil_append, String.ofList_toList] at hrun
  rw [toList_quoteIdentifier, quotedRun, List.cons_append, List.append_assoc]
  exact hrun

/-- A character that stands neither in a text nor first behind it is not the first of both
together. -/
theorem head?_ne_of_not_mem {c : Char} {xs ys : List Char} (hxs : c ∉ xs)
    (hys : ys.head? ≠ some c) : (xs ++ ys).head? ≠ some c := by
  cases xs with
  | nil => exact hys
  | cons x xs =>
    rw [List.mem_cons, not_or] at hxs
    simpa using Ne.symm hxs.1

/-- A list of identifiers, each with a text behind it, names what was written. -/
theorem quotedNames_intercalate (hsep : '"' ∉ sep.toList) (hne : sep.toList ≠ [])
    (htail : '"' ∉ tail.toList) (names : List String) {ys : List Char}
    (hys : ys.head? ≠ some '"') :
    quotedNames none ((String.intercalate sep
      (names.map fun name => quoteIdentifier name ++ tail)).toList ++ ys) =
        names ++ quotedNames none ys := by
  rw [String.toList_intercalate]
  induction names with
  | nil => rfl
  | cons name names ih =>
    cases names with
    | nil =>
      have hend := head?_ne_of_not_mem htail hys
      simp only [List.map_cons, List.map_nil, List.intercalate_singleton, String.toList_append,
        List.append_assoc]
      rw [quotedNames_quoteIdentifier name hend, quotedNames_append htail]
      rfl
    | cons next names =>
      -- a separator stands between a run and the next, so that no quote is read as doubled
      simp only [List.map_cons, List.intercalate_cons_cons, String.toList_append,
        List.append_assoc] at ih ⊢
      rw [quotedNames_quoteIdentifier name, quotedNames_append htail, quotedNames_append hsep, ih]
      · rfl
      · refine head?_ne_of_not_mem htail ?_
        cases hlist : sep.toList with
        | nil => exact absurd hlist hne
        | cons c cs =>
          rw [hlist, List.mem_cons, not_or] at hsep
          simpa using Ne.symm hsep.1

end Names

/-! ## Parts that do not show a letter -/

/-- A text leaves no quote open and does not show a character outside its runs, in any case. -/
structure Hides (c : Char) (cs : List Char) : Prop where
  after : OpenQuote.after none cs = none
  hidden : ∀ d ∈ outsideChars none cs, Text.foldAscii d ≠ Text.foldAscii c

namespace Hides

variable {c : Char} {xs ys : List Char} {sep tail : String}

/-- Two texts that hide a character hide it together. -/
theorem append (hx : Hides c xs) (hy : Hides c ys) : Hides c (xs ++ ys) := by
  constructor
  · rw [OpenQuote.after_append, hx.after, hy.after]
  · rw [outsideChars_append, hx.after]
    exact List.forall_mem_append.2 ⟨hx.hidden, hy.hidden⟩

/-- A text without quotes in which a character does not stand. -/
theorem of_unquoted (h : Unquoted xs) (hc : ∀ d ∈ xs, Text.foldAscii d ≠ Text.foldAscii c) :
    Hides c xs := by
  constructor
  · exact h.after
  · rwa [h.outsideChars]

/-- An identifier hides every character, since it shows none. -/
theorem quoteIdentifier (c : Char) (name : String) : Hides c (Sql.quoteIdentifier name).toList := by
  constructor
  · exact after_quoteIdentifier name
  · rw [outsideChars_quoteIdentifier]
    exact fun _ h => absurd h List.not_mem_nil

/-- A list of identifiers hides what its separator and its tail hide. -/
theorem intercalate (hsep : Hides c sep.toList) (htail : Hides c tail.toList)
    (names : List String) : Hides c (String.intercalate sep
      (names.map fun name => Sql.quoteIdentifier name ++ tail)).toList := by
  rw [String.toList_intercalate]
  induction names with
  | nil => exact ⟨rfl, fun _ h => absurd h List.not_mem_nil⟩
  | cons name names ih =>
    have hname := (quoteIdentifier c name).append htail
    cases names with
    | nil => simpa using hname
    | cons next names =>
      have hall := (hname.append hsep).append ih
      simpa [List.intercalate_cons_cons] using hall

/-- A word is found behind a text that does not show its first letter. -/
theorem splitAtWord?_eq (h : Hides c xs) (hc : isQuote c = false) (word ys : List Char) :
    splitAtWord? (c :: word) none (xs ++ (c :: word ++ ys)) = some (xs, ys) := by
  have houtside : OpenQuote.outside none c = true := by simp [OpenQuote.outside, hc]
  have hfound : splitAtWord? (c :: word) none (c :: word ++ ys) = some ([], ys) := by
    rw [List.cons_append, splitAtWord?, if_pos houtside, ← List.cons_append,
      Text.dropFolded?_of_folded rfl]
  rw [splitAtWord?_append h.hidden, h.after, hfound]
  simp

end Hides

/-- What is listed stands between the words if what is before the first of them does not show its
first letter, and the list not that of the second. -/
theorem listedNames_eq {c d : Char} {word word' : List Char}
    {opening closing before list rest : String} (hopening : opening.toList = c :: word)
    (hclosing : closing.toList = d :: word') (hc : isQuote c = false) (hd : isQuote d = false)
    (hbefore : Hides c before.toList) (hlist : Hides d list.toList) :
    listedNames opening closing (before ++ opening ++ list ++ closing ++ rest) =
      quotedNames none list.toList := by
  have hbetween : between? opening.toList closing.toList
      (before ++ opening ++ list ++ closing ++ rest).toList = some list.toList := by
    simp only [String.toList_append, List.append_assoc, between?, hopening, hclosing]
    -- the first word is found behind what hides it, the second behind the list
    rw [hbefore.splitAtWord?_eq hc, Option.bind_some]
    dsimp only
    rw [hlist.splitAtWord?_eq hd]
    rfl
  rw [listedNames, hbetween]
  rfl

end Snowbridge.Sql
