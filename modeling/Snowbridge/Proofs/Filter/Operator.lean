import Snowbridge.Filter.Literal
import Snowbridge.Proofs.Sql.Search

/-!
# Operators behind fields

The operator of a comparison is sought in its whole text. Here the text starts with a name, which no
operator can start in, and ends with quoted literals, which hide what they hold. So the operator
depends only on the sign between them (`Operator.find?_between`).
-/

namespace Snowbridge.Filter

open Sql (OpenQuote)

/-! ## Characters of names -/

section NameChars

variable {c d : Char}

/-- What holds of the characters of names is checked one by one. -/
theorem forall_isNameChar {P : Char → Prop}
    (h : ∀ n < 128, isNameChar (Char.ofNat n) = true → P (Char.ofNat n))
    (hc : isNameChar c = true) : P c := by
  -- letters, digits and `_` are ASCII, so there are few of them to check
  have hcode : c.toNat < 128 := by
    unfold isNameChar Char.isAlphanum Char.isAlpha Char.isUpper Char.isLower Char.isDigit at hc
    simp only [Bool.or_eq_true, Bool.and_eq_true, decide_eq_true_eq, beq_iff_eq,
      UInt32.le_iff_toNat_le] at hc
    rcases hc with ((hc | hc) | hc) | rfl
    · exact Nat.lt_of_le_of_lt hc.2 (by decide)
    · exact Nat.lt_of_le_of_lt hc.2 (by decide)
    · exact Nat.lt_of_le_of_lt hc.2 (by decide)
    · decide
  have hchar := h c.toNat hcode
  rw [Char.ofNat_toNat] at hchar
  exact hchar hc

/-- The lower-case form of a character of names is one, too. -/
theorem isNameChar_foldAscii (hc : isNameChar c = true) : isNameChar (Text.foldAscii c) = true :=
  forall_isNameChar (P := fun c => isNameChar (Text.foldAscii c) = true) (by decide) hc

/-- The characters of a field that stands for itself: neither blanks, quotes and parentheses nor
signs of comparison. -/
def IsWordChar (c : Char) : Prop :=
  Text.isBlank c = false ∧ Sql.isQuote c = false ∧ c ∉ ['(', ')', '<', '>', '=', '!']

instance (c : Char) : Decidable (IsWordChar c) :=
  inferInstanceAs (Decidable (Text.isBlank c = false ∧ Sql.isQuote c = false ∧
    c ∉ ['(', ')', '<', '>', '=', '!']))

/-- Letters, digits and `_` may stand in a field. -/
theorem isWordChar_of_isNameChar (hc : isNameChar c = true) : IsWordChar c :=
  forall_isNameChar (P := IsWordChar) (by decide) hc

/-- Only letters have another form in lower case. -/
theorem isNameChar_of_foldAscii_ne (h : Text.foldAscii c ≠ c) : isNameChar c = true := by
  by_cases hcapital : ('A' ≤ c && c ≤ 'Z') = true
  · have hupper : c.isUpper = true := by
      unfold Char.isUpper
      simpa [Char.le_def] using hcapital
    unfold isNameChar Char.isAlphanum Char.isAlpha
    simp [hupper]
  · exact absurd (by rw [Text.foldAscii, if_neg hcapital]) h

/-- A field has no character in common with what holds neither letters nor other characters of
fields, whatever their case. -/
theorem foldAscii_ne_of_isWordChar (hc : IsWordChar c) (hd : ¬IsWordChar d) :
    Text.foldAscii c ≠ Text.foldAscii d := by
  have hfixed : Text.foldAscii d = d := by
    by_cases hne : Text.foldAscii d = d
    · exact hne
    · exact absurd (isWordChar_of_isNameChar (isNameChar_of_foldAscii_ne hne)) hd
  rw [hfixed]
  rintro rfl
  -- the character would be that of a field itself, or in lower case
  by_cases hfold : Text.foldAscii c = c
  · rw [hfold] at hd
    exact hd hc
  · have hname := isNameChar_foldAscii (isNameChar_of_foldAscii_ne hfold)
    exact hd (isWordChar_of_isNameChar hname)

end NameChars

namespace Operator

/-! ## Tokens -/

/-- A token starts with a character that no field holds, and none of its characters is a quote. -/
theorem exists_of_mem_tokens {t : String × Operator} (ht : t ∈ tokens) :
    ∃ c word, t.1.toList = c :: word ∧ ¬IsWordChar c ∧
      ∀ quote, Sql.isQuote quote = true →
        Text.foldAscii quote ∉ t.1.toList.map Text.foldAscii := by
  -- by the table of tokens
  have hall : ∀ t ∈ tokens, (t.1.toList.head?.any fun c => !decide (IsWordChar c)) = true ∧
      Text.foldAscii '\'' ∉ t.1.toList.map Text.foldAscii ∧
        Text.foldAscii '"' ∉ t.1.toList.map Text.foldAscii := by
    decide
  obtain ⟨hfirst, hsingle, hdouble⟩ := hall t ht
  obtain ⟨c, hc, hown⟩ := (Option.any_eq_true _ _).1 hfirst
  obtain ⟨word, hword⟩ := List.head?_eq_some_iff.1 hc
  refine ⟨c, word, hword, by simpa using hown, fun quote hquote => ?_⟩
  rcases Sql.eq_of_isQuote hquote with rfl | rfl
  · exact hsingle
  · exact hdouble

/-- No operator is found in a text. -/
def Conceals (q : OpenQuote) (cs : List Char) : Prop :=
  ∀ t ∈ tokens, Sql.splitAtWord? t.1.toList q cs = none

instance (q : OpenQuote) (cs : List Char) : Decidable (Conceals q cs) :=
  inferInstanceAs (Decidable (∀ t ∈ tokens, Sql.splitAtWord? t.1.toList q cs = none))

/-- No operator is found in an empty text. -/
theorem conceals_nil (q : OpenQuote) : Conceals q [] := fun _ _ => rfl

/-- What stands within quotes conceals every operator. -/
theorem Conceals.append {q : OpenQuote} {xs ys : List Char} (hxs : Sql.outsideChars q xs = [])
    (h : Conceals (q.after xs) ys) : Conceals q (xs ++ ys) := by
  intro t ht
  obtain ⟨c, word, hword, -, -⟩ := exists_of_mem_tokens ht
  have hrest := h t ht
  rw [hword] at hrest ⊢
  rw [Sql.splitAtWord?_append (by rw [hxs]; exact fun d hd => nomatch hd), hrest]
  rfl

/-- Before a quote an operator is sought without regard to what follows, if nothing is found
there. -/
theorem splitAtWord?_quote {t : String × Operator} (ht : t ∈ tokens) {quote : Char}
    (hquote : Sql.isQuote quote = true) {xs ys : List Char}
    (hxs : OpenQuote.after none xs = none) (hys : Conceals (some quote) ys) :
    Sql.splitAtWord? t.1.toList none (xs ++ quote :: ys) =
      (Sql.splitAtWord? t.1.toList none xs).map fun (b, r) => (b, r ++ quote :: ys) := by
  obtain ⟨c, word, hword, -, hnone⟩ := exists_of_mem_tokens ht
  have hopen : OpenQuote.step none quote = some quote := by simp [OpenQuote.step, hquote]
  refine Sql.splitAtWord?_border (hnone quote hquote)
    (by rw [hword]; exact List.cons_ne_nil c word) ?_
  rw [hxs, hopen]
  exact hys t ht

/-- A text that conceals every operator may be followed by a run that does so. -/
theorem conceals_quote {quote : Char} (hquote : Sql.isQuote quote = true) {xs ys : List Char}
    (hxs : OpenQuote.after none xs = none) (h : Conceals none xs)
    (hys : Conceals (some quote) ys) : Conceals none (xs ++ quote :: ys) := by
  intro t ht
  rw [splitAtWord?_quote ht hquote hxs hys, h t ht]
  rfl

/-- The rest of a quoted run conceals every operator. -/
theorem conceals_run {quote : Char} (hquote : Sql.isQuote quote = true) (text : List Char)
    {ys : List Char} (h : Conceals none ys) :
    Conceals (some quote) (Sql.doubled quote text ++ quote :: ys) := by
  have hclosed : OpenQuote.after (some quote) [quote] = none := by simp [OpenQuote.step]
  have hrest : Conceals (some quote) ([quote] ++ ys) := by
    refine .append ?_ (by rw [hclosed]; exact h)
    rw [Sql.outsideChars_cons_of_not_outside rfl]
    rfl
  refine .append (Sql.outsideChars_doubled hquote _) ?_
  rw [Sql.after_doubled hquote]
  exact hrest

/-- Blanks, parentheses and the letters of the word of negation, with which alone no operator is
written. -/
def IsIdle (c : Char) : Prop :=
  Text.isBlank c = true ∨ Text.foldAscii c ∈ ['(', ')', 'n', 'o', 't']

/-- A token holds a character that is not idle. -/
theorem exists_not_isIdle {t : String × Operator} (ht : t ∈ tokens) {w : List Char}
    (hw : w.map Text.foldAscii = t.1.toList.map Text.foldAscii) : ∃ c ∈ w, ¬IsIdle c := by
  -- by the table of tokens
  have hall : ∀ t ∈ tokens, ∃ c ∈ t.1.toList.map Text.foldAscii,
      Text.isBlank c = false ∧ c ∉ ['(', ')', 'n', 'o', 't'] := by decide
  obtain ⟨c, hc, hblank, hown⟩ := hall t ht
  rw [← hw] at hc
  obtain ⟨d, hd, rfl⟩ := List.mem_map.1 hc
  refine ⟨d, hd, ?_⟩
  rintro (hd' | hd')
  · rw [Text.foldAscii_of_isBlank hd', hd'] at hblank
    cases hblank
  · exact hown hd'

/-- A text of idle characters conceals every operator. -/
theorem conceals_idle {cs : List Char} (h : ∀ c ∈ cs, IsIdle c) : Conceals none cs := by
  intro t ht
  cases hplace : Sql.splitAtWord? t.1.toList none cs with
  | none => rfl
  | some found =>
    obtain ⟨before, rest⟩ := found
    obtain ⟨w, rfl, hw⟩ := Sql.exists_of_splitAtWord? hplace
    obtain ⟨c, hc, hidle⟩ := exists_not_isIdle ht hw
    exact absurd (h c (List.mem_append_right _ (List.mem_append_left _ hc))) hidle

/-! ## Between a name and literals -/

/-- What follows an operator without being looked at: nothing, or a text from a quote on in which no
operator is found. -/
def Hidden (cs : List Char) : Prop := cs = [] ∨ ∃ ys, cs = '\'' :: ys ∧ Conceals (some '\'') ys

/-- The operator between a field and what hides every operator is that of the sign there. -/
theorem find?_between_of_forall {name sign cs : List Char} (hname : ∀ c ∈ name, IsWordChar c)
    (hcs : ∀ t ∈ tokens, Sql.splitAtWord? t.1.toList none (sign ++ cs) =
      (Sql.splitAtWord? t.1.toList none sign).map fun (b, r) => (b, r ++ cs)) :
    find? (name ++ (sign ++ cs)) = (find? sign).map fun found =>
      { found with before := name ++ found.before, after := found.after ++ cs } := by
  -- no token starts within the name, and what hides operators holds none
  have hplace : ∀ t ∈ tokens, Sql.splitAtWord? t.1.toList none (name ++ (sign ++ cs)) =
      (Sql.splitAtWord? t.1.toList none sign).map fun (b, r) => (name ++ b, r ++ cs) := by
    intro t ht
    have hunquoted : Sql.Unquoted name := fun c hc => (hname c hc).2.1
    have hrest := hcs t ht
    obtain ⟨c, word, hword, hfirst, -⟩ := exists_of_mem_tokens ht
    rw [hword] at hrest ⊢
    have hpast : ∀ d ∈ Sql.outsideChars none name, Text.foldAscii d ≠ Text.foldAscii c :=
      fun d hd => foldAscii_ne_of_isWordChar (hname d (Sql.mem_of_mem_outsideChars hd)) hfirst
    rw [Sql.splitAtWord?_append hpast, hunquoted.after, hrest, Option.map_map]
    rfl
  -- the operators are tried in turn, and each finds its place or none on both sides alike
  have hall : ∀ ts ⊆ tokens, (ts.findSome? fun t =>
      (Sql.splitAtWord? t.1.toList none (name ++ (sign ++ cs))).map fun p =>
        (⟨t.2, t.1, p.1, p.2⟩ : OperatorMatch)) =
      (ts.findSome? fun t => (Sql.splitAtWord? t.1.toList none sign).map fun p =>
        (⟨t.2, t.1, p.1, p.2⟩ : OperatorMatch)).map fun found =>
          { found with before := name ++ found.before, after := found.after ++ cs } := by
    intro ts hts
    induction ts with
    | nil => rfl
    | cons t ts ih =>
      obtain ⟨ht, hrest⟩ := List.cons_subset.1 hts
      simp only [List.findSome?_cons, ih hrest, hplace t ht]
      cases Sql.splitAtWord? t.1.toList none sign <;> rfl
  exact hall tokens (List.Subset.refl _)

/-- The operator between a name and literals is that of the sign there. -/
theorem find?_between {name sign cs : List Char} (hname : ∀ c ∈ name, IsWordChar c)
    (hsign : Sql.Unquoted sign) (hcs : Hidden cs) :
    find? (name ++ (sign ++ cs)) = (find? sign).map fun found =>
      { found with before := name ++ found.before, after := found.after ++ cs } := by
  refine find?_between_of_forall hname ?_
  intro t ht
  rcases hcs with rfl | ⟨ys, rfl, hys⟩
  · simp
  · exact splitAtWord?_quote ht rfl hsign.after hys

end Operator

end Snowbridge.Filter
