import Snowbridge.Proofs.Filter.Operator
import Snowbridge.Proofs.Filter.Split
import Snowbridge.Proofs.Filter.Tree
import Snowbridge.Proofs.Sql.Quoted

/-!
# Scans past closed parts

The scans that take a filter apart look at parentheses outside quoted runs only. A part that closes
none is passed over, and of a run of closing parentheses only the last one counts for a connective,
and only its length for a group. A name is never taken for a word of negation, and what follows it
and its operator is scanned as if it stood alone (`Lead`).
-/

namespace Snowbridge.Filter

open Sql (OpenQuote)

variable {k : Connective} {q : OpenQuote} {xs : List Char}

/-! ## Connectives -/

/-- A connective is sought past a text that closes no parenthesis. -/
theorem splitAtConnective?_append (h : ∀ c ∈ Sql.outsideChars q xs, c ≠ ')') (ys : List Char) :
    splitAtConnective? k q (xs ++ ys) =
      (splitAtConnective? k (q.after xs) ys).map fun (l, r) => (xs ++ l, r) := by
  induction xs generalizing q with
  | nil => simp
  | cons c xs ih =>
    obtain ⟨hfirst, hrest⟩ := Sql.forall_mem_outsideChars_cons.1 h
    -- a connective is sought only behind a closing parenthesis outside every run
    have hhere : (q.outside c && c == ')') = false := by
      rw [Bool.and_eq_false_imp]
      exact fun hout => beq_false_of_ne (hfirst hout)
    rw [List.cons_append, splitAtConnective?, hhere, ih hrest, OpenQuote.after_cons]
    simp only [Bool.false_eq_true, if_false, Option.map_map]
    rfl

/-- Where the text ends there is no connective. -/
theorem afterConnective?_nil : afterConnective? k [] = none := by
  cases k <;> rfl

/-- A closing parenthesis is no connective. -/
theorem afterConnective?_closing (cs : List Char) : afterConnective? k (')' :: cs) = none := by
  cases k <;> rfl

/-- What may stand at the end of a part: closing parentheses and blanks. -/
def IsBack (cs : List Char) : Prop := ∀ c ∈ cs, c = ')' ∨ Text.isBlank c = true

theorem IsBack.tail {c : Char} {cs : List Char} (h : IsBack (c :: cs)) : IsBack cs :=
  fun d hd => h d (List.mem_cons_of_mem c hd)

/-- A run of closing parentheses may stand at the end of a part. -/
theorem isBack_replicate (n : Nat) : IsBack (List.replicate n ')') :=
  fun _ hc => .inl (List.eq_of_mem_replicate hc)

/-- A blank is neither a quote nor a parenthesis. -/
theorem plain_blank {c : Char} (h : Text.isBlank c = true) :
    Sql.isQuote c = false ∧ c ≠ '(' ∧ c ≠ ')' :=
  plain_of_isBlank (List.forall_mem_singleton.2 h) c List.mem_cons_self

/-- Nothing but closing parentheses is the last character. -/
def EndsClosed (cs : List Char) : Prop := ∀ c, cs.getLast? = some c → c = ')'

theorem EndsClosed.tail {c : Char} {cs : List Char} (h : EndsClosed (c :: cs)) :
    EndsClosed cs := by
  intro d hd
  cases cs with
  | nil => cases hd
  | cons e cs => exact h d (by rw [List.getLast?_cons_cons]; exact hd)

/-- A run of closing parentheses ends with one. -/
theorem endsClosed_replicate (n : Nat) : EndsClosed (List.replicate n ')') :=
  fun _ hc => List.eq_of_mem_replicate (List.mem_of_getLast? hc)

/-- A text that is not empty and ends with nothing else ends with a closing parenthesis. -/
theorem EndsClosed.exists_concat {cs : List Char} (h : EndsClosed cs) (hne : cs ≠ []) :
    ∃ front, cs = front ++ [')'] := by
  obtain ⟨front, c, rfl⟩ := (List.eq_nil_or_concat cs).resolve_left hne
  rw [List.concat_eq_append] at h ⊢
  rw [h c List.getLast?_concat]
  exact ⟨front, rfl⟩

/-- A connective does not stand before a closing parenthesis. -/
theorem afterConnective?_back {back : List Char} (h : IsBack back) (hend : EndsClosed back)
    (hne : back ≠ []) (ys : List Char) : afterConnective? k (back ++ ys) = none := by
  induction back with
  | nil => exact absurd rfl hne
  | cons c back ih =>
    rcases h c List.mem_cons_self with rfl | hblank
    · exact afterConnective?_closing _
    -- a blank is not the last character, so a parenthesis follows
    · have hne' : back ≠ [] := by
        rintro rfl
        exact (plain_blank hblank).2.2 (hend c rfl)
      have hstart : Text.trimLeft (c :: (back ++ ys)) = Text.trimLeft (back ++ ys) := by
        rw [Text.trimLeft, List.dropWhile_cons, if_pos hblank]
        rfl
      rw [List.cons_append, afterConnective?, hstart]
      exact ih h.tail hend.tail hne'

/-- Of the closing parentheses at the end of a part only the last may stand before a connective. -/
theorem splitAtConnective?_back {back : List Char} (h : IsBack back) (hend : EndsClosed back)
    (hne : back ≠ []) (ys : List Char) :
    splitAtConnective? k none (back ++ ys) =
      match afterConnective? k ys with
      | some right => some (back, right)
      | none => (splitAtConnective? k none ys).map fun (l, r) => (back ++ l, r) := by
  induction back with
  | nil => exact absurd rfl hne
  | cons c back ih =>
    have hstep : OpenQuote.step none c = none := by
      rcases h c List.mem_cons_self with rfl | hblank
      · rfl
      · simp [OpenQuote.step, (plain_blank hblank).1]
    rw [List.cons_append, splitAtConnective?, hstep]
    cases back with
    | nil =>
      obtain rfl : c = ')' := hend c rfl
      rfl
    | cons d back =>
      -- behind this character stands a closing parenthesis, and no connective
      have hclosing := afterConnective?_back (k := k) h.tail hend.tail (List.cons_ne_nil d back) ys
      rw [hclosing, ite_self, ih h.tail hend.tail (List.cons_ne_nil d back)]
      cases afterConnective? k ys with
      | some right => rfl
      | none =>
        simp only [Option.map_map]
        rfl

/-- Of a run of closing parentheses only the last may stand before a connective. -/
theorem splitAtConnective?_closings (n : Nat) (ys : List Char) :
    splitAtConnective? k none (List.replicate (n + 1) ')' ++ ys) =
      match afterConnective? k ys with
      | some right => some (List.replicate (n + 1) ')', right)
      | none => (splitAtConnective? k none ys).map fun (l, r) =>
          (List.replicate (n + 1) ')' ++ l, r) := by
  have hne : List.replicate (n + 1) ')' ≠ [] := List.cons_ne_nil _ _
  exact splitAtConnective?_back (isBack_replicate (n + 1)) (endsClosed_replicate (n + 1)) hne ys

/-! ## Groups -/

/-- A parenthesis that closes at the end of a text is sought past a part that closes none. -/
theorem closesAtEnd_append {d : Int} (h : ∀ c ∈ Sql.outsideChars q xs, c ≠ ')') (ys : List Char) :
    closesAtEnd q d (xs ++ ys) =
      closesAtEnd (q.after xs) (d + (Sql.outsideChars q xs).count '(') ys := by
  -- the depth stays free in the induction, since every opening parenthesis raises it
  induction xs generalizing q d with
  | nil => simp
  | cons c xs ih =>
    obtain ⟨hfirst, hrest⟩ := Sql.forall_mem_outsideChars_cons.1 h
    rw [List.cons_append, closesAtEnd, OpenQuote.after_cons]
    cases hout : q.outside c with
    | false =>
      simp only [Sql.outsideChars_cons_of_not_outside hout, Bool.false_and, Bool.false_eq_true,
        if_false]
      exact ih hrest
    | true =>
      have hclosing : (c == ')') = false := beq_false_of_ne (hfirst hout)
      rw [Sql.outsideChars_cons_of_outside hout]
      cases hopening : c == '(' with
      | true =>
        obtain rfl := eq_of_beq hopening
        simp only [Bool.and_self, if_true, List.count_cons_self, ih hrest]
        push_cast
        rw [Int.add_assoc, Int.add_comm 1]
      | false =>
        have hne : c ≠ '(' := ne_of_beq_false hopening
        simp only [hclosing, Bool.and_false, Bool.false_eq_true, if_false, ih hrest,
          List.count_cons_of_ne hne]

/-- The end of a part closes the outermost parenthesis with its last one if it closes as many as
they are deep. -/
theorem closesAtEnd_back {back : List Char} (h : IsBack back) (hend : EndsClosed back) (d : Nat) :
    closesAtEnd none (d + 1 : Nat) back = decide (back.count ')' = d + 1) := by
  induction back generalizing d with
  | nil => rfl
  | cons c back ih =>
    rcases h c List.mem_cons_self with rfl | hblank
    · have hout : OpenQuote.outside none ')' = true := rfl
      have hstep : OpenQuote.step none ')' = none := rfl
      have hopening : (')' == '(') = false := rfl
      rw [closesAtEnd, hout, hopening, hstep, List.count_cons_self]
      cases d with
      | zero =>
        -- the outermost parenthesis closes here, so the end must be reached
        cases back with
        | nil => rfl
        | cons e back =>
          have hcount : 0 < (e :: back).count ')' := by
            obtain ⟨front, hfront⟩ := hend.tail.exists_concat (List.cons_ne_nil e back)
            rw [hfront]
            exact List.count_pos_iff.2 (List.mem_append_right front List.mem_cons_self)
          have hfalse : (decide ((e :: back).count ')' + 1 = 0 + 1)) = false :=
            decide_eq_false (by omega)
          rw [hfalse]
          rfl
      | succ d =>
        have hless : ((d + 1 + 1 : Nat) : Int) - 1 = (d + 1 : Nat) := by omega
        have hdeep : (((d + 1 : Nat) : Int) == 0) = false := beq_false_of_ne (by omega)
        simp only [Bool.and_false, Bool.false_eq_true, if_false, Bool.true_and, beq_self_eq_true,
          if_true, hless, hdeep, ih h.tail hend.tail, Nat.add_right_cancel_iff]
    · obtain ⟨hquote, hopening, hclosing⟩ := plain_blank hblank
      have hstep : OpenQuote.step none c = none := by simp [OpenQuote.step, hquote]
      rw [closesAtEnd, hstep, beq_false_of_ne hopening, beq_false_of_ne hclosing,
        List.count_cons_of_ne hclosing]
      simp only [Bool.and_false, Bool.false_eq_true, if_false]
      exact ih h.tail hend.tail d

/-- A run of closing parentheses closes the outermost one at its end if it is as long as they are
deep. -/
theorem closesAtEnd_closings (n d : Nat) :
    closesAtEnd none (d + 1 : Nat) (List.replicate n ')') = decide (n = d + 1) := by
  rw [closesAtEnd_back (isBack_replicate n) (endsClosed_replicate n), List.count_replicate_self]

/-! ## Runs at the end -/

/-- A run at the end of a text does not reach over another character. -/
theorem splitTrailing_concat_append {c d : Char} (hd : d ≠ c) (ds ys : List Char) :
    splitTrailing c (ds ++ [d] ++ ys) =
      (ds ++ [d] ++ (splitTrailing c ys).1, (splitTrailing c ys).2) := by
  have hstop : (d == c) = false := beq_false_of_ne hd
  obtain ⟨hfront, hrun⟩ := Text.run_concat_append (p := (· == c)) hstop ds ys
  rw [splitTrailing, hfront, hrun]
  rfl

/-- A run is told from the character before it. -/
theorem splitTrailing_replicate {c d : Char} (hd : d ≠ c) (ds : List Char) (n : Nat) :
    splitTrailing c (ds ++ [d] ++ List.replicate n c) = (ds ++ [d], n) := by
  rw [splitTrailing_concat_append hd]
  simp [splitTrailing]

/-! ## Words of negation -/

/-- A text that starts with a character of its own holds no opening parenthesis after blanks. -/
theorem atOpening?_cons {c : Char} (hblank : Text.isBlank c = false) (hc : c ≠ '(')
    (cs : List Char) : atOpening? (c :: cs) = none := by
  have hstart : Text.trimLeft (c :: cs) = c :: cs := by
    rw [Text.trimLeft, List.dropWhile_cons, hblank]
    rfl
  rw [atOpening?, hstart]
  split
  · next heq => exact absurd (List.cons.inj heq).1 hc
  · rfl

/-- A name is no word before an opening parenthesis, unless that follows the name. -/
theorem afterWord?_name {word name : List Char} {c : Char} {cs : List Char}
    (hword : ' ' ∉ word.map Text.foldAscii) (hname : ∀ c ∈ name, IsWordChar c)
    (hblank : Text.isBlank c = false) (hc : c ≠ '(') :
    (Text.dropFolded? word (name ++ ' ' :: c :: cs)).bind atOpening? = none := by
  induction word generalizing name with
  | nil =>
    cases name with
    | nil => exact atOpening?_cons hblank hc cs
    | cons d name =>
      -- the name goes on behind the word
      obtain ⟨hown, -, hmark⟩ := hname d List.mem_cons_self
      exact atOpening?_cons hown (ne_of_mem_of_not_mem List.mem_cons_self hmark).symm _
  | cons p word ih =>
    obtain ⟨hp, hrest⟩ : ' ' ≠ Text.foldAscii p ∧ ' ' ∉ word.map Text.foldAscii := by
      rwa [List.map_cons, List.mem_cons, not_or] at hword
    cases name with
    | nil =>
      -- the name ends before the word does
      have hfold : Text.foldAscii ' ' = ' ' := rfl
      simp [Text.dropFolded?, hfold, hp.symm]
    | cons d name =>
      rw [List.cons_append, Text.dropFolded?]
      split
      · exact ih hrest fun e he => hname e (List.mem_cons_of_mem d he)
      · rfl

/-- A name is not negated. -/
theorem beforeNot?_name {name : List Char} (h : ∀ c ∈ name, IsWordChar c) :
    beforeNot? name = none := by
  simp only [beforeNot?]
  split
  · next hcut =>
    -- the word of negation starts with a blank, which a name does not hold
    obtain ⟨-, hword⟩ := Bool.and_eq_true_iff.1 hcut
    have hblank : Text.foldAscii ' ' ∈ (name.drop (name.length - 4)).map Text.foldAscii := by
      rw [eq_of_beq hword]
      decide
    obtain ⟨c, hc, hfold⟩ := List.mem_map.1 hblank
    exact absurd hfold (foldAscii_ne_of_isWordChar (h c (List.mem_of_mem_drop hc)) (by decide))
  · rfl

/-- The start of a comparison: a name, and the sign of an operator, which holds no quotes. -/
structure Lead where
  name : List Char
  sign : List Char
  nonempty : name ≠ []
  plain : ∀ c ∈ name, IsWordChar c
  unquoted : Sql.Unquoted sign

namespace Lead

variable (l : Lead)

theorem unquoted_name : Sql.Unquoted l.name := fun c hc => (l.plain c hc).2.1

/-- The quote that is open after a comparison depends on what follows its start. -/
theorem after_append (cs : List Char) :
    OpenQuote.after none (l.name ++ (l.sign ++ cs)) = OpenQuote.after none cs := by
  rw [OpenQuote.after_append, l.unquoted_name.after, OpenQuote.after_append, l.unquoted.after]

/-- A comparison shows its name, its sign and what the rest shows. -/
theorem outsideChars_append (cs : List Char) : Sql.outsideChars none (l.name ++ (l.sign ++ cs)) =
    l.name ++ (l.sign ++ Sql.outsideChars none cs) := by
  rw [Sql.outsideChars_append, l.unquoted_name.outsideChars, l.unquoted_name.after,
    Sql.outsideChars_append, l.unquoted.outsideChars, l.unquoted.after]

/-- A comparison starts with a character of its name. -/
theorem exists_append_eq_cons (cs : List Char) :
    ∃ c ds, l.name ++ (l.sign ++ cs) = c :: ds ∧ IsWordChar c := by
  obtain ⟨c, name, hname⟩ := List.exists_cons_of_ne_nil l.nonempty
  refine ⟨c, name ++ (l.sign ++ cs), by rw [hname]; rfl, l.plain c ?_⟩
  rw [hname]
  exact List.mem_cons_self

/-- Blanks between a name and its operator do not belong to the name. -/
theorem trim_name {b : List Char} (hb : ∀ c ∈ b, Text.isBlank c = true) :
    Text.trim (l.name ++ b) = l.name := by
  refine Text.trim_between_blanks (b := []) (List.forall_mem_nil _) hb l.nonempty ?_ ?_
  · exact fun c hc => (l.plain c (List.mem_of_mem_head? hc)).1
  · exact fun c hc => (l.plain c (List.mem_of_mem_getLast? hc)).1

/-- No other character than those of names stands in a name. -/
theorem not_mem_name {c : Char} (hc : ¬IsWordChar c) : c ∉ l.name :=
  fun hmem => hc (l.plain c hmem)

end Lead

end Snowbridge.Filter
