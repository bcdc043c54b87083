import Mathlib.Algebra.Group.Defs
import Snowbridge.Proofs.Sql.Quoted

/-!
# Matching parentheses

A text is balanced if its parentheses outside quoted runs match: read from the left, at no point
have more been closed than opened, and at the end as many have been closed as opened. What a text
leaves over is a number of closing parentheses followed by a number of opening ones (`Unmatched`),
and the leftovers of a text come from those of its parts alone (`unmatched_append`). A text is
balanced exactly if nothing is left over (`balanced_iff`).
-/

namespace Snowbridge.Sql

/-- The parentheses outside quoted runs match. -/
def Balanced (cs : List Char) : Prop :=
  (∀ xs, xs <+: cs → (parenthesisCounts xs).2 ≤ (parenthesisCounts xs).1) ∧
    (parenthesisCounts cs).1 = (parenthesisCounts cs).2

/-- Parentheses that find no partner: closing ones, with opening ones after them. -/
@[ext]
structure Unmatched where
  closing : Nat
  opening : Nat
deriving DecidableEq

namespace Unmatched

instance : Zero Unmatched := ⟨⟨0, 0⟩⟩

/-- The opening ones of the left part meet the closing ones of the right part. -/
instance : Add Unmatched :=
  ⟨fun a b => ⟨a.closing + (b.closing - a.opening), b.opening + (a.opening - b.closing)⟩⟩

@[simp] theorem zero_closing : (0 : Unmatched).closing = 0 := rfl

@[simp] theorem zero_opening : (0 : Unmatched).opening = 0 := rfl

@[simp] theorem add_closing (a b : Unmatched) :
    (a + b).closing = a.closing + (b.closing - a.opening) := rfl

@[simp] theorem add_opening (a b : Unmatched) :
    (a + b).opening = b.opening + (a.opening - b.closing) := rfl

/-- Leftovers of texts in a row may be joined in any order. -/
instance : AddMonoid Unmatched where
  add_assoc a b c := by
    ext
    · simp only [add_closing, add_opening]
      omega
    · simp only [add_closing, add_opening]
      omega
  zero_add a := by
    ext
    · simp
    · simp
  add_zero a := by
    ext
    · simp
    · simp
  nsmul := nsmulRec

/-- `n` opening parentheses. -/
def opens (n : Nat) : Unmatched := ⟨0, n⟩

/-- `n` closing parentheses. -/
def closes (n : Nat) : Unmatched := ⟨n, 0⟩

theorem opens_add (m n : Nat) : opens m + opens n = opens (m + n) := by
  ext
  · simp [opens]
  · simp [opens, Nat.add_comm]

theorem closes_add (m n : Nat) : closes m + closes n = closes (m + n) := by
  ext
  · simp [closes]
  · simp [closes]

/-- Parentheses that are opened and closed at once are as good as none. -/
theorem opens_add_closes_of_le {m n : Nat} (h : m ≤ n) : opens m + closes n = closes (n - m) := by
  ext
  · simp [opens, closes]
  · simp only [opens, closes, add_opening]
    omega

/-- What a text leaves over between a pair of parentheses. -/
def enclosed (u : Unmatched) : Unmatched := opens 1 + u + closes 1

@[simp] theorem enclosed_zero : enclosed 0 = 0 := rfl

end Unmatched

/-! ## Leftovers of a text -/

/-- What one character leaves over. -/
def charUnmatched (c : Char) : Unmatched :=
  if c = '(' then .opens 1 else if c = ')' then .closes 1 else 0

/-- What characters leave over, wherever they stand. -/
def bareUnmatched : List Char → Unmatched
  | [] => 0
  | c :: cs => charUnmatched c + bareUnmatched cs

/-- What a text leaves over outside its quoted runs. -/
def unmatched (cs : List Char) : Unmatched := bareUnmatched (outsideChars none cs)

/-- Leftovers of characters in a row come from those of their parts. -/
theorem bareUnmatched_append (xs ys : List Char) :
    bareUnmatched (xs ++ ys) = bareUnmatched xs + bareUnmatched ys := by
  induction xs with
  | nil => simp [bareUnmatched]
  | cons x xs ih => simp only [List.cons_append, bareUnmatched, ih, add_assoc]

/-- The leftovers of a text come from those of its parts, if no run goes over the border. -/
theorem unmatched_append {xs : List Char} (h : OpenQuote.after none xs = none) (ys : List Char) :
    unmatched (xs ++ ys) = unmatched xs + unmatched ys := by
  rw [unmatched, outsideChars_append, bareUnmatched_append, h]
  rfl

/-- Opening parentheses find no partner among themselves. -/
theorem bareUnmatched_replicate_opening (n : Nat) :
    bareUnmatched (List.replicate n '(') = .opens n := by
  induction n with
  | zero => rfl
  | succ n ih =>
    rw [List.replicate_succ, bareUnmatched, ih, charUnmatched, if_pos rfl, Unmatched.opens_add,
      Nat.add_comm]

/-- Closing parentheses find no partner among themselves. -/
theorem bareUnmatched_replicate_closing (n : Nat) :
    bareUnmatched (List.replicate n ')') = .closes n := by
  induction n with
  | zero => rfl
  | succ n ih =>
    rw [List.replicate_succ, bareUnmatched, ih, charUnmatched, if_neg (by decide), if_pos rfl,
      Unmatched.closes_add, Nat.add_comm]

/-- Characters other than parentheses leave nothing over. -/
theorem bareUnmatched_of_no_parenthesis {cs : List Char} (h : ∀ c ∈ cs, c ≠ '(' ∧ c ≠ ')') :
    bareUnmatched cs = 0 := by
  induction cs with
  | nil => rfl
  | cons c cs ih =>
    obtain ⟨ho, hc⟩ := h c List.mem_cons_self
    rw [bareUnmatched, charUnmatched, if_neg ho, if_neg hc, zero_add]
    exact ih fun d hd => h d (List.mem_cons_of_mem c hd)

/-- A text without quotes leaves over what its characters do. -/
theorem Unquoted.unmatched {cs : List Char} (h : Unquoted cs) :
    unmatched cs = bareUnmatched cs := by
  rw [Sql.unmatched, h.outsideChars]

theorem unquoted_replicate {c : Char} (hc : isQuote c = false) (n : Nat) :
    Unquoted (List.replicate n c) := by
  intro d hd
  rw [List.eq_of_mem_replicate hd, hc]

theorem unmatched_replicate_opening (n : Nat) :
    unmatched (List.replicate n '(') = .opens n := by
  rw [(unquoted_replicate (by decide) n).unmatched, bareUnmatched_replicate_opening]

theorem unmatched_replicate_closing (n : Nat) :
    unmatched (List.replicate n ')') = .closes n := by
  rw [(unquoted_replicate (by decide) n).unmatched, bareUnmatched_replicate_closing]

/-! ## Plain texts -/

/-- Neither quotes nor parentheses. -/
def Plain (cs : List Char) : Prop := ∀ c ∈ cs, isQuote c = false ∧ c ≠ '(' ∧ c ≠ ')'

instance (cs : List Char) : Decidable (Plain cs) :=
  List.decidableBAll (fun c => isQuote c = false ∧ c ≠ '(' ∧ c ≠ ')') cs

/-- The characters that no plain text has. -/
def marks : List Char := ['\'', '"', '(', ')']

/-- What is to be shown of each mark is shown of the two quotes and the two parentheses. -/
theorem forall_mem_marks {P : Char → Prop} (hsingle : P '\'') (hdouble : P '"') (hopen : P '(')
    (hclose : P ')') : ∀ d ∈ marks, P d := by
  simp [marks, hsingle, hdouble, hopen, hclose]

namespace Plain

variable {xs ys : List Char}

/-- A text without marks is plain. -/
theorem of_not_mem (h : ∀ d ∈ marks, d ∉ xs) : Plain xs := by
  intro c hc
  have hne : ∀ d ∈ marks, c ≠ d := by
    rintro d hd rfl
    exact h c hd hc
  have hquote : isQuote c = false := by
    simp [isQuote, hne '\'' (by decide), hne '"' (by decide)]
  exact ⟨hquote, hne '(' (by decide), hne ')' (by decide)⟩

theorem unquoted (h : Plain xs) : Unquoted xs := fun c hc => (h c hc).1

theorem append (hx : Plain xs) (hy : Plain ys) : Plain (xs ++ ys) := by
  intro c hc
  rcases List.mem_append.1 hc with hc | hc
  · exact hx c hc
  · exact hy c hc

/-- A plain text leaves nothing over. -/
theorem bareUnmatched (h : Plain xs) : bareUnmatched xs = 0 :=
  bareUnmatched_of_no_parenthesis fun c hc => (h c hc).2

/-- A plain text may stand in front of a text. -/
theorem unmatched_append (h : Plain xs) (ys : List Char) :
    unmatched (xs ++ ys) = unmatched ys := by
  rw [Sql.unmatched_append h.unquoted.after, h.unquoted.unmatched, h.bareUnmatched, zero_add]

/-- A plain text may follow a text, within a run or outside. -/
theorem append_unmatched (h : Plain ys) (xs : List Char) :
    unmatched (xs ++ ys) = unmatched xs := by
  have hrest : Plain (outsideChars (OpenQuote.after none xs) ys) := fun c hc =>
    h c (mem_of_mem_outsideChars hc)
  rw [Sql.unmatched, outsideChars_append, bareUnmatched_append, hrest.bareUnmatched, add_zero]
  rfl

end Plain

/-! ## Texts that close their runs -/

/-- A text that closes every run that it opens, with what it leaves over. -/
structure LeavesOver (cs : List Char) (u : Unmatched) : Prop where
  closed : OpenQuote.after none cs = none
  leftover : unmatched cs = u

namespace LeavesOver

variable {xs ys cs : List Char} {u v : Unmatched}

/-- The leftovers of texts in a row, none of which leaves a run open. -/
theorem append (hx : LeavesOver xs u) (hy : LeavesOver ys v) : LeavesOver (xs ++ ys) (u + v) := by
  constructor
  · rw [OpenQuote.after_append, hx.closed, hy.closed]
  · rw [unmatched_append hx.closed, hx.leftover, hy.leftover]

/-- A text without quotes and parentheses leaves nothing over. -/
theorem plain (h : Plain cs) : LeavesOver cs 0 := by
  constructor
  · exact h.unquoted.after
  · rw [h.unquoted.unmatched, h.bareUnmatched]

theorem opening (n : Nat) : LeavesOver (List.replicate n '(') (.opens n) :=
  ⟨(unquoted_replicate (by decide) n).after, unmatched_replicate_opening n⟩

theorem closing (n : Nat) : LeavesOver (List.replicate n ')') (.closes n) :=
  ⟨(unquoted_replicate (by decide) n).after, unmatched_replicate_closing n⟩

/-- A pair of parentheses around a text. -/
theorem enclose (h : LeavesOver cs u) : LeavesOver ('(' :: (cs ++ [')'])) u.enclosed := by
  have hall := ((opening 1).append h).append (closing 1)
  simpa [Unmatched.enclosed] using hall

/-- An identifier leaves nothing over, whatever parentheses its name holds. -/
theorem quoteIdentifier (name : String) : LeavesOver (Sql.quoteIdentifier name).toList 0 := by
  constructor
  · exact after_quoteIdentifier name
  · rw [unmatched, outsideChars_quoteIdentifier]
    rfl

end LeavesOver

/-- The characters of a list of placeholders. -/
theorem mem_placeholders {n : Nat} {c : Char} (h : c ∈ (placeholders n).toList) :
    c = '?' ∨ c = ',' ∨ c = ' ' := by
  rw [placeholders, String.toList_intercalate, List.map_replicate] at h
  induction n with
  | zero => simp at h
  | succ n ih =>
    cases n with
    | zero => exact Or.inl (by simpa using h)
    | succ n =>
      rw [List.replicate_succ, List.replicate_succ, List.intercalate_cons_cons,
        ← List.replicate_succ] at h
      -- the first placeholder with its separator, or the rest of the list
      rcases List.mem_append.1 h with hfirst | hrest
      · simpa [or_assoc] using hfirst
      · exact ih hrest

/-- A list of placeholders leaves nothing over. -/
theorem LeavesOver.placeholders (n : Nat) : LeavesOver (Sql.placeholders n).toList 0 := by
  apply LeavesOver.plain
  intro c hc
  rcases mem_placeholders hc with rfl | rfl | rfl
  · decide
  · decide
  · decide

/-! ## Balance -/

/-- Opening parentheses and unmatched closing ones are as many as closing and unmatched opening
ones: a matched pair counts on both sides. -/
theorem count_add_unmatched (cs : List Char) :
    cs.count '(' + (bareUnmatched cs).closing = cs.count ')' + (bareUnmatched cs).opening := by
  induction cs with
  | nil => rfl
  | cons c cs ih =>
    -- a parenthesis either finds a partner behind it or is left over itself
    by_cases ho : c = '('
    · subst ho
      simp [bareUnmatched, charUnmatched, Unmatched.opens]
      omega
    · by_cases hc : c = ')'
      · subst hc
        simp [bareUnmatched, charUnmatched, Unmatched.closes]
        omega
      · simpa [bareUnmatched, charUnmatched, ho, hc] using ih

/-- At no point of a text have more than `k` parentheses been closed beyond those opened in it. -/
def ClosesAtMost (k : Nat) (cs : List Char) : Prop :=
  ∀ xs, xs <+: cs → xs.count ')' ≤ xs.count '(' + k

namespace ClosesAtMost

variable {k : Nat} {c : Char} {cs : List Char}

theorem nil : ClosesAtMost k [] := by
  intro xs hxs
  simp [List.prefix_nil.1 hxs]

/-- The empty start of a text never matters, so every start may be taken to hold the first
character. -/
theorem cons_iff : ClosesAtMost k (c :: cs) ↔
    ∀ xs, xs <+: cs → (c :: xs).count ')' ≤ (c :: xs).count '(' + k := by
  constructor
  · intro h xs hxs
    exact h (c :: xs) (List.cons_prefix_cons.2 ⟨rfl, hxs⟩)
  · intro h xs hxs
    cases xs with
    | nil => simp
    | cons d xs =>
      obtain ⟨rfl, htail⟩ := List.cons_prefix_cons.1 hxs
      exact h xs htail

/-- An opening parenthesis gives the rest one more to close. -/
theorem opening_iff : ClosesAtMost k ('(' :: cs) ↔ ClosesAtMost (k + 1) cs := by
  rw [cons_iff]
  simp [ClosesAtMost, Nat.add_comm, Nat.add_left_comm]

/-- A closing parenthesis takes one of those that may be closed. -/
theorem closing_iff : ClosesAtMost k (')' :: cs) ↔ 1 ≤ k ∧ ClosesAtMost (k - 1) cs := by
  rw [cons_iff]
  constructor
  · intro h
    have hpos : 1 ≤ k := by simpa using h [] List.nil_prefix
    refine ⟨hpos, fun xs hxs => ?_⟩
    have hx := h xs hxs
    simp only [List.count_cons_self, List.count_cons_of_ne (show ')' ≠ '(' by decide)] at hx
    omega
  · rintro ⟨hpos, h⟩ xs hxs
    have hx := h xs hxs
    simp only [List.count_cons_self, List.count_cons_of_ne (show ')' ≠ '(' by decide)]
    omega

/-- Another character changes nothing. -/
theorem other_iff (ho : c ≠ '(') (hc : c ≠ ')') : ClosesAtMost k (c :: cs) ↔ ClosesAtMost k cs := by
  rw [cons_iff]
  simp [ClosesAtMost, ho, hc]

end ClosesAtMost

/-- The unmatched closing parentheses of a text are as many as have to be opened in front of it. -/
theorem closesAtMost_iff (cs : List Char) (k : Nat) :
    ClosesAtMost k cs ↔ (bareUnmatched cs).closing ≤ k := by
  -- the bound moves with the depth, so it is general in the induction
  induction cs generalizing k with
  | nil => exact iff_of_true ClosesAtMost.nil (Nat.zero_le k)
  | cons c cs ih =>
    by_cases ho : c = '('
    · subst ho
      rw [ClosesAtMost.opening_iff, ih (k + 1)]
      simp [bareUnmatched, charUnmatched, Unmatched.opens]
    · by_cases hc : c = ')'
      · subst hc
        rw [ClosesAtMost.closing_iff, ih (k - 1)]
        simp only [bareUnmatched, charUnmatched, Unmatched.closes, Unmatched.add_closing]
        simp
        omega
      · rw [ClosesAtMost.other_iff ho hc, ih k]
        simp [bareUnmatched, charUnmatched, ho, hc]

/-- A text is balanced exactly if it leaves nothing over. -/
theorem balanced_iff (cs : List Char) : Balanced cs ↔ unmatched cs = 0 := by
  have hcounts : ∀ xs, parenthesisCounts xs =
      ((outsideChars none xs).count '(', (outsideChars none xs).count ')') := fun _ => rfl
  have hprefix : (∀ xs, xs <+: cs → (parenthesisCounts xs).2 ≤ (parenthesisCounts xs).1) ↔
      ClosesAtMost 0 (outsideChars none cs) := by
    constructor
    · intro h out hout
      obtain ⟨xs, hxs, rfl⟩ := exists_prefix_of_outsideChars hout
      exact h xs hxs
    · intro h xs hxs
      exact h _ (outsideChars_monotone hxs)
  -- no start closes too much if no closing one is left over; the totals agree if no opening one is
  have htotal := count_add_unmatched (outsideChars none cs)
  rw [Balanced, hprefix, closesAtMost_iff, hcounts, unmatched, Unmatched.ext_iff]
  simp only [Unmatched.zero_closing, Unmatched.zero_opening]
  omega

instance (cs : List Char) : Decidable (Balanced cs) := decidable_of_iff _ (balanced_iff cs).symm

end Snowbridge.Sql
