import Snowbridge.Filter.Operator
import Snowbridge.Proofs.Text.Name
import Snowbridge.Sql.Token

/-!
# Brackets in SQL

What is open at a place of a condition: pairs of brackets, choices between their first word and
their last, and ranges up to the conjunction between their bounds. Where nothing is open a condition
may be cut (`cutWhere?`). Tokens that close all that they open may stand between brackets
(`passes?_enclosed`), and a cut is sought past those that hold no place to cut (`cutWhere?_append`).
-/

namespace Snowbridge.Filter

open Sql (Token)

variable {p q : Token → Bool} {t : Token} {ts xs ys left right : List Token} {w w' : String}

/-! ## Words -/

/-- The word of a connective. -/
def Connective.token (κ : Connective) : Token := .word κ.sql

/-- Whether a token is the word of a connective. -/
def Connective.isWord (κ : Connective) (t : Token) : Bool := t.isWord κ.sql

/-- A connective is the word of itself only. -/
theorem isWord_token (κ κ' : Connective) : κ.isWord κ'.token = decide (κ = κ') := by
  cases κ <;> cases κ' <;> decide

/-- A token is one word only, apart from the case of its letters. -/
theorem sameName_of_isWord (h : t.isWord w = true) (h' : t.isWord w' = true) :
    Text.sameName w w' = true := by
  cases t with
  | word name =>
    have hname : Text.sameName name w = true := h
    rw [Text.sameName_comm]
    rw [← Text.sameName_congr hname]
    rwa [Text.sameName_comm]
  | _ => cases h

/-! ## What is open -/

/-- What may be open: a pair of brackets or a choice, or a range that waits for the conjunction
between its bounds. -/
inductive Enclosure where
  | pair
  | range
deriving DecidableEq

variable {s m : List Enclosure}

/-- Whether a token opens a pair of brackets or a choice. -/
def isOpening (t : Token) : Bool :=
  (["(", "[", "\x7b"].any fun s => t == .sign s) || t.isWord "CASE"

/-- Whether a token closes a pair of brackets or a choice. -/
def isClosing (t : Token) : Bool :=
  ([")", "]", "\x7d"].any fun s => t == .sign s) || t.isWord "END"

/-- What is open after a conjunction. One between the bounds of a range belongs to the range. -/
def afterConjunction : List Enclosure → List Enclosure
  | .range :: s => s
  | s => s

/-- What is open after a token, innermost first. -/
def openAfter (s : List Enclosure) (t : Token) : List Enclosure :=
  if isOpening t then .pair :: s
  else if isClosing t then s.tail
  else if t.isWord "BETWEEN" then .range :: s
  else if Connective.and.isWord t then afterConjunction s
  else s

/-- A conjunction between the bounds of a range is so within one more pair, too. -/
theorem afterConjunction_append (s : List Enclosure) :
    afterConjunction (s ++ [.pair]) = afterConjunction s ++ [.pair] := by
  cases s with
  | nil => rfl
  | cons e s => cases e <;> rfl

/-- Within one more pair the same is opened and closed. -/
theorem openAfter_append (h : ¬(s = [] ∧ isClosing t = true)) :
    openAfter (s ++ [.pair]) t = openAfter s t ++ [.pair] := by
  unfold openAfter
  split
  · rfl
  · split
    · next hclosing =>
      have hne : s ≠ [] := fun hs => h ⟨hs, hclosing⟩
      exact List.tail_append_of_ne_nil hne
    · split
      · rfl
      · split
        · exact afterConjunction_append s
        · rfl

/-- Where nothing is open, the word of a connective opens and closes nothing. -/
theorem openAfter_of_isWord {κ : Connective} (h : κ.isWord t = true) :
    openAfter [] t = [] ∧ isClosing t = false := by
  -- a connective is no other word
  have hother : ∀ w, Text.sameName κ.sql w = false → t.isWord w = false := by
    intro w hw
    rw [← Bool.not_eq_true]
    intro ht
    rw [sameName_of_isWord h ht] at hw
    cases hw
  cases t with
  | word name =>
    have hcase := hother "CASE" (by cases κ <;> decide)
    have hend := hother "END" (by cases κ <;> decide)
    have hrange := hother "BETWEEN" (by cases κ <;> decide)
    have hopening : isOpening (.word name) = false := by simp [isOpening, hcase]
    have hclosing : isClosing (.word name) = false := by simp [isClosing, hend]
    refine ⟨?_, hclosing⟩
    simp [openAfter, hopening, hclosing, hrange, afterConjunction]
  | _ => cases h

/-! ## Cuts -/

/-- The tokens before and after the first one that passes a test where nothing is open. -/
def cutWhere? (p : Token → Bool) :
    List Enclosure → List Token → Option (List Token × List Token)
  | _, [] => none
  | s, t :: ts =>
    if s = [] ∧ p t = true then some ([], ts)
    else (cutWhere? p (openAfter s t) ts).map fun (left, right) => (t :: left, right)

/-- What is open after some tokens, unless one of them passes a test where nothing is open. -/
def passes? (p : Token → Bool) : List Enclosure → List Token → Option (List Enclosure)
  | s, [] => some s
  | s, t :: ts => if s = [] ∧ p t = true then none else passes? p (openAfter s t) ts

/-- Both sides of a cut are shorter than the whole, so a reader that cuts comes to an end. -/
theorem length_of_cutWhere? (h : cutWhere? p s ts = some (left, right)) :
    left.length + right.length < ts.length := by
  induction ts generalizing s left with
  | nil => cases h
  | cons t ts ih =>
    rw [cutWhere?] at h
    split at h
    · cases h
      simp
    · obtain ⟨⟨l, r⟩, hlr, heq⟩ := Option.map_eq_some_iff.1 h
      cases heq
      have := ih hlr
      simp only [List.length_cons]
      omega

/-- What is open goes on from one row of tokens to the next. -/
theorem passes?_append (xs ys : List Token) :
    passes? p s (xs ++ ys) = (passes? p s xs).bind fun m => passes? p m ys := by
  induction xs generalizing s with
  | nil => rfl
  | cons t xs ih =>
    rw [List.cons_append, passes?, passes?]
    split
    · rfl
    · exact ih

/-- What is open after some tokens does not depend on the test. -/
theorem passes?_eq (h : passes? p s xs = some m) : m = xs.foldl openAfter s := by
  induction xs generalizing s with
  | nil =>
    cases h
    rfl
  | cons t xs ih =>
    rw [passes?] at h
    split at h
    · cases h
    · exact ih h

/-- A test that fewer tokens pass. -/
theorem passes?_mono (hqp : ∀ t, q t = true → p t = true) (h : passes? p s xs = some m) :
    passes? q s xs = some m := by
  induction xs generalizing s with
  | nil => exact h
  | cons t xs ih =>
    rw [passes?] at h ⊢
    split at h
    · cases h
    · next hp =>
      rw [if_neg fun hq => hp ⟨hq.1, hqp t hq.2⟩]
      exact ih h

/-- A test that a token passes if it passes one of two. -/
theorem passes?_or (hp : passes? p s xs = some m) (hq : passes? q s xs = some m) :
    passes? (fun t => p t || q t) s xs = some m := by
  induction xs generalizing s with
  | nil => exact hp
  | cons t xs ih =>
    rw [passes?] at hp hq ⊢
    split at hp
    · cases hp
    · next hpt =>
      split at hq
      · cases hq
      · next hqt =>
        rw [if_neg]
        · exact ih hp hq
        · rintro ⟨hs, hor⟩
          -- the token would pass one of the two tests
          rcases Bool.or_eq_true_iff.1 hor with hor | hor
          · exact hpt ⟨hs, hor⟩
          · exact hqt ⟨hs, hor⟩

/-- Between brackets there is no place where nothing is open. -/
theorem passes?_enclosed (hp : ∀ t, isClosing t = true → p t = true)
    (h : passes? p s xs = some m) : passes? q (s ++ [.pair]) xs = some (m ++ [.pair]) := by
  induction xs generalizing s with
  | nil =>
    cases h
    rfl
  | cons t xs ih =>
    rw [passes?] at h ⊢
    split at h
    · cases h
    · next hs =>
      -- within the pair something is always open, and what closes it does not occur
      rw [if_neg fun hq => by simp at hq,
        openAfter_append fun hclosing => hs ⟨hclosing.1, hp t hclosing.2⟩]
      exact ih h

/-- A cut is sought past tokens of which none passes the test. -/
theorem cutWhere?_append (h : passes? p s xs = some m) (ys : List Token) :
    cutWhere? p s (xs ++ ys) =
      (cutWhere? p m ys).map fun (left, right) => (xs ++ left, right) := by
  induction xs generalizing s with
  | nil =>
    cases h
    simp
  | cons t xs ih =>
    rw [passes?] at h
    split at h
    · cases h
    · next hs =>
      rw [List.cons_append, cutWhere?, if_neg hs, ih h, Option.map_map]
      rfl

/-- Tokens of which none passes the test are not cut. -/
theorem cutWhere?_eq_none (h : passes? p s xs = some m) : cutWhere? p s xs = none := by
  have hend := cutWhere?_append h []
  rwa [List.append_nil] at hend

/-- A cut stays where it is, whatever follows. -/
theorem cutWhere?_extend (h : cutWhere? p s xs = some (left, right)) (ys : List Token) :
    cutWhere? p s (xs ++ ys) = some (left, right ++ ys) := by
  induction xs generalizing s left with
  | nil => cases h
  | cons t xs ih =>
    rw [cutWhere?] at h
    rw [List.cons_append, cutWhere?]
    split at h
    · next hs =>
      cases h
      rw [if_pos hs]
    · next hs =>
      obtain ⟨⟨l, r⟩, hlr, heq⟩ := Option.map_eq_some_iff.1 h
      cases heq
      rw [if_neg hs, ih hlr]
      rfl

/-- If there is no place to cut, then no token passes the test where nothing is open. -/
theorem passes?_of_cutWhere? (h : cutWhere? p s xs = none) :
    passes? p s xs = some (xs.foldl openAfter s) := by
  induction xs generalizing s with
  | nil => rfl
  | cons t xs ih =>
    rw [cutWhere?] at h
    split at h
    · cases h
    · next hs =>
      rw [passes?, if_neg hs, List.foldl_cons]
      exact ih (Option.map_eq_none_iff.1 h)

/-- A cut stands at a token that passes the test, where nothing is open. -/
theorem exists_of_cutWhere? (h : cutWhere? p s xs = some (left, right)) :
    ∃ t, xs = left ++ t :: right ∧ p t = true ∧ left.foldl openAfter s = [] := by
  induction xs generalizing s left with
  | nil => cases h
  | cons t xs ih =>
    rw [cutWhere?] at h
    split at h
    · next hs =>
      cases h
      exact ⟨t, rfl, hs.2, hs.1⟩
    · obtain ⟨⟨l, r⟩, hlr, heq⟩ := Option.map_eq_some_iff.1 h
      cases heq
      obtain ⟨t', rfl, ht', hopen⟩ := ih hlr
      exact ⟨t', rfl, ht', hopen⟩

/-- Tokens that close one more pair than they open have a place where they do. -/
theorem exists_cut_of_passes? (h : passes? p (s ++ [.pair]) ts = some []) :
    ∃ inner after, cutWhere? isClosing s ts = some (inner, after) := by
  induction ts generalizing s with
  | nil => simp [passes?] at h
  | cons t ts ih =>
    rw [passes?, if_neg fun hp => by simp at hp] at h
    rw [cutWhere?]
    split
    · exact ⟨[], ts, rfl⟩
    · next hs =>
      -- the token closes no pair of the part, so the pair around it stays open
      rw [openAfter_append hs] at h
      obtain ⟨inner, after, hcut⟩ := ih h
      exact ⟨t :: inner, after, by rw [hcut]; rfl⟩

end Snowbridge.Filter
