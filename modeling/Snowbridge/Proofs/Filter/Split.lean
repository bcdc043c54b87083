import Snowbridge.Filter.Tree
import Snowbridge.Proofs.Sql.Parenthesis
import Snowbridge.Proofs.Text.Parts

/-!
# Where filters are split

A word of negation, a connective and a pair of parentheses around the whole text each take a filter
apart. Between the parts stand only blanks and one word (`Joins`), so what lies there is plain: it
holds neither quotes nor parentheses (`Cut`).
-/

namespace Snowbridge.Filter

open Sql (LeavesOver OpenQuote Plain)

variable {cs rest left right inside : List Char} {k : Connective} {q : OpenQuote}

/-! ## Words between parts -/

/-- Nothing but blanks. -/
def Blanks (cs : List Char) : Prop := ∀ c ∈ cs, Text.isBlank c = true

/-- A word and another in any case of their letters. -/
def SameWord (w word : List Char) : Prop := w.map Text.foldAscii = word.map Text.foldAscii

/-- A connective between blanks. -/
def Joint (k : Connective) (between : List Char) : Prop :=
  ∃ b w b', between = b ++ (w ++ b') ∧ Blanks b ∧ Blanks b' ∧ ∃ word ∈ k.spellings, SameWord w word

/-- A place where a connective stands between a closing parenthesis outside quoted runs and an
opening one. -/
structure Joins (k : Connective) (q : OpenQuote) (cs left right : List Char) : Prop where
  text : ∃ between, cs = left ++ (between ++ right) ∧ Joint k between
  finish : ∃ front, left = front ++ [')'] ∧ q.after front = none
  start : ∃ tail, right = '(' :: tail

/-- The first character of a connective is no blank. -/
theorem isBlank_of_sameWord {word w : List Char} {c : Char} (hword : word ∈ k.spellings)
    (hw : SameWord (c :: w) word) : Text.isBlank c = false := by
  -- every connective starts with a letter or a sign, in any case of its letters
  have hall : ∀ word ∈ k.spellings,
      ((word.map Text.foldAscii).head?.all (['a', '&', 'o', '|'].contains ·)) = true := by
    cases k <;> decide
  have hfirst : Text.foldAscii c ∈ ['a', '&', 'o', '|'] := by
    have hword' := hall word hword
    rw [← hw] at hword'
    exact List.contains_iff_mem.1 hword'
  cases hblank : Text.isBlank c with
  | false => rfl
  | true =>
    rw [Text.foldAscii_of_isBlank hblank] at hfirst
    simp only [List.mem_cons, List.not_mem_nil, or_false] at hfirst
    rcases hfirst with rfl | rfl | rfl | rfl <;> cases hblank

/-- No connective is empty. -/
theorem ne_nil_of_sameWord {word w : List Char} (hword : word ∈ k.spellings)
    (hw : SameWord w word) : w ≠ [] := by
  rintro rfl
  have hnonempty : ∀ word ∈ k.spellings, word ≠ [] := by
    cases k <;> decide
  exact hnonempty word hword (List.map_eq_nil_iff.1 hw.symm)

/-- The words of connectives are told by their first characters. -/
theorem dropFolded?_spelling {κ : Connective} {w word word' : List Char}
    (hword : word ∈ k.spellings) (hword' : word' ∈ κ.spellings) (hw : SameWord w word)
    (rest : List Char) :
    Text.dropFolded? word' (w ++ rest) = if word' = word then some rest else none := by
  have hall : ∀ word ∈ k.spellings, ∀ word' ∈ κ.spellings, word' ≠ word →
      (word'.map Text.foldAscii).head? ≠ (word.map Text.foldAscii).head? := by
    cases k <;> cases κ <;> decide
  by_cases hsame : word' = word
  · rw [if_pos hsame, hsame]
    exact Text.dropFolded?_of_folded hw rest
  · have hfirst := hall word hword word' hword' hsame
    obtain ⟨c, w, rfl⟩ := List.exists_cons_of_ne_nil (ne_nil_of_sameWord hword hw)
    obtain ⟨p, word', rfl⟩ := List.exists_cons_of_ne_nil
      (ne_nil_of_sameWord hword' (rfl : SameWord word' word'))
    rw [← hw] at hfirst
    have hne : Text.foldAscii p ≠ Text.foldAscii c := fun h => hfirst (congrArg some h)
    rw [if_neg hsame, List.cons_append, Text.dropFolded?, if_neg (by simpa using hne)]

/-- No word stands for two connectives. -/
theorem mem_spellings_iff {κ : Connective} {word : List Char} (hword : word ∈ k.spellings) :
    word ∈ κ.spellings ↔ k = κ := by
  have hall : ∀ word ∈ k.spellings, word ∈ κ.spellings → k = κ := by
    cases k <;> cases κ <;> decide
  constructor
  · exact hall word hword
  · rintro rfl
    exact hword

/-- Blanks before an opening parenthesis are passed over. -/
theorem atOpening?_blanks {b : List Char} (hb : Blanks b) (tail : List Char) :
    atOpening? (b ++ '(' :: tail) = some ('(' :: tail) := by
  rw [atOpening?, Text.trimLeft_append_cons hb (by decide)]
  rfl

/-- The word of negation before an opening parenthesis is found. -/
theorem afterNot?_word {w b : List Char} (hw : SameWord w "NOT".toList) (hb : Blanks b)
    (tail : List Char) : afterNot? (w ++ (b ++ '(' :: tail)) = some ('(' :: tail) := by
  rw [afterNot?, Text.dropFolded?_of_folded hw]
  exact atOpening?_blanks hb tail

/-- A connective before an opening parenthesis is found, and is taken for no other. -/
theorem afterConnective?_joint {κ : Connective} {between : List Char} (h : Joint k between)
    (tail : List Char) : afterConnective? κ (between ++ '(' :: tail) =
      if k = κ then some ('(' :: tail) else none := by
  obtain ⟨b, w, b', rfl, hb, hb', word, hword, hsame⟩ := h
  have hstart : Text.trimLeft (b ++ (w ++ b') ++ '(' :: tail) = w ++ (b' ++ '(' :: tail) := by
    obtain ⟨c, w, rfl⟩ := List.exists_cons_of_ne_nil (ne_nil_of_sameWord hword hsame)
    rw [List.append_assoc, List.append_assoc]
    exact Text.trimLeft_append_cons hb (isBlank_of_sameWord hword hsame) _
  have hopening := atOpening?_blanks hb' tail
  -- of all the words of a connective at most this one stands there
  have hfind : ∀ words ⊆ κ.spellings, (words.findSome? fun word' =>
      (Text.dropFolded? word' (w ++ (b' ++ '(' :: tail))).bind atOpening?) =
        if word ∈ words then some ('(' :: tail) else none := by
    intro words hwords
    induction words with
    | nil => rfl
    | cons word' words ih =>
      obtain ⟨hword', hrest⟩ := List.cons_subset.1 hwords
      rw [List.findSome?_cons, dropFolded?_spelling hword hword' hsame, ih hrest]
      by_cases heq : word' = word
      · simp [heq, hopening]
      · simp [heq, Ne.symm heq]
  rw [afterConnective?, hstart, hfind _ (List.Subset.refl _)]
  simp only [mem_spellings_iff hword]

/-- What is passed over before an opening parenthesis are blanks. -/
theorem exists_of_atOpening? (h : atOpening? cs = some rest) :
    ∃ b, cs = b ++ rest ∧ Blanks b ∧ ∃ tail, rest = '(' :: tail := by
  unfold atOpening? at h
  split at h
  · next r heq =>
    obtain ⟨b, hb, hblank⟩ := Text.exists_blanks_trimLeft cs
    cases h
    rw [heq] at hb
    exact ⟨b, hb, hblank, r, rfl⟩
  · cases h

/-- A word of negation that is found stands before an opening parenthesis. -/
theorem exists_of_afterNot? (h : afterNot? cs = some rest) :
    ∃ w b, cs = w ++ (b ++ rest) ∧ SameWord w "NOT".toList ∧ Blanks b ∧
      ∃ tail, rest = '(' :: tail := by
  obtain ⟨r, hr, ho⟩ := Option.bind_eq_some_iff.1 h
  obtain ⟨w, rfl, hw⟩ := Text.exists_word_of_dropFolded? hr
  obtain ⟨b, rfl, hb, hstart⟩ := exists_of_atOpening? ho
  exact ⟨w, b, rfl, hw, hb, hstart⟩

/-- A connective that is found stands between blanks, before an opening parenthesis. -/
theorem exists_of_afterConnective? (h : afterConnective? k cs = some rest) :
    ∃ between, cs = between ++ rest ∧ Joint k between ∧ ∃ tail, rest = '(' :: tail := by
  obtain ⟨word, hword, hw⟩ := List.exists_of_findSome?_eq_some h
  obtain ⟨r, hr, ho⟩ := Option.bind_eq_some_iff.1 hw
  obtain ⟨w, htext, hsame⟩ := Text.exists_word_of_dropFolded? hr
  obtain ⟨b, hb, hblank⟩ := Text.exists_blanks_trimLeft cs
  obtain ⟨b', rfl, hblank', hstart⟩ := exists_of_atOpening? ho
  refine ⟨b ++ (w ++ b'), ?_, ⟨b, w, b', rfl, hblank, hblank', word, hword, hsame⟩, hstart⟩
  rw [hb, htext, List.append_assoc, List.append_assoc]

/-- A connective splits a text where it joins two parts. -/
theorem joins_of_splitAtConnective? (h : splitAtConnective? k q cs = some (left, right)) :
    Joins k q cs left right := by
  induction cs generalizing q left with
  | nil => simp [splitAtConnective?] at h
  | cons c cs ih =>
    simp only [splitAtConnective?] at h
    split at h
    · next r hr =>
      cases h
      split at hr
      · next hc =>
        obtain ⟨hout, hclosing⟩ := Bool.and_eq_true_iff.1 hc
        obtain rfl := eq_of_beq hclosing
        obtain ⟨between, rfl, hjoint, hstart⟩ := exists_of_afterConnective? hr
        exact ⟨⟨between, rfl, hjoint⟩, ⟨[], rfl, OpenQuote.eq_none_of_outside hout⟩, hstart⟩
      · cases hr
    · -- the place is further on, and this character joins the left part
      obtain ⟨⟨l, r⟩, hlr, heq⟩ := Option.map_eq_some_iff.1 h
      cases heq
      obtain ⟨⟨between, rfl, hjoint⟩, ⟨front, rfl, hfront⟩, hstart⟩ := ih hlr
      exact ⟨⟨between, rfl, hjoint⟩, ⟨c :: front, rfl, hfront⟩, hstart⟩

/-! ## Plain parts -/

/-- Blanks are plain. -/
theorem plain_of_isBlank (h : Blanks cs) : Plain cs := by
  -- no mark is a blank
  have hnone : ∀ d ∈ Sql.marks, Text.isBlank d = false := Sql.forall_mem_marks rfl rfl rfl rfl
  refine Plain.of_not_mem fun d hd hmem => ?_
  have hblank := h d hmem
  rw [hnone d hd] at hblank
  cases hblank

/-- A word in other letter case is as plain as the word. -/
theorem plain_of_folded {start : List Char} (hstart : Plain (start.map Text.foldAscii))
    (h : cs.map Text.foldAscii = start.map Text.foldAscii) : Plain cs := by
  -- marks are their own lower-case forms, and a text that holds one is not plain
  have hfixed : ∀ d ∈ Sql.marks, Text.foldAscii d = d ∧ ¬Plain [d] :=
    Sql.forall_mem_marks (by decide) (by decide) (by decide) (by decide)
  rw [← h] at hstart
  refine Plain.of_not_mem fun d hd hmem => ?_
  obtain ⟨hd', hplain⟩ := hfixed d hd
  refine hplain fun c hc => ?_
  rw [List.mem_singleton.1 hc]
  exact hstart d (Text.mem_map_foldAscii hd' hmem)

theorem plain_spelling {w : List Char} (h : w ∈ k.spellings) : Plain (w.map Text.foldAscii) := by
  have hall : ∀ w ∈ k.spellings, Plain (w.map Text.foldAscii) := by
    cases k <;> decide
  exact hall w h

/-! ## Words before a parenthesis -/

/-- What is left of a text from an opening parenthesis on, after a plain part. -/
structure Opening (cs rest : List Char) : Prop where
  text : ∃ before, cs = before ++ rest ∧ Plain before
  start : ∃ tail, rest = '(' :: tail

theorem opening_of_afterNot? (h : afterNot? cs = some rest) : Opening cs rest := by
  obtain ⟨w, b, rfl, hw, hb, hstart⟩ := exists_of_afterNot? h
  have hword : Plain w := plain_of_folded (by decide) hw
  exact ⟨⟨w ++ b, (List.append_assoc w b rest).symm, hword.append (plain_of_isBlank hb)⟩, hstart⟩

/-- The word of negation is found no matter what follows the text. -/
theorem afterNot?_append (h : afterNot? cs = some rest) (zs : List Char) :
    afterNot? (cs ++ zs) = some (rest ++ zs) := by
  obtain ⟨r, hr, ho⟩ := Option.bind_eq_some_iff.1 h
  refine Option.bind_eq_some_iff.2 ⟨r ++ zs, Text.dropFolded?_append hr zs, ?_⟩
  unfold atOpening? at ho
  split at ho
  · next tail heq =>
    simp only [Option.some.injEq] at ho
    rw [atOpening?, Text.trimLeft_append_of_eq_cons heq, ← ho]
    rfl
  · cases ho

theorem afterNot?_opening (cs : List Char) : afterNot? ('(' :: cs) = none := rfl

/-! ## Connectives -/

/-- How a connective cuts a text: into a part up to a closing parenthesis outside quoted runs and a
part from an opening one on, with a plain part between them. -/
structure Cut (q : OpenQuote) (cs left right : List Char) : Prop where
  text : ∃ between, cs = left ++ (between ++ right) ∧ Plain between
  closed : q.after left = none
  finish : ∃ front, left = front ++ [')']
  start : ∃ tail, right = '(' :: tail

/-- A connective between blanks is plain. -/
theorem plain_of_joint {between : List Char} (h : Joint k between) : Plain between := by
  obtain ⟨b, w, b', rfl, hb, hb', word, hword, hw⟩ := h
  have hplain : Plain w := plain_of_folded (plain_spelling hword) hw
  exact (plain_of_isBlank hb).append (hplain.append (plain_of_isBlank hb'))

/-- Where a connective splits a text, it cuts it. -/
theorem cut_of_splitAtConnective? (h : splitAtConnective? k q cs = some (left, right)) :
    Cut q cs left right := by
  obtain ⟨⟨between, htext, hjoint⟩, ⟨front, hfront, hclosed⟩, hstart⟩ :=
    joins_of_splitAtConnective? h
  refine ⟨⟨between, htext, plain_of_joint hjoint⟩, ?_, ⟨front, hfront⟩, hstart⟩
  rw [hfront, OpenQuote.after_append, hclosed]
  rfl

/-- If no negation starts a text, none starts the left part of a cut. -/
theorem Cut.afterNot?_left (h : Cut q (Text.trim cs) left right)
    (hn : afterNot? (Text.trim cs) = none) : afterNot? (Text.trim left) = none := by
  obtain ⟨between, htext, -⟩ := h.text
  obtain ⟨front, hfront⟩ := h.finish
  -- the left part starts where the trimmed text does and ends with a parenthesis
  have hself : Text.trim left = left := by
    apply Text.trim_eq_self
    · intro c hc
      obtain ⟨tail, rfl⟩ := List.head?_eq_some_iff.1 hc
      exact Text.isBlank_of_trim_eq_cons htext
    · intro c hc
      rw [hfront, List.getLast?_concat, Option.some.injEq] at hc
      rw [← hc]
      decide
  rw [hself]
  -- a negation before the left part would be one before the whole text
  cases hleft : afterNot? left with
  | none => rfl
  | some rest =>
    have hwhole := afterNot?_append hleft (between ++ right)
    rw [← htext, hn] at hwhole
    cases hwhole

/-- No negation starts the right part of a cut. -/
theorem Cut.afterNot?_right (h : Cut q cs left right) : afterNot? (Text.trim right) = none := by
  obtain ⟨tail, rfl⟩ := h.start
  obtain ⟨ds, hds⟩ := Text.exists_trim_eq_cons (show Text.isBlank '(' = false by decide) tail
  rw [hds]
  exact afterNot?_opening ds

/-! ## Groups -/

/-- If the parenthesis `d + 1` levels up closes at the end of a text, then what stands before that
end closes the `d` levels below it and leaves nothing else over. -/
theorem closes_of_closesAtEnd {d : Nat} (h : closesAtEnd q (d + 1) cs = true) :
    ∃ xs, cs = xs ++ [')'] ∧ q.after xs = none ∧
      Sql.bareUnmatched (Sql.outsideChars q xs) = .closes d := by
  -- the depth stays free in the induction, since every parenthesis on the way moves it
  induction cs generalizing q d with
  | nil => simp [closesAtEnd] at h
  | cons c cs ih =>
    by_cases hout : q.outside c = true
    · by_cases hopen : c = '('
      · subst hopen
        have hdeeper : closesAtEnd (q.step '(') ((d + 1 : Nat) + 1) cs = true := by
          simpa [closesAtEnd, hout] using h
        obtain ⟨xs, rfl, hxs, hleft⟩ := ih hdeeper
        refine ⟨'(' :: xs, rfl, hxs, ?_⟩
        rw [Sql.outsideChars, if_pos hout, Sql.bareUnmatched, hleft]
        show Sql.Unmatched.opens 1 + .closes (d + 1) = .closes d
        exact Sql.Unmatched.opens_add_closes_of_le (by omega)
      · by_cases hclose : c = ')'
        · subst hclose
          cases d with
          | zero =>
            -- this is the parenthesis that is sought, so the text must end with it
            have hend : cs = [] := by simpa [closesAtEnd, hout] using h
            rw [hend]
            exact ⟨[], rfl, OpenQuote.eq_none_of_outside hout, rfl⟩
          | succ d =>
            have hne : (d : Int) + 1 ≠ 0 := by omega
            have hhigher : closesAtEnd (q.step ')') (d + 1) cs = true := by
              simpa [closesAtEnd, hout, hne] using h
            obtain ⟨xs, rfl, hxs, hleft⟩ := ih hhigher
            refine ⟨')' :: xs, rfl, hxs, ?_⟩
            rw [Sql.outsideChars, if_pos hout, Sql.bareUnmatched, hleft]
            show Sql.Unmatched.closes 1 + .closes d = .closes (d + 1)
            rw [Sql.Unmatched.closes_add, Nat.add_comm]
        · have hsame : closesAtEnd (q.step c) (d + 1) cs = true := by
            simpa [closesAtEnd, hopen, hclose] using h
          obtain ⟨xs, rfl, hxs, hleft⟩ := ih hsame
          refine ⟨c :: xs, rfl, hxs, ?_⟩
          rw [Sql.outsideChars, if_pos hout, Sql.bareUnmatched, hleft, Sql.charUnmatched,
            if_neg hopen, if_neg hclose, zero_add]
    · have hsame : closesAtEnd (q.step c) (d + 1) cs = true := by
        simpa [closesAtEnd, hout] using h
      obtain ⟨xs, rfl, hxs, hleft⟩ := ih hsame
      refine ⟨c :: xs, rfl, hxs, ?_⟩
      rw [Sql.outsideChars, if_neg hout, hleft]

/-- A group is a text without leftovers between a pair of parentheses. -/
theorem leavesOver_of_insideGroup? (h : insideGroup? cs = some inside) :
    LeavesOver inside 0 ∧ cs = '(' :: (inside ++ [')']) := by
  unfold insideGroup? at h
  split at h
  · next r =>
    split at h
    · next hends =>
      -- the first parenthesis is one level up, and closes at the end
      have hclose : closesAtEnd none ((0 : Nat) + 1) r = true := by
        simpa [closesAtEnd, OpenQuote.outside, OpenQuote.step, Sql.isQuote]
          using (Bool.and_eq_true_iff.1 hends).2
      obtain ⟨xs, rfl, hxs, hleft⟩ := closes_of_closesAtEnd hclose
      rw [List.dropLast_concat, Option.some.injEq] at h
      rw [← h]
      exact ⟨⟨hxs, hleft⟩, rfl⟩
    · cases h
  · cases h

end Snowbridge.Filter
