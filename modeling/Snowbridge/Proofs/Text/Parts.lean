import Snowbridge.Text.Blank
import Snowbridge.Text.Case

/-!
# What is taken off a text

Trimming a text and dropping a word at its head take off characters at its ends. Here is what they
take off, and how both act on a text that is followed by another.
-/

namespace Snowbridge.Text

variable {cs ds rest start : List Char} {c : Char}

/-- A test of all characters of a text goes through the text, not through all that there are. -/
instance decidableForallMem (p : Char → Prop) [DecidablePred p] (cs : List Char) :
    Decidable (∀ c ∈ cs, p c) := List.decidableBAll p cs

/-- A test for some character of a text, likewise. -/
instance decidableExistsMem (p : Char → Prop) [DecidablePred p] (cs : List Char) :
    Decidable (∃ c ∈ cs, p c) := List.decidableBEx p cs

/-! ## Blanks -/

/-- Trimming on the left takes off blanks. -/
theorem exists_blanks_trimLeft (cs : List Char) :
    ∃ xs, cs = xs ++ trimLeft cs ∧ ∀ c ∈ xs, isBlank c = true := by
  refine ⟨cs.takeWhile isBlank, (List.takeWhile_append_dropWhile).symm, ?_⟩
  exact List.all_eq_true.1 List.all_takeWhile

/-- Trimming on the right takes off blanks. -/
theorem exists_blanks_trimRight (cs : List Char) :
    ∃ ys, cs = trimRight cs ++ ys ∧ ∀ c ∈ ys, isBlank c = true := by
  obtain ⟨xs, hxs, hblank⟩ := exists_blanks_trimLeft cs.reverse
  refine ⟨xs.reverse, ?_, fun c hc => hblank c (List.mem_reverse.1 hc)⟩
  have hrev := congrArg List.reverse hxs
  rwa [List.reverse_reverse, List.reverse_append] at hrev

/-- Trimming takes off blanks at both ends. -/
theorem exists_blanks_trim (cs : List Char) :
    ∃ xs ys, cs = xs ++ (trim cs ++ ys) ∧ (∀ c ∈ xs, isBlank c = true) ∧
      ∀ c ∈ ys, isBlank c = true := by
  obtain ⟨xs, hxs, hleft⟩ := exists_blanks_trimLeft cs
  obtain ⟨ys, hys, hright⟩ := exists_blanks_trimRight (trimLeft cs)
  refine ⟨xs, ys, ?_, hleft, hright⟩
  rw [trim, ← hys]
  exact hxs

/-- Trimming keeps every character that is no blank. -/
theorem mem_trim (hc : isBlank c = false) (h : c ∈ cs) : c ∈ trim cs := by
  obtain ⟨xs, ys, hcs, hx, hy⟩ := exists_blanks_trim cs
  have hout : ∀ zs : List Char, (∀ d ∈ zs, isBlank d = true) → c ∉ zs := by
    intro zs hzs hmem
    rw [hzs c hmem] at hc
    cases hc
  rw [hcs, List.mem_append, List.mem_append] at h
  exact (h.resolve_left (hout xs hx)).resolve_right (hout ys hy)

/-- A text that starts with another character than a blank has no blanks to take off on the left. -/
theorem trimLeft_cons (hc : isBlank c = false) (cs : List Char) : trimLeft (c :: cs) = c :: cs := by
  simp [trimLeft, hc]

/-- A text that ends with another character than a blank has no blanks to take off on the right. -/
theorem trimRight_concat (hc : isBlank c = false) (cs : List Char) :
    trimRight (cs ++ [c]) = cs ++ [c] := by
  simp [trimRight, hc]

/-- A run at the end of a text does not reach over another character: the text up to that one
stays. -/
theorem run_concat_append {p : Char → Bool} {d : Char} (hd : p d = false) (front ys : List Char) :
    ((front ++ [d] ++ ys).reverse.dropWhile p).reverse =
        front ++ [d] ++ (ys.reverse.dropWhile p).reverse ∧
      (front ++ [d] ++ ys).reverse.takeWhile p = ys.reverse.takeWhile p := by
  simp only [List.reverse_append, List.reverse_singleton]
  induction ys.reverse with
  | nil => simp [hd]
  | cons e zs ih =>
    cases he : p e with
    | true => simpa [he] using ih
    | false => simp [he]

/-- Trimming on the right stops at the last character that is no blank, so the text up to one
stays. -/
theorem trimRight_concat_append (hc : isBlank c = false) (front ys : List Char) :
    trimRight (front ++ [c] ++ ys) = front ++ [c] ++ trimRight ys :=
  (run_concat_append hc front ys).1

/-- What is left of a text after trimming on the left starts with no blank. -/
theorem isBlank_of_trimLeft_eq_cons (h : trimLeft cs = c :: ds) : isBlank c = false := by
  have hhead := List.head?_dropWhile_not isBlank cs
  rw [show cs.dropWhile isBlank = c :: ds from h] at hhead
  simpa using hhead

/-- What is left of a text after trimming starts with no blank. -/
theorem isBlank_of_trim_eq_cons (h : trim cs = c :: ds) : isBlank c = false := by
  obtain ⟨ys, hys, -⟩ := exists_blanks_trimRight (trimLeft cs)
  rw [← trim, h, List.cons_append] at hys
  exact isBlank_of_trimLeft_eq_cons hys

/-- A text without blanks at its ends stays as it is. -/
theorem trim_eq_self (hhead : ∀ c, cs.head? = some c → isBlank c = false)
    (hlast : ∀ c, cs.getLast? = some c → isBlank c = false) : trim cs = cs := by
  rcases List.eq_nil_or_concat cs with rfl | ⟨ds, c, rfl⟩
  · rfl
  · have hright := trimRight_concat (hlast c (by simp)) ds
    have hleft : trimLeft (ds ++ [c]) = ds ++ [c] := by
      cases ds with
      | nil => exact trimLeft_cons (hhead c rfl) []
      | cons d ds => exact trimLeft_cons (hhead d rfl) (ds ++ [c])
    rw [List.concat_eq_append, trim, hleft, hright]

/-- A text that starts and ends with other characters than blanks stays as it is. -/
theorem trim_eq_self_of_ends {c d : Char} {front tail : List Char} (hstart : cs = c :: tail)
    (hend : cs = front ++ [d]) (hc : isBlank c = false) (hd : isBlank d = false) :
    trim cs = cs := by
  apply trim_eq_self
  · rw [hstart]
    rintro c' ⟨⟩
    exact hc
  · rw [hend, List.getLast?_concat]
    rintro d' ⟨⟩
    exact hd

/-- A first character that is no blank stays the first. -/
theorem exists_trim_eq_cons (hc : isBlank c = false) (cs : List Char) :
    ∃ ds, trim (c :: cs) = c :: ds := by
  obtain ⟨ys, hys, hblank⟩ := exists_blanks_trimRight (c :: cs)
  rw [trim, trimLeft_cons hc]
  cases hright : trimRight (c :: cs) with
  | nil =>
    rw [hright, List.nil_append] at hys
    have hc' := hblank c (hys ▸ List.mem_cons_self)
    rw [hc] at hc'
    cases hc'
  | cons d ds =>
    rw [hright, List.cons_append] at hys
    obtain ⟨rfl, -⟩ := List.cons.inj hys
    exact ⟨ds, rfl⟩

/-- Blanks before a text are taken off no matter what follows it. -/
theorem trimLeft_append_of_eq_cons (h : trimLeft cs = c :: ds) (zs : List Char) :
    trimLeft (cs ++ zs) = c :: (ds ++ zs) := by
  have hc := isBlank_of_trimLeft_eq_cons h
  obtain ⟨xs, hxs, hblank⟩ := exists_blanks_trimLeft cs
  rw [h] at hxs
  rw [hxs, List.append_assoc, trimLeft, List.dropWhile_append_of_pos hblank]
  exact trimLeft_cons hc _

/-- Blanks before a text without blanks at its ends are taken off, and so are those at the end of
what follows it. -/
theorem trim_blanks_append {b : List Char} (hb : ∀ c ∈ b, isBlank c = true) (hne : cs ≠ [])
    (hhead : ∀ c, cs.head? = some c → isBlank c = false)
    (hlast : ∀ c, cs.getLast? = some c → isBlank c = false) (ys : List Char) :
    trim (b ++ (cs ++ ys)) = cs ++ trimRight ys := by
  have hleft : trimLeft (b ++ (cs ++ ys)) = cs ++ ys := by
    obtain ⟨c, ds, rfl⟩ := List.exists_cons_of_ne_nil hne
    rw [trimLeft, List.dropWhile_append_of_pos hb]
    exact trimLeft_cons (hhead c rfl) (ds ++ ys)
  obtain ⟨front, d, rfl⟩ := (List.eq_nil_or_concat cs).resolve_left hne
  rw [List.concat_eq_append] at hleft hlast ⊢
  rw [trim, hleft]
  exact trimRight_concat_append (hlast d List.getLast?_concat) front ys

theorem trimLeft_eq_nil (h : ∀ c ∈ cs, isBlank c = true) : trimLeft cs = [] := by
  rw [trimLeft, ← List.append_nil cs, List.dropWhile_append_of_pos h]
  rfl

theorem trimRight_eq_nil (h : ∀ c ∈ cs, isBlank c = true) : trimRight cs = [] := by
  have hreverse : ∀ c ∈ cs.reverse, isBlank c = true := fun c hc => h c (List.mem_reverse.1 hc)
  rw [trimRight, show cs.reverse.dropWhile isBlank = [] from trimLeft_eq_nil hreverse]
  rfl

/-- Blanks behind a text are taken off on the right. -/
theorem trimRight_append_blanks (hds : ∀ c ∈ ds, isBlank c = true) (cs : List Char) :
    trimRight (cs ++ ds) = trimRight cs := by
  have hreverse : ∀ c ∈ ds.reverse, isBlank c = true :=
    fun c hc => hds c (List.mem_reverse.1 hc)
  rw [trimRight, List.reverse_append, List.dropWhile_append_of_pos hreverse]
  rfl

/-- Blanks at the end are taken off whatever stands before them. -/
theorem trim_append_blanks (hds : ∀ c ∈ ds, isBlank c = true) (cs : List Char) :
    trim (cs ++ ds) = trim cs := by
  cases hleft : trimLeft cs with
  | nil =>
    have hall : trimLeft (cs ++ ds) = trimLeft ds := by
      rw [trimLeft, List.dropWhile_append, show cs.dropWhile isBlank = [] from hleft]
      rfl
    rw [trim, hall, trimLeft_eq_nil hds, trim, hleft]
  | cons c zs =>
    have hright : trimLeft (cs ++ ds) = trimLeft cs ++ ds := by
      rw [trimLeft_append_of_eq_cons hleft, hleft]
      rfl
    rw [trim, hright, trimRight_append_blanks hds, trim]

/-- Blanks at the start are taken off whatever follows them. -/
theorem trim_blanks (hds : ∀ c ∈ ds, isBlank c = true) (cs : List Char) :
    trim (ds ++ cs) = trim cs := by
  rw [trim, trimLeft, List.dropWhile_append_of_pos hds]
  rfl

/-- No blanks are left at the ends. -/
theorem trim_trim (cs : List Char) : trim (trim cs) = trim cs := by
  obtain ⟨xs, ys, hcs, hx, hy⟩ := exists_blanks_trim cs
  calc trim (trim cs) = trim (trim cs ++ ys) := (trim_append_blanks hy (trim cs)).symm
    _ = trim (xs ++ (trim cs ++ ys)) := (trim_blanks hx (trim cs ++ ys)).symm
    _ = trim cs := by rw [← hcs]

/-- What is left of a text after trimming on the right ends with no blank. -/
theorem isBlank_of_getLast?_trimRight (h : (trimRight cs).getLast? = some c) :
    isBlank c = false := by
  rw [trimRight, List.getLast?_reverse] at h
  have hhead := List.head?_dropWhile_not isBlank cs.reverse
  rw [h] at hhead
  simpa using hhead

/-- No blanks are left at the end. -/
theorem trimRight_trimRight (cs : List Char) : trimRight (trimRight cs) = trimRight cs := by
  simp only [trimRight, List.reverse_reverse]
  induction cs.reverse with
  | nil => rfl
  | cons c cs ih =>
    cases hc : isBlank c with
    | true => simpa [hc] using ih
    | false => simp [hc]

/-- Blanks around a text without blanks at its ends are taken off. -/
theorem trim_between_blanks {b b' : List Char} (hb : ∀ c ∈ b, isBlank c = true)
    (hb' : ∀ c ∈ b', isBlank c = true) (hne : cs ≠ [])
    (hhead : ∀ c, cs.head? = some c → isBlank c = false)
    (hlast : ∀ c, cs.getLast? = some c → isBlank c = false) : trim (b ++ (cs ++ b')) = cs := by
  rw [trim_blanks_append hb hne hhead hlast, trimRight_eq_nil hb', List.append_nil]

/-- Trimming takes nothing but blanks, so it does not make a text blank. -/
theorem isBlankText_trimmed (s : String) : isBlankText (trimmed s) = isBlankText s := by
  obtain ⟨xs, ys, hcs, hx, hy⟩ := exists_blanks_trim s.toList
  have hall : s.toList.all isBlank = (xs ++ (trim s.toList ++ ys)).all isBlank :=
    congrArg (List.all · isBlank) hcs
  rw [List.all_append, List.all_append, List.all_eq_true.2 hx, List.all_eq_true.2 hy,
    Bool.true_and, Bool.and_true] at hall
  rw [isBlankText, isBlankText, trimmed, String.toList_ofList, hall]

/-! ## Words -/

/-- What is dropped is the word, up to the case of its letters. -/
theorem exists_word_of_dropFolded? (h : dropFolded? start cs = some rest) :
    ∃ w, cs = w ++ rest ∧ w.map foldAscii = start.map foldAscii := by
  induction start generalizing cs with
  | nil =>
    simp only [dropFolded?, Option.some.injEq] at h
    exact ⟨[], by simp [h], rfl⟩
  | cons p start ih =>
    cases cs with
    | nil => simp [dropFolded?] at h
    | cons c cs =>
      by_cases hpc : foldAscii p = foldAscii c
      · simp only [dropFolded?, hpc, beq_self_eq_true, if_true] at h
        obtain ⟨w, rfl, hw⟩ := ih h
        exact ⟨c :: w, rfl, by simp [hw, hpc]⟩
      · simp [dropFolded?, hpc] at h

/-- A word is dropped no matter what follows the text. -/
theorem dropFolded?_append (h : dropFolded? start cs = some rest) (zs : List Char) :
    dropFolded? start (cs ++ zs) = some (rest ++ zs) := by
  induction start generalizing cs with
  | nil =>
    simp only [dropFolded?, Option.some.injEq] at h
    simp [dropFolded?, h]
  | cons p start ih =>
    cases cs with
    | nil => simp [dropFolded?] at h
    | cons c cs =>
      by_cases hpc : foldAscii p = foldAscii c
      · simp only [dropFolded?, hpc, beq_self_eq_true, if_true] at h
        simpa [dropFolded?, hpc] using ih h
      · simp [dropFolded?, hpc] at h

/-- A character that is no letter is its own folded form. -/
theorem mem_map_foldAscii (hc : foldAscii c = c) (h : c ∈ cs) : c ∈ cs.map foldAscii := by
  rw [← hc]
  exact List.mem_map_of_mem h

/-- A blank is no letter. -/
theorem foldAscii_of_isBlank (h : isBlank c = true) : foldAscii c = c := by
  have hcode : c.toNat ≤ 0x40 ∨ 0x5B ≤ c.toNat := by
    simp only [isBlank, Bool.or_eq_true, Bool.and_eq_true, decide_eq_true_eq, beq_iff_eq] at h
    omega
  unfold foldAscii
  split
  · next hcapital =>
    simp only [Bool.and_eq_true, decide_eq_true_eq, Char.le_def, UInt32.le_iff_toNat_le] at hcapital
    have hlow : 0x41 ≤ c.toNat := hcapital.1
    have hhigh : c.toNat ≤ 0x5A := hcapital.2
    omega
  · rfl

/-- A word in any case of its letters is dropped. -/
theorem dropFolded?_of_folded {w : List Char} (h : w.map foldAscii = start.map foldAscii)
    (rest : List Char) : dropFolded? start (w ++ rest) = some rest := by
  induction start generalizing w with
  | nil =>
    obtain rfl : w = [] := List.map_eq_nil_iff.1 h
    rfl
  | cons p start ih =>
    cases w with
    | nil => cases h
    | cons c w =>
      obtain ⟨hc, htail⟩ := List.cons.inj h
      rw [List.cons_append, dropFolded?, if_pos (beq_iff_eq.2 hc.symm), ih htail]

/-- Blanks before a text that starts with another character are taken off. -/
theorem trimLeft_append_cons {b : List Char} (hb : ∀ c ∈ b, isBlank c = true)
    (hc : isBlank c = false) (cs : List Char) : trimLeft (b ++ c :: cs) = c :: cs := by
  rw [trimLeft, List.dropWhile_append_of_pos hb]
  exact trimLeft_cons hc cs

end Snowbridge.Text
