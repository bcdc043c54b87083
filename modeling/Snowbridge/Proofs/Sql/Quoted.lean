import Snowbridge.Proofs.Text.Parts
import Snowbridge.Sql.Quoted

/-!
# Scans of quoted runs

How a scan from the left goes over a text that is put together from parts. The open quote at the end
of one part is all that the scan of the next part depends on (`outsideChars_append`), a part without
quotes is passed over as it is, and what `quoteIdentifier` writes is one run that shows nothing.
-/

namespace Snowbridge.Sql

namespace OpenQuote

@[simp] theorem after_nil (q : OpenQuote) : after q [] = q := rfl

@[simp] theorem after_cons (q : OpenQuote) (c : Char) (cs : List Char) :
    after q (c :: cs) = after (q.step c) cs := rfl

/-- The scan of a text goes on where that of its first part has ended. -/
theorem after_append (q : OpenQuote) (xs ys : List Char) :
    after q (xs ++ ys) = after (after q xs) ys := by
  simp only [after, List.foldl_append]

/-- Outside every run no quote is open. -/
theorem eq_none_of_outside {q : OpenQuote} {c : Char} (h : q.outside c = true) : q = none := by
  cases q with
  | none => rfl
  | some quote => simp [outside] at h

end OpenQuote

/-! ## Parts of a text -/

@[simp] theorem outsideChars_nil (q : OpenQuote) : outsideChars q [] = [] := rfl

/-- A character that stands outside every run is shown. -/
theorem outsideChars_cons_of_outside {q : OpenQuote} {c : Char} (h : q.outside c = true)
    (cs : List Char) : outsideChars q (c :: cs) = c :: outsideChars (q.step c) cs := by
  rw [outsideChars, if_pos h]

/-- A quote or a character within a run is not shown. -/
theorem outsideChars_cons_of_not_outside {q : OpenQuote} {c : Char} (h : q.outside c = false)
    (cs : List Char) : outsideChars q (c :: cs) = outsideChars (q.step c) cs := by
  rw [outsideChars, if_neg (by rw [h]; decide)]

/-- A property of all characters that are shown, along the text. -/
theorem forall_mem_outsideChars_cons {P : Char → Prop} {q : OpenQuote} {c : Char}
    {cs : List Char} : (∀ d ∈ outsideChars q (c :: cs), P d) ↔
      (q.outside c = true → P c) ∧ ∀ d ∈ outsideChars (q.step c) cs, P d := by
  cases h : q.outside c with
  | true => simp [outsideChars_cons_of_outside h]
  | false => simp [outsideChars_cons_of_not_outside h]

/-- What a text shows is what its parts show, where the scan of each part starts with the open quote
at the end of the part before. -/
theorem outsideChars_append (q : OpenQuote) (xs ys : List Char) :
    outsideChars q (xs ++ ys) = outsideChars q xs ++ outsideChars (q.after xs) ys := by
  induction xs generalizing q with
  | nil => rfl
  | cons x xs ih =>
    simp only [List.cons_append, outsideChars, OpenQuote.after_cons, ih]
    split
    · rfl
    · rfl

/-- The characters outside runs are those of the text, in their order. -/
theorem outsideChars_sublist (q : OpenQuote) (cs : List Char) :
    (outsideChars q cs).Sublist cs := by
  induction cs generalizing q with
  | nil => exact .slnil
  | cons c cs ih =>
    rw [outsideChars]
    split
    · exact (ih _).cons_cons c
    · exact (ih _).cons c

/-- A character that is shown stands in the text. -/
theorem mem_of_mem_outsideChars {q : OpenQuote} {c : Char} {cs : List Char}
    (h : c ∈ outsideChars q cs) : c ∈ cs := (outsideChars_sublist q cs).subset h

/-- The characters outside the runs of the parts of a text are parts of those of the text. -/
theorem outsideChars_monotone {q : OpenQuote} {xs cs : List Char} (h : xs <+: cs) :
    outsideChars q xs <+: outsideChars q cs := by
  obtain ⟨ys, rfl⟩ := h
  rw [outsideChars_append]
  exact List.prefix_append _ _

/-- What stands outside the runs is shown piece by piece: each piece of it belongs to a piece of the
text. -/
theorem exists_prefix_of_outsideChars {q : OpenQuote} {cs out : List Char}
    (h : out <+: outsideChars q cs) : ∃ xs, xs <+: cs ∧ outsideChars q xs = out := by
  induction cs generalizing q out with
  | nil =>
    have hout : out = [] := by simpa using h
    exact ⟨[], List.nil_prefix, hout.symm⟩
  | cons c cs ih =>
    by_cases hc : q.outside c = true
    · cases out with
      | nil => exact ⟨[], List.nil_prefix, rfl⟩
      | cons d out =>
        simp only [outsideChars, hc, if_true] at h
        obtain ⟨rfl, htail⟩ := List.cons_prefix_cons.1 h
        obtain ⟨xs, hxs, rfl⟩ := ih htail
        exact ⟨d :: xs, List.cons_prefix_cons.2 ⟨rfl, hxs⟩, by simp [outsideChars, hc]⟩
    · -- a character within a run shows nothing, so the piece may hold it
      simp only [outsideChars, hc] at h
      obtain ⟨xs, hxs, rfl⟩ := ih h
      exact ⟨c :: xs, List.cons_prefix_cons.2 ⟨rfl, hxs⟩, by simp [outsideChars, hc]⟩

/-- There are two quotes. -/
theorem eq_of_isQuote {c : Char} (h : isQuote c = true) : c = '\'' ∨ c = '"' := by
  simpa [isQuote] using h

/-- A quote is no blank. -/
theorem isBlank_of_isQuote {c : Char} (h : isQuote c = true) : Text.isBlank c = false := by
  rcases eq_of_isQuote h with rfl | rfl <;> decide

/-! ## Texts without quotes -/

/-- No character opens a run. -/
def Unquoted (cs : List Char) : Prop := ∀ c ∈ cs, isQuote c = false

instance (cs : List Char) : Decidable (Unquoted cs) :=
  List.decidableBAll (fun c => isQuote c = false) cs

theorem Unquoted.tail {c : Char} {cs : List Char} (h : Unquoted (c :: cs)) : Unquoted cs :=
  fun d hd => h d (List.mem_cons_of_mem c hd)

theorem Unquoted.step {c : Char} {cs : List Char} (h : Unquoted (c :: cs)) :
    OpenQuote.step none c = none := by
  simp [OpenQuote.step, h c List.mem_cons_self]

/-- A text without quotes leaves no run open. -/
theorem Unquoted.after {cs : List Char} (h : Unquoted cs) : OpenQuote.after none cs = none := by
  induction cs with
  | nil => rfl
  | cons c cs ih => rw [OpenQuote.after_cons, h.step, ih h.tail]

/-- A text without quotes shows all its characters. -/
theorem Unquoted.outsideChars {cs : List Char} (h : Unquoted cs) : outsideChars none cs = cs := by
  induction cs with
  | nil => rfl
  | cons c cs ih =>
    have hc : OpenQuote.outside none c = true := by
      simp [OpenQuote.outside, h c List.mem_cons_self]
    rw [Sql.outsideChars, if_pos hc, h.step, ih h.tail]

/-! ## Written runs -/

/-- The recursion of `doubled`: a quote becomes two and any other character stays. -/
theorem doubled_cons (quote c : Char) (cs : List Char) :
    doubled quote (c :: cs) = (if c = quote then [quote, quote] else [c]) ++ doubled quote cs := by
  by_cases hc : c = quote <;> simp [doubled, hc]

/-- Doubling the quotes of a text does not make it shorter. -/
theorem length_le_doubled (quote : Char) (cs : List Char) :
    cs.length ≤ (doubled quote cs).length := by
  induction cs with
  | nil => exact Nat.le_refl 0
  | cons c cs ih =>
    rw [doubled_cons, List.length_append, List.length_cons, Nat.add_comm]
    refine Nat.add_le_add ?_ ih
    split
    · exact Nat.le_succ 1
    · exact Nat.le_refl 1

/-- A run stays open over all that is written within it. -/
theorem after_doubled {quote : Char} (hq : isQuote quote = true) (cs : List Char) :
    OpenQuote.after (some quote) (doubled quote cs) = some quote := by
  induction cs with
  | nil => rfl
  | cons c cs ih =>
    rw [doubled_cons, OpenQuote.after_append]
    -- the first of two quotes closes the run and the second opens it again
    by_cases hc : c = quote
    · simpa [hc, OpenQuote.step, hq] using ih
    · simpa [hc, OpenQuote.step] using ih

/-- What is written within a run shows nothing. -/
theorem outsideChars_doubled {quote : Char} (hq : isQuote quote = true) (cs : List Char) :
    outsideChars (some quote) (doubled quote cs) = [] := by
  induction cs with
  | nil => rfl
  | cons c cs ih =>
    rw [doubled_cons, outsideChars_append]
    by_cases hc : c = quote
    · simpa [hc, outsideChars, OpenQuote.outside, OpenQuote.step, hq] using ih
    · simpa [hc, outsideChars, OpenQuote.outside, OpenQuote.step] using ih

/-- A quote, a text in which that quote is written twice, and the quote. -/
def quotedRun (quote : Char) (cs : List Char) : List Char := quote :: (doubled quote cs ++ [quote])

/-- After a whole run no quote is open. -/
theorem after_quotedRun {quote : Char} (hq : isQuote quote = true) (cs : List Char) :
    OpenQuote.after none (quotedRun quote cs) = none := by
  have hopen : OpenQuote.step none quote = some quote := by simp [OpenQuote.step, hq]
  rw [quotedRun, OpenQuote.after_cons, hopen, OpenQuote.after_append, after_doubled hq]
  simp [OpenQuote.step]

/-- A run shows no character. -/
theorem outsideChars_quotedRun {quote : Char} (hq : isQuote quote = true) (cs : List Char) :
    outsideChars none (quotedRun quote cs) = [] := by
  have hopen : OpenQuote.step none quote = some quote := by simp [OpenQuote.step, hq]
  have hfirst : OpenQuote.outside none quote = false := by simp [OpenQuote.outside, hq]
  have hlast : OpenQuote.outside (some quote) quote = false := rfl
  -- neither the opening quote nor what is written in the run nor the closing quote is shown
  rw [quotedRun, outsideChars, if_neg (by rw [hfirst]; decide), hopen, outsideChars_append,
    outsideChars_doubled hq, after_doubled hq, outsideChars, if_neg (by rw [hlast]; decide)]
  rfl

/-- A run has no blanks at its ends. -/
theorem trim_quotedRun {quote : Char} (hq : isQuote quote = true) (cs : List Char) :
    Text.trim (quotedRun quote cs) = quotedRun quote cs := by
  have hquote := isBlank_of_isQuote hq
  exact Text.trim_eq_self_of_ends rfl (List.cons_append ..).symm hquote hquote

/-- Another character than the quote is read as it is. -/
theorem undoubled_cons_of_ne {quote c : Char} (hc : c ≠ quote) (cs : List Char) :
    undoubled quote (c :: cs) = c :: undoubled quote cs := by
  cases cs with
  | nil => rfl
  | cons d cs => simp [undoubled, hc]

/-- Two quotes are read as one. -/
theorem undoubled_pair (quote : Char) (cs : List Char) :
    undoubled quote (quote :: quote :: cs) = quote :: undoubled quote cs := by
  simp [undoubled]

/-- What was doubled is written once again. -/
theorem undoubled_doubled (quote : Char) (cs : List Char) :
    undoubled quote (doubled quote cs) = cs := by
  induction cs with
  | nil => rfl
  | cons c cs ih =>
    rw [doubled_cons]
    by_cases hc : c = quote
    · rw [if_pos hc, hc]
      exact (undoubled_pair quote _).trans (congrArg (quote :: ·) ih)
    · rw [if_neg hc]
      exact (undoubled_cons_of_ne hc _).trans (congrArg (c :: ·) ih)

/-- From the left, each quote in a text is followed by a second one. -/
inductive Paired (quote : Char) : List Char → Prop where
  | nil : Paired quote []
  | other {c : Char} {cs : List Char} (hc : c ≠ quote) (h : Paired quote cs) :
      Paired quote (c :: cs)
  | pair {cs : List Char} (h : Paired quote cs) : Paired quote (quote :: quote :: cs)

/-- Where every quote has been doubled, quotes stand in pairs. -/
theorem paired_doubled (quote : Char) (cs : List Char) : Paired quote (doubled quote cs) := by
  induction cs with
  | nil => exact .nil
  | cons c cs ih =>
    rw [doubled_cons]
    by_cases hc : c = quote
    · rw [if_pos hc]
      exact .pair ih
    · rw [if_neg hc]
      exact .other hc ih

/-- What is written once is doubled again exactly if all quotes stood in pairs. -/
theorem doubled_undoubled_iff {quote : Char} {cs : List Char} :
    doubled quote (undoubled quote cs) = cs ↔ Paired quote cs := by
  constructor
  · intro h
    rw [← h]
    exact paired_doubled quote _
  · intro h
    -- along the pairs
    induction h with
    | nil => rfl
    | other hc _ ih =>
      rw [undoubled_cons_of_ne hc, doubled_cons, if_neg hc, ih, List.singleton_append]
    | pair _ ih =>
      rw [undoubled_pair, doubled_cons, if_pos rfl, ih]
      rfl

/-- An identifier is written as one run of double quotes. -/
theorem toList_quoteIdentifier (name : String) :
    (quoteIdentifier name).toList = quotedRun '"' name.toList := by
  simp [quoteIdentifier, quotedRun]

/-- After a written identifier no quote is open. -/
theorem after_quoteIdentifier (name : String) :
    OpenQuote.after none (quoteIdentifier name).toList = none := by
  rw [toList_quoteIdentifier]
  exact after_quotedRun rfl name.toList

/-- A written identifier shows no character outside its run. -/
theorem outsideChars_quoteIdentifier (name : String) :
    outsideChars none (quoteIdentifier name).toList = [] := by
  rw [toList_quoteIdentifier]
  exact outsideChars_quotedRun rfl name.toList

/-- A literal is written as one run of single quotes. -/
theorem toList_quoteLiteral (s : String) : (quoteLiteral s).toList = quotedRun '\'' s.toList := by
  simp [quoteLiteral, escapeLiteral, quotedRun]

end Snowbridge.Sql
