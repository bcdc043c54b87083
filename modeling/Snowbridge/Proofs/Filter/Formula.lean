import Snowbridge.Proofs.Chain
import Snowbridge.Proofs.Filter.Chunk
import Snowbridge.Sql.Expression

/-!
# Formulas

Filters as they are meant to be written: tests, negations of parts, and parts with connectives
between them, where a part is a formula in parentheses with blanks wherever they may stand. Since a
filter is split at its connectives no matter how deep they lie, what is left for each test is a
chunk with the parentheses, blanks and words of negation that stand between the connectives beside
it (`Formula.chunks`). The formula binds the texts of its literals exactly if all of these chunks
are legible (`Formula.binds_of_legible`, `Formula.legible_of_binds`), which depends on more than the
part that a test stands in.
-/

namespace Snowbridge.Filter

open Sql (OpenQuote)

variable {k : Context} {κ : Connective} {params : List Value}

/-! ## Texts -/

/-- A run of blanks. -/
structure Gap where
  text : List Char
  blank : Blanks text

/-- The word of negation in any case of its letters, with the blanks behind it. -/
structure Negation where
  word : List Char
  gap : Gap
  known : SameWord word "NOT".toList

/-- A connective between blanks. -/
structure Junction where
  connective : Connective
  text : List Char
  joint : Joint connective text

mutual

/-- A test, a negation, or parts with connectives between them. -/
inductive Formula (k : Context) where
  | test (t : Test k)
  | not (n : Negation) (p : Part k)
  | row (r : Row k)

/-- A formula in parentheses, with blanks beside them. -/
inductive Part (k : Context) where
  | enclosed (before : Gap) (f : Formula k) (after : Gap)

/-- One part or more. -/
inductive Row (k : Context) where
  | one (p : Part k)
  | more (p : Part k) (j : Junction) (r : Row k)

end

mutual

/-- The text of a formula. -/
def Formula.source : Formula k → List Char
  | .test t => t.source
  | .not n p => n.word ++ (n.gap.text ++ p.source)
  | .row r => r.source

/-- The text of a part. -/
def Part.source : Part k → List Char
  | .enclosed before f after => '(' :: (before.text ++ (f.source ++ (after.text ++ [')'])))

/-- The text of a row. -/
def Row.source : Row k → List Char
  | .one p => p.source
  | .more p j r => p.source ++ (j.text ++ r.source)

end

mutual

/-- The tests of a formula from left to right. -/
def Formula.tests : Formula k → List (Test k)
  | .test t => [t]
  | .not _ p => p.tests
  | .row r => r.tests

/-- The tests of a part from left to right. -/
def Part.tests : Part k → List (Test k)
  | .enclosed _ f _ => f.tests

/-- The tests of a row from left to right. -/
def Row.tests : Row k → List (Test k)
  | .one p => p.tests
  | .more p _ r => p.tests ++ r.tests

end

/-- The texts of the literals of a formula from left to right, with the wildcards of their
operators. -/
def Formula.values (f : Formula k) : List Value := f.tests.map Test.value

/-! ## Chunks of formulas -/

/-- What stands before a formula, back to the last connective. -/
structure Front where
  text : List Char
  isFront : IsFront text

/-- What stands behind a formula, up to the next connective. -/
structure Back where
  text : List Char
  isBack : IsBack text

/-- Nothing before a formula. -/
def Front.none : Front := ⟨[], .nil⟩

/-- Nothing behind a formula. -/
def Back.none : Back := ⟨[], fun _ h => nomatch h⟩

/-- The start of a part behind a front. -/
def Front.enter (front : Front) (before : Gap) : Front where
  text := front.text ++ '(' :: before.text
  isFront := front.isFront.append (.opening (isFront_blanks before.blank))

/-- The start of a negated part behind a front. -/
def Front.negate (front : Front) (n : Negation) (before : Gap) : Front where
  text := front.text ++ (n.word ++ (n.gap.text ++ '(' :: before.text))
  isFront := front.isFront.append (.not n.known n.gap.blank (isFront_blanks before.blank))

/-- The end of a part before a back. -/
def Back.leave (back : Back) (after : Gap) : Back where
  text := after.text ++ ')' :: back.text
  isBack := by
    intro c hc
    rcases List.mem_append.1 hc with hc | hc
    · exact .inr (after.blank c hc)
    · rcases List.mem_cons.1 hc with rfl | hc
      · exact .inl rfl
      · exact back.isBack c hc

theorem Front.text_enter (front : Front) (before : Gap) :
    (front.enter before).text = front.text ++ '(' :: before.text := rfl

theorem Front.text_negate (front : Front) (n : Negation) (before : Gap) :
    (front.negate n before).text =
      front.text ++ (n.word ++ (n.gap.text ++ '(' :: before.text)) := rfl

theorem Back.text_leave (back : Back) (after : Gap) :
    (back.leave after).text = after.text ++ ')' :: back.text := rfl

/-- Chunks with connectives between them. -/
abbrev Chunks (k : Context) := Chain (Chunk k) Junction

mutual

/-- The chunks of a formula between a front and a back. -/
def Formula.chunks (front : Front) (back : Back) : Formula k → Chunks k
  | .test t => .last ⟨front.text, t, back.text, front.isFront, back.isBack⟩
  | .not n (.enclosed before f after) => f.chunks (front.negate n before) (back.leave after)
  | .row r => r.chunks front back

/-- The chunks of a row between a front and a back. -/
def Row.chunks (front : Front) (back : Back) : Row k → Chunks k
  | .one (.enclosed before f after) => f.chunks (front.enter before) (back.leave after)
  | .more (.enclosed before f after) j r =>
    (f.chunks (front.enter before) (Back.none.leave after)).join j (r.chunks Front.none back)

end

/-- The text of chunks. -/
def Chunks.source (s : Chunks k) : List Char := s.text Chunk.source Junction.text

/-- Formulas whose chunks are all legible. A test on its own is, and the word that negates a whole
filter is taken off before its chunks are read. -/
def Formula.Legible : Formula k → Prop
  | .test _ => True
  | .not _ p => ∀ c ∈ ((Row.one p).chunks Front.none Back.none).items, c.Legible
  | .row r => ∀ c ∈ (r.chunks Front.none Back.none).items, c.Legible

instance (f : Formula k) : Decidable f.Legible :=
  match f with
  | .test _ => .isTrue trivial
  | .not _ p => List.decidableBAll Chunk.Legible ((Row.one p).chunks Front.none Back.none).items
  | .row r => List.decidableBAll Chunk.Legible (r.chunks Front.none Back.none).items

mutual

/-- The chunks of a formula are its text again, between what stands before it and behind it. -/
theorem Formula.source_chunks (f : Formula k) (front : Front) (back : Back) :
    (f.chunks front back).source = front.text ++ (f.source ++ back.text) := by
  match f with
  | .test t => rfl
  | .not n (.enclosed before f after) =>
    rw [Formula.chunks, f.source_chunks]
    simp [Front.text_negate, Back.text_leave, Formula.source, Part.source]
  | .row r =>
    rw [Formula.chunks, r.source_chunks]
    rfl

/-- The chunks of a row are its text again, likewise. -/
theorem Row.source_chunks (r : Row k) (front : Front) (back : Back) :
    (r.chunks front back).source = front.text ++ (r.source ++ back.text) := by
  match r with
  | .one (.enclosed before f after) =>
    rw [Row.chunks, f.source_chunks]
    simp [Front.text_enter, Back.text_leave, Row.source, Part.source]
  | .more (.enclosed before f after) j r =>
    have hleft := f.source_chunks (front.enter before) (Back.none.leave after)
    have hright := r.source_chunks Front.none back
    rw [Chunks.source] at hleft hright ⊢
    rw [Row.chunks, Chain.text_join, hleft, hright]
    simp [Front.text_enter, Front.none, Back.text_leave, Back.none, Row.source, Part.source]

end

mutual

/-- Each test of a formula has one chunk, in their order. -/
theorem Formula.tests_chunks (f : Formula k) (front : Front) (back : Back) :
    (f.chunks front back).items.map Chunk.test = f.tests := by
  match f with
  | .test t => rfl
  | .not n (.enclosed before f after) => exact f.tests_chunks _ _
  | .row r => exact r.tests_chunks _ _

/-- Each test of a row has one chunk, in their order. -/
theorem Row.tests_chunks (r : Row k) (front : Front) (back : Back) :
    (r.chunks front back).items.map Chunk.test = r.tests := by
  match r with
  | .one (.enclosed before f after) => exact f.tests_chunks _ _
  | .more (.enclosed before f after) j r =>
    rw [Row.chunks, Chain.items_join, List.map_append, f.tests_chunks, r.tests_chunks]
    rfl

end

/-! ## Parentheses at the ends -/

/-- A front that starts with a parenthesis, if with anything. -/
def Front.Opens (front : Front) : Prop := front.text = [] ∨ ∃ cs, front.text = '(' :: cs

/-- A back that ends with a parenthesis, if with anything. -/
def Back.Closes (back : Back) : Prop := back.text = [] ∨ ∃ cs, back.text = cs ++ [')']

/-- Behind an opening parenthesis a front starts with one. -/
theorem Front.Opens.exists_enter {front : Front} (h : front.Opens) (before : Gap) :
    ∃ cs, (front.enter before).text = '(' :: cs := by
  rcases h with h | ⟨cs, h⟩
  · exact ⟨before.text, by rw [text_enter, h]; rfl⟩
  · exact ⟨cs ++ '(' :: before.text, by rw [text_enter, h]; rfl⟩

/-- Before a closing parenthesis a back ends with one. -/
theorem Back.Closes.exists_leave {back : Back} (h : back.Closes) (after : Gap) :
    ∃ cs, (back.leave after).text = cs ++ [')'] := by
  rcases h with h | ⟨cs, h⟩
  · exact ⟨after.text, by rw [text_leave, h]⟩
  · exact ⟨after.text ++ ')' :: cs, by rw [text_leave, h]; simp⟩

mutual

/-- Between parentheses all chunks of a formula start and end with one. -/
theorem Formula.enclosed (f : Formula k) {front : Front} {back : Back}
    (hfront : ∃ cs, front.text = '(' :: cs) (hback : ∃ cs, back.text = cs ++ [')']) :
    ∀ c ∈ (f.chunks front back).items, c.Enclosed := by
  match f with
  | .test t =>
    intro c hc
    rw [List.mem_singleton.1 hc]
    exact ⟨hfront, hback⟩
  | .not n (.enclosed before f after) =>
    apply f.enclosed _ (Back.Closes.exists_leave (.inr hback) after)
    -- the word of negation stands behind the parenthesis of the front
    obtain ⟨cs, hcs⟩ := hfront
    exact ⟨_, by rw [Front.text_negate, hcs]; rfl⟩
  | .row r => exact r.enclosed (.inr hfront) (.inr hback)

/-- All chunks of a row start and end with a parenthesis. -/
theorem Row.enclosed (r : Row k) {front : Front} {back : Back} (hfront : front.Opens)
    (hback : back.Closes) : ∀ c ∈ (r.chunks front back).items, c.Enclosed := by
  match r with
  | .one (.enclosed before f after) =>
    exact f.enclosed (hfront.exists_enter before) (hback.exists_leave after)
  | .more (.enclosed before f after) j r =>
    intro c hc
    rw [Row.chunks, Chain.items_join, List.mem_append] at hc
    -- the connective stands between two parentheses
    rcases hc with hc | hc
    · exact f.enclosed (hfront.exists_enter before) (Back.Closes.exists_leave (.inl rfl) after) c hc
    · exact r.enclosed (.inl rfl) hback c hc

end

/-! ## Splits -/

namespace Chunks

/-- A row of enclosed chunks starts with an opening parenthesis. -/
theorem exists_source_eq_cons (s : Chunks k) (hs : ∀ c ∈ s.items, c.Enclosed) :
    ∃ cs, s.source = '(' :: cs := by
  cases s with
  | last c =>
    obtain ⟨cs, hfront⟩ := (hs c List.mem_cons_self).start
    exact ⟨_, by rw [source, Chain.text, Chunk.source, hfront]; rfl⟩
  | more c j rest =>
    obtain ⟨cs, hfront⟩ := (hs c List.mem_cons_self).start
    exact ⟨_, by rw [source, Chain.text, Chunk.source, hfront]; rfl⟩

/-- A row of enclosed chunks ends with a closing parenthesis. -/
theorem exists_source_eq_concat (s : Chunks k) (hs : ∀ c ∈ s.items, c.Enclosed) :
    ∃ cs, s.source = cs ++ [')'] := by
  induction s with
  | last c =>
    obtain ⟨cs, hback⟩ := (hs c List.mem_cons_self).finish
    refine ⟨c.front ++ (c.test.source ++ cs), ?_⟩
    rw [source, Chain.text, Chunk.source, hback]
    simp only [List.append_assoc]
  | more c j rest ih =>
    obtain ⟨cs, hrest⟩ := ih fun d hd => hs d (List.mem_cons_of_mem c hd)
    refine ⟨c.source ++ (j.text ++ cs), ?_⟩
    rw [source] at hrest
    rw [source, Chain.text, hrest]
    simp only [List.append_assoc]

/-- A row of enclosed chunks has no blanks at its ends. -/
theorem trim_source (s : Chunks k) (hs : ∀ c ∈ s.items, c.Enclosed) :
    Text.trim s.source = s.source := by
  obtain ⟨cs, hstart⟩ := s.exists_source_eq_cons hs
  obtain ⟨ds, hend⟩ := s.exists_source_eq_concat hs
  exact Text.trim_eq_self_of_ends hstart hend (by decide) (by decide)

/-- Chunks are split at the first of their connectives that is sought. -/
theorem splitAtConnective?_source (κ : Connective) (s : Chunks k)
    (hs : ∀ c ∈ s.items, c.Enclosed) : splitAtConnective? κ none s.source =
      (s.splitAt? fun j => j.connective = κ).map fun (left, _, right) =>
        (Chunks.source left, Chunks.source right) := by
  induction s with
  | last c => exact c.splitAtConnective?_source (hs c List.mem_cons_self).endsClosed
  | more c j rest ih =>
    have hc := hs c List.mem_cons_self
    have hrest : ∀ d ∈ rest.items, d.Enclosed := fun d hd => hs d (List.mem_cons_of_mem c hd)
    have hne : c.back ≠ [] := by
      obtain ⟨cs, hback⟩ := hc.finish
      rw [hback]
      exact List.append_ne_nil_of_right_ne_nil cs (List.cons_ne_nil _ _)
    obtain ⟨cs, hopening⟩ := exists_source_eq_cons rest hrest
    have hsource : source (.more c j rest) = c.source ++ (j.text ++ source rest) := rfl
    rw [hsource, c.splitAtConnective?_source_append hc.endsClosed hne, hopening,
      afterConnective?_joint j.joint, ← hopening, Chain.splitAt?]
    -- this connective is the one that is sought, or the search goes on behind it
    by_cases hj : j.connective = κ
    · simp only [hj, if_true, decide_true, Option.map_some]
      rfl
    · -- the place is sought further on, behind this connective
      have hplain := plain_of_joint j.joint
      have hunquoted : Sql.Unquoted j.text := fun d hd => (hplain d hd).1
      have hclosing : ∀ d ∈ Sql.outsideChars none j.text, d ≠ ')' :=
        fun d hd => (hplain d (Sql.mem_of_mem_outsideChars hd)).2.2
      simp only [hj, if_false, decide_false, Bool.false_eq_true]
      rw [splitAtConnective?_append hclosing, hunquoted.after, ih hrest]
      simp only [Option.map_map]
      rfl

/-! ## Values of chunks -/

/-- Values that chunks bind one after another. -/
def BindsAll (k : Context) : List (Chunk k) → List Value → Prop
  | [], params => params = []
  | c :: cs, params =>
    ∃ ps qs, Binds k c.source ps ∧ BindsAll k cs qs ∧ params = ps ++ qs

/-- Chunks in a row bind what each of two halves of the row does. -/
theorem bindsAll_append {cs ds : List (Chunk k)} : BindsAll k (cs ++ ds) params ↔
    ∃ ps qs, BindsAll k cs ps ∧ BindsAll k ds qs ∧ params = ps ++ qs := by
  induction cs generalizing params with
  | nil =>
    constructor
    · exact fun h => ⟨[], params, rfl, h, rfl⟩
    · rintro ⟨ps, qs, rfl, h, rfl⟩
      exact h
  | cons c cs ih =>
    constructor
    -- the values are cut where the halves meet
    · rintro ⟨ps, qs, hc, hrest, rfl⟩
      obtain ⟨qs', rs, hcs, hds, rfl⟩ := ih.1 hrest
      exact ⟨ps ++ qs', rs, ⟨ps, qs', hc, hcs, rfl⟩, hds, (List.append_assoc ps qs' rs).symm⟩
    · rintro ⟨ps', rs, ⟨ps, qs, hc, hcs, rfl⟩, hds, rfl⟩
      exact ⟨ps, qs ++ rs, hc, ih.2 ⟨qs, rs, hcs, hds, rfl⟩, List.append_assoc ps qs rs⟩

/-- Chunks bind what each of them does, wherever their text is split first. -/
theorem binds_iff (s : Chunks k) (hs : ∀ c ∈ s.items, c.Enclosed) :
    Binds k s.source params ↔ BindsAll k s.items params := by
  induction hn : s.links.length using Nat.strongRecOn generalizing s params with
  | ind n ih =>
    have htrim := s.trim_source hs
    have hnot : afterNot? (Text.trim s.source) = none := by
      obtain ⟨cs, hstart⟩ := s.exists_source_eq_cons hs
      rw [htrim, hstart]
      rfl
    have hplace : ∀ κ, splitAtConnective? κ none (Text.trim s.source) =
        (s.splitAt? fun j => j.connective = κ).map fun (left, _, right) =>
          (source left, source right) := by
      intro κ
      rw [htrim, s.splitAtConnective?_source κ hs]
    -- both sides of a split have fewer connectives, wherever the place is
    have hjoin : ∀ {κ left j right},
        (s.splitAt? fun j => j.connective = κ) = some (left, j, right) →
        (κ = .or → (s.splitAt? fun j => j.connective = .and) = none) →
        (Binds k s.source params ↔ BindsAll k s.items params) := by
      intro κ left j right hsplit hearlier
      obtain ⟨-, rfl⟩ := Chain.eq_join_of_splitAt? hsplit
      rw [Chain.items_join] at hs ⊢
      rw [Chain.links_join, List.length_append, List.length_cons] at hn
      have hleft : ∀ ps, Binds k (source left) ps ↔ BindsAll k left.items ps := fun ps =>
        ih left.links.length (by omega) left (fun c hc => hs c (List.mem_append_left _ hc)) rfl
      have hright : ∀ ps, Binds k (source right) ps ↔ BindsAll k right.items ps := fun ps =>
        ih right.links.length (by omega) right (fun c hc => hs c (List.mem_append_right _ hc)) rfl
      rw [binds_join_iff hnot (by rw [hplace, hsplit]; rfl)
        (fun hor => by rw [hplace, hearlier hor]; rfl), bindsAll_append]
      simp only [hleft, hright]
    cases ha : s.splitAt? fun j => j.connective = .and with
    | some found => exact hjoin ha fun h => nomatch h
    | none =>
      cases ho : s.splitAt? fun j => j.connective = .or with
      | some found => exact hjoin ho fun _ => ha
      | none =>
        -- a connective would be one of the two kinds, and a place to split
        have hnone : s.links = [] := by
          apply List.eq_nil_iff_forall_not_mem.2
          intro j hj
          have hand := Chain.splitAt?_eq_none_iff.1 ha j hj
          have hor := Chain.splitAt?_eq_none_iff.1 ho j hj
          cases hconnective : j.connective with
          | and => simp [hconnective] at hand
          | or => simp [hconnective] at hor
        obtain ⟨c, rfl⟩ := Chain.exists_eq_last hnone
        constructor
        · intro h
          exact ⟨params, [], h, rfl, (List.append_nil params).symm⟩
        · rintro ⟨ps, qs, h, rfl, rfl⟩
          rw [List.append_nil]
          exact h

/-- Legible chunks bind the texts of their literals. -/
theorem bindsAll_of_legible {cs : List (Chunk k)} (hclosed : ∀ c ∈ cs, c.Enclosed)
    (h : ∀ c ∈ cs, c.Legible) : BindsAll k cs (cs.map fun c => c.test.value) := by
  induction cs with
  | nil => rfl
  | cons c cs ih =>
    obtain ⟨hc, hrest⟩ := List.forall_mem_cons.1 hclosed
    obtain ⟨hlegible, hlegibles⟩ := List.forall_mem_cons.1 h
    exact ⟨[c.test.value], _, c.binds_of_legible hc hlegible, ih hrest hlegibles, rfl⟩

/-- Only legible chunks bind the texts of their literals. -/
theorem legible_of_bindsAll (hcolumns : ∀ column ∈ k.columns, '(' ∉ column.name.toList)
    {cs : List (Chunk k)} (hclosed : ∀ c ∈ cs, c.Enclosed)
    (h : BindsAll k cs (cs.map fun c => c.test.value)) : ∀ c ∈ cs, c.Legible := by
  induction cs with
  | nil => exact List.forall_mem_nil _
  | cons c cs ih =>
    obtain ⟨hc, hrest⟩ := List.forall_mem_cons.1 hclosed
    obtain ⟨ps, qs, hbinds, hbindsAll, hvalues⟩ := h
    -- each chunk binds one value, so the values are compared one by one
    obtain ⟨v, rfl, hlegible⟩ := c.exists_of_binds hcolumns hc hbinds
    obtain ⟨hv, rfl⟩ := List.cons.inj hvalues
    exact List.forall_mem_cons.2 ⟨hlegible hv.symm, ih hrest hbindsAll⟩

end Chunks

/-! ## Values of formulas -/

/-- The values of a row, from its chunks. -/
theorem Row.map_value_chunks (r : Row k) :
    ((r.chunks Front.none Back.none).items.map fun c => c.test.value) =
      r.tests.map Test.value := by
  rw [← r.tests_chunks Front.none Back.none, List.map_map]
  rfl

/-- The chunks of a row are all enclosed, since each of its parts is. -/
theorem Row.enclosed_chunks (r : Row k) :
    ∀ c ∈ (r.chunks Front.none Back.none).items, c.Enclosed :=
  r.enclosed (.inl rfl) (.inl rfl)

/-- A row binds what its chunks bind. -/
theorem Row.binds_iff (r : Row k) : Binds k r.source params ↔
    Chunks.BindsAll k (r.chunks Front.none Back.none).items params := by
  have hsource := r.source_chunks Front.none Back.none
  rw [← Chunks.binds_iff _ r.enclosed_chunks, hsource]
  simp [Front.none, Back.none]

/-- A row of legible chunks binds the texts of its literals. -/
theorem Row.binds_of_legible (r : Row k)
    (h : ∀ c ∈ (r.chunks Front.none Back.none).items, c.Legible) :
    Binds k r.source (r.tests.map Test.value) := by
  rw [r.binds_iff, ← r.map_value_chunks]
  exact Chunks.bindsAll_of_legible r.enclosed_chunks h

/-- Only a row of legible chunks does so. -/
theorem Row.legible_of_binds (r : Row k)
    (hcolumns : ∀ column ∈ k.columns, '(' ∉ column.name.toList)
    (h : Binds k r.source (r.tests.map Test.value)) :
    ∀ c ∈ (r.chunks Front.none Back.none).items, c.Legible := by
  rw [r.binds_iff, ← r.map_value_chunks] at h
  exact Chunks.legible_of_bindsAll hcolumns r.enclosed_chunks h

/-- A test on its own binds the text of its literal. -/
theorem Formula.binds_test (t : Test k) : Binds k (Formula.test t).source [t.value] := by
  let c : Chunk k := ⟨[], t, [], .nil, fun _ h => nomatch h⟩
  have hsource : c.source = (Formula.test t).source := List.append_nil t.source
  rw [← hsource]
  exact c.binds_of_nil rfl rfl

/-- A negation binds what is negated. -/
theorem Formula.binds_not (n : Negation) (p : Part k) :
    Binds k (Formula.not n p).source params ↔ Binds k (Row.one p).source params := by
  obtain ⟨before, f, after⟩ := p
  apply binds_not_iff
  obtain ⟨c, word, hword, hblank, -⟩ := exists_cons_of_sameWord n.known
  let inner := before.text ++ (f.source ++ after.text)
  have hpart : (Part.enclosed before f after).source = '(' :: (inner ++ [')']) := by
    simp [Part.source, inner]
  have hsource : (Formula.not n (.enclosed before f after)).source =
      n.word ++ (n.gap.text ++ '(' :: (inner ++ [')'])) := by
    rw [Formula.source, hpart]
  -- the word of negation comes first and a parenthesis last, so nothing is trimmed
  have hstart : (Formula.not n (.enclosed before f after)).source =
      c :: (word ++ (n.gap.text ++ '(' :: (inner ++ [')']))) := by
    rw [hsource, hword]
    rfl
  have hend : (Formula.not n (.enclosed before f after)).source =
      (n.word ++ (n.gap.text ++ '(' :: inner)) ++ [')'] := by
    simp [hsource]
  rw [Text.trim_eq_self_of_ends hstart hend hblank (by decide), hsource,
    afterNot?_word n.known n.gap.blank, Row.source, hpart]

/-- A legible formula binds the texts of its literals. -/
theorem Formula.binds_of_legible (f : Formula k) (h : f.Legible) : Binds k f.source f.values := by
  cases f with
  | test t => exact Formula.binds_test t
  | not n p => exact (Formula.binds_not n p).2 ((Row.one p).binds_of_legible h)
  | row r => exact r.binds_of_legible h

/-- Only a legible formula binds the texts of its literals. -/
theorem Formula.legible_of_binds (f : Formula k)
    (hcolumns : ∀ column ∈ k.columns, '(' ∉ column.name.toList)
    (h : Binds k f.source f.values) : f.Legible := by
  cases f with
  | test t => exact trivial
  | not n p => exact (Row.one p).legible_of_binds hcolumns ((Formula.binds_not n p).1 h)
  | row r => exact r.legible_of_binds hcolumns h

/-- A formula between blanks is translated with the texts of its literals in their order if it is
legible, and only then if no column is named with an opening parenthesis. -/
theorem Formula.translate_values (f : Formula k) (before after : Gap) :
    (f.Legible → ∃ sql, translate k (String.ofList (before.text ++ (f.source ++ after.text))) =
      .ok (some ⟨sql, f.values⟩)) ∧
    ((∀ column ∈ k.columns, '(' ∉ column.name.toList) →
      (∃ sql, translate k (String.ofList (before.text ++ (f.source ++ after.text))) =
        .ok (some ⟨sql, f.values⟩)) → f.Legible) := by
  have htrim : Text.trim (before.text ++ (f.source ++ after.text)) = Text.trim f.source := by
    rw [Text.trim_blanks before.blank, Text.trim_append_blanks after.blank]
  rw [exists_translate_iff, String.toList_ofList, binds_congr htrim]
  exact ⟨f.binds_of_legible, f.legible_of_binds⟩

/-- A table with two columns of texts. -/
def peopleContext : Context where
  columns := [Catalog.Column.ofType "NAME" "VARCHAR(64)",
    Catalog.Column.ofType "CITY" "VARCHAR(64)"]
  parser := Sql.Expression.parse

theorem equal_mem_comparisons : ⟨"=", .equal, "=", "", ""⟩ ∈ comparisons := by decide

theorem contains_mem_comparisons : ⟨"CONTAINS", .contains, "LIKE", "%", "%"⟩ ∈ comparisons := by
  decide

/-- The column of names equals a text. -/
def nameIs (text : String) : Test peopleContext where
  name := "name".toList
  column := Catalog.Column.ofType "NAME" "VARCHAR(64)"
  sign := ⟨⟨"=", .equal, "=", "", ""⟩, equal_mem_comparisons⟩
  quote := '\''
  text := text
  nonempty := by decide
  plain := by decide
  known := rfl
  accepted := ⟨_, rfl⟩
  textual := by decide
  quoted := rfl

/-- The column of cities contains a text. -/
def cityHas (text : String) : Test peopleContext where
  name := "City".toList
  column := Catalog.Column.ofType "CITY" "VARCHAR(64)"
  sign := ⟨⟨"CONTAINS", .contains, "LIKE", "%", "%"⟩, contains_mem_comparisons⟩
  quote := '"'
  text := text
  nonempty := by decide
  plain := by decide
  known := rfl
  accepted := ⟨_, rfl⟩
  textual := by decide
  quoted := rfl

/-- No blanks. -/
def noGap : Gap := ⟨[], List.forall_mem_nil _⟩

/-- One blank. -/
def oneBlank : Gap := ⟨[' '], List.forall_mem_singleton.2 rfl⟩

/-- A conjunction between single blanks. -/
def conjunction : Junction where
  connective := .and
  text := " and ".toList
  joint := ⟨[' '], "and".toList, [' '], rfl, oneBlank.blank, oneBlank.blank, "AND".toList,
    by decide, rfl⟩

/-- A negated row with a negation in it. -/
def negatedRow : Formula peopleContext :=
  .not ⟨"NOT".toList, oneBlank, rfl⟩ (.enclosed noGap (.row
    (.more (.enclosed noGap (.test (nameIs "Ann")) noGap) conjunction
      (.more (.enclosed noGap (.not ⟨"not".toList, oneBlank, rfl⟩
        (.enclosed oneBlank (.test (cityHas "it)s")) oneBlank)) oneBlank) conjunction
        (.one (.enclosed oneBlank (.test (nameIs "Bo")) oneBlank))))) noGap)

theorem legible_negatedRow : negatedRow.Legible := by
  decide

theorem opening_not_mem_peopleContext : ∀ column ∈ peopleContext.columns,
    '(' ∉ column.name.toList := by
  decide

/-- Words of negation and blanks within parentheses that close in time. -/
theorem translate_values_negatedRow : negatedRow.Legible ∧ ∃ sql, translate peopleContext
    " NOT ((name = 'Ann') and (not ( City CONTAINS \"it)s\" ) ) and ( name = 'Bo' )) " =
      .ok (some ⟨sql, [.text "Ann", .text "%it)s%", .text "Bo"]⟩) := by
  have hvalues := negatedRow.translate_values oneBlank oneBlank
  exact ⟨hvalues.2 opening_not_mem_peopleContext (hvalues.1 legible_negatedRow),
    hvalues.1 legible_negatedRow⟩

/-- A negation in the first part of a row that is a part itself. -/
def buriedNegation : Formula peopleContext :=
  .row (.one (.enclosed noGap (.row
    (.more (.enclosed noGap (.not ⟨"NOT".toList, oneBlank, rfl⟩
      (.enclosed noGap (.test (nameIs "x")) noGap)) noGap) conjunction
      (.one (.enclosed noGap (.test (nameIs "y")) noGap)))) noGap))

/-- The word of negation is left within the field once the row is split. -/
theorem translate_buriedNegation :
    translate peopleContext "((NOT (name = 'x')) and (name = 'y'))" =
      .error (.unknownField "NOT (name") := by
  have hcut : splitAtConnective? .and none
      (Text.trim (Text.trim "((NOT (name = 'x')) and (name = 'y'))".toList)) =
        some ("((NOT (name = 'x'))".toList, "(name = 'y'))".toList) := by decide
  have hreads : Reads (fun _ _ => True) (Text.trim "((NOT (name = 'x')) and (name = 'y'))".toList)
      (.join .and (.compare ⟨2, 2, "NOT (name", false, .equal, .scalar "'x'"⟩)
        (.compare ⟨1, 2, "name", false, .equal, .scalar "'y'"⟩)) := by
    refine .and (by decide) hcut ?_ ?_
    · exact .compare (by decide) (by decide) (by decide) (by decide) rfl trivial
    · exact .compare (by decide) (by decide) (by decide) (by decide) rfl trivial
  rw [translate_of_reads (by decide) hreads]
  rfl

/-- Not every formula is translated: a negation need not be, if it is no filter of its own. -/
theorem exists_untranslated_formula : ¬∀ (k : Context) (f : Formula k) (before after : Gap),
    ∃ sql, translate k (String.ofList (before.text ++ (f.source ++ after.text))) =
      .ok (some ⟨sql, f.values⟩) := by
  intro hall
  obtain ⟨sql, h⟩ := hall peopleContext buriedNegation noGap noGap
  -- the text of the formula is read as another filter, with a field that no column has
  have herror : translate peopleContext (String.ofList
      (noGap.text ++ (buriedNegation.source ++ noGap.text))) = .error (.unknownField "NOT (name") :=
    translate_buriedNegation
  rw [herror] at h
  cases h

end Snowbridge.Filter
