import Mathlib.Algebra.GroupWithZero.Nat
import Snowbridge.Proofs.Filter.Bracket
import Snowbridge.Proofs.Filter.Sentence
import Snowbridge.Proofs.Sql.Token

/-!
# Sentences in SQL

The sentence that the text of a condition in SQL says (`Sentence.ofSql?`). A condition is read by
precedence: outside parentheses the first disjunction splits it, or else the first conjunction, then
a word of negation in front is taken off, then a pair of parentheses around all of it. What is left
is an atom. So phrases of which each stands on its own, with the words of connectives between them,
are read as what they make up by precedence (`Sentence.read_phrases`).
-/

namespace Snowbridge.Filter

open Sql (Token)

variable {t : Token} {ts us xs ys left right : List Token}

/-! ## Reading -/

/-- The first connective outside brackets of the kind that binds least, with the tokens before and
after it. -/
def cut? (ts : List Token) : Option (Connective × List Token × List Token) :=
  match cutWhere? Connective.or.isWord [] ts with
  | some parts => some (.or, parts)
  | none => (cutWhere? Connective.and.isWord [] ts).map fun parts => (.and, parts)

/-- What a word of negation in front negates. -/
def negated? : List Token → Option (List Token)
  | t :: ts => if t.isWord "NOT" then some ts else none
  | [] => none

/-- The inside of a pair of parentheses around all tokens. -/
def enclosed? : List Token → Option (List Token)
  | t :: ts =>
    if t = .sign "(" then
      match cutWhere? isClosing [] ts with
      | some (inner, []) => some inner
      | _ => none
    else none
  | [] => none

/-- Both sides of a cut are shorter than the whole. -/
theorem length_of_cut? {κ : Connective}
    (h : cut? ts = some (κ, left, right)) : left.length + right.length < ts.length := by
  unfold cut? at h
  split at h
  · next hor =>
    cases h
    exact length_of_cutWhere? hor
  · obtain ⟨parts, hand, heq⟩ := Option.map_eq_some_iff.1 h
    cases heq
    exact length_of_cutWhere? hand

/-- What is negated is shorter than the whole. -/
theorem length_of_negated? {rest : List Token} (h : negated? ts = some rest) :
    rest.length < ts.length := by
  unfold negated? at h
  split at h
  · split at h
    · cases h
      exact Nat.lt_succ_self _
    · cases h
  · cases h

/-- What stands in a pair of parentheses is shorter than the whole. -/
theorem length_of_enclosed? {inner : List Token} (h : enclosed? ts = some inner) :
    inner.length < ts.length := by
  unfold enclosed? at h
  split at h
  · split at h
    · split at h
      · next hcut =>
        cases h
        have := length_of_cutWhere? hcut
        simp only [List.length_cons]
        omega
      · cases h
    · cases h
  · cases h

/-- The sentence of a condition. A negation binds tighter than a conjunction and that tighter than a
disjunction, and parentheses group. -/
def Sentence.read (ts : List Token) : Sentence (List Token) :=
  match hcut : cut? ts with
  | some (κ, left, right) =>
    have := length_of_cut? hcut
    .join κ (read left) (read right)
  | none =>
    match hnot : negated? ts with
    | some rest =>
      have := length_of_negated? hnot
      .not (read rest)
    | none =>
      match hgroup : enclosed? ts with
      | some inner =>
        have := length_of_enclosed? hgroup
        read inner
      | none => .atom ts
termination_by ts.length

/-- The sentence of a condition in a dialect of SQL. Its atoms are the tokens that stand between the
words of negation, the connectives and the parentheses. -/
def Sentence.ofSql? (d : Sql.Dialect) (text : String) : Option (Sentence (List Token)) :=
  (Sql.lexed? d text).map read

namespace Sentence

/-- Where there is a place to cut, the sentence is that of both sides. -/
theorem read_cut {κ : Connective} (h : cut? ts = some (κ, left, right)) :
    read ts = .join κ (read left) (read right) := by
  rw [read]
  split
  · next heq =>
    rw [h] at heq
    cases heq
    rfl
  · next heq => simp [h] at heq

/-- Where there is none, a word of negation in front negates all that follows. -/
theorem read_not {rest : List Token} (hcut : cut? ts = none) (h : negated? ts = some rest) :
    read ts = .not (read rest) := by
  rw [read]
  split
  · next heq => simp [hcut] at heq
  · split
    · next heq =>
      rw [h] at heq
      cases heq
      rfl
    · next heq => simp [h] at heq

/-- Where there is no such word either, a pair of parentheses around all is taken off. -/
theorem read_enclosed {inner : List Token} (hcut : cut? ts = none) (hnot : negated? ts = none)
    (h : enclosed? ts = some inner) : read ts = read inner := by
  rw [read]
  split
  · next heq => simp [hcut] at heq
  · split
    · next heq => simp [hnot] at heq
    · split
      · next heq =>
        rw [h] at heq
        cases heq
        rfl
      · next heq => simp [h] at heq

/-- What is left is an atom. -/
theorem read_atom (hcut : cut? ts = none) (hnot : negated? ts = none) (h : enclosed? ts = none) :
    read ts = .atom ts := by
  rw [read]
  split
  · next heq => simp [hcut] at heq
  · split
    · next heq => simp [hnot] at heq
    · split
      · next heq => simp [h] at heq
      · rfl

end Sentence

/-! ## Phrases -/

/-- Whether a token at the top level ends a phrase. -/
def isStop (t : Token) : Bool :=
  isClosing t || Connective.and.isWord t || Connective.or.isWord t

/-- Tokens whose parentheses match. -/
def Matched (ts : List Token) : Prop := passes? isClosing [] ts = some []

/-- Tokens that stand on their own between connectives: their parentheses match, and there is no
connective outside them. -/
def IsPhrase (ts : List Token) : Prop := passes? isStop [] ts = some []

instance (ts : List Token) : Decidable (IsPhrase ts) :=
  inferInstanceAs (Decidable (passes? isStop [] ts = some []))

theorem isStop_of_isClosing (h : isClosing t = true) : isStop t = true := by
  simp [isStop, h]

/-- The word of a connective ends a phrase. -/
theorem isStop_of_isWord {κ : Connective} (h : κ.isWord t = true) : isStop t = true := by
  cases κ
  · simp [isStop, h]
  · simp [isStop, h]

/-- A phrase matches its brackets. -/
theorem IsPhrase.matched (h : IsPhrase ts) : Matched ts :=
  passes?_mono (fun _ => isStop_of_isClosing) h

/-- A phrase shows no connective of either kind. -/
theorem IsPhrase.passes? (κ : Connective) (h : IsPhrase ts) :
    passes? κ.isWord [] ts = some [] := passes?_mono (fun _ => isStop_of_isWord) h

/-- A phrase is not cut. -/
theorem IsPhrase.cut? (h : IsPhrase ts) : cut? ts = none := by
  rw [Filter.cut?, cutWhere?_eq_none (h.passes? .or), cutWhere?_eq_none (h.passes? .and)]
  rfl

/-- Two phrases without a connective between them are one phrase. -/
theorem IsPhrase.append (hx : IsPhrase xs) (hy : IsPhrase ys) : IsPhrase (xs ++ ys) := by
  rw [IsPhrase, passes?_append, hx]
  exact hy

/-- A pair of parentheses makes a phrase. -/
theorem Matched.enclose (h : Matched ts) : IsPhrase (.sign "(" :: (ts ++ [.sign ")"])) := by
  have hinner : Filter.passes? isStop [.pair] ts = some [.pair] := passes?_enclosed (fun _ => id) h
  have hopen : openAfter [] (.sign "(") = [.pair] := rfl
  rw [IsPhrase, Filter.passes?, if_neg (by decide), hopen, passes?_append, hinner]
  rfl

/-- A pair of parentheses is read as what stands in it. -/
theorem Matched.read_enclose (h : Matched ts) :
    Sentence.read (.sign "(" :: (ts ++ [.sign ")"])) = Sentence.read ts := by
  refine Sentence.read_enclosed h.enclose.cut? rfl ?_
  have hend : cutWhere? isClosing [] [.sign ")"] = some ([], []) := rfl
  simp [enclosed?, cutWhere?_append h, hend]

/-- A word of negation in front of a phrase makes another. -/
theorem IsPhrase.not (h : IsPhrase ts) : IsPhrase (.word "NOT" :: ts) := by
  have hword : IsPhrase [.word "NOT"] := by decide
  exact hword.append h

/-- A negated phrase is read as the negation of what it says. -/
theorem IsPhrase.read_not (h : IsPhrase ts) :
    Sentence.read (.word "NOT" :: ts) = .not (Sentence.read ts) :=
  Sentence.read_not h.not.cut? rfl

/-- A phrase with something behind it is not all in one pair of parentheses. -/
theorem IsPhrase.enclosed?_append (hx : IsPhrase xs) (hne : xs ≠ []) (hy : ys ≠ []) :
    enclosed? (xs ++ ys) = none := by
  obtain ⟨t, ts, rfl⟩ := List.exists_cons_of_ne_nil hne
  rw [List.cons_append, enclosed?]
  split
  · next ht =>
    subst ht
    -- the parenthesis in front closes within the phrase, so what follows is left over behind it
    have hinner : Filter.passes? isStop [.pair] ts = some [] := by
      rwa [IsPhrase, Filter.passes?, if_neg (by decide)] at hx
    obtain ⟨inner, after, hcut⟩ := exists_cut_of_passes? (s := []) hinner
    rw [cutWhere?_extend hcut]
    split
    · next heq =>
      simp only [Option.some.injEq, Prod.mk.injEq, List.append_eq_nil_iff] at heq
      exact absurd heq.2.2 hy
    · rfl
  · rfl

/-! ### Rows of phrases -/

/-- Phrases with the words of connectives between them. -/
def phrases (c : Chain (List Token) Connective) : List Token := c.text id fun κ => [κ.token]

/-- The words of the connectives are where phrases are cut. -/
theorem cutWhere?_phrases {c : Chain (List Token) Connective} (hc : ∀ xs ∈ c.items, IsPhrase xs)
    (κ : Connective) : cutWhere? κ.isWord [] (phrases c) =
      (c.splitAt? (· == κ)).map fun (left, _, right) => (phrases left, phrases right) := by
  induction c with
  | last xs =>
    exact cutWhere?_eq_none ((hc xs List.mem_cons_self).passes? κ)
  | more xs κ' rest ih =>
    have hxs := (hc xs List.mem_cons_self).passes? κ
    have hrest := ih fun ys hys => hc ys (List.mem_cons_of_mem _ hys)
    have htext : phrases (.more xs κ' rest) = xs ++ κ'.token :: phrases rest := rfl
    rw [htext, cutWhere?_append hxs, cutWhere?, isWord_token, Chain.splitAt?]
    -- the phrase is cut behind, or the cut is sought among the further phrases
    by_cases hκ : κ = κ'
    · subst hκ
      simp [phrases, Chain.text]
    · have hopen : openAfter [] κ'.token = [] := by cases κ' <;> rfl
      have hne : (κ' == κ) = false := beq_false_of_ne (Ne.symm hκ)
      rw [if_neg (by simp [hκ]), if_neg (by simp [hne]), hopen, hrest]
      simp only [Option.map_map]
      rfl

/-- Phrases are read as what they make up by precedence. -/
theorem Sentence.read_phrases {c : Chain (List Token) Connective}
    (hc : ∀ xs ∈ c.items, IsPhrase xs) :
    read (phrases c) = Series.byPrecedence (c.map read) := by
  -- the chain is split at its first disjunction, or else at its first conjunction
  induction hn : c.items.length using Nat.strongRecOn generalizing c with
  | _ n ih =>
    subst hn
    by_cases hor : Connective.or ∈ c.links
    · cases hsplit : c.splitAt? (· == .or) with
      | none =>
        have hnone := Chain.splitAt?_eq_none_iff.1 hsplit _ hor
        cases hnone
      | some parts =>
        obtain ⟨l, κ, r⟩ := parts
        -- all before the first disjunction is one conjunction
        have hleft : Connective.or ∉ (l.map read).links := by
          rw [Chain.links_map]
          intro hmem
          cases Chain.not_of_mem_left hsplit _ hmem
        have hcut : Filter.cut? (phrases c) = some (.or, phrases l, phrases r) := by
          rw [cut?, cutWhere?_phrases hc, hsplit]
          rfl
        obtain ⟨hκ, rfl⟩ := Chain.eq_join_of_splitAt? hsplit
        cases eq_of_beq hκ
        rw [Chain.items_join] at hc ih
        have hlength := l.length_items_pos
        have hlength' := r.length_items_pos
        rw [List.length_append] at ih
        have hl := ih l.items.length (by omega)
          (fun xs hxs => hc xs (List.mem_append_left _ hxs)) rfl
        have hr := ih r.items.length (by omega)
          (fun xs hxs => hc xs (List.mem_append_right _ hxs)) rfl
        rw [read_cut hcut, hl, hr, Chain.map_join, Series.byPrecedence_join_or hleft]
    · cases c with
      | last xs => rfl
      | more xs κ rest =>
        cases κ with
        | or => exact absurd List.mem_cons_self hor
        | and =>
          have hrest : Connective.or ∉ (rest.map read).links := by
            rw [Chain.links_map]
            exact fun hmem => hor (List.mem_cons_of_mem _ hmem)
          have hnone : (Chain.more xs .and rest).splitAt? (· == .or) = none := by
            rw [Chain.splitAt?_eq_none_iff]
            intro κ hκ
            exact beq_false_of_ne fun heq => hor (heq ▸ hκ)
          have hcut : Filter.cut? (phrases (.more xs .and rest)) =
              some (.and, xs, phrases rest) := by
            rw [cut?, cutWhere?_phrases hc, cutWhere?_phrases hc, hnone]
            rfl
          have hr := ih rest.items.length (Nat.lt_succ_self _)
            (fun ys hys => hc ys (List.mem_cons_of_mem _ hys)) rfl
          rw [read_cut hcut, hr, Chain.map, Series.byPrecedence_and hrest]

/-- Phrases in a row match their parentheses. -/
theorem matched_phrases {c : Chain (List Token) Connective} (hc : ∀ xs ∈ c.items, IsPhrase xs) :
    Matched (phrases c) := by
  induction c with
  | last xs => exact (hc xs List.mem_cons_self).matched
  | more xs κ rest ih =>
    -- the word of a connective opens and closes nothing
    have hxs := (hc xs List.mem_cons_self).matched
    have hword : passes? isClosing [] [κ.token] = some [] := by cases κ <;> rfl
    rw [phrases, Chain.text, Matched, passes?_append, id_eq, hxs]
    show passes? isClosing [] ([κ.token] ++ phrases rest) = some []
    rw [passes?_append, hword]
    exact ih fun ys hys => hc ys (List.mem_cons_of_mem _ hys)

/-! ## Tokens that match their brackets -/

/-- A cut between connectives leaves tokens that match their brackets on both sides. -/
theorem Matched.of_cutWhere? {κ : Connective} (hts : Matched ts)
    (h : cutWhere? κ.isWord [] ts = some (left, right)) : Matched left ∧ Matched right := by
  obtain ⟨t, rfl, ht, hopen⟩ := exists_of_cutWhere? h
  obtain ⟨hafter, hclosing⟩ := openAfter_of_isWord ht
  rw [Matched, passes?_append] at hts
  obtain ⟨m, hleft, hright⟩ := Option.bind_eq_some_iff.1 hts
  -- the cut is where nothing is open, so the left part has closed all that it opened
  obtain rfl : m = [] := (passes?_eq hleft).trans hopen
  rw [passes?, if_neg (by simp [hclosing]), hafter] at hright
  exact ⟨hleft, hright⟩

/-- Tokens that match their brackets and are not cut show no connective. -/
theorem Matched.passes? {κ : Connective} (hts : Matched ts)
    (h : cutWhere? κ.isWord [] ts = none) : passes? κ.isWord [] ts = some [] := by
  rw [passes?_of_cutWhere? h, ← passes?_eq hts]

/-- Tokens that match their brackets are a phrase if there is no place to cut them. -/
theorem Matched.isPhrase (hts : Matched ts) (h : cut? ts = none) : IsPhrase ts := by
  unfold Filter.cut? at h
  split at h
  · cases h
  · next hor =>
    have hand := Option.map_eq_none_iff.1 h
    exact passes?_or (passes?_or hts (hts.passes? hand)) (hts.passes? hor)

/-- Tokens that cannot be cut cannot be cut before others either. -/
theorem cut?_of_append (h : cut? (xs ++ ys) = none) : cut? xs = none := by
  unfold cut? at h ⊢
  -- a cut of the first part would be one of the whole, at the same place
  cases hor : cutWhere? Connective.or.isWord [] xs with
  | some parts => simp [cutWhere?_extend hor] at h
  | none =>
    cases hand : cutWhere? Connective.and.isWord [] xs with
    | some parts =>
      rw [cutWhere?_extend hand] at h
      split at h
      · cases h
      · cases h
    | none => rfl

/-- Tokens that match their brackets may follow each other. -/
theorem Matched.append (hx : Matched xs) (hy : Matched ys) : Matched (xs ++ ys) := by
  rw [Matched, passes?_append, hx]
  exact hy

/-- Tokens that match their brackets may be joined by a connective. -/
theorem Matched.connect (hx : Matched xs) (κ : Connective) (hy : Matched ys) :
    Matched (xs ++ κ.token :: ys) := by
  obtain ⟨hafter, hclosing⟩ := openAfter_of_isWord (κ := κ) (t := κ.token) (by simp [isWord_token])
  rw [Matched, passes?_append, hx, Option.bind_some, Filter.passes?, if_neg (by simp [hclosing]),
    hafter]
  exact hy

namespace Sentence

/-- The atoms of two conditions with a connective between them are those of the one and those of the
other, however precedence groups them. -/
theorem atoms_read_connect (hx : Matched xs) (κ : Connective) (hy : Matched ys) :
    (read (xs ++ κ.token :: ys)).atoms = (read xs).atoms ++ (read ys).atoms := by
  -- the first cut of the whole is one of the left part, the connective, or one of the right part
  induction hn : xs.length + ys.length using Nat.strongRecOn generalizing xs ys with
  | _ n ih =>
    subst hn
    have hleft : ∀ {κ' l r}, cut? xs = some (κ', l, r) → Matched r →
        cut? (xs ++ κ.token :: ys) = some (κ', l, r ++ κ.token :: ys) →
        (read (xs ++ κ.token :: ys)).atoms = (read xs).atoms ++ (read ys).atoms := by
      intro κ' l r hcut hr hwhole
      have hlength := length_of_cut? hcut
      have htail := ih (r.length + ys.length) (by omega) hr hy rfl
      rw [read_cut hcut, read_cut hwhole]
      simp only [atoms, htail, List.append_assoc]
    cases hxor : cutWhere? Connective.or.isWord [] xs with
    | some parts =>
      obtain ⟨l, r⟩ := parts
      refine hleft (by rw [cut?, hxor]) (hx.of_cutWhere? hxor).2 ?_
      rw [cut?, cutWhere?_extend hxor]
    | none =>
      have hxPasses := hx.passes? hxor
      have hopen : openAfter [] κ.token = [] := by cases κ <;> rfl
      cases κ with
      | or =>
        have hwhole : cut? (xs ++ Connective.or.token :: ys) = some (.or, xs, ys) := by
          rw [cut?, cutWhere?_append hxPasses]
          simp [cutWhere?, isWord_token]
        rw [read_cut hwhole]
        rfl
      | and =>
        have hpast : cutWhere? Connective.or.isWord [] (xs ++ Connective.and.token :: ys) =
            (cutWhere? Connective.or.isWord [] ys).map
              fun parts => (xs ++ Connective.and.token :: parts.1, parts.2) := by
          rw [cutWhere?_append hxPasses, cutWhere?, isWord_token, hopen]
          simp [Option.map_map, Function.comp_def]
        cases hyor : cutWhere? Connective.or.isWord [] ys with
        | some parts =>
          obtain ⟨l, r⟩ := parts
          have hlength := length_of_cutWhere? hyor
          have hhead := ih (xs.length + l.length) (by omega) hx (hy.of_cutWhere? hyor).1 rfl
          have hwhole : cut? (xs ++ Connective.and.token :: ys) =
              some (.or, xs ++ Connective.and.token :: l, r) := by
            rw [cut?, hpast, hyor]
            rfl
          have hcut : cut? ys = some (.or, l, r) := by rw [cut?, hyor]
          rw [read_cut hwhole, read_cut hcut]
          simp only [atoms, hhead, List.append_assoc]
        | none =>
          rw [hyor] at hpast
          cases hxand : cutWhere? Connective.and.isWord [] xs with
          | some parts =>
            obtain ⟨l, r⟩ := parts
            refine hleft (by rw [cut?, hxor, hxand]; rfl) (hx.of_cutWhere? hxand).2 ?_
            rw [cut?, hpast, cutWhere?_extend hxand]
            rfl
          | none =>
            have hwhole : cut? (xs ++ Connective.and.token :: ys) = some (.and, xs, ys) := by
              rw [cut?, hpast, cutWhere?_append (hx.passes? hxand)]
              simp [cutWhere?, isWord_token]
            rw [read_cut hwhole]
            rfl

/-- The number of tokens that a sentence keeps. -/
def kept (s : Sentence (List Token)) : Nat := (s.atoms.map List.length).sum

/-- In both cases a sentence keeps no more tokens than there were. -/
theorem kept_le_of_read (h : read ts = .atom ts ∨ (read ts).kept < ts.length) :
    (read ts).kept ≤ ts.length := by
  rcases h with h | h
  · rw [h]
    simp [kept, atoms]
  · exact Nat.le_of_lt h

/-- What is not one atom loses its connectives, its words of negation or its parentheses. -/
theorem read_eq_atom_or_kept_lt (ts : List Token) :
    read ts = .atom ts ∨ (read ts).kept < ts.length := by
  induction hn : ts.length using Nat.strongRecOn generalizing ts with
  | _ n ih =>
    subst hn
    -- a cut loses the connective
    cases hcut : cut? ts with
    | some parts =>
      obtain ⟨κ, l, r⟩ := parts
      have hlength := length_of_cut? hcut
      have hl := kept_le_of_read (ih l.length (by omega) l rfl)
      have hr := kept_le_of_read (ih r.length (by omega) r rfl)
      right
      rw [read_cut hcut]
      simp only [kept, atoms, List.map_append, List.sum_append] at hl hr ⊢
      omega
    | none =>
      -- a negation loses its word
      cases hnot : negated? ts with
      | some rest =>
        have hlength := length_of_negated? hnot
        right
        rw [read_not hcut hnot]
        exact Nat.lt_of_le_of_lt (kept_le_of_read (ih rest.length hlength rest rfl)) hlength
      | none =>
        -- a group loses its parentheses
        cases hgroup : enclosed? ts with
        | some inner =>
          have hlength := length_of_enclosed? hgroup
          right
          rw [read_enclosed hcut hnot hgroup]
          exact Nat.lt_of_le_of_lt (kept_le_of_read (ih inner.length hlength inner rfl)) hlength
        | none => exact .inl (read_atom hcut hnot hgroup)

/-- Reading adds no tokens. -/
theorem kept_read_le (ts : List Token) : (read ts).kept ≤ ts.length :=
  kept_le_of_read (read_eq_atom_or_kept_lt ts)

end Sentence

end Snowbridge.Filter
