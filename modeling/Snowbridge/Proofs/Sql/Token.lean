import Mathlib.Data.List.Find
import Snowbridge.Proofs.Sql.Quoted
import Snowbridge.Sql.Token

/-!
# Tokens of texts that are put together

No token goes on over a blank or a closing parenthesis, so the tokens before one do not depend on
what follows (`readToken_border`). A text that ends outside every comment therefore
has its tokens (`Lexes`), and the tokens of two such texts with a border between them are those of
the one followed by those of the other (`Lexes.append`).
-/

namespace Snowbridge.Sql

variable {d : Dialect} {place : Place} {b c : Char} {cs ys rest : List Char} {t : Token}

/-! ## Borders -/

/-- The characters that end every token before them. -/
def IsBorder (b : Char) : Prop := b = ' ' ∨ b = ')'

/-- A sign that does not hold the border starts there or not, whatever follows the border. -/
theorem isPrefixOf_border {s : List Char} (hb : b ∉ s) (cs ys : List Char) :
    s.isPrefixOf (cs ++ b :: ys) = s.isPrefixOf cs := by
  induction s generalizing cs with
  | nil => simp
  | cons e s ih =>
    rw [List.mem_cons, not_or] at hb
    cases cs with
    | nil => simp [List.isPrefixOf, Ne.symm hb.1]
    | cons c cs => simp [List.isPrefixOf, ih hb.2]

/-- A run of characters ends before the border. -/
theorem takeWhile_border {p : Char → Bool} (hb : p b = false) (cs ys : List Char) :
    (cs ++ b :: ys).takeWhile p = cs.takeWhile p := by
  induction cs with
  | nil => simp [hb]
  | cons c cs ih => simp [List.takeWhile_cons, ih]

/-- What stands behind a run goes on over the border. -/
theorem dropWhile_border {p : Char → Bool} (hb : p b = false) (cs ys : List Char) :
    (cs ++ b :: ys).dropWhile p = cs.dropWhile p ++ b :: ys := by
  induction cs with
  | nil => simp [hb]
  | cons c cs ih =>
    rw [List.cons_append, List.dropWhile_cons, List.dropWhile_cons, ih]
    split
    · rfl
    · rfl

theorem head?_border {p : Char → Bool} (hb : p b = false) (cs ys : List Char) :
    (cs ++ b :: ys).head?.any p = cs.head?.any p := by
  cases cs with
  | nil => simp [hb]
  | cons c cs => rfl

theorem length_takeWhile_le (p : Char → Bool) (cs : List Char) :
    (cs.takeWhile p).length ≤ cs.length := (List.takeWhile_sublist p).length_le

/-! ## Literals and comments -/

/-- A literal that is closed before the border is read as if nothing followed. -/
theorem readQuoted?_border {quote : Char} {backslash : Bool} {taken content : List Char}
    (hb : b ≠ quote) (h : readQuoted? quote backslash taken cs = some (content, rest))
    (ys : List Char) :
    readQuoted? quote backslash taken (cs ++ b :: ys) = some (content, rest ++ b :: ys) := by
  -- the cases: nothing is left, the quote or another character is last, a doubled quote, the quote
  -- that closes, a backslash, any other character
  fun_induction readQuoted? quote backslash taken cs with
  | case1 => cases h
  | case2 taken c hc =>
    cases h
    simp [readQuoted?, hc, hb]
  | case3 => cases h
  | case4 taken c e cs hc he ih => simpa [readQuoted?, hc, he] using ih h
  | case5 taken c e cs hc he =>
    cases h
    simp [readQuoted?, hc, he]
  | case6 taken c e cs hc hbackslash ih => simpa [readQuoted?, hc, hbackslash] using ih h
  | case7 taken c e cs hc hbackslash ih => simpa [readQuoted?, hc, hbackslash] using ih h

/-- Reading a literal takes characters away and adds none. -/
theorem length_le_of_readQuoted? {quote : Char} {backslash : Bool} {taken content : List Char}
    (h : readQuoted? quote backslash taken cs = some (content, rest)) :
    rest.length ≤ cs.length := by
  fun_induction readQuoted? quote backslash taken cs with
  | case1 => cases h
  | case2 =>
    cases h
    exact Nat.zero_le _
  | case3 => cases h
  | case4 taken c e cs _ _ ih => exact Nat.le_add_right_of_le (Nat.le_add_right_of_le (ih h))
  | case5 =>
    cases h
    exact Nat.le_succ _
  | case6 taken c e cs _ _ ih => exact Nat.le_add_right_of_le (Nat.le_add_right_of_le (ih h))
  | case7 taken c e cs _ _ ih => exact Nat.le_add_right_of_le (ih h)

/-- What was written twice is read once, up to the quote that closes. -/
theorem readQuoted?_doubled {quote : Char} (taken cs : List Char) :
    readQuoted? quote false taken (doubled quote cs ++ [quote]) =
      some (taken.reverse ++ cs, []) := by
  induction cs generalizing taken with
  | nil => simp [doubled, readQuoted?]
  | cons c cs ih =>
    rw [doubled_cons]
    by_cases hc : c = quote
    · rw [if_pos hc, hc]
      show readQuoted? quote false taken (quote :: quote :: (doubled quote cs ++ [quote])) = _
      rw [readQuoted?, if_pos (beq_self_eq_true quote), if_pos (beq_self_eq_true quote), ih]
      simp
    · obtain ⟨e, r, hrest⟩ : ∃ e r, doubled quote cs ++ [quote] = e :: r :=
        List.exists_cons_of_ne_nil (by simp)
      have htail := ih (c :: taken)
      rw [hrest] at htail
      rw [if_neg hc, List.append_assoc, List.singleton_append, hrest, readQuoted?,
        if_neg (by simpa using hc), Bool.false_and, if_neg Bool.false_ne_true, htail]
      simp

/-- A comment that ends before the border does so whatever follows. -/
theorem afterComment?_border {depth : Nat} (h : afterComment? depth cs = some rest)
    (ys : List Char) : afterComment? depth (cs ++ b :: ys) = some (rest ++ b :: ys) := by
  -- the cases: the comment ends or one within it does, another starts, any other character
  fun_induction afterComment? depth cs with
  | case1 depth cs hdepth =>
    cases h
    simp [afterComment?, hdepth]
  | case2 depth cs hdepth ih => simpa [afterComment?, hdepth] using ih h
  | case3 depth cs ih => simpa [afterComment?] using ih h
  | case4 depth c cs hends hstarts ih =>
    have htail := ih h
    cases cs with
    | nil => cases h
    | cons e cs =>
      rw [List.cons_append, afterComment?.eq_3]
      · exact htail
      · rintro cs' rfl heq
        cases heq
        exact hends cs rfl rfl
      · rintro cs' rfl heq
        cases heq
        exact hstarts cs rfl rfl
  | case5 => cases h

/-- Reading a comment takes characters away and adds none. -/
theorem length_le_of_afterComment? {depth : Nat} (h : afterComment? depth cs = some rest) :
    rest.length ≤ cs.length := by
  fun_induction afterComment? depth cs with
  | case1 =>
    cases h
    exact Nat.le_add_right_of_le (Nat.le_succ _)
  | case2 depth cs _ ih => exact Nat.le_add_right_of_le (Nat.le_add_right_of_le (ih h))
  | case3 depth cs ih => exact Nat.le_add_right_of_le (Nat.le_add_right_of_le (ih h))
  | case4 depth c cs _ _ ih => exact Nat.le_add_right_of_le (ih h)
  | case5 => cases h

/-! ## Numbers -/

/-- An exponent ends before a border. -/
theorem exponentRun_border (hb : IsBorder b) (cs ys : List Char) :
    exponentRun (cs ++ b :: ys) = exponentRun cs := by
  have hdigit : b.isDigit = false := by rcases hb with rfl | rfl <;> decide
  cases cs with
  | nil => rcases hb with rfl | rfl <;> rfl
  | cons e r =>
    -- a border is no sign of an exponent
    have hsign : ((r ++ b :: ys).head? == some '+' || (r ++ b :: ys).head? == some '-') =
        (r.head? == some '+' || r.head? == some '-') := by
      cases r with
      | nil =>
        rcases hb with rfl | rfl <;> rfl
      | cons _ _ => rfl
    have hlength : (if r.head? == some '+' || r.head? == some '-' then 1 else 0) ≤ r.length := by
      cases r with
      | nil => exact Nat.le_refl 0
      | cons _ _ =>
        split
        · exact Nat.le_add_left 1 _
        · exact Nat.zero_le _
    simp only [List.cons_append, exponentRun, hsign]
    rw [List.take_append_of_le_length hlength,
      List.drop_append_of_le_length (List.length_take_le' _ _), takeWhile_border hdigit]

/-- An exponent is no longer than the text that it is read from. -/
theorem length_exponentRun_le (cs : List Char) : (exponentRun cs).length ≤ cs.length := by
  cases cs with
  | nil => exact Nat.zero_le _
  | cons e r =>
    simp only [exponentRun]
    generalize (if r.head? == some '+' || r.head? == some '-' then 1 else 0) = n
    have hdigits := length_takeWhile_le Char.isDigit (r.drop (r.take n).length)
    have hsign := List.length_take_le' n r
    rw [List.length_drop] at hdigits
    split
    · split
      · exact Nat.zero_le _
      · simp only [List.cons_append, List.length_cons, List.length_append]
        omega
    · exact Nat.zero_le _

/-- A number ends before a border. -/
theorem numberRun_border (hb : IsBorder b) (cs ys : List Char) :
    numberRun (cs ++ b :: ys) = numberRun cs := by
  have hdigit : b.isDigit = false := by rcases hb with rfl | rfl <;> decide
  simp only [numberRun]
  rw [takeWhile_border hdigit, dropWhile_border hdigit]
  -- whether a fraction follows shows in the character behind the digits
  cases hrest : cs.dropWhile Char.isDigit with
  | nil =>
    have hdot : b ≠ '.' := by rcases hb with rfl | rfl <;> decide
    simpa [hdot] using exponentRun_border hb [] ys
  | cons e r =>
    by_cases he : e = '.'
    · subst he
      have hlength : ('.' :: r.takeWhile Char.isDigit).length ≤ ('.' :: r).length :=
        Nat.succ_le_succ (length_takeWhile_le _ r)
      simp only [List.cons_append]
      rw [takeWhile_border hdigit, ← List.cons_append, List.drop_append_of_le_length hlength,
        exponentRun_border hb]
    · have htail := exponentRun_border hb (e :: r) ys
      simpa [he] using htail

/-- A number is no longer than the text that it is read from. -/
theorem length_numberRun_le (cs : List Char) : (numberRun cs).length ≤ cs.length := by
  have hsplit := congrArg List.length
    (List.takeWhile_append_dropWhile (p := Char.isDigit) (l := cs))
  simp only [numberRun, List.length_append] at hsplit ⊢
  split
  · next r hrest =>
    have hexponent := length_exponentRun_le
      (('.' :: r).drop ('.' :: r.takeWhile Char.isDigit).length)
    have hfraction := length_takeWhile_le Char.isDigit r
    rw [hrest] at hsplit ⊢
    simp only [List.length_drop, List.length_cons] at hsplit hexponent ⊢
    omega
  · have hexponent := length_exponentRun_le (cs.dropWhile Char.isDigit)
    simp only [List.length_nil, List.drop_zero] at hexponent ⊢
    omega

/-- A number has a character at least. -/
theorem length_numberRun_pos (h : (c.isDigit || (c == '.' && cs.head?.any Char.isDigit)) = true) :
    0 < (numberRun (c :: cs)).length := by
  by_cases hc : c.isDigit = true
  · simp [numberRun, hc]
  · have hdot : c = '.' := by
      simp only [hc, Bool.false_or, Bool.and_eq_true, beq_iff_eq] at h
      exact h.1
    subst hdot
    simp [numberRun, hc]

/-! ## Tokens -/

/-- A literal that was read ends at a quote. -/
theorem exists_of_quoted {read : Option (List Char × List Char)} {make : String → Token}
    {fault : ExpressionFault}
    (h : (match read with
      | some (content, after) => Except.ok (make (String.ofList content), after)
      | none => Except.error fault) = .ok (t, rest)) :
    ∃ content, read = some (content, rest) ∧ t = make (String.ofList content) := by
  cases read with
  | none => cases h
  | some found =>
    cases h
    exact ⟨_, rfl, rfl⟩

/-- A sign is at the head of the text that it is found in. -/
theorem length_sign_le {s : List Char}
    (h : longSigns.find? (fun s => s.isPrefixOf (c :: cs)) = some s) :
    0 < s.length ∧ s.length ≤ (c :: cs).length := by
  have hlong : ∀ s ∈ longSigns, 0 < s.length := by decide
  have hprefix : s.isPrefixOf (c :: cs) = true := by simpa using List.find?_some h
  exact ⟨hlong s (List.mem_of_find?_eq_some h),
    (List.isPrefixOf_iff_prefix.1 hprefix).length_le⟩

/-- The sign at the head of a text does not depend on what follows a border. -/
theorem find?_longSigns_border (hb : IsBorder b) (cs ys : List Char) :
    longSigns.find? (fun s => s.isPrefixOf (cs ++ b :: ys)) =
      longSigns.find? (fun s => s.isPrefixOf cs) := by
  have hsigns : ∀ s ∈ longSigns, b ∉ s := by rcases hb with rfl | rfl <;> decide
  exact List.find?_congr fun s hs => isPrefixOf_border (hsigns s hs) cs ys

/-- Whether a comment starts at the head of a text does not depend on what follows a border. -/
theorem lineComments_border (hb : IsBorder b) (cs ys : List Char) :
    (d.lineComments.any fun s => s.isPrefixOf (cs ++ b :: ys)) =
      d.lineComments.any fun s => s.isPrefixOf cs := by
  have hstarts : ∀ s ∈ d.lineComments, b ∉ s := by rcases hb with rfl | rfl <;> cases d <;> decide
  rw [Bool.eq_iff_iff, List.any_eq_true, List.any_eq_true]
  constructor
  · rintro ⟨s, hs, hprefix⟩
    exact ⟨s, hs, by rwa [isPrefixOf_border (hstarts s hs)] at hprefix⟩
  · rintro ⟨s, hs, hprefix⟩
    exact ⟨s, hs, by rwa [isPrefixOf_border (hstarts s hs)]⟩

/-- A token takes a character at least, and it ends before a border, whatever follows. -/
theorem readToken_border (hb : IsBorder b) (h : readToken d place c cs = .ok (t, rest))
    (ys : List Char) : rest.length ≤ cs.length ∧
      readToken d place c (cs ++ b :: ys) = .ok (t, rest ++ b :: ys) := by
  -- what follows the border changes none of the tests, so both texts go the same way
  have hsingle : b ≠ '\'' := by rcases hb with rfl | rfl <;> decide
  have hdouble : b ≠ '"' := by rcases hb with rfl | rfl <;> decide
  have hdigit : b.isDigit = false := by rcases hb with rfl | rfl <;> decide
  have hquote : ((cs ++ b :: ys).head? == some '\'') = (cs.head? == some '\'') := by
    cases cs with
    | nil => simpa using hsingle
    | cons _ _ => rfl
  simp only [readToken] at h ⊢
  rw [hquote, head?_border hdigit]
  by_cases htext : (c == '\'') = true
  · rw [if_pos htext] at h ⊢
    obtain ⟨content, hread, rfl⟩ := exists_of_quoted h
    rw [readQuoted?_border hsingle hread]
    exact ⟨length_le_of_readQuoted? hread, rfl⟩
  rw [if_neg htext] at h ⊢
  by_cases hname : (c == '"') = true
  · rw [if_pos hname] at h ⊢
    obtain ⟨content, hread, rfl⟩ := exists_of_quoted h
    rw [readQuoted?_border hdouble hread]
    exact ⟨length_le_of_readQuoted? hread, rfl⟩
  rw [if_neg hname] at h ⊢
  by_cases htagged : (['n', 'N', 'x', 'X'].contains c && cs.head? == some '\'') = true
  · rw [if_pos htagged] at h ⊢
    obtain ⟨content, hread, rfl⟩ := exists_of_quoted h
    cases cs with
    | nil => simp at htagged
    | cons e cs =>
      rw [List.tail_cons] at hread
      rw [List.cons_append, List.tail_cons, readQuoted?_border hsingle hread]
      exact ⟨Nat.le_succ_of_le (length_le_of_readQuoted? hread), rfl⟩
  rw [if_neg htagged] at h ⊢
  by_cases hword : d.startsWord c = true
  · have hcontinues : d.continuesWord b = false := by
      rcases hb with rfl | rfl <;> cases d <;> decide
    rw [if_pos hword] at h ⊢
    cases h
    rw [takeWhile_border hcontinues, dropWhile_border hcontinues]
    exact ⟨Text.length_dropWhile_le _ _, rfl⟩
  rw [if_neg hword] at h ⊢
  by_cases hnumber : (c.isDigit || (c == '.' && cs.head?.any Char.isDigit)) = true
  · have hpos := length_numberRun_pos hnumber
    rw [if_pos hnumber] at h ⊢
    cases h
    rw [← List.cons_append, numberRun_border hb,
      List.drop_append_of_le_length (length_numberRun_le _)]
    refine ⟨?_, rfl⟩
    rw [List.length_drop, List.length_cons]
    omega
  rw [if_neg hnumber] at h ⊢
  by_cases hmark : (c == '?') = true
  · rw [if_pos hmark] at h ⊢
    cases h
    exact ⟨Nat.le_refl _, rfl⟩
  rw [if_neg hmark] at h ⊢
  by_cases hdollar : (c == '$') = true
  · have hcontinues : (b.isAlphanum || b == '_') = false := by rcases hb with rfl | rfl <;> decide
    have hrun := takeWhile_border (p := fun x => x.isAlphanum || x == '_') hcontinues cs ys
    rw [if_pos hdollar] at h ⊢
    cases h
    rw [hrun, List.drop_append_of_le_length (length_takeWhile_le _ _), List.length_drop]
    exact ⟨Nat.sub_le _ _, rfl⟩
  rw [if_neg hdollar] at h ⊢
  rw [← List.cons_append, find?_longSigns_border hb]
  cases hsign : longSigns.find? fun s => s.isPrefixOf (c :: cs) with
  | none =>
    rw [hsign] at h
    cases h
    exact ⟨Nat.le_refl _, rfl⟩
  | some s =>
    obtain ⟨hpos, hlength⟩ := length_sign_le hsign
    rw [hsign] at h
    cases h
    dsimp only
    rw [List.drop_append_of_le_length hlength, List.length_drop, List.length_cons]
    refine ⟨?_, rfl⟩
    omega

/-! ## Texts -/

/-- The tokens of a text that ends outside every comment. -/
inductive Lexes (d : Dialect) : List Char → List Token → Prop where
  | nil : Lexes d [] []
  | blank {c : Char} {cs : List Char} {ts : List Token} (hc : Text.isBlank c = true)
      (h : Lexes d cs ts) : Lexes d (c :: cs) ts
  | lineComment {c : Char} {cs rest : List Char} {ts : List Token} (hc : Text.isBlank c = false)
      (hline : (d.lineComments.any fun s => s.isPrefixOf (c :: cs)) = true)
      (hrest : (c :: cs).dropWhile (· != '\n') = '\n' :: rest) (h : Lexes d ('\n' :: rest) ts) :
      Lexes d (c :: cs) ts
  | comment {cs rest : List Char} {ts : List Token}
      (hline : (d.lineComments.any fun s => s.isPrefixOf ('/' :: '*' :: cs)) = false)
      (hrest : afterComment? 1 cs = some rest) (h : Lexes d rest ts) :
      Lexes d ('/' :: '*' :: cs) ts
  | token {c : Char} {cs rest : List Char} {t : Token} {ts : List Token}
      (hc : Text.isBlank c = false)
      (hline : (d.lineComments.any fun s => s.isPrefixOf (c :: cs)) = false)
      (hcomment : (c == '/' && cs.head? == some '*') = false)
      (ht : ∀ place, readToken d place c cs = .ok (t, rest)) (h : Lexes d rest ts) :
      Lexes d (c :: cs) (t :: ts)

/-- The tokens of a text without their places, if it has tokens. -/
def lexed? (d : Dialect) (text : String) : Option (List Token) :=
  match tokens d text with
  | .ok ts => some (ts.map Prod.fst)
  | .error _ => none

/-- What stands behind a run at the head of a text. -/
theorem drop_length_takeWhile (p : Char → Bool) (cs : List Char) :
    cs.drop (cs.takeWhile p).length = cs.dropWhile p := by
  have hsplit := congrArg (List.drop (cs.takeWhile p).length)
    (List.takeWhile_append_dropWhile (p := p) (l := cs))
  rwa [List.drop_left, eq_comm] at hsplit

namespace Lexes

variable {ts us : List Token}

/-- The reader finds the tokens of a text wherever the text starts. -/
theorem readTokens_eq (h : Lexes d cs ts) (place : Place) {fuel : Nat}
    (hfuel : cs.length < fuel) :
    ∃ found, readTokens d place fuel cs = .ok found ∧ found.map Prod.fst = ts := by
  -- each step of the reader takes a character at least, so the fuel never runs out
  induction h generalizing place fuel with
  | nil =>
    cases fuel with
    | zero => exact ⟨[], rfl, rfl⟩
    | succ fuel => exact ⟨[], rfl, rfl⟩
  -- a blank, a comment up to the end of its line, a comment between marks, a token
  | @blank c cs ts hc _ ih =>
    cases fuel with
    | zero => exact absurd hfuel (Nat.not_lt_zero _)
    | succ fuel =>
      obtain ⟨found, hfound, hts⟩ := ih (place.step c) (Nat.lt_of_succ_lt_succ hfuel)
      exact ⟨found, by rw [readTokens, if_pos hc, hfound], hts⟩
  | @lineComment c cs rest ts hc hline hrest _ ih =>
    cases fuel with
    | zero => exact absurd hfuel (Nat.not_lt_zero _)
    | succ fuel =>
      have hfirst : (c != '\n') = true := by
        rw [bne_iff_ne]
        rintro rfl
        cases hc
      rw [List.dropWhile_cons, if_pos hfirst] at hrest
      have hlength := Text.length_dropWhile_le (· != '\n') cs
      rw [hrest] at hlength
      obtain ⟨found, hfound, hts⟩ :=
        ih (place.after ((c :: cs).takeWhile (· != '\n')))
          (Nat.lt_of_le_of_lt hlength (Nat.lt_of_succ_lt_succ hfuel))
      refine ⟨found, ?_, hts⟩
      rw [readTokens, if_neg (by rw [hc]; decide), if_pos hline]
      dsimp only
      rw [drop_length_takeWhile, List.dropWhile_cons, if_pos hfirst, hrest, hfound]
  | @comment cs rest ts hline hrest _ ih =>
    cases fuel with
    | zero => exact absurd hfuel (Nat.not_lt_zero _)
    | succ fuel =>
      have hlength := length_le_of_afterComment? hrest
      have hrun : rest.length < fuel := by
        simp only [List.length_cons] at hfuel
        omega
      obtain ⟨found, hfound, hts⟩ := ih (place.after
        (('/' :: '*' :: cs).take (('/' :: '*' :: cs).length - rest.length))) hrun
      refine ⟨found, ?_, hts⟩
      have hstart : ('/' == '/' && ('*' :: cs).head? == some '*') = true := rfl
      rw [readTokens, if_neg (by decide), if_neg (by rw [hline]; decide), if_pos hstart,
        List.tail_cons, hrest]
      exact hfound
  | @token c cs rest t ts hc hline hcomment ht _ ih =>
    cases fuel with
    | zero => exact absurd hfuel (Nat.not_lt_zero _)
    | succ fuel =>
      have hlength := (readToken_border (Or.inl rfl) (ht place) []).1
      have hrun : rest.length < fuel :=
        Nat.lt_of_le_of_lt hlength (Nat.lt_of_succ_lt_succ hfuel)
      obtain ⟨found, hfound, hts⟩ := ih (place.after
        ((c :: cs).take ((c :: cs).length - rest.length))) hrun
      refine ⟨(t, place) :: found, ?_, by rw [List.map_cons, hts]⟩
      rw [readTokens, if_neg (by rw [hc]; decide), if_neg (by rw [hline]; decide),
        if_neg (by rw [hcomment]; decide), ht place]
      dsimp only
      rw [hfound]
      rfl

/-- The tokens that are derived for a text are those that are read from it. -/
theorem lexed?_eq {text : String} (h : Lexes d text.toList ts) : lexed? d text = some ts := by
  obtain ⟨found, hfound, hts⟩ := h.readTokens_eq {} (Nat.lt_succ_self _)
  have htokens : tokens d text = .ok found := by
    rw [tokens, ← String.length_toList]
    exact hfound
  rw [lexed?, htokens, ← hts]

/-- A text has its tokens and no others. -/
theorem unique (hts : Lexes d cs ts) (hus : Lexes d cs us) : ts = us := by
  have hread : lexed? d (String.ofList cs) = some ts := lexed?_eq (by simpa using hts)
  rw [lexed?_eq (by simpa using hus), Option.some.injEq] at hread
  exact hread.symm

/-- A text that ends at a border may be followed by another. -/
theorem append (hx : Lexes d cs ts) (hb : IsBorder b) (hy : Lexes d (b :: ys) us) :
    Lexes d (cs ++ b :: ys) (ts ++ us) := by
  -- along the first text; only its last token or comment stands at the border
  induction hx with
  | nil => exact hy
  | blank hc _ ih => exact .blank hc ih
  | @lineComment c cs rest ts hc hline hrest _ ih =>
    refine .lineComment hc ((lineComments_border hb (c :: cs) ys).trans hline) ?_ ih
    show ((c :: cs) ++ b :: ys).dropWhile (· != '\n') = _
    rw [List.dropWhile_append, hrest]
    rfl
  | @comment cs rest ts hline hrest _ ih =>
    exact .comment ((lineComments_border hb ('/' :: '*' :: cs) ys).trans hline)
      (afterComment?_border hrest ys) ih
  | @token c cs rest t ts hc hline hcomment ht _ ih =>
    refine .token hc ((lineComments_border hb (c :: cs) ys).trans hline) ?_
      (fun place => (readToken_border hb (ht place) ys).2) ih
    cases cs with
    | nil =>
      have hstar : b ≠ '*' := by rcases hb with rfl | rfl <;> decide
      simp [hstar]
    | cons e cs => exact hcomment

/-- A text of one token. -/
theorem one (hc : Text.isBlank c = false)
    (hline : (d.lineComments.any fun s => s.isPrefixOf (c :: cs)) = false)
    (hcomment : (c == '/' && cs.head? == some '*') = false)
    (ht : ∀ place, readToken d place c cs = .ok (t, [])) : Lexes d (c :: cs) [t] :=
  .token hc hline hcomment ht .nil

/-- Texts with a blank between them. -/
theorem spaced (hx : Lexes d cs ts) (hy : Lexes d ys us) :
    Lexes d (cs ++ ' ' :: ys) (ts ++ us) := hx.append (Or.inl rfl) (.blank rfl hy)

/-- A closing parenthesis ends a text. -/
theorem close (hx : Lexes d cs ts) : Lexes d (cs ++ [')']) (ts ++ [.sign ")"]) := by
  refine hx.append (Or.inr rfl) (.one rfl ?_ rfl fun place => ?_)
  · cases d <;> rfl
  · cases d <;> rfl

/-- A text between parentheses. -/
theorem enclose (hx : Lexes d cs ts) :
    Lexes d ('(' :: (cs ++ [')'])) (.sign "(" :: (ts ++ [.sign ")"])) := by
  refine .token rfl ?_ rfl (fun place => ?_) hx.close
  · cases d <;> rfl
  · cases d <;> rfl

/-- The words that conditions are written with. -/
def keywords : List String := ["AND", "OR", "NOT", "IS", "NULL", "IN", "LIKE", "ILIKE"]

/-- The signs that conditions are written with. -/
def comparisonSigns : List String := ["=", "!=", ">", ">=", "<", "<="]

/-- A keyword is one token, whichever dialect reads it. -/
theorem keyword {w : String} (h : w ∈ keywords) : Lexes d w.toList [.word w] := by
  simp only [keywords, List.mem_cons, List.not_mem_nil, or_false] at h
  rcases h with rfl | rfl | rfl | rfl | rfl | rfl | rfl | rfl
  all_goals
    cases d
    · exact .one rfl rfl rfl fun _ => rfl
    · exact .one rfl rfl rfl fun _ => rfl

/-- A sign of comparison is one token, whichever dialect reads it. -/
theorem comparisonSign {w : String} (h : w ∈ comparisonSigns) :
    Lexes d w.toList [.sign w] := by
  simp only [comparisonSigns, List.mem_cons, List.not_mem_nil, or_false] at h
  rcases h with rfl | rfl | rfl | rfl | rfl | rfl
  all_goals
    cases d
    · exact .one rfl rfl rfl fun _ => rfl
    · exact .one rfl rfl rfl fun _ => rfl

/-- A written identifier is one token. -/
theorem quoteIdentifier (name : String) :
    Lexes d (Sql.quoteIdentifier name).toList [.quotedName name] := by
  rw [toList_quoteIdentifier, quotedRun]
  refine .one rfl ?_ rfl fun place => ?_
  · cases d <;> rfl
  · simp only [readToken]
    rw [if_neg (by decide), if_pos (by decide), readQuoted?_doubled]
    simp

end Lexes

end Snowbridge.Sql
