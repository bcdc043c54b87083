import Snowbridge.Proofs.Sql.Quoted

/-!
# Placeholders of texts

A text takes as many values as it shows placeholders outside its quoted runs. Texts that close the
runs that they open may be joined, and the joined text takes the values of all its parts (`Takes`).
-/

namespace Snowbridge.Sql

/-- Neither quotes nor placeholders. -/
def Bare (cs : List Char) : Prop := ∀ c ∈ cs, isQuote c = false ∧ c ≠ '?'

instance (cs : List Char) : Decidable (Bare cs) :=
  List.decidableBAll (fun c => isQuote c = false ∧ c ≠ '?') cs

/-- A text that closes every run that it opens and takes `n` values. -/
structure Takes (cs : List Char) (n : Nat) : Prop where
  closed : OpenQuote.after none cs = none
  count : (outsideChars none cs).count '?' = n

namespace Takes

variable {xs ys cs : List Char} {m n : Nat}

/-- The values that a statement takes are as many as its placeholders. -/
theorem placeholderCount_eq {sql : String} (h : Takes sql.toList n) : placeholderCount sql = n :=
  h.count

/-- Texts in a row take the values of both. -/
theorem append (hx : Takes xs m) (hy : Takes ys n) : Takes (xs ++ ys) (m + n) := by
  constructor
  · rw [OpenQuote.after_append, hx.closed, hy.closed]
  · rw [outsideChars_append, List.count_append, hx.closed, hx.count, hy.count]

theorem string_append {a b : String} (ha : Takes a.toList m) (hb : Takes b.toList n) :
    Takes (a ++ b).toList (m + n) := by
  rw [String.toList_append]
  exact ha.append hb

/-- A text without quotes takes a value for each of its question marks. -/
theorem of_unquoted (h : Unquoted cs) : Takes cs (cs.count '?') := by
  constructor
  · exact h.after
  · rw [h.outsideChars]

/-- A text without quotes and placeholders takes no values. -/
theorem bare (h : Bare cs) : Takes cs 0 := by
  have hcs := of_unquoted fun c hc => (h c hc).1
  have hmark : '?' ∉ cs := fun hmem => (h '?' hmem).2 rfl
  rwa [List.count_eq_zero_of_not_mem hmark] at hcs

/-- A character that is neither a quote nor a placeholder takes no values, however often it
stands. -/
theorem replicate {c : Char} (hc : Bare [c]) (n : Nat) : Takes (List.replicate n c) 0 := by
  refine bare fun d hd => ?_
  rw [List.eq_of_mem_replicate hd]
  exact hc c (List.mem_singleton_self c)

/-- A pair of parentheses around a text. -/
theorem enclose (h : Takes cs n) : Takes ('(' :: (cs ++ [')'])) n := by
  have hopen : Takes ['('] 0 := bare (by decide)
  have hclose : Takes [')'] 0 := bare (by decide)
  have hall := hopen.append (h.append hclose)
  rwa [Nat.zero_add, Nat.add_zero] at hall

/-- A written identifier takes no values, whatever characters the name has. -/
theorem quoteIdentifier (name : String) : Takes (Sql.quoteIdentifier name).toList 0 := by
  constructor
  · exact after_quoteIdentifier name
  · rw [outsideChars_quoteIdentifier]
    rfl

/-- Parts with a separator between them that takes no values. -/
theorem intercalate {sep : String} {parts : List String} (hsep : Takes sep.toList 0)
    (hparts : ∀ part ∈ parts, Takes part.toList n) :
    Takes (String.intercalate sep parts).toList (parts.length * n) := by
  rw [String.toList_intercalate]
  induction parts with
  | nil =>
    rw [List.length_nil, Nat.zero_mul]
    exact ⟨rfl, rfl⟩
  | cons part parts ih =>
    have hpart := hparts part List.mem_cons_self
    have hrest := ih fun p hp => hparts p (List.mem_cons_of_mem part hp)
    -- the last part has no separator behind it
    cases parts with
    | nil => simpa using hpart
    | cons next parts =>
      have hall := (hpart.append hsep).append hrest
      rw [List.map_cons, List.map_cons, List.intercalate_cons_cons]
      rw [Nat.add_zero] at hall
      rw [List.length_cons, Nat.add_mul, Nat.one_mul, Nat.add_comm]
      exact hall

/-- A qualified name takes no values. -/
theorem quoteName (parts : List String) : Takes (Sql.quoteName parts).toList 0 := by
  have hpoint : Takes ".".toList 0 := bare (by decide)
  refine (intercalate hpoint ?_ : Takes _ ((parts.map Sql.quoteIdentifier).length * 0))
  intro part hpart
  obtain ⟨name, -, rfl⟩ := List.mem_map.1 hpart
  exact quoteIdentifier name

/-- A list of `n` placeholders takes `n` values. -/
theorem placeholders (n : Nat) : Takes (Sql.placeholders n).toList n := by
  have hcomma : Takes ", ".toList 0 := bare (by decide)
  have hall : Takes (Sql.placeholders n).toList ((List.replicate n "?").length * 1) := by
    refine intercalate hcomma ?_
    intro part hpart
    rw [List.eq_of_mem_replicate hpart]
    exact of_unquoted (by decide)
  rwa [List.length_replicate, Nat.mul_one] at hall

end Takes

end Snowbridge.Sql
