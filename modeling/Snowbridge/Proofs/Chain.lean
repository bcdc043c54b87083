/-!
# Chains

Items with a link between each two, such as operands with connectives between them. A chain is
split at the first of the links that pass a test (`splitAt?`), and joined again at the same link
(`eq_join_of_splitAt?`).
-/

namespace Snowbridge

/-- One item or more, with a link between each two. -/
inductive Chain (α β : Type) where
  | last (a : α)
  | more (a : α) (l : β) (rest : Chain α β)

namespace Chain

variable {α β γ : Type} {c left right : Chain α β} {l : β} {p : β → Bool}

/-- The items from left to right. -/
def items : Chain α β → List α
  | last a => [a]
  | more a _ rest => a :: rest.items

/-- The links from left to right. -/
def links : Chain α β → List β
  | last _ => []
  | more _ l rest => l :: rest.links

/-- Two chains with a link between them. -/
def join : Chain α β → β → Chain α β → Chain α β
  | last a, l, right => more a l right
  | more a l' rest, l, right => more a l' (rest.join l right)

/-- A chain with other items. -/
def map (f : α → γ) : Chain α β → Chain γ β
  | last a => last (f a)
  | more a l rest => more (f a) l (rest.map f)

/-- The chains before and after the first link that passes a test, and that link. -/
def splitAt? (p : β → Bool) : Chain α β → Option (Chain α β × β × Chain α β)
  | last _ => none
  | more a l rest =>
    if p l then some (last a, l, rest)
    else (rest.splitAt? p).map fun (left, l', right) => (more a l left, l', right)

/-- The text of a chain, from the texts of its items and links. -/
def text (item : α → List γ) (link : β → List γ) : Chain α β → List γ
  | last a => item a
  | more a l rest => item a ++ (link l ++ rest.text item link)

theorem length_items_pos (c : Chain α β) : 0 < c.items.length := by
  cases c with
  | last a => exact Nat.one_pos
  | more a l rest => exact Nat.succ_pos _

@[simp] theorem items_join (left : Chain α β) (l : β) (right : Chain α β) :
    (left.join l right).items = left.items ++ right.items := by
  induction left with
  | last a => rfl
  | more a l' rest ih => simp [join, items, ih]

@[simp] theorem links_join (left : Chain α β) (l : β) (right : Chain α β) :
    (left.join l right).links = left.links ++ l :: right.links := by
  induction left with
  | last a => rfl
  | more a l' rest ih => simp [join, links, ih]

/-- Joining is associative. -/
theorem join_assoc (c : Chain α β) (l : β) (left : Chain α β) (l' : β) (right : Chain α β) :
    (c.join l left).join l' right = c.join l (left.join l' right) := by
  induction c with
  | last a => rfl
  | more a _ rest ih => simp only [join, ih]

@[simp] theorem links_map (f : α → γ) (c : Chain α β) : (c.map f).links = c.links := by
  induction c with
  | last a => rfl
  | more a l rest ih => simp only [map, links, ih]

theorem map_map {δ : Type} (g : γ → δ) (f : α → γ) (c : Chain α β) :
    (c.map f).map g = c.map (g ∘ f) := by
  induction c with
  | last a => rfl
  | more a l rest ih => simp only [map, ih, Function.comp_apply]

theorem map_join (f : α → γ) (left : Chain α β) (l : β) (right : Chain α β) :
    (left.join l right).map f = (left.map f).join l (right.map f) := by
  induction left with
  | last a => rfl
  | more a l' rest ih => simp only [join, map, ih]

/-! ## Splits -/

/-- A split undoes a join, at a link that passes the test. -/
theorem eq_join_of_splitAt? (h : c.splitAt? p = some (left, l, right)) :
    p l = true ∧ c = left.join l right := by
  induction c generalizing left with
  | last a => cases h
  | more a l' rest ih =>
    rw [splitAt?] at h
    split at h
    · next hl =>
      cases h
      exact ⟨hl, rfl⟩
    · obtain ⟨⟨left', l'', right'⟩, hrest, heq⟩ := Option.map_eq_some_iff.1 h
      cases heq
      obtain ⟨hl, rfl⟩ := ih hrest
      exact ⟨hl, rfl⟩

/-- There is no split exactly if no link passes the test. -/
theorem splitAt?_eq_none_iff : c.splitAt? p = none ↔ ∀ l ∈ c.links, p l = false := by
  induction c with
  | last a => simp [splitAt?, links]
  | more a l rest ih =>
    cases hl : p l with
    | true => simp [splitAt?, links, hl]
    | false => simp [splitAt?, links, hl, ih]

/-- A split is at the first link that passes the test. -/
theorem not_of_mem_left (h : c.splitAt? p = some (left, l, right)) :
    ∀ l' ∈ left.links, p l' = false := by
  induction c generalizing left with
  | last a => cases h
  | more a l' rest ih =>
    rw [splitAt?] at h
    split at h
    · cases h
      exact fun _ hmem => nomatch hmem
    · next hl =>
      obtain ⟨⟨left', l'', right'⟩, hrest, heq⟩ := Option.map_eq_some_iff.1 h
      cases heq
      intro l₁ hmem
      rcases List.mem_cons.1 hmem with rfl | htail
      · exact Bool.eq_false_iff.2 hl
      · exact ih hrest l₁ htail

/-- Every link of a chain is the place of some join. -/
theorem exists_eq_join (h : l ∈ c.links) : ∃ left right, c = join left l right := by
  induction c with
  | last a => cases h
  | more a l' rest ih =>
    rcases List.mem_cons.1 h with rfl | htail
    · exact ⟨last a, rest, rfl⟩
    · obtain ⟨left, right, rfl⟩ := ih htail
      exact ⟨more a l' left, right, rfl⟩

/-- A chain without links is a single item. -/
theorem exists_eq_last (h : c.links = []) : ∃ a, c = last a := by
  cases c with
  | last a => exact ⟨a, rfl⟩
  | more a l rest => cases h

/-! ## Texts -/

/-- The text of joined chains has the text of the link in between. -/
theorem text_join {item : α → List γ} {link : β → List γ} (left : Chain α β) (l : β)
    (right : Chain α β) : (left.join l right).text item link =
      left.text item link ++ (link l ++ right.text item link) := by
  induction left with
  | last a => rfl
  | more a l' rest ih => simp [join, text, ih]

end Chain

end Snowbridge
