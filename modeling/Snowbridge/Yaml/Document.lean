import Snowbridge.Yaml.Node

/-!
# YAML documents

An alias stands for the last node of the whole document that carries its number, so it may point
forward, or into itself. A reading follows each alias where it meets it, and may follow a hundred for
each event of the document.
-/

namespace Snowbridge.Yaml

mutual

/-- The number of events of a node: one for a scalar or an alias, and two around the content of a
sequence or mapping. -/
def Node.size : Node → Nat
  | .scalar _ _ _ => 1
  | .sequence _ items => 2 + Node.sizes items
  | .mapping _ entries => 2 + Node.entrySizes entries
  | .alias _ => 1

def Node.sizes : List Node → Nat
  | [] => 0
  | n :: ns => n.size + Node.sizes ns

def Node.entrySizes : List (Node × Node) → Nat
  | [] => 0
  | (k, v) :: es => k.size + v.size + Node.entrySizes es

end

/-- Adds a node to those that carry anchors. -/
def Node.noted (n : Node) : Option Nat → List (Nat × Node) → List (Nat × Node)
  | some anchor, known => (anchor, n) :: known
  | none, known => known

mutual

/-- The nodes that carry anchors, by number, added to those that are known. The last one stands
first. -/
def Node.anchored (known : List (Nat × Node)) : Node → List (Nat × Node)
  | .scalar p text style => (Node.scalar p text style).noted p.anchor known
  | .sequence p items =>
    Node.anchoredItems ((Node.sequence p items).noted p.anchor known) items
  | .mapping p entries =>
    Node.anchoredEntries ((Node.mapping p entries).noted p.anchor known) entries
  | .alias _ => known

def Node.anchoredItems (known : List (Nat × Node)) : List Node → List (Nat × Node)
  | [] => known
  | n :: ns => Node.anchoredItems (n.anchored known) ns

def Node.anchoredEntries (known : List (Nat × Node)) : List (Node × Node) → List (Nat × Node)
  | [] => known
  | (k, v) :: es => Node.anchoredEntries (v.anchored (k.anchored known)) es

end

/-- A document: its root, and the nodes that carry anchors, last one first. -/
structure Document where
  root : Node
  anchored : List (Nat × Node)

/-- The document with a root. -/
def Document.ofRoot (root : Node) : Document := ⟨root, root.anchored []⟩

def Document.read? (text : String) : Option Document := (Node.read? text).map .ofRoot

/-! ## Aliases -/

/-- A reading of nodes, which keeps how many more aliases it may follow. -/
abbrev Reading := StateT Nat Option

/-- How many aliases a reading of the whole document may follow. -/
def Document.allowance (d : Document) : Nat := 100 * d.root.size

/-- Runs a reading of the whole document. -/
def Document.run? {α : Type} (d : Document) (reading : Reading α) : Option α :=
  (StateT.run reading d.allowance).map Prod.fst

/-- The node itself, or the one that an alias stands for. -/
def Document.follow (d : Document) : Node → Reading Node
  | .alias anchor => do
    match ← get, d.anchored.lookup anchor with
    | left + 1, some node => set left; pure node
    | _, _ => failure
  | node => pure node

end Snowbridge.Yaml
