import Snowbridge.Yaml.Lexer

/-!
# Nodes of a YAML document

A document is a tree of scalars, sequences, mappings and aliases. Anchors are numbered, and an alias
names a number.
-/

namespace Snowbridge.Yaml

/-- What may stand in front of a node. -/
structure Properties where
  tag : Option Tag := none
  anchor : Option Nat := none
deriving Inhabited

/-- A node. Mappings keep the order of their entries and may name a key twice. -/
inductive Node where
  | scalar (properties : Properties) (text : String) (style : Style)
  | sequence (properties : Properties) (items : List Node)
  | mapping (properties : Properties) (entries : List (Node × Node))
  | alias (anchor : Nat)
deriving Inhabited

/-- A scalar that was left out. -/
def Node.empty : Node := .scalar {} "" .plain

/-- The tokens that are left, what handles stand for, and the numbers of the anchors. -/
structure Remaining where
  tokens : List Token
  handles : List (String × List UInt8) := []
  anchors : List (String × Nat) := []

/-- A reader of tokens. -/
abbrev Reader := StateT Remaining Option

namespace Reader

def peek : Reader Token := do
  match (← get).tokens with
  | t :: _ => pure t
  | [] => failure

/-- The next token is one of these, or there is none. -/
def atAny (ts : List Token) : Reader Bool := do
  match (← get).tokens with
  | t :: _ => pure (ts.contains t)
  | [] => pure true

def skip : Reader Unit := modify fun r => { r with tokens := r.tokens.drop 1 }

/-- Steps over the next token if it is this one. -/
def skipIf (t : Token) : Reader Bool := do
  if (← get).tokens.head? == some t then skip; pure true else pure false

/-- Numbers an anchor by how many names there are. A name that is used again gets another number,
which the next new name may share. -/
def number (name : String) : Reader Nat := do
  let anchors := (← get).anchors
  modify fun r => { r with
    anchors := (name, anchors.length) :: anchors.filter fun (known, _) => known != name }
  pure anchors.length

/-- The number of an anchor's name. -/
def numberOf (name : String) : Reader Nat := do
  match (← get).anchors.lookup name with
  | some n => pure n
  | none => failure

/-- A tag in full: the octets that its handle stands for, and its own. -/
def tagOf (handle : String) (octets : List UInt8) : Reader Tag := do
  if handle.isEmpty then pure ⟨octets⟩
  else
    match (← get).handles.lookup handle with
    | some first => pure ⟨first ++ octets⟩
    | none => failure

def tag? : Reader (Option Tag) := do
  match (← get).tokens with
  | .tag handle octets :: _ => skip; pure (some (← tagOf handle octets))
  | _ => pure none

def anchor? : Reader (Option Nat) := do
  match (← get).tokens with
  | .anchor name :: _ => skip; pure (some (← number name))
  | _ => pure none

/-- An anchor and a tag in front of a node, in either order. -/
def properties : Reader Properties := do
  match ← tag? with
  | some tag => pure { tag := some tag, anchor := ← anchor? }
  | none =>
    let anchor ← anchor?
    pure { tag := ← tag?, anchor }

/-- The scalar that is left out behind an anchor or a tag. -/
def leftOut (p : Properties) : Reader Node :=
  if p.tag.isSome || p.anchor.isSome then pure (.scalar p "" .plain) else failure

end Reader

/-- The properties of a scalar that is written out: there the exclamation mark alone is no tag. -/
def Properties.ofScalar (p : Properties) : Properties :=
  if p.tag == some .unnamed then { p with tag := none } else p

open Reader

mutual

/-- A node. Blocks may stand after a key or dash, but not within brackets; a block sequence that is
the value of a key needs no indentation of its own. -/
def readNode (fuel : Nat) (block indentless : Bool) : Reader Node :=
  match fuel with
  | 0 => failure
  | fuel + 1 => do
    match ← peek with
    | .alias name => skip; pure (.alias (← numberOf name))
    | _ =>
      let p ← properties
      match (← get).tokens with
      | .scalar text style :: _ => skip; pure (.scalar p.ofScalar text style)
      | .flowSequence :: _ => skip; pure (.sequence p (← readFlowItems fuel true))
      | .flowMapping :: _ => skip; pure (.mapping p (← readFlowEntries fuel true))
      | .entry :: _ =>
        if indentless then pure (.sequence p (← readIndentless fuel)) else leftOut p
      | .blockSequence :: _ =>
        if block then skip; pure (.sequence p (← readItems fuel)) else leftOut p
      | .blockMapping :: _ =>
        if block then skip; pure (.mapping p (← readEntries fuel)) else leftOut p
      | _ => leftOut p

/-- A node, or the empty scalar if one of these tokens comes next. -/
def readOptional (fuel : Nat) (block indentless : Bool) (stops : List Token) : Reader Node :=
  match fuel with
  | 0 => failure
  | fuel + 1 => do
    if ← atAny stops then pure .empty else readNode fuel block indentless

/-- The items of a block sequence, to its end. -/
def readItems (fuel : Nat) : Reader (List Node) :=
  match fuel with
  | 0 => failure
  | fuel + 1 => do
    if ← skipIf .blockEnd then pure []
    else if ← skipIf .entry then
      let item ← readOptional fuel true false [.entry, .blockEnd]
      pure (item :: (← readItems fuel))
    else failure

/-- The items of a block sequence that has no indentation of its own. -/
def readIndentless (fuel : Nat) : Reader (List Node) :=
  match fuel with
  | 0 => failure
  | fuel + 1 => do
    if ← skipIf .entry then
      let item ← readOptional fuel true false [.entry, .key, .value, .blockEnd]
      pure (item :: (← readIndentless fuel))
    else pure []

/-- The entries of a block mapping, to its end. -/
def readEntries (fuel : Nat) : Reader (List (Node × Node)) :=
  match fuel with
  | 0 => failure
  | fuel + 1 => do
    if ← skipIf .blockEnd then pure []
    else if ← skipIf .key then
      let stops := [Token.key, .value, .blockEnd]
      let key ← readOptional fuel true true stops
      let value ← if ← skipIf .value then readOptional fuel true true stops else pure .empty
      pure ((key, value) :: (← readEntries fuel))
    else failure

/-- The items within square brackets, to the closing one. An item may be a mapping of one entry. -/
def readFlowItems (fuel : Nat) (first : Bool) : Reader (List Node) :=
  match fuel with
  | 0 => failure
  | fuel + 1 => do
    if ← skipIf .flowSequenceEnd then pure []
    else
      if !first then
        if !(← skipIf .flowEntry) then failure
      if ← skipIf .flowSequenceEnd then pure []
      else
        let item ←
          if ← skipIf .key then
            let stops := [Token.value, .flowEntry, .flowSequenceEnd]
            let bare ← atAny stops
            let key ← readOptional fuel false false stops
            if bare then
              skip
            let value ←
              if ← skipIf .value then
                readOptional fuel false false [.flowEntry, .flowSequenceEnd]
              else pure .empty
            pure (Node.mapping {} [(key, value)])
          else readNode fuel false false
        pure (item :: (← readFlowItems fuel false))

/-- The entries within braces, to the closing one. A key may stand alone. -/
def readFlowEntries (fuel : Nat) (first : Bool) : Reader (List (Node × Node)) :=
  match fuel with
  | 0 => failure
  | fuel + 1 => do
    if ← skipIf .flowMappingEnd then pure []
    else
      if !first then
        if !(← skipIf .flowEntry) then failure
      if ← skipIf .flowMappingEnd then pure []
      else
        let entry ←
          if ← skipIf .key then
            let key ← readOptional fuel false false [.value, .flowEntry, .flowMappingEnd]
            let value ←
              if ← skipIf .value then
                readOptional fuel false false [.flowEntry, .flowMappingEnd]
              else pure .empty
            pure (key, value)
          else
            let key ← readNode fuel false false
            pure (key, Node.empty)
        pure (entry :: (← readFlowEntries fuel false))

end

/-! ## Documents -/

/-- What handles stand for where no directive tells otherwise. -/
def defaultHandles : List (String × List UInt8) :=
  [("!", octetsOf "!"), ("!!", Tag.standardOctets)]

/-- Takes note of a directive: whether there has been a version, and the handles. No version and no
handle stands twice, and there are two versions in use. -/
def withDirective? (versioned : Bool) (handles : List (String × List UInt8)) :
    Token → Option (Bool × List (String × List UInt8))
  | .version major minor =>
    if !versioned && major == 1 && (minor == 1 || minor == 2) then some (true, handles) else none
  | .tagHandle handle octets =>
    if (handles.lookup handle).isSome then none
    else some (versioned, handles ++ [(handle, octets)])
  | _ => none

/-- The one document of a text: directives, its marker, a node, and end markers. Directives need the
marker. -/
def readDocument (fuel : Nat) : Reader Node := do
  let tokens := (← get).tokens
  if tokens.isEmpty then failure
  let directives := tokens.takeWhile Token.isDirective
  let some (_, handles) :=
      directives.foldlM (fun (v, hs) t => withDirective? v hs t) (false, []) | failure
  set { tokens := tokens.drop directives.length, handles := handles ++ defaultHandles : Remaining }
  let marked ← skipIf .documentStart
  if !directives.isEmpty && !marked then failure
  let node ←
    match (← get).tokens with
    | [] => if marked then pure Node.empty else failure
    | t :: _ =>
      if marked && (t.isDirective || t == .documentStart || t == .documentEnd) then
        pure Node.empty
      else readNode fuel true false
  modify fun r => { r with tokens := r.tokens.dropWhile (· == .documentEnd) }
  if (← get).tokens.isEmpty then pure node else failure

/-- The node at the root of the one document of a text. -/
def Node.read? (text : String) : Option Node := do
  let ts ← tokens? text
  let (root, _) ← (readDocument (4 * ts.length + 4)).run { tokens := ts }
  some root

end Snowbridge.Yaml
