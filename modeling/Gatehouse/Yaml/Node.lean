import Gatehouse.Yaml.Lexer

/-! # YAML documents as trees of nodes

    A document is one node.  A text that goes wrong in the middle still has a tree, which
    breaks off there: a collection that is not `whole` lost its end, and a `missing` node
    was never begun.  A reader who meets such a place, and only he, learns of the fault.

    An anchor gives its node a slot, and an alias names a slot.  The slot of a new anchor is
    the number of different names before it; of several nodes with one slot an alias means
    the one that begins last (`Node.inSlot?`). -/

namespace Gatehouse.Yaml

/-- What a node has beside its content. -/
structure Properties where
  anchor : Option Nat
  tag    : Option String
  /-- Where the node begins. -/
  mark   : Mark
  deriving DecidableEq, Repr

inductive Node where
  /-- The text broke off before the node. -/
  | missing
  | alias (slot : Nat) (mark : Mark)
  | scalar (properties : Properties) (text : String) (style : Style)
  | sequence (properties : Properties) (items : List Node) (whole : Bool)
  | mapping (properties : Properties) (entries : List (Node × Node)) (whole : Bool)
  deriving Repr

namespace Node

/-- The node that nothing was written for. -/
def nothing (mark : Mark) : Node := .scalar ⟨none, none, mark⟩ "" .plain

/-- The node with the place where it stands in a slot, if it has one. -/
def slotted (n : Node) : Option Nat → List (Nat × Node)
  | none      => []
  | some slot => [(slot, n)]

mutual

/-- All anchored nodes in the order in which they begin. -/
def anchored : Node → List (Nat × Node)
  | .missing            => []
  | .alias _ _          => []
  | .scalar p t s       => (Node.scalar p t s).slotted p.anchor
  | .sequence p items w => (Node.sequence p items w).slotted p.anchor ++ anchoredItems items
  | .mapping p es w     => (Node.mapping p es w).slotted p.anchor ++ anchoredEntries es

def anchoredItems : List Node → List (Nat × Node)
  | []      => []
  | n :: ns => anchored n ++ anchoredItems ns

def anchoredEntries : List (Node × Node) → List (Nat × Node)
  | []            => []
  | (k, v) :: es => anchored k ++ (anchored v ++ anchoredEntries es)

end

/-- The node that an alias with the slot means. -/
def inSlot? (root : Node) (slot : Nat) : Option Node := root.anchored.reverse.lookup slot

/-- Is the whole node there? -/
def isWhole : Node → Bool
  | .missing          => false
  | .alias _ _        => true
  | .scalar _ _ _     => true
  | .sequence _ _ w   => w
  | .mapping _ _ w    => w

end Node

/-- A document, and the fault of its text if it has one. -/
structure Document where
  root  : Node
  fault : Option Fault

end Gatehouse.Yaml
