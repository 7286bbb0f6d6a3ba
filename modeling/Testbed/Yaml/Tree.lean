import Testbed.Yaml.Token

namespace Testbed.Yaml

structure Scalar where
  text : String
  style : Style
  tag : Option String
deriving DecidableEq, Repr

def Scalar.empty : Scalar := ⟨"", .plain, none⟩

def standardTag (name : String) : String := "tag:yaml.org,2002:" ++ name

/-- Nodes that can be referred to have a number; it can be the number of more than one. -/
inductive Tree where
  | scalar (number : Option Nat) (s : Scalar)
  | sequence (number : Option Nat) (items : List Tree)
  | mapping (number : Option Nat) (entries : List (Tree × Tree))
  | alias (number : Nat)
  | broken

namespace Tree

def number? : Tree → Option Nat
  | .scalar n _ => n
  | .sequence n _ => n
  | .mapping n _ => n
  | .alias _ => none
  | .broken => none

mutual

def nodes : Tree → List Tree
  | .scalar n s => [.scalar n s]
  | .sequence n items => .sequence n items :: nodesOfItems items
  | .mapping n entries => .mapping n entries :: nodesOfEntries entries
  | .alias n => [.alias n]
  | .broken => [.broken]

def nodesOfItems : List Tree → List Tree
  | [] => []
  | t :: rest => t.nodes ++ nodesOfItems rest

def nodesOfEntries : List (Tree × Tree) → List Tree
  | [] => []
  | (k, v) :: rest => k.nodes ++ v.nodes ++ nodesOfEntries rest

end

def isBroken : Tree → Bool
  | .broken => true
  | _ => false

def isWhole (t : Tree) : Bool := !t.nodes.any isBroken

/-- How often a node shows itself in the text: once if it is a leaf, and else at both ends. -/
def weight : Tree → Nat
  | .sequence .. => 2
  | .mapping .. => 2
  | _ => 1

def size (t : Tree) : Nat := t.nodes.foldr (fun u n => u.weight + n) 0

end Tree

structure Document where
  /-- Absent if the text says nothing at all. -/
  root : Option Tree
  alone : Bool

namespace Document

/-- The node that an alias stands for: the last one that has the number. -/
def target? (d : Document) (number : Nat) : Option Tree :=
  d.root.bind fun t => t.nodes.reverse.find? fun u => u.number? == some number

end Document

end Testbed.Yaml
