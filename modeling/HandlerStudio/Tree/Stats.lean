import HandlerStudio.Tree.Basic

/-!
# Summary of a tree

How many nodes a tree has, how deep it is, how portable, and which identities occur more than once.
-/

namespace HandlerStudio

/-- How many nodes there are of each tier. -/
structure TierCounts where
  universal : Nat := 0
  domain : Nat := 0
  specialized : Nat := 0
  native : Nat := 0
deriving DecidableEq, Repr

namespace TierCounts

def get (c : TierCounts) : Tier → Nat
  | .universal => c.universal
  | .domain => c.domain
  | .specialized => c.specialized
  | .native => c.native

/-- Count one more. -/
def add (c : TierCounts) : Tier → TierCounts
  | .universal => { c with universal := c.universal + 1 }
  | .domain => { c with domain := c.domain + 1 }
  | .specialized => { c with specialized := c.specialized + 1 }
  | .native => { c with native := c.native + 1 }

def toList (c : TierCounts) : List Nat := Tier.all.map c.get

@[simp] theorem get_add (c : TierCounts) (t u : Tier) :
    (c.add t).get u = c.get u + if t = u then 1 else 0 := by
  cases t <;> cases u <;> rfl

end TierCounts

structure TreeStats where
  nodes : Nat := 0
  maxDepth : Nat := 0
  byTier : TierCounts := {}
  hasNativeBridge : Bool := false
deriving DecidableEq, Repr

namespace TreeStats

/-- Count one node at a depth. -/
def visit (s : TreeStats) (depth : Nat) (n : Node) : TreeStats where
  nodes := s.nodes + 1
  maxDepth := max s.maxDepth (depth + 1)
  byTier := s.byTier.add n.tier
  hasNativeBridge := s.hasNativeBridge || n.kind == .nativeBridge

/-- The summary of a tree. -/
def collect (body : Body) : TreeStats :=
  (Tree.walk body).foldl (fun s p => s.visit p.1 p.2) {}

def count (s : TreeStats) (t : Tier) : Nat := s.byTier.get t

/-- The least portable tier in use. -/
def worstTier? (s : TreeStats) : Option Tier :=
  Tier.all.reverse.find? fun t => 0 < s.count t

/-- Whether every node runs everywhere. -/
def isFullyPortable (s : TreeStats) : Bool :=
  s.nodes == s.count .universal

end TreeStats

/-- Identities met so far, and those met again, in the order of their second occurrence. -/
structure RepeatScan where
  seen : List NodeId := []
  repeated : List NodeId := []

def RepeatScan.visit (s : RepeatScan) (id : NodeId) : RepeatScan :=
  if s.seen.contains id then
    if s.repeated.contains id then s else { s with repeated := s.repeated ++ [id] }
  else { s with seen := id :: s.seen }

namespace Tree

/-- The identities that occur more than once, each named once. -/
def duplicateIds (body : Body) : List NodeId :=
  ((ids body).foldl RepeatScan.visit {}).repeated

end Tree

end HandlerStudio
