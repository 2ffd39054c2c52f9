/-!
# Identities of nodes

A node is addressed by its identity, a text. New nodes take theirs from a supply that never gives
one twice: twenty-six characters of base 32 that count upwards.
-/

namespace HandlerStudio

structure NodeId where
  text : String
deriving DecidableEq, Repr

/-- Where new identities come from: the number of those already given. -/
structure IdSupply where
  given : Nat := 0
deriving DecidableEq, Repr

namespace IdSupply

/-- The digits, without letters that are easily misread. -/
def alphabet : List Char := "0123456789ABCDEFGHJKMNPQRSTVWXYZ".toList

/-- The last `count` digits of a number in base 32. -/
def digits : (count : Nat) → Nat → List Char
  | 0, _ => []
  | count + 1, n => digits count (n / 32) ++ [alphabet.getD (n % 32) '0']

/-- The identity with a number. -/
def idAt (n : Nat) : NodeId :=
  ⟨String.ofList ("01".toList ++ digits 24 n)⟩

/-- The next identity. -/
def draw (supply : IdSupply) : NodeId × IdSupply :=
  (idAt supply.given, ⟨supply.given + 1⟩)

end IdSupply

end HandlerStudio
