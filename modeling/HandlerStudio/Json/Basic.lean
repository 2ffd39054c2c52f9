import HandlerStudio.Entries
import HandlerStudio.Number.Basic

/-!
# Plain structured data

The values of the data format. An object keeps its entries in key order, and `Json.Ordered` says
so at every depth. `Json.nesting` counts the brackets that are open at once when a value is written.
-/

namespace HandlerStudio

inductive Json where
  | null
  | bool (value : Bool)
  | number (value : Number)
  | string (value : String)
  | array (items : List Json)
  | object (entries : List (String × Json))
deriving Inhabited

namespace Json

/-- A whole number that fits 64 bits. -/
def int (z : Int) : Json := .number (.int z)

/-- A natural number that fits 64 bits. -/
def nat (n : Nat) : Json := .number (.int n)

/-- An object from entries in any order; of two with one key the later one stays. -/
def ofEntries (given : List (String × Json)) : Json :=
  .object (Entries.ofList given)

/-- The text, or null. -/
def ofText? : Option String → Json
  | some s => .string s
  | none => .null

/-- The value under a key of an object. -/
def get? (key : String) : Json → Option Json
  | .object entries => Entries.get? key entries
  | _ => none

def asString? : Json → Option String
  | .string s => some s
  | _ => none

mutual

/-- Equality of values, with that of numbers. -/
def same : Json → Json → Bool
  | .null, .null => true
  | .bool a, .bool b => a == b
  | .number a, .number b => a.same b
  | .string a, .string b => a == b
  | .array as, .array bs => sameItems as bs
  | .object as, .object bs => sameEntries as bs
  | _, _ => false
termination_by structural a => a

def sameItems : List Json → List Json → Bool
  | [], [] => true
  | a :: as, b :: bs => same a b && sameItems as bs
  | _, _ => false
termination_by structural as => as

def sameEntries : List (String × Json) → List (String × Json) → Bool
  | [], [] => true
  | (k, a) :: as, (l, b) :: bs => k == l && same a b && sameEntries as bs
  | _, _ => false
termination_by structural as => as

end

instance : BEq Json := ⟨same⟩

mutual

/-- Every object has its entries in key order. -/
def Ordered : Json → Prop
  | .array items => OrderedItems items
  | .object entries => Entries.Sorted entries ∧ OrderedEntries entries
  | _ => True
termination_by structural j => j

def OrderedItems : List Json → Prop
  | [] => True
  | j :: js => Ordered j ∧ OrderedItems js
termination_by structural js => js

def OrderedEntries : List (String × Json) → Prop
  | [] => True
  | (_, j) :: es => Ordered j ∧ OrderedEntries es
termination_by structural es => es

end

mutual

/-- How many brackets are open at once, at most, in the written value. -/
def nesting : Json → Nat
  | .array items => nestingItems items + 1
  | .object entries => nestingEntries entries + 1
  | _ => 0
termination_by structural j => j

def nestingItems : List Json → Nat
  | [] => 0
  | j :: js => max (nesting j) (nestingItems js)
termination_by structural js => js

def nestingEntries : List (String × Json) → Nat
  | [] => 0
  | (_, j) :: es => max (nesting j) (nestingEntries es)
termination_by structural es => es

end

end Json

end HandlerStudio
