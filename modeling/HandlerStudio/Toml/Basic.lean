import HandlerStudio.Entries

/-!
# Configuration documents

The values of a TOML document. While a document is read its tables are still open: `Draft` remembers
how each came about, since a table may be extended only in the way it was begun. A table that was
only mentioned on the way to another is implicit, and one that dotted keys lead through is dotted.
-/

namespace HandlerStudio.Toml

inductive Value where
  | text (value : String)
  | integer (value : Int)
  | float (literal : String)
  | boolean (value : Bool)
  | moment (literal : String)
  | array (items : List Value)
  | table (entries : List (String × Value))

mutual

/-- An entry of a table that is being read. -/
inductive Item where
  | value (value : Value)
  | table (table : Draft)
  | tables (tables : List Draft)

/-- A table that is being read. -/
inductive Draft where
  | mk (implicit dotted : Bool) (entries : List (String × Item))

end

namespace Draft

def implicit : Draft → Bool
  | .mk implicit _ _ => implicit

def dotted : Draft → Bool
  | .mk _ dotted _ => dotted

def entries : Draft → List (String × Item)
  | .mk _ _ entries => entries

/-- A table with a header of its own. -/
def explicit (entries : List (String × Item)) : Draft := .mk false false entries

def set (key : String) (item : Item) (t : Draft) : Draft :=
  .mk t.implicit t.dotted (Entries.insert key item t.entries)

end Draft

/-! ## Finished values -/

mutual

def Item.toValue : Item → Value
  | .value v => v
  | .table t => .table (Draft.toEntries t)
  | .tables ts => .array (Draft.toValues ts)
termination_by structural i => i

def Draft.toEntries : Draft → List (String × Value)
  | .mk _ _ entries => Item.toEntries entries
termination_by structural t => t

def Draft.toValues : List Draft → List Value
  | [] => []
  | t :: ts => .table (Draft.toEntries t) :: Draft.toValues ts
termination_by structural ts => ts

def Item.toEntries : List (String × Item) → List (String × Value)
  | [] => []
  | (k, i) :: es => (k, i.toValue) :: Item.toEntries es
termination_by structural es => es

end

/-! ## Extending tables -/

/-- Change the table that a path leads to. Tables missing on the way are made; of a list of tables
the last one counts. Dotted keys do not lead through tables with a header. -/
def Draft.change (dotted : Bool) (f : Draft → Option Draft) : List String → Draft → Option Draft
  | [], t => f t
  | key :: path, t =>
      match Entries.get? key t.entries with
      | none => do return t.set key (.table (← change dotted f path (.mk true dotted [])))
      | some (.value _) => none
      | some (.tables ts) => do
          let last ← change dotted f path (← ts.getLast?)
          return t.set key (.tables (ts.dropLast ++ [last]))
      | some (.table sub) =>
          if dotted && !sub.implicit then none
          else do return t.set key (.table (← change dotted f path sub))

/-- Add a value under a key that is new. Dotted keys add to dotted tables only. -/
def Draft.addValue (dotted : Bool) (key : String) (v : Value) (t : Draft) : Option Draft :=
  if t.dotted != dotted then none
  else if Entries.has key t.entries then none
  else some (t.set key (.value v))

/-- Add a value under a dotted key, which is given as the path to the table and the last part. -/
def Draft.addAt (path : List String) (key : String) (v : Value) (t : Draft) : Option Draft :=
  t.change true (Draft.addValue (!path.isEmpty) key v) path

/-- Begin a table under a key. One that is there must have been implied by the headers of others. -/
def Draft.beginTable (key : String) (t : Draft) : Option Draft :=
  match Entries.get? key t.entries with
  | none => some (t.set key (.table (.explicit [])))
  | some (.table sub) =>
      if sub.implicit && !sub.dotted then some (t.set key (.table (.explicit sub.entries)))
      else none
  | some _ => none

/-- Begin one more table of a list of tables. -/
def Draft.beginItem (key : String) (t : Draft) : Option Draft :=
  match Entries.get? key t.entries with
  | none => some (t.set key (.tables [.explicit []]))
  | some (.tables ts) => some (t.set key (.tables (ts ++ [.explicit []])))
  | some _ => none

end HandlerStudio.Toml
