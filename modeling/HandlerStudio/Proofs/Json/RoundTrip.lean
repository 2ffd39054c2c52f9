import HandlerStudio.Json.Record
import HandlerStudio.Proofs.Json.Layout

/-!
# Reading what was written

A value written over several lines is read back with its keys in order if no more brackets are open
at once than the limit allows, and is otherwise a fault.
-/

namespace HandlerStudio

namespace Json

/-! ## Keys in order -/

mutual

/-- The value with the keys of all its objects in order. -/
def sorted : Json → Json
  | .array items => .array (sortedItems items)
  | .object entries => .object (Entries.ofList (sortedEntries entries))
  | .null => .null
  | .bool b => .bool b
  | .number n => .number n
  | .string s => .string s
termination_by structural j => j

def sortedItems : List Json → List Json
  | [] => []
  | j :: js => sorted j :: sortedItems js
termination_by structural js => js

def sortedEntries : List (String × Json) → List (String × Json)
  | [] => []
  | (k, j) :: es => (k, sorted j) :: sortedEntries es
termination_by structural es => es

end

theorem sortedItems_eq_map (items : List Json) : sortedItems items = items.map sorted := by
  induction items with
  | nil => rfl
  | cons j js ih => simp [sortedItems, ih]

mutual

theorem sorted_of_ordered (j : Json) (h : j.Ordered) : j.sorted = j := by
  match j with
  | .null | .bool _ | .number _ | .string _ => rfl
  | .array items =>
      rw [Ordered] at h
      rw [sorted, sortedItems_of_ordered items h]
  | .object entries =>
      rw [Ordered] at h
      rw [sorted, sortedEntries_of_ordered entries h.2, Entries.ofList_eq_self h.1]

theorem sortedItems_of_ordered (items : List Json) (h : OrderedItems items) :
    sortedItems items = items := by
  match items with
  | [] => rfl
  | j :: js =>
      rw [OrderedItems] at h
      rw [sortedItems, sorted_of_ordered j h.1, sortedItems_of_ordered js h.2]

theorem sortedEntries_of_ordered (entries : List (String × Json)) (h : OrderedEntries entries) :
    sortedEntries entries = entries := by
  match entries with
  | [] => rfl
  | (k, j) :: es =>
      rw [OrderedEntries] at h
      rw [sortedEntries, sorted_of_ordered j h.1, sortedEntries_of_ordered es h.2]

end

namespace Read

/-! ## Values without brackets -/

section

variable (list object : List Char → Except Fault (Json × List Char))

theorem valueWith_string (s : String) (rest : List Char) :
    valueWith list object (writeString s ++ rest) = .ok (.string s, rest) := by
  have hread : valueWith list object (writeString s ++ rest) =
      string ((s.toList.flatMap escapeChar ++ ['"']) ++ rest) >>=
        fun p => .ok (.string p.1, p.2) := rfl
  rw [hread, List.append_assoc, List.singleton_append, string_written]
  rfl

theorem valueWith_number {n : Number} (hn : n.Legible) {rest : List Char}
    (hrest : EndsNumber rest) :
    valueWith list object (n.text ++ rest) = .ok (.number n, rest) := by
  obtain ⟨c, cs, htext, hstart⟩ := exists_number_text hn
  have hskip : skipSpace (c :: (cs ++ rest)) = c :: (cs ++ rest) :=
    skipSpace_of_not_space (not_space_of_startsNumber hstart).1 _
  have hnumber : number (c :: (cs ++ rest)) = .ok (n, rest) := by
    rw [← List.cons_append, ← htext]
    exact number_append hrest hn
  have hother : c ≠ 'n' ∧ c ≠ 't' ∧ c ≠ 'f' ∧ c ≠ '"' ∧ c ≠ '[' ∧ c ≠ '\x7b' := by
    refine ⟨?_, ?_, ?_, ?_, ?_, ?_⟩ <;> (rintro rfl; exact absurd hstart (by decide))
  rw [htext, List.cons_append]
  simp [valueWith, hskip, hother, hstart, hnumber]

/-- A value without brackets is read back, whatever readers of lists and objects are given. -/
theorem valueWith_scalar (level : Nat) {j : Json} (hdepth : j.nesting = 0) (hj : j.Legible)
    {rest : List Char} (hrest : EndsNumber rest) :
    valueWith list object (prettyAt level j ++ rest) = .ok (j, rest) := by
  match j with
  | .null => rfl
  | .bool true => rfl
  | .bool false => rfl
  | .string s => exact valueWith_string list object s rest
  | .number n => exact valueWith_number list object (hj n (by simp [numbers])) hrest
  | .array _ => simp [nesting] at hdepth
  | .object _ => simp [nesting] at hdepth

end

/-! ## All values -/

/-- The step that collects the entries of an object. -/
def collect (limit : Nat) (es : List (String × Json)) (key : String) (cs : List Char) :
    Except Fault (List (String × Json) × List Char) := do
  let (j, cs) ← value limit (← colon cs)
  return (Entries.insert key j es, cs)

theorem value_space (limit : Nat) (cs : List Char) : value limit (' ' :: cs) = value limit cs := by
  cases limit <;> rfl

theorem value_scalar (limit level : Nat) {j : Json} (hdepth : j.nesting = 0) (hj : j.Legible)
    {rest : List Char} (hrest : EndsNumber rest) :
    value limit (prettyAt level j ++ rest) = atDepth j.nesting limit (j.sorted, rest) := by
  rw [hdepth, atDepth_zero, sorted_of_ordered j (ordered_of_nesting_eq_zero hdepth)]
  cases limit <;> exact valueWith_scalar _ _ level hdepth hj hrest

/-- The entries of an object are collected in key order, whatever order they are written in. -/
theorem absorbs_collect (level limit : Nat)
    (hvalue : ∀ {j : Json}, j.Legible → ∀ {rest : List Char}, EndsNumber rest →
      value limit (prettyAt (level + 1) j ++ rest) = atDepth j.nesting limit (j.sorted, rest))
    {es : List (String × Json)} (hes : ∀ e ∈ es, e.2.Legible) (acc : List (String × Json)) :
    Absorbs (collect limit) level limit acc es
      ((sortedEntries es).foldl (fun entries e => Entries.insert e.1 e.2 entries) acc) := by
  induction es generalizing acc with
  | nil => exact .nil acc
  | cons e es ih =>
      obtain ⟨key, j⟩ := e
      rw [List.forall_mem_cons] at hes
      refine .cons (fun rest hrest => ?_) (ih hes.2 _)
      have hcolon : colon (':' :: ' ' :: (prettyAt (level + 1) j ++ rest)) =
          .ok (' ' :: (prettyAt (level + 1) j ++ rest)) := rfl
      rw [collect, hcolon, Except.ok_bind, value_space, hvalue hes.1 hrest]
      exact atDepth_bind_ok _ _ (j.sorted, rest) fun p => (Entries.insert key p.1 acc, p.2)

/-- Every value is read back with its keys in order, unless it opens too many brackets. -/
theorem value_pretty (limit level : Nat) {j : Json} (hj : j.Legible) {rest : List Char}
    (hrest : EndsNumber rest) :
    value limit (prettyAt level j ++ rest) = atDepth j.nesting limit (j.sorted, rest) := by
  -- the readers of items and entries are those of one bracket less
  induction limit generalizing level j rest with
  | zero =>
      cases j with
      | null | bool _ | number _ | string _ => exact value_scalar 0 level rfl hj hrest
      | array js => cases js <;> (rw [nesting, atDepth_succ_zero]; rfl)
      | object es => cases es <;> (rw [nesting, atDepth_succ_zero]; rfl)
  | succ limit ih =>
      cases j with
      | null | bool _ | number _ | string _ => exact value_scalar _ level rfl hj hrest
      | array js =>
          rw [legible_array_iff] at hj
          obtain ⟨body, htext, hread⟩ := exists_items_pretty (β := Json) hj fun j hmem rest hrest =>
            ih (level + 1) (hj j hmem) hrest
          rw [List.map_id'] at htext hread
          have hopen : value (limit + 1) ('[' :: (body ++ rest)) =
              items (value limit) (body ++ rest) >>= fun p => .ok (.array p.1, p.2) := rfl
          rw [htext, List.cons_append, hopen, hread, atDepth_bind_ok, nesting, atDepth_succ_succ,
            sorted, sortedItems_eq_map]
      | object es =>
          rw [legible_object_iff] at hj
          obtain ⟨body, htext, hread⟩ :=
            exists_members_pretty (absorbs_collect level limit (ih (level + 1)) hj [])
          have hopen : value (limit + 1) ('\x7b' :: (body ++ rest)) =
              members (collect limit) [] (body ++ rest) >>= fun p => .ok (.object p.1, p.2) := rfl
          rw [htext, List.cons_append, hopen, hread, atDepth_bind_ok, nesting, atDepth_succ_succ,
            sorted, Entries.ofList]

/-! ## Expected values

Each stands behind the blank that follows a colon. -/

theorem text_pretty (level : Nat) (s : String) (rest : List Char) :
    text (' ' :: (prettyAt level (.string s) ++ rest)) = .ok (s, rest) := by
  have hopen : text (' ' :: (prettyAt level (.string s) ++ rest)) =
      string ((s.toList.flatMap escapeChar ++ ['"']) ++ rest) := rfl
  rw [hopen, List.append_assoc, List.singleton_append, string_written]

theorem optionalText_pretty (level : Nat) (s : String) (rest : List Char) :
    optionalText (' ' :: (prettyAt level (.string s) ++ rest)) = .ok (some s, rest) := by
  have hopen : optionalText (' ' :: (prettyAt level (.string s) ++ rest)) =
      text (' ' :: (prettyAt level (.string s) ++ rest)) >>= fun p => .ok (some p.1, p.2) := rfl
  rw [hopen, text_pretty, Except.ok_bind]

theorem boolean_pretty (level : Nat) (b : Bool) (rest : List Char) :
    boolean (' ' :: (prettyAt level (.bool b) ++ rest)) = .ok (b, rest) := by
  cases b <;> rfl

theorem list_pretty {α β : Type} {item : Reader α} {enc : β → Json} {out : β → α} (level : Nat)
    {xs : List β} (hlegible : ∀ x ∈ xs, (enc x).Legible)
    (hitem : ∀ limit, ∀ x ∈ xs, ∀ rest, EndsNumber rest →
      item limit (prettyAt (level + 1) (enc x) ++ rest) =
        atDepth (enc x).nesting limit (out x, rest))
    (limit : Nat) (rest : List Char) :
    list item limit (' ' :: (prettyAt level (.array (xs.map enc)) ++ rest)) =
      atDepth (nesting (.array (xs.map enc))) limit (xs.map out, rest) := by
  cases limit with
  | zero =>
      obtain ⟨body, htext, -⟩ := exists_items_pretty hlegible (hitem 0)
      rw [htext, nesting, atDepth_succ_zero]
      rfl
  | succ limit =>
      obtain ⟨body, htext, hread⟩ := exists_items_pretty hlegible (hitem limit)
      rw [htext, nesting, atDepth_succ_succ]
      exact hread rest

theorem setOnce_colon {α : Type} (name : String)
    (read : List Char → Except Fault (α × List Char)) (cs : List Char) :
    setOnce name none read (':' :: cs) = read cs >>= fun p => .ok (some p.1, p.2) := rfl

end Read

end Json

end HandlerStudio
