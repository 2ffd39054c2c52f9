import HandlerStudio.Proofs.Entries
import HandlerStudio.Toml.Reader
import Mathlib.Data.Option.Basic

/-!
# Whole numbers of a document are in range

A document is read entry by entry into tables that are still open. Every whole number that is read
fits a signed word, and no entry or header takes that away, so it holds of the whole document.
-/

namespace HandlerStudio.Toml

/-- Every whole number in the value fits a signed word. -/
inductive Value.Bounded : Value → Prop
  | text (s : String) : Value.Bounded (.text s)
  | integer {z : Int} (h : Literal.inRange z = true) : Value.Bounded (.integer z)
  | float (s : String) : Value.Bounded (.float s)
  | boolean (b : Bool) : Value.Bounded (.boolean b)
  | moment (s : String) : Value.Bounded (.moment s)
  | array {items : List Value} (h : ∀ v ∈ items, Value.Bounded v) : Value.Bounded (.array items)
  | table {entries : List (String × Value)} (h : ∀ e ∈ entries, Value.Bounded e.2) :
      Value.Bounded (.table entries)

/-! ## Tables -/

/-- The table, as it is so far, has only values in range. -/
def Draft.Bounded (t : Draft) : Prop := ∀ e ∈ t.toEntries, e.2.Bounded

theorem Item.toEntries_eq_map (entries : List (String × Item)) :
    Item.toEntries entries = entries.map fun e => (e.1, e.2.toValue) := by
  induction entries with
  | nil => rfl
  | cons e entries ih => rw [Item.toEntries, ih, List.map_cons]

theorem Draft.toValues_eq_map (ts : List Draft) :
    Draft.toValues ts = ts.map fun t => .table t.toEntries := by
  induction ts with
  | nil => rfl
  | cons t ts ih => rw [Draft.toValues, ih, List.map_cons]

theorem Item.bounded_table_iff (t : Draft) : (Item.table t).toValue.Bounded ↔ t.Bounded := by
  rw [Item.toValue]
  constructor
  · rintro ⟨⟩
    assumption
  · exact .table

theorem Item.bounded_tables_iff (ts : List Draft) :
    (Item.tables ts).toValue.Bounded ↔ ∀ t ∈ ts, t.Bounded := by
  rw [Item.toValue, Draft.toValues_eq_map]
  constructor
  · rintro ⟨⟩ t ht
    next h =>
      exact (Item.bounded_table_iff t).mp (h _ (List.mem_map_of_mem ht))
  · intro h
    apply Value.Bounded.array
    intro v hv
    obtain ⟨t, ht, rfl⟩ := List.mem_map.mp hv
    exact .table (h t ht)

namespace Draft

variable {t t' : Draft}

theorem toEntries_eq_map (t : Draft) :
    t.toEntries = t.entries.map fun e => (e.1, e.2.toValue) := by
  cases t
  exact Item.toEntries_eq_map _

theorem bounded_nil (implicit dotted : Bool) : (Draft.mk implicit dotted []).Bounded := by
  intro e he
  rw [toEntries_eq_map] at he
  cases he

theorem Bounded.get? (h : t.Bounded) {key : String} {i : Item}
    (hget : Entries.get? key t.entries = some i) : i.toValue.Bounded := by
  apply h (key, i.toValue)
  rw [toEntries_eq_map]
  exact List.mem_map_of_mem (Entries.mem_of_get?_eq_some hget)

theorem Bounded.set (h : t.Bounded) (key : String) {i : Item} (hi : i.toValue.Bounded) :
    (t.set key i).Bounded := by
  intro e he
  rw [toEntries_eq_map] at he
  obtain ⟨d, hd, rfl⟩ := List.mem_map.mp he
  rcases Entries.mem_insert hd with rfl | hd
  · exact hi
  · apply h
    rw [toEntries_eq_map]
    exact List.mem_map_of_mem hd

theorem Bounded.change {dotted : Bool} {f : Draft → Option Draft}
    (hf : ∀ s s' : Draft, s.Bounded → f s = some s' → s'.Bounded) (path : List String)
    (h : t.Bounded) (hchange : t.change dotted f path = some t') : t'.Bounded := by
  induction path generalizing t t' with
  | nil => exact hf t t' h hchange
  | cons key path ih =>
      rw [Draft.change] at hchange
      split at hchange
      · obtain ⟨sub, hsub, heq⟩ := Option.bind_eq_some_iff.mp hchange
        cases heq
        exact h.set key ((Item.bounded_table_iff sub).mpr (ih (bounded_nil true dotted) hsub))
      · cases hchange
      · next ts hget =>
          obtain ⟨last, hlast, hrest⟩ := Option.bind_eq_some_iff.mp hchange
          obtain ⟨sub, hsub, heq⟩ := Option.bind_eq_some_iff.mp hrest
          cases heq
          have hts := (Item.bounded_tables_iff ts).mp (h.get? hget)
          apply h.set key
          apply (Item.bounded_tables_iff _).mpr
          intro s hs
          rcases List.mem_append.mp hs with hs | hs
          · exact hts s (List.dropLast_subset ts hs)
          · cases List.mem_singleton.mp hs
            exact ih (hts last (List.mem_of_getLast? hlast)) hsub
      · next sub hget =>
          split at hchange
          · cases hchange
          · obtain ⟨sub', hsub, heq⟩ := Option.bind_eq_some_iff.mp hchange
            cases heq
            have hbounded := (Item.bounded_table_iff sub).mp (h.get? hget)
            exact h.set key ((Item.bounded_table_iff sub').mpr (ih hbounded hsub))

theorem Bounded.addValue {dotted : Bool} {key : String} {v : Value} (hv : v.Bounded)
    (h : t.Bounded) (hadd : t.addValue dotted key v = some t') : t'.Bounded := by
  unfold Draft.addValue at hadd
  split at hadd
  · cases hadd
  · split at hadd
    · cases hadd
    · cases hadd
      exact h.set key hv

theorem Bounded.addAt {path : List String} {key : String} {v : Value} (hv : v.Bounded)
    (h : t.Bounded) (hadd : t.addAt path key v = some t') : t'.Bounded :=
  h.change (fun _ _ hs hadd => hs.addValue hv hadd) path hadd

theorem Bounded.beginTable {key : String} (h : t.Bounded)
    (hbegin : t.beginTable key = some t') : t'.Bounded := by
  unfold Draft.beginTable at hbegin
  split at hbegin
  · cases hbegin
    exact h.set key ((Item.bounded_table_iff _).mpr (bounded_nil false false))
  · next sub hget =>
      split at hbegin
      · cases hbegin
        apply h.set key
        have hsub := h.get? hget
        cases sub
        exact hsub
      · cases hbegin
  · cases hbegin

theorem Bounded.beginItem {key : String} (h : t.Bounded)
    (hbegin : t.beginItem key = some t') : t'.Bounded := by
  unfold Draft.beginItem at hbegin
  split at hbegin
  · cases hbegin
    apply h.set key
    apply (Item.bounded_tables_iff _).mpr
    intro s hs
    cases List.mem_singleton.mp hs
    exact bounded_nil false false
  · next ts hget =>
      cases hbegin
      apply h.set key
      apply (Item.bounded_tables_iff _).mpr
      intro s hs
      rcases List.mem_append.mp hs with hs | hs
      · exact (Item.bounded_tables_iff ts).mp (h.get? hget) s hs
      · cases List.mem_singleton.mp hs
        exact bounded_nil false false
  · cases hbegin

end Draft

/-! ## Numbers -/

namespace Literal

variable {cs rest : List Char} {v : Value}

theorem bounded_based {base : Nat} (h : based base cs = some (v, rest)) : v.Bounded := by
  obtain ⟨r, -, h⟩ := Option.bind_eq_some_iff.mp h
  obtain ⟨_, hguard, h⟩ := Option.bind_eq_some_iff.mp h
  cases h
  apply Value.Bounded.integer
  exact (Option.guard_eq_some' _).mp hguard

theorem bounded_integer (h : integer cs = some (v, rest)) : v.Bounded := by
  unfold integer at h
  split at h
  · exact bounded_based h
  · exact bounded_based h
  · exact bounded_based h
  · obtain ⟨r, -, h⟩ := Option.bind_eq_some_iff.mp h
    obtain ⟨z, -, h⟩ := Option.bind_eq_some_iff.mp h
    obtain ⟨_, hguard, h⟩ := Option.bind_eq_some_iff.mp h
    cases h
    apply Value.Bounded.integer
    exact (Option.guard_eq_some' _).mp hguard

theorem bounded_float (h : float cs = some (v, rest)) : v.Bounded := by
  unfold float at h
  split at h
  · cases h
    exact .float _
  · cases h
    exact .float _
  · obtain ⟨r, -, h⟩ := Option.bind_eq_some_iff.mp h
    obtain ⟨p, -, h⟩ := Option.bind_eq_some_iff.mp h
    obtain ⟨-, -, h⟩ := Option.bind_eq_some_iff.mp h
    cases h
    exact .float _

theorem bounded_moment (h : moment cs = some (v, rest)) : v.Bounded := by
  obtain ⟨r, -, h⟩ := Option.bind_eq_some_iff.mp h
  cases h
  exact .moment _

theorem bounded_read (h : read cs = some (v, rest)) : v.Bounded := by
  rcases Option.or_eq_some_iff.mp h with h | ⟨-, h⟩
  · exact bounded_moment h
  · rcases Option.or_eq_some_iff.mp h with h | ⟨-, h⟩
    · exact bounded_float h
    · exact bounded_integer h

end Literal

/-! ## Values -/

namespace Read

/-- Whatever the reader gives is in range. -/
def Reads (item : List Char → Option (Value × List Char)) : Prop :=
  ∀ cs v rest, item cs = some (v, rest) → v.Bounded

theorem bounded_scalar : Reads scalar := by
  intro cs v rest h
  unfold scalar at h
  split at h
  · obtain ⟨r, -, h⟩ := Option.bind_eq_some_iff.mp h
    cases h
    exact .text _
  · obtain ⟨r, -, h⟩ := Option.bind_eq_some_iff.mp h
    cases h
    exact .text _
  · cases h
    exact .boolean _
  · cases h
    exact .boolean _
  · exact Literal.bounded_read h

section

variable {item : List Char → Option (Value × List Char)} (hitem : Reads item)

include hitem

theorem bounded_arrayFrom (fuel : List Char) {cs rest : List Char} {vs : List Value}
    (h : arrayFrom item fuel cs = some (vs, rest)) : ∀ v ∈ vs, v.Bounded := by
  induction fuel generalizing cs vs rest with
  | nil => cases h
  | cons b fuel ih =>
      obtain ⟨start, -, h⟩ := Option.bind_eq_some_iff.mp h
      split at h
      · cases h
        simp
      · obtain ⟨⟨v, after⟩, hv, h⟩ := Option.bind_eq_some_iff.mp h
        obtain ⟨next, -, h⟩ := Option.bind_eq_some_iff.mp h
        have hbounded := hitem _ _ _ hv
        split at h
        · obtain ⟨⟨more, last⟩, hmore, h⟩ := Option.bind_eq_some_iff.mp h
          cases h
          exact List.forall_mem_cons.mpr ⟨hbounded, ih hmore⟩
        · cases h
          exact List.forall_mem_cons.mpr ⟨hbounded, by simp⟩
        · cases h

theorem bounded_inlineFrom (fuel : List Char) {cs rest : List Char} {t t' : Draft}
    (ht : t.Bounded) (h : inlineFrom item fuel t cs = some (t', rest)) : t'.Bounded := by
  induction fuel generalizing cs t with
  | nil => cases h
  | cons b fuel ih =>
      obtain ⟨⟨path, last, after⟩, -, h⟩ := Option.bind_eq_some_iff.mp h
      obtain ⟨marked, -, h⟩ := Option.bind_eq_some_iff.mp h
      obtain ⟨⟨v, next⟩, hv, h⟩ := Option.bind_eq_some_iff.mp h
      obtain ⟨more, hmore, h⟩ := Option.bind_eq_some_iff.mp h
      have hbounded := ht.addAt (hitem _ _ _ hv) hmore
      split at h
      · exact ih hbounded h
      · cases h
        exact hbounded
      · cases h

theorem bounded_inlineTable : Reads (inlineTable item) := by
  intro cs v rest h
  unfold inlineTable at h
  split at h
  · cases h
    exact .table (by simp)
  · obtain ⟨⟨t, after⟩, ht, h⟩ := Option.bind_eq_some_iff.mp h
    cases h
    exact .table (bounded_inlineFrom hitem _ (Draft.bounded_nil false false) ht)

end

theorem bounded_value (limit : Nat) : Reads (value limit) := by
  induction limit with
  | zero =>
      intro cs v rest h
      unfold value at h
      split at h
      · cases h
      · cases h
      · next hlimit => cases hlimit
      · next hlimit => cases hlimit
      · exact bounded_scalar _ _ _ h
  | succ limit ih =>
      intro cs v rest h
      unfold value at h
      split at h
      · cases h
      · cases h
      · next hlimit =>
          cases hlimit
          obtain ⟨⟨vs, after⟩, hvs, h⟩ := Option.bind_eq_some_iff.mp h
          cases h
          exact .array (bounded_arrayFrom ih _ hvs)
      · next hlimit =>
          cases hlimit
          exact bounded_inlineTable ih _ _ _ h
      · exact bounded_scalar _ _ _ h

/-! ## Lines -/

variable {s s' : State} {cs rest : List Char}

theorem bounded_entry (hs : s.root.Bounded) (h : entry s cs = some (s', rest)) :
    s'.root.Bounded := by
  obtain ⟨⟨path, last, after⟩, -, h⟩ := Option.bind_eq_some_iff.mp h
  obtain ⟨marked, -, h⟩ := Option.bind_eq_some_iff.mp h
  obtain ⟨⟨v, next⟩, hv, h⟩ := Option.bind_eq_some_iff.mp h
  obtain ⟨tail, -, h⟩ := Option.bind_eq_some_iff.mp h
  obtain ⟨root, hroot, h⟩ := Option.bind_eq_some_iff.mp h
  cases h
  exact hs.change (fun _ _ ht hadd => ht.addAt (bounded_value _ _ _ _ hv) hadd) _ hroot

theorem bounded_header (hs : s.root.Bounded) (h : header s cs = some (s', rest)) :
    s'.root.Bounded := by
  obtain ⟨⟨path, last, after⟩, -, h⟩ := Option.bind_eq_some_iff.mp h
  obtain ⟨marked, -, h⟩ := Option.bind_eq_some_iff.mp h
  obtain ⟨tail, -, h⟩ := Option.bind_eq_some_iff.mp h
  obtain ⟨root, hroot, h⟩ := Option.bind_eq_some_iff.mp h
  cases h
  exact hs.change (fun _ _ ht hbegin => ht.beginTable hbegin) _ hroot

theorem bounded_itemHeader (hs : s.root.Bounded) (h : itemHeader s cs = some (s', rest)) :
    s'.root.Bounded := by
  obtain ⟨⟨path, last, after⟩, -, h⟩ := Option.bind_eq_some_iff.mp h
  obtain ⟨first, -, h⟩ := Option.bind_eq_some_iff.mp h
  obtain ⟨second, -, h⟩ := Option.bind_eq_some_iff.mp h
  obtain ⟨tail, -, h⟩ := Option.bind_eq_some_iff.mp h
  obtain ⟨root, hroot, h⟩ := Option.bind_eq_some_iff.mp h
  cases h
  exact hs.change (fun _ _ ht hbegin => ht.beginItem hbegin) _ hroot

theorem bounded_line (hs : s.root.Bounded) (h : line s cs = some (s', rest)) :
    s'.root.Bounded := by
  unfold line at h
  split at h
  · obtain ⟨tail, -, h⟩ := Option.bind_eq_some_iff.mp h
    cases h
    exact hs
  · cases h
    exact hs
  · obtain ⟨tail, -, h⟩ := Option.bind_eq_some_iff.mp h
    cases h
    exact hs
  · exact bounded_itemHeader hs h
  · exact bounded_header hs h
  · exact bounded_entry hs h

theorem bounded_lines (fuel : Nat) (hs : s.root.Bounded) (h : lines fuel s cs = some s') :
    s'.root.Bounded := by
  induction fuel generalizing s cs with
  | zero => cases h
  | succ fuel ih =>
      rw [lines] at h
      split at h
      · cases h
        exact hs
      · obtain ⟨⟨next, after⟩, hnext, h⟩ := Option.bind_eq_some_iff.mp h
        exact ih (bounded_line hs hnext) h

end Read

theorem bounded_parse? {text : String} {entries : List (String × Value)}
    (h : parse? text = some entries) : ∀ e ∈ entries, e.2.Bounded := by
  obtain ⟨s, hs, h⟩ := Option.bind_eq_some_iff.mp h
  cases h
  exact Read.bounded_lines _ (Draft.bounded_nil false false) hs

end HandlerStudio.Toml
