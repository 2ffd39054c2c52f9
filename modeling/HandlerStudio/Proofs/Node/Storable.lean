import HandlerStudio.Proofs.Json.Genuine
import HandlerStudio.Proofs.Node.Hereditary

/-!
# What can be stored

A value is storable if its keys are in order, no field of a node is named like a part of the header,
no plain object is shaped like a node, and its whole numbers fit 64 bits. What is decoded is
storable, and so is every node that starts as a new or a decoded one and has fields set: a field
whose value holds an object shaped like a node is refused.
-/

namespace HandlerStudio

structure Value.Storable (v : Value) : Prop where
  regular : v.Regular
  undisguised : v.Undisguised
  fits : ∀ n ∈ v.streamed.numbers, n.Fits

structure Node.Storable (n : Node) : Prop where
  regular : n.Regular
  undisguised : n.Undisguised
  fits : ∀ m ∈ n.streamed.numbers, m.Fits

/-! ## Numbers -/

namespace Value

theorem numbers_itemsStreamed (items : List Value) :
    Json.numbersOfItems (itemsStreamed items) = items.flatMap fun v => v.streamed.numbers := by
  induction items with
  | nil => rfl
  | cons v vs ih => rw [itemsStreamed, Json.numbersOfItems, ih, List.flatMap_cons]

theorem numbers_entriesStreamed (entries : List (String × Value)) :
    Json.numbersOfEntries (entriesStreamed entries) =
      entries.flatMap fun e => e.2.streamed.numbers := by
  induction entries with
  | nil => rfl
  | cons e es ih =>
      obtain ⟨k, v⟩ := e
      rw [entriesStreamed, Json.numbersOfEntries, ih, List.flatMap_cons]

theorem fits_list_iff (items : List Value) :
    (∀ n ∈ (Value.list items).streamed.numbers, n.Fits) ↔
      ∀ v ∈ items, ∀ n ∈ v.streamed.numbers, n.Fits := by
  rw [streamed, Json.numbers, numbers_itemsStreamed]
  simp only [List.mem_flatMap, forall_exists_index, and_imp]
  exact ⟨fun h v hv n hn => h n v hv hn, fun h n v hv hn => h v hv n hn⟩

theorem fits_object_iff (entries : List (String × Value)) :
    (∀ n ∈ (Value.object entries).streamed.numbers, n.Fits) ↔
      ∀ e ∈ entries, ∀ n ∈ e.2.streamed.numbers, n.Fits := by
  rw [streamed, Json.numbers, numbers_entriesStreamed]
  simp only [List.mem_flatMap, forall_exists_index, and_imp]
  exact ⟨fun h e he n hn => h n e he hn, fun h n e he hn => h e he n hn⟩

end Value

theorem Node.fits_iff (n : Node) :
    (∀ m ∈ n.streamed.numbers, m.Fits) ↔
      ∀ e ∈ n.fields, ∀ m ∈ e.2.streamed.numbers, m.Fits := by
  obtain ⟨id, kind, tier, fields⟩ := n
  have htier : (Number.int tier.toNat).Fits := by cases tier <;> rfl
  have hnumbers : (Node.mk id kind tier fields).streamed.numbers =
      .int tier.toNat :: fields.flatMap fun e => e.2.streamed.numbers := by
    rw [Node.streamed, Json.numbers, ← Value.numbers_entriesStreamed]
    rfl
  rw [hnumbers, List.forall_mem_cons, Node.fields]
  simp only [htier, true_and, List.mem_flatMap, forall_exists_index, and_imp]
  exact ⟨fun h e he m hm => h m e he hm, fun h m e he hm => h e he m hm⟩

/-! ## Storable parts -/

namespace Value

theorem storable_scalar {v : Value} (hr : v.Regular) (hobjects : v.objects = [])
    (hnumbers : v.streamed.numbers = []) : v.Storable :=
  ⟨hr, undisguised_scalar hobjects, by simp [hnumbers]⟩

@[simp] theorem storable_null : Value.null.Storable := storable_scalar (by simp) rfl rfl

@[simp] theorem storable_bool (b : Bool) : (Value.bool b).Storable :=
  storable_scalar (by simp) rfl rfl

@[simp] theorem storable_text (s : String) : (Value.text s).Storable :=
  storable_scalar (by simp) rfl rfl

theorem storable_number_iff (n : Number) : (Value.number n).Storable ↔ n.Fits := by
  have hnumbers : (Value.number n).streamed.numbers = [n] := rfl
  constructor
  · intro h
    exact h.fits n (by simp [hnumbers])
  · intro h
    exact ⟨by simp, undisguised_scalar rfl, by simpa [hnumbers] using h⟩

theorem storable_node_iff (n : Node) : (Value.node n).Storable ↔ n.Storable := by
  have hstreamed : (Value.node n).streamed = n.streamed := by rw [streamed]
  constructor
  · rintro ⟨hr, hu, hf⟩
    exact ⟨(regular_node_iff n).mp hr, (undisguised_node_iff n).mp hu, hstreamed ▸ hf⟩
  · rintro ⟨hr, hu, hf⟩
    exact ⟨(regular_node_iff n).mpr hr, (undisguised_node_iff n).mpr hu, hstreamed ▸ hf⟩

theorem storable_list_iff (items : List Value) :
    (Value.list items).Storable ↔ ∀ v ∈ items, v.Storable := by
  constructor
  · rintro ⟨hr, hu, hf⟩ v hv
    exact ⟨(regular_list_iff items).mp hr v hv, (undisguised_list_iff items).mp hu v hv,
      (fits_list_iff items).mp hf v hv⟩
  · intro h
    exact ⟨(regular_list_iff items).mpr fun v hv => (h v hv).regular,
      (undisguised_list_iff items).mpr fun v hv => (h v hv).undisguised,
      (fits_list_iff items).mpr fun v hv => (h v hv).fits⟩

theorem storable_object_iff (entries : List (String × Value)) :
    (Value.object entries).Storable ↔
      Entries.Sorted entries ∧ nodeShaped entries = false ∧ ∀ e ∈ entries, e.2.Storable := by
  constructor
  · rintro ⟨hr, hu, hf⟩
    obtain ⟨hs, hr⟩ := (regular_object_iff entries).mp hr
    obtain ⟨hshape, hu⟩ := (undisguised_object_iff entries).mp hu
    exact ⟨hs, hshape, fun e he => ⟨hr e he, hu e he, (fits_object_iff entries).mp hf e he⟩⟩
  · rintro ⟨hs, hshape, h⟩
    exact ⟨(regular_object_iff entries).mpr ⟨hs, fun e he => (h e he).regular⟩,
      (undisguised_object_iff entries).mpr ⟨hshape, fun e he => (h e he).undisguised⟩,
      (fits_object_iff entries).mpr fun e he => (h e he).fits⟩

end Value

theorem Node.storable_iff (n : Node) :
    n.Storable ↔ Entries.Sorted n.fields ∧ (∀ e ∈ n.fields, Node.isReserved e.1 = false) ∧
      ∀ e ∈ n.fields, e.2.Storable := by
  have hundisguised : n.Undisguised ↔ ∀ e ∈ n.fields, e.2.Undisguised := by
    cases n
    exact Node.undisguised_mk_iff _ _ _ _
  constructor
  · rintro ⟨hr, hu, hf⟩
    obtain ⟨hs, hfree, hr⟩ := n.regular_iff.mp hr
    exact ⟨hs, hfree, fun e he => ⟨hr e he, hundisguised.mp hu e he, n.fits_iff.mp hf e he⟩⟩
  · rintro ⟨hs, hfree, h⟩
    exact ⟨n.regular_iff.mpr ⟨hs, hfree, fun e he => (h e he).regular⟩,
      hundisguised.mpr fun e he => (h e he).undisguised,
      n.fits_iff.mpr fun e he => (h e he).fits⟩

theorem Hereditary.storable : Hereditary (· = false) (· = false) Value.Storable where
  header_false := rfl
  shape_false := rfl
  null := Value.storable_null
  bool := Value.storable_bool
  text := Value.storable_text
  node_iff n := (Value.storable_node_iff n).trans n.storable_iff
  list_iff := Value.storable_list_iff
  object_iff := Value.storable_object_iff

/-! ## Decoded values -/

theorem Value.storable_ofJson {j : Json} (hg : j.Genuine) {v : Value} (h : Value.ofJson j = .ok v) :
    v.Storable :=
  Hereditary.storable.ofJson j hg.ordered (fun n hn => (storable_number_iff n).mpr (hg.fits n hn)) h

theorem Node.storable_ofJson {j : Json} (hg : j.Genuine) {fresh : NodeId} {n : Node}
    (h : Node.ofJson fresh j = .ok n) : n.Storable := by
  rw [← Value.storable_node_iff]
  exact Hereditary.storable.node_ofJson hg.ordered
    (fun m hm => (Value.storable_number_iff m).mpr (hg.fits m hm)) h

/-- The fields that were decoded are storable. -/
def Draft.Storable (d : Draft) : Prop := ∀ e ∈ d.fields, e.2.Storable

theorem Draft.storable_read {limit : Nat} {cs rest : List Char} {d : Draft}
    (h : Draft.read limit cs = .ok (d, rest)) : d.Storable :=
  Hereditary.storable.draft_read (fun n hn => (Value.storable_number_iff n).mpr hn) h

theorem Draft.storable_identifyAll {ds : List Draft} (h : ∀ d ∈ ds, d.Storable)
    (supply : IdSupply) : ∀ n ∈ (Draft.identifyAll supply ds).1, n.Storable := by
  intro n hn
  exact (Value.storable_node_iff n).mp (Hereditary.storable.identifyAll h supply n hn)

/-! ## Built nodes -/

/-- The fields of a new node are storable. -/
theorem Kind.storable_template (kind : Kind) :
    ∀ e ∈ kind.template, Node.isReserved e.1 = false ∧ e.2.Storable := by
  have hstatus : (Value.number (.int 200)).Storable := (Value.storable_number_iff _).mpr rfl
  cases kind <;>
    simp [Kind.template, Node.isReserved, Node.reservedKeys, Value.storable_list_iff, hstatus]

theorem Node.storable_new (id : NodeId) (kind : Kind) : (Node.new id kind).Storable := by
  rw [Node.storable_iff]
  refine ⟨Entries.sorted_ofList _, ?_, ?_⟩
  · intro e he
    exact (kind.storable_template e (Entries.mem_of_mem_ofList he)).1
  · intro e he
    exact (kind.storable_template e (Entries.mem_of_mem_ofList he)).2

/-- Storable but for plain objects outside nodes, which may have any shape. -/
structure Value.Sealed (v : Value) : Prop where
  regular : v.Regular
  guarded : ∀ m ∈ v.subtree, m.Guarded
  fits : ∀ n ∈ v.streamed.numbers, n.Fits

namespace Value

theorem Storable.sealed {v : Value} (h : v.Storable) : v.Sealed :=
  ⟨h.regular, ((undisguised_iff_guarded v).mp h.undisguised).2, h.fits⟩

/-- The guard that a field passes finds the objects that are in the way. -/
theorem Sealed.storable {v : Value} (h : v.Sealed) (hshape : v.holdsNodeShape = false) :
    v.Storable :=
  ⟨h.regular, (undisguised_iff_guarded v).mpr ⟨hshape, h.guarded⟩, h.fits⟩

theorem sealed_list {items : List Value} (h : ∀ v ∈ items, v.Sealed) :
    (Value.list items).Sealed := by
  refine ⟨(regular_list_iff items).mpr fun v hv => (h v hv).regular, ?_,
    (fits_list_iff items).mpr fun v hv => (h v hv).fits⟩
  intro m hm
  rw [subtree_list] at hm
  obtain ⟨v, hv, hmv⟩ := List.mem_flatMap.mp hm
  exact (h v hv).guarded m hmv

theorem sealed_object {entries : List (String × Value)} (hs : Entries.Sorted entries)
    (h : ∀ e ∈ entries, e.2.Sealed) : (Value.object entries).Sealed := by
  refine ⟨(regular_object_iff entries).mpr ⟨hs, fun e he => (h e he).regular⟩, ?_,
    (fits_object_iff entries).mpr fun e he => (h e he).fits⟩
  intro m hm
  rw [subtree_object] at hm
  obtain ⟨e, he, hme⟩ := List.mem_flatMap.mp hm
  exact (h e he).guarded m hme

end Value

theorem Node.storable_withField {n : Node} (hn : n.Storable) (key : String) {v : Value}
    (hv : v.Sealed) : (n.withField key v).Storable := by
  rw [← Value.storable_node_iff] at hn ⊢
  exact Hereditary.storable.withField hn key hv.storable

mutual

/-- A node that was decoded, or is a new one with fields set in any order. -/
inductive Node.Made : Node → Prop where
  | decoded {j : Json} {fresh : NodeId} {n : Node} (hj : j.Genuine)
      (h : Node.ofJson fresh j = .ok n) : Node.Made n
  | new (id : NodeId) (kind : Kind) : Node.Made (Node.new id kind)
  | withField {n : Node} (key : String) {v : Value} (hn : Node.Made n) (hv : Value.Made v) :
      Node.Made (n.withField key v)

/-- A value that was decoded, or is put together from scalars and such nodes. -/
inductive Value.Made : Value → Prop where
  | decoded {j : Json} {v : Value} (hj : j.Genuine) (h : Value.ofJson j = .ok v) : Value.Made v
  | null : Value.Made .null
  | bool (b : Bool) : Value.Made (.bool b)
  | number {n : Number} (hn : n.Fits) : Value.Made (.number n)
  | text (s : String) : Value.Made (.text s)
  | node {n : Node} (hn : Node.Made n) : Value.Made (.node n)
  | list {items : List Value} (h : ∀ v ∈ items, Value.Made v) : Value.Made (.list items)
  | object {entries : List (String × Value)} (hs : Entries.Sorted entries)
      (h : ∀ e ∈ entries, Value.Made e.2) : Value.Made (.object entries)

end

mutual

theorem Node.Made.storable {n : Node} (h : n.Made) : n.Storable := by
  match h with
  | .decoded hj h => exact Node.storable_ofJson hj h
  | .new id kind => exact Node.storable_new id kind
  | .withField key hn hv => exact Node.storable_withField hn.storable key hv.sealed

theorem Value.Made.sealed {v : Value} (h : v.Made) : v.Sealed := by
  match h with
  | .decoded hj h => exact (Value.storable_ofJson hj h).sealed
  | .null => exact Value.storable_null.sealed
  | .bool b => exact (Value.storable_bool b).sealed
  | .number hn => exact ((Value.storable_number_iff _).mpr hn).sealed
  | .text s => exact (Value.storable_text s).sealed
  | .node hn => exact ((Value.storable_node_iff _).mpr hn.storable).sealed
  | .list h => exact Value.sealed_list fun v hv => (h v hv).sealed
  | .object hs h => exact Value.sealed_object hs fun e he => (h e he).sealed

end

end HandlerStudio
