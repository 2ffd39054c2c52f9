import HandlerStudio.Proofs.Handler.RoundTrip
import HandlerStudio.Proofs.Node.Storable
import HandlerStudio.Proofs.Tree.Hereditary

/-!
# The two encodings agree

Nodes and values come from a few constructors, from decoding, and from edits of trees. Whatever is
built so has its keys in order and no field named like a part of the header. Hence the encoding with
the header first names no key twice, and it is the sorted encoding but for the order of the keys.
-/

namespace HandlerStudio

/-! ## Distinct keys -/

mutual

/-- No object names a key twice. -/
def Json.Distinct : Json → Prop
  | .array items => Json.DistinctItems items
  | .object entries => (Entries.keys entries).Nodup ∧ Json.DistinctEntries entries
  | _ => True
termination_by structural j => j

def Json.DistinctItems : List Json → Prop
  | [] => True
  | j :: js => j.Distinct ∧ Json.DistinctItems js
termination_by structural js => js

def Json.DistinctEntries : List (String × Json) → Prop
  | [] => True
  | (_, j) :: es => j.Distinct ∧ Json.DistinctEntries es
termination_by structural es => es

end

theorem Value.keys_entriesStreamed (entries : List (String × Value)) :
    Entries.keys (Value.entriesStreamed entries) = Entries.keys entries := by
  induction entries with
  | nil => rfl
  | cons e es ih =>
      obtain ⟨key, v⟩ := e
      rw [Value.entriesStreamed, Entries.keys_cons, Entries.keys_cons, ih]

theorem Entries.Sorted.nodup_keys {α : Type} {entries : List (String × α)}
    (h : Entries.Sorted entries) : (Entries.keys entries).Nodup := by
  refine List.Pairwise.imp ?_ h
  rintro key _ hlt rfl
  exact String.lt_irrefl key hlt

/-- The header is apart from the fields. -/
theorem Node.nodup_keys_streamed {n : Node} (hs : Entries.Sorted n.fields)
    (hfree : ∀ e ∈ n.fields, Node.isReserved e.1 = false) :
    ("id" :: "type" :: "tier" :: Entries.keys (Value.entriesStreamed n.fields)).Nodup := by
  have hheader : ["id", "type", "tier"].Nodup := by decide
  rw [Value.keys_entriesStreamed]
  refine List.nodup_append.mpr ⟨hheader, hs.nodup_keys, ?_⟩
  rintro key hkey _ hfield rfl
  obtain ⟨e, he, rfl⟩ := List.mem_map.mp hfield
  obtain ⟨hid, htier, htype⟩ := (Node.isReserved_eq_false_iff e.1).mp (hfree e he)
  simp [hid, htier, htype] at hkey

mutual

theorem Value.distinct_streamed (v : Value) (h : v.Regular) : v.streamed.Distinct := by
  match v with
  | .null | .bool _ | .number _ | .text _ => trivial
  | .node (.mk id kind tier fields) =>
      obtain ⟨hs, hfree, hfields⟩ := (Node.regular_iff _).mp ((Value.regular_node_iff _).mp h)
      rw [Value.streamed, Node.streamed, Json.Distinct]
      exact ⟨Node.nodup_keys_streamed hs hfree, trivial, trivial, trivial,
        Value.distinct_entriesStreamed fields hfields⟩
  | .list items =>
      rw [Value.streamed, Json.Distinct]
      exact Value.distinct_itemsStreamed items ((Value.regular_list_iff items).mp h)
  | .object entries =>
      obtain ⟨hs, hentries⟩ := (Value.regular_object_iff entries).mp h
      rw [Value.streamed, Json.Distinct, Value.keys_entriesStreamed]
      exact ⟨hs.nodup_keys, Value.distinct_entriesStreamed entries hentries⟩

theorem Value.distinct_itemsStreamed (items : List Value) (h : ∀ v ∈ items, v.Regular) :
    Json.DistinctItems (Value.itemsStreamed items) := by
  match items with
  | [] => trivial
  | v :: vs =>
      rw [List.forall_mem_cons] at h
      exact ⟨Value.distinct_streamed v h.1, Value.distinct_itemsStreamed vs h.2⟩

theorem Value.distinct_entriesStreamed (entries : List (String × Value))
    (h : ∀ e ∈ entries, e.2.Regular) : Json.DistinctEntries (Value.entriesStreamed entries) := by
  match entries with
  | [] => trivial
  | (key, v) :: es =>
      rw [List.forall_mem_cons] at h
      exact ⟨Value.distinct_streamed v h.1, Value.distinct_entriesStreamed es h.2⟩

end

/-! ## What is built -/

mutual

/-- A node as it can be made: from a kind, from parts under any keys, by setting a field, by
decoding, or by an edit of a tree. A node that stands in another is made with it. -/
inductive Node.Built : Node → Prop where
  | new (id : NodeId) (kind : Kind) : Node.Built (Node.new id kind)
  | ofParts (id : NodeId) (kind : Kind) (tier : Tier) {fields : List (String × Value)}
      (h : ∀ e ∈ fields, Value.Built e.2) : Node.Built (Node.ofParts id kind tier fields)
  | withField {n : Node} (key : String) {v : Value} (hn : Node.Built n) (hv : Value.Built v) :
      Node.Built (n.withField key v)
  | decoded {j : Json} {fresh : NodeId} {n : Node} (hj : j.Ordered)
      (h : Node.ofJson fresh j = .ok n) : Node.Built n
  | inserted {body : Body} (parent : Option NodeId) {node : Node} (index : Option Nat) {m : Node}
      (hb : ∀ n ∈ body, Node.Built n) (hn : Node.Built node)
      (hm : m ∈ Tree.insert body parent node index) : Node.Built m
  | removed {body : Body} (id : NodeId) {m : Node} (hb : ∀ n ∈ body, Node.Built n)
      (hm : m ∈ Tree.remove body id) : Node.Built m
  | updated {body : Body} (id : NodeId) (key : String) {v : Value} {m : Node}
      (hb : ∀ n ∈ body, Node.Built n) (hv : Value.Built v)
      (hm : m ∈ Tree.updateProperty body id key v) : Node.Built m
  | part {v : Value} {m : Node} (hv : Value.Built v) (hm : m ∈ v.subtree) : Node.Built m

/-- A value that is decoded, put together from scalars and such nodes, or read from one. -/
inductive Value.Built : Value → Prop where
  | null : Value.Built .null
  | bool (b : Bool) : Value.Built (.bool b)
  | number (n : Number) : Value.Built (.number n)
  | text (s : String) : Value.Built (.text s)
  | node {n : Node} (hn : Node.Built n) : Value.Built (.node n)
  | list {items : List Value} (h : ∀ v ∈ items, Value.Built v) : Value.Built (.list items)
  | object {entries : List (String × Value)} (hs : Entries.Sorted entries)
      (h : ∀ e ∈ entries, Value.Built e.2) : Value.Built (.object entries)
  | decoded {j : Json} {v : Value} (hj : j.Ordered) (h : Value.ofJson j = .ok v) : Value.Built v
  | field {n : Node} {key : String} {v : Value} (hn : Node.Built n) (h : n.get? key = some v) :
      Value.Built v

end

mutual

theorem Node.Built.regular {n : Node} (h : n.Built) : (Value.node n).Regular := by
  match h with
  | .new id kind => exact (Value.regular_node_iff _).mpr (Node.storable_new id kind).regular
  | .ofParts id kind tier h =>
      apply Hereditary.regular.ofParts
      exact fun e he => Value.Built.regular (h e he)
  | .withField key hn hv => exact Hereditary.regular.withField hn.regular key fun _ => hv.regular
  | .decoded hj h =>
      exact Hereditary.regular.node_ofJson hj (fun m _ => Value.regular_number m) h
  | .inserted parent index hb hn hm =>
      have hbody := (Hereditary.regular.nodes_iff _).mpr fun n hn => Node.Built.regular (hb n hn)
      have hnew := Hereditary.regular.insert hbody parent hn.regular index
      exact (Hereditary.regular.nodes_iff _).mp hnew _ hm
  | .removed id hb hm =>
      have hbody := (Hereditary.regular.nodes_iff _).mpr fun n hn => Node.Built.regular (hb n hn)
      have hnew := Hereditary.regular.remove hbody id
      exact (Hereditary.regular.nodes_iff _).mp hnew _ hm
  | .updated id key hb hv hm =>
      have hbody := (Hereditary.regular.nodes_iff _).mpr fun n hn => Node.Built.regular (hb n hn)
      have hnew := Hereditary.regular.updateProperty hbody id key fun _ => hv.regular
      exact (Hereditary.regular.nodes_iff _).mp hnew _ hm
  | .part hv hm => exact Hereditary.regular.of_mem_subtree _ hv.regular hm

theorem Value.Built.regular {v : Value} (h : v.Built) : v.Regular := by
  match h with
  | .null => exact Value.regular_null
  | .bool b => exact Value.regular_bool b
  | .number n => exact Value.regular_number n
  | .text s => exact Value.regular_text s
  | .node hn => exact hn.regular
  | .list h => exact (Value.regular_list_iff _).mpr fun v hv => Value.Built.regular (h v hv)
  | .object hs h =>
      exact (Value.regular_object_iff _).mpr ⟨hs, fun e he => Value.Built.regular (h e he)⟩
  | .decoded hj h =>
      exact Hereditary.regular.ofJson _ hj (fun m _ => Value.regular_number m) h
  | .field hn h =>
      obtain ⟨-, -, hfields⟩ := (Hereditary.regular.node_iff _).mp hn.regular
      exact hfields _ (Entries.mem_of_get?_eq_some h)

end

/-- Whatever is built, what the one encoding denotes is the other, and it names no key of an object
twice. -/
theorem streamed_agrees_with_toJson :
    (∀ n : Node, n.Built → n.streamed.sorted = n.toJson ∧ n.streamed.Distinct) ∧
      ∀ v : Value, v.Built → v.streamed.sorted = v.toJson ∧ v.streamed.Distinct := by
  have hvalue : ∀ v : Value, v.Built → v.streamed.sorted = v.toJson ∧ v.streamed.Distinct := by
    intro v hv
    exact ⟨v.sorted_streamed hv.regular.ordered, v.distinct_streamed hv.regular⟩
  refine ⟨?_, hvalue⟩
  intro n hn
  simpa only [Value.streamed, Value.toJson] using hvalue (.node n) (.node hn)

/-- A literal from parts, two of them under keys of the header, with an object for its value. -/
def Node.sampleParts : Node :=
  (Node.ofParts ⟨"p1"⟩ .literal .domain [("type", .text "x"), ("value", .null), ("id", .null)])
    |>.withField "value" (.object [("id", .text "p1")])

theorem Node.built_sampleParts : Node.sampleParts.Built := by
  have hvalue : (Value.object [("id", .text "p1")]).Built := by
    refine .object (List.pairwise_singleton _ _) ?_
    simpa using Value.Built.text "p1"
  refine .withField "value" (.ofParts _ _ _ ?_) hvalue
  simp [Value.Built.text, Value.Built.null]

theorem streamed_agrees_sampleParts :
    Node.sampleParts.Built ∧ Node.sampleParts.streamed.sorted = Node.sampleParts.toJson ∧
      Node.sampleParts.streamed.Distinct ∧
      (Value.nodes (Tree.remove [Node.sampleParts] ⟨"p2"⟩)).Built ∧
      (Value.nodes (Tree.remove [Node.sampleParts] ⟨"p2"⟩)).streamed.Distinct := by
  have hnode := Node.built_sampleParts
  have hbody : (Value.nodes (Tree.remove [Node.sampleParts] ⟨"p2"⟩)).Built := by
    refine .list (List.forall_mem_map.mpr ?_)
    intro m hm
    exact .node (.removed ⟨"p2"⟩ (by simpa using hnode) hm)
  obtain ⟨hsorted, hdistinct⟩ := streamed_agrees_with_toJson.1 _ hnode
  exact ⟨hnode, hsorted, hdistinct, hbody, (streamed_agrees_with_toJson.2 _ hbody).2⟩

end HandlerStudio
