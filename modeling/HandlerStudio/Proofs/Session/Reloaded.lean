import HandlerStudio.Proofs.Editor.Agreement
import HandlerStudio.Proofs.Tree.Insert
import HandlerStudio.Proofs.Tree.Storable

/-!
# Sessions that are saved and loaded again

A handler that was loaded, and edited with nodes and values that were decoded or built by setting
fields, is loaded again as it was saved, if its text has at most as many brackets open at once as
reading allows. Edits are not held to that limit, and a text that exceeds it is saved all the same.
-/

namespace HandlerStudio

/-- The edit brings in nothing, or a node or a value that was decoded or built. -/
def Edit.Made : Edit → Prop
  | .insert _ node _ => node.Made
  | .update _ _ value => value.Made
  | _ => True

namespace Handler

/-! ## Storable handlers -/

structure Storable (h : Handler) : Prop where
  body : Tree.Storable h.body
  uniqueIds : Tree.UniqueIds h.body
  extra : (Json.object h.extra).Genuine
  extraKeys : ∀ e ∈ h.extra, e.1 ∉ fixedKeys

/-- Only the nodes and the further entries of a handler have numbers. -/
theorem numbers_toJson (h : Handler) :
    h.toJson.numbers =
      (h.body.flatMap fun n => n.streamed.numbers) ++ h.extra.flatMap fun e => e.2.numbers := by
  have hparams : Json.numbersOfItems (h.params.map Param.toJson) = [] := by
    rw [Json.numbersOfItems_eq, List.flatMap_eq_nil_iff]
    intro j hj
    obtain ⟨q, -, rfl⟩ := List.mem_map.mp hj
    rfl
  have hbody : Json.numbersOfItems (h.body.map Node.streamed) =
      h.body.flatMap fun n => n.streamed.numbers := by
    rw [Json.numbersOfItems_eq, List.flatMap_map]
  have hfixed : Json.numbersOfEntries h.fixedEntries =
      h.body.flatMap fun n => n.streamed.numbers := by
    rw [← hbody]
    unfold fixedEntries returnTypeEntry
    cases h.returnType <;> simp [Json.numbersOfEntries, Json.numbers, hparams]
  rw [Json.numbersOfEntries_eq] at hfixed
  rw [toJson_eq, Json.numbers, Json.numbersOfEntries_eq, List.flatMap_append, hfixed]

section

variable {h : Handler}

theorem Storable.fits (hs : h.Storable) : ∀ n ∈ h.toJson.numbers, n.Fits := by
  intro n hn
  rw [numbers_toJson] at hn
  rcases List.mem_append.mp hn with hbody | hextra
  · obtain ⟨m, hm, hnm⟩ := List.mem_flatMap.mp hbody
    exact (hs.body m hm).fits n hnm
  · obtain ⟨e, he, hne⟩ := List.mem_flatMap.mp hextra
    exact (((Json.genuine_object_iff _).mp hs.extra).2 e he).fits n hne

theorem Storable.regular (hs : h.Storable) : h.Regular :=
  ⟨fun n hn => (hs.body n hn).regular, hs.extra.ordered, fun _ hz => hs.fits _ hz⟩

theorem Storable.representable (hs : h.Storable)
    (hdoubles : ∀ x, Number.float x ∈ h.toJson.numbers → (Number.float x).Legible) :
    h.Representable :=
  ⟨hs.regular, hs.uniqueIds, fun n hn => (hs.body n hn).undisguised, hs.extraKeys, hdoubles⟩

/-- A storable handler that is not too deep is stored by its own text. -/
theorem Storable.stored (hs : h.Storable)
    (hdoubles : ∀ x, Number.float x ∈ h.toJson.numbers → (Number.float x).Legible)
    (hdepth : h.toJson.nesting ≤ Json.nestingLimit) : h.Stored := by
  have hr := hs.representable hdoubles
  have hread := ofText_text hr.regular hr.undisguised hr.extra (hr.regular.legible hdoubles)
    hr.uniqueIds {}
  rw [if_pos hdepth] at hread
  exact ⟨_, _, _, hread⟩

end

/-! ## What was loaded -/

/-- What is read of a handler before its nodes are complete. -/
structure Parts.Storable (p : Parts) : Prop where
  body : ∀ d ∈ p.body?.getD [], d.Storable
  extra : (Json.object p.extra).Genuine
  extraKeys : ∀ e ∈ p.extra, e.1 ∉ fixedKeys

theorem Parts.storable_of_readParts {limit : Nat} {cs rest : List Char} {p : Parts}
    (h : readParts limit cs = .ok (p, rest)) : p.Storable := by
  refine readParts_keeps (P := Parts.Storable) ?_ ?_ h
  · exact ⟨by simp, (Json.genuine_object_iff _).mpr ⟨List.Pairwise.nil, by simp⟩, by simp⟩
  intro limit p key cs q rest hp hentry
  rcases Parts.entry_cases hentry with ⟨hbody, hextra⟩ | ⟨drafts, ds, hlist, hbody, hextra⟩ |
    ⟨hkey, j, ds, hj, hbody, hextra⟩
  · exact ⟨hbody ▸ hp.body, hextra ▸ hp.extra, hextra ▸ hp.extraKeys⟩
  · refine ⟨?_, hextra ▸ hp.extra, hextra ▸ hp.extraKeys⟩
    rw [hbody]
    exact Json.Read.list_forall (fun _ _ _ _ hread => Draft.storable_read hread) hlist
  · obtain ⟨hsorted, hgenuine⟩ := (Json.genuine_object_iff _).mp hp.extra
    refine ⟨hbody ▸ hp.body, ?_, ?_⟩
    · rw [hextra, Json.genuine_object_iff]
      refine ⟨Entries.sorted_insert hsorted key j, ?_⟩
      intro e he
      rcases Entries.mem_insert he with rfl | hold
      · exact Json.Read.genuine_of_value hj
      · exact hgenuine e hold
    · intro e he
      rw [hextra] at he
      rcases Entries.mem_insert he with rfl | hold
      · exact hkey
      · exact hp.extraKeys e hold

/-- What was loaded can be stored. -/
theorem Stored.storable {h : Handler} (hs : h.Stored) : h.Storable := by
  obtain ⟨⟨supply, p, limit, cs, rest, hread, rfl⟩, hu⟩ := hs.exists_parts
  have hp := Parts.storable_of_readParts hread
  exact ⟨Draft.storable_identifyAll hp.body supply, hu, hp.extra, hp.extraKeys⟩

/-! ## Edits -/

theorem Storable.apply {h : Handler} (hs : h.Storable) {e : Edit} (he : e.Made) :
    (e.apply h).Storable := by
  cases e with
  | insert parent node index =>
      exact ⟨Tree.storable_insert hs.body parent (Node.Made.storable he) index,
        Tree.uniqueIds_insert (hs.body.proper hs.uniqueIds).ordered hs.uniqueIds parent node index,
        hs.extra, hs.extraKeys⟩
  | remove id =>
      exact ⟨Tree.storable_remove hs.body id,
        Tree.uniqueIds_remove (hs.body.proper hs.uniqueIds).ordered hs.uniqueIds id,
        hs.extra, hs.extraKeys⟩
  | update id key value =>
      exact ⟨Tree.storable_updateProperty hs.body id key (Value.Made.sealed he),
        Tree.uniqueIds_updateProperty (hs.body.proper hs.uniqueIds).ordered hs.uniqueIds id key
          value,
        hs.extra, hs.extraKeys⟩
  | rename _ | setAsync _ => exact ⟨hs.body, hs.uniqueIds, hs.extra, hs.extraKeys⟩

end Handler

namespace Session

/-- The session after some edits. -/
def editAll (s : Session) (edits : List Edit) : Session := edits.foldl (fun s e => s.edit e) s

theorem storable_editAll {s : Session} (hs : s.handler.Storable) {edits : List Edit}
    (hedits : ∀ e ∈ edits, e.Made) : (s.editAll edits).handler.Storable := by
  induction edits generalizing s with
  | nil => exact hs
  | cons e edits ih =>
      rw [List.forall_mem_cons] at hedits
      exact ih (hs.apply hedits.1) hedits.2

theorem load_save_editAll (document : DocumentId) {h : Handler} (hs : h.Storable)
    {edits : List Edit} (hedits : ∀ e ∈ edits, e.Made)
    (hdoubles : ∀ x, Number.float x ∈ ((start document h).editAll edits).handler.toJson.numbers →
      (Number.float x).Legible) (store : MemoryStore) (supply : IdSupply) :
    (store.save document ((start document h).editAll edits).handler).load document supply =
      if ((start document h).editAll edits).handler.toJson.nesting ≤ Json.nestingLimit then
        .ok (((start document h).editAll edits).handler, supply)
      else .error (.corrupt document (.unreadable .malformed)) :=
  MemoryStore.load_save_eq ((storable_editAll (s := start document h) hs hedits).representable
    hdoubles) store document supply

/-- A handler that a text stores, edited any number of times and saved, is loaded again as it is if
and only if its text has at most 127 brackets open at once, and is reported as corrupt otherwise. Of
doubles it is assumed that their text is read back. -/
theorem load_save_editAll_iff_nesting_le (document : DocumentId) {h : Handler} (hs : h.Stored)
    (edits : List Edit) (hedits : ∀ e ∈ edits, e.Made)
    (hdoubles : ∀ x, Number.float x ∈ ((start document h).editAll edits).handler.toJson.numbers →
      (Number.float x).Legible) (store : MemoryStore) (supply : IdSupply) :
    ((store.save document ((start document h).editAll edits).handler).load document supply =
        .ok (((start document h).editAll edits).handler, supply) ↔
      ((start document h).editAll edits).handler.toJson.nesting ≤ 127) ∧
    (127 < ((start document h).editAll edits).handler.toJson.nesting →
      (store.save document ((start document h).editAll edits).handler).load document supply =
        .error (.corrupt document (.unreadable .malformed))) := by
  have hload := load_save_editAll document hs.storable hedits hdoubles store supply
  rw [Json.nestingLimit] at hload
  by_cases hdepth : ((start document h).editAll edits).handler.toJson.nesting ≤ 127
  · rw [if_pos hdepth] at hload
    exact ⟨iff_of_true hload hdepth, fun hdeep => absurd hdepth (Nat.not_le.mpr hdeep)⟩
  · rw [if_neg hdepth] at hload
    refine ⟨iff_of_false ?_ hdepth, fun _ => hload⟩
    rw [hload]
    intro heq
    cases heq

/-! ## The limit

A literal with lists in each other is enough to reach it. -/

/-- So many lists inside each other. -/
def nestedValue : Nat → Value
  | 0 => .null
  | depth + 1 => .list [nestedValue depth]

theorem nestedValue_spec (depth : Nat) :
    (nestedValue depth).Made ∧ (nestedValue depth).ids = [] ∧
      (nestedValue depth).holdsNodeShape = false ∧
      (nestedValue depth).streamed = Handler.nestedLists depth := by
  induction depth with
  | zero => exact ⟨.null, rfl, rfl, rfl⟩
  | succ depth ih =>
      obtain ⟨hmade, hids, hshape, hstreamed⟩ := ih
      refine ⟨.list (by simpa using hmade), ?_, ?_, ?_⟩
      · simp [nestedValue, hids]
      · simp [nestedValue, Value.holdsNodeShape, Value.itemsHoldNodeShape, hshape]
      · simp [nestedValue, Value.streamed, Value.itemsStreamed, Handler.nestedLists, hstreamed]

/-- Put a literal with so many lists in each other at the top. -/
def sampleInsert (depth : Nat) : Edit :=
  .insert none ((Node.new ⟨"n"⟩ .literal).withField "value" (nestedValue depth)) none

theorem made_sampleInsert (depth : Nat) : (sampleInsert depth).Made :=
  .withField "value" (.new ⟨"n"⟩ .literal) (nestedValue_spec depth).1

/-- A handler that has nothing but that literal. -/
def sampleDeep (depth : Nat) : Handler where
  name := "deep"
  body := [.mk ⟨"n"⟩ .literal .universal [("value", nestedValue depth)]]

theorem handler_sampleInsert (document : DocumentId) (depth : Nat) :
    ((start document { name := "deep" }).editAll [sampleInsert depth]).handler =
      sampleDeep depth := by
  obtain ⟨-, hids, hshape, -⟩ := nestedValue_spec depth
  have hnode : (Node.new ⟨"n"⟩ .literal).withField "value" (nestedValue depth) =
      .mk ⟨"n"⟩ .literal .universal [("value", nestedValue depth)] := by
    rw [Node.withField_of_accepted (by decide) hshape]
    rfl
  have hclash : Tree.clash? [] (.node (.mk ⟨"n"⟩ .literal .universal
      [("value", nestedValue depth)])) none = none := by
    rw [Tree.clash?_node_eq_none_iff]
    simp [hids, Tree.ids_eq_flatMap]
  have hinsert := Tree.insert_top hclash none
  simp only [editAll, List.foldl_cons, List.foldl_nil, edit, sampleInsert, Edit.apply, start, hnode,
    hinsert]
  rfl

section

variable (document : DocumentId) (depth : Nat)

theorem nesting_sampleInsert :
    ((start document { name := "deep" }).editAll [sampleInsert depth]).handler.toJson.nesting =
      depth + 3 := by
  obtain ⟨-, -, -, hstreamed⟩ := nestedValue_spec depth
  have hlists : (nestedValue depth).streamed.nesting = depth := by
    rw [hstreamed, (Handler.nestedLists_spec depth).1]
  have hbrackets : (sampleDeep depth).toJson.nesting =
      max 0 (max 0 (max 1 (max (max (max 0 (max 0 (max 0
        (max (nestedValue depth).streamed.nesting 0))) + 1) 0 + 1) 0))) + 1 := rfl
  rw [handler_sampleInsert, hbrackets, hlists]
  omega

theorem doubles_sampleInsert :
    ∀ x, Number.float x ∈
      ((start document { name := "deep" }).editAll [sampleInsert depth]).handler.toJson.numbers →
        (Number.float x).Legible := by
  intro x hx
  obtain ⟨-, -, -, hstreamed⟩ := nestedValue_spec depth
  rw [handler_sampleInsert, Handler.numbers_toJson] at hx
  simp [sampleDeep, Node.streamed, Value.entriesStreamed, hstreamed, Json.numbers,
    Json.numbersOfEntries, Handler.nestedLists_spec, Json.nat] at hx

end

theorem stored_sampleName : Handler.Stored { name := "deep" } := by
  have hs : Handler.Storable { name := "deep" } := by
    refine ⟨?_, ?_, ?_, ?_⟩
    · simp [Tree.Storable]
    · simp [Tree.UniqueIds, Tree.ids_eq_flatMap]
    · exact (Json.genuine_object_iff _).mpr ⟨List.Pairwise.nil, by simp⟩
    · simp
  refine hs.stored ?_ (by decide)
  intro x hx
  rw [Handler.numbers_toJson] at hx
  simp at hx

/-- The last depth at which the edited handler is loaded again. -/
theorem load_save_sampleInsert :
    (MemoryStore.save ⟨"a"⟩ ((start ⟨"a"⟩ { name := "deep" }).editAll [sampleInsert 124]).handler
        {}).load ⟨"a"⟩ {} =
      .ok (((start ⟨"a"⟩ { name := "deep" }).editAll [sampleInsert 124]).handler, {}) := by
  refine (load_save_editAll_iff_nesting_le ⟨"a"⟩ stored_sampleName [sampleInsert 124] ?_
    (doubles_sampleInsert _ _) {} {}).1.mpr ?_
  · simpa using made_sampleInsert 124
  · exact Nat.le_of_eq (nesting_sampleInsert _ _)

/-- One edit of a handler that a text stores, and what was saved is not loaded again. -/
theorem corrupt_sampleInsert :
    Handler.Stored { name := "deep" } ∧ (sampleInsert 125).Made ∧
      (MemoryStore.save ⟨"a"⟩ ((start ⟨"a"⟩ { name := "deep" }).editAll [sampleInsert 125]).handler
          {}).load ⟨"a"⟩ {} = .error (.corrupt ⟨"a"⟩ (.unreadable .malformed)) := by
  refine ⟨stored_sampleName, made_sampleInsert 125, ?_⟩
  have hload := load_save_editAll ⟨"a"⟩ stored_sampleName.storable
    (by simpa using made_sampleInsert 125) (doubles_sampleInsert ⟨"a"⟩ 125) {} {}
  rw [hload, nesting_sampleInsert]
  rfl

end Session

end HandlerStudio
