import HandlerStudio.Proofs.Handler.Stored
import HandlerStudio.Proofs.Json.RoundTrip
import HandlerStudio.Proofs.Node.RoundTrip

/-!
# Stored handlers come back

A handler that is written as text and read again is the same handler, identities, tiers and further
entries included, if its text has at most as many brackets open at once as reading allows; a deeper
text is refused.
-/

namespace HandlerStudio

/-! ## Nodes -/

mutual

/-- Sorting the keys of the one encoding gives the other. -/
theorem Value.sorted_streamed (v : Value) (h : v.Ordered) : v.streamed.sorted = v.toJson := by
  match v with
  | .null | .bool _ | .number _ | .text _ => rfl
  | .node n =>
      rw [Value.Ordered] at h
      rw [Value.streamed, Value.toJson, Node.sorted_streamed n h]
  | .list items =>
      rw [Value.Ordered, Value.orderedItems_iff] at h
      rw [Value.streamed, Value.toJson, Json.sorted, Value.sortedItems_itemsStreamed items h]
  | .object entries =>
      rw [Value.Ordered, Value.orderedEntries_iff] at h
      rw [Value.streamed, Value.toJson, Json.sorted,
        Value.sortedEntries_entriesStreamed entries h.2,
        Entries.ofList_eq_self (Value.sorted_entriesToJson h.1)]

theorem Node.sorted_streamed (n : Node) (h : n.Ordered) : n.streamed.sorted = n.toJson := by
  match n with
  | .mk id kind tier fields =>
      rw [Node.ordered_iff] at h
      have hheader : ∀ i t k : Json, Entries.insert "tier" t
          (Entries.insert "type" k (Entries.insert "id" i [])) =
            [("id", i), ("tier", t), ("type", k)] := by
        intro i t k
        rfl
      rw [Node.streamed, Node.toJson, Json.sorted, Json.sortedEntries, Json.sortedEntries,
        Json.sortedEntries, Value.sortedEntries_entriesStreamed fields h.2, Entries.ofList,
        List.foldl_cons, List.foldl_cons, List.foldl_cons, hheader]
      rfl

theorem Value.sortedItems_itemsStreamed (items : List Value) (h : ∀ v ∈ items, v.Ordered) :
    Json.sortedItems (Value.itemsStreamed items) = Value.itemsToJson items := by
  match items with
  | [] => rfl
  | v :: vs =>
      rw [List.forall_mem_cons] at h
      rw [Value.itemsStreamed, Json.sortedItems, Value.itemsToJson, Value.sorted_streamed v h.1,
        Value.sortedItems_itemsStreamed vs h.2]

theorem Value.sortedEntries_entriesStreamed (entries : List (String × Value))
    (h : ∀ e ∈ entries, e.2.Ordered) :
    Json.sortedEntries (Value.entriesStreamed entries) = Value.entriesToJson entries := by
  match entries with
  | [] => rfl
  | (k, v) :: es =>
      rw [List.forall_mem_cons] at h
      rw [Value.entriesStreamed, Json.sortedEntries, Value.entriesToJson,
        Value.sorted_streamed v h.1, Value.sortedEntries_entriesStreamed es h.2]

end

/-- What is read of a node that names itself. -/
def Node.draft (n : Node) : Draft := ⟨some n.id, n.kind, n.tier, n.fields⟩

theorem Draft.read_pretty (limit level : Nat) {n : Node} (hr : n.Regular) (hu : n.Undisguised)
    (hl : n.streamed.Legible) {rest : List Char} (hrest : Json.Read.EndsNumber rest) :
    Draft.read limit (Json.prettyAt level n.streamed ++ rest) =
      Json.Read.atDepth n.streamed.nesting limit (n.draft, rest) := by
  have hdraft : Draft.ofJson n.toJson = .ok n.draft := Node.draft_of_toJson n hr hu
  rw [Draft.read, Json.Read.value_pretty limit level hl hrest, Node.sorted_streamed n hr.ordered]
  unfold Json.Read.atDepth
  split
  · simp only [Except.ok_bind, hdraft]
    rfl
  · rfl

theorem Draft.identifyAll_draft (supply : IdSupply) {body : Body} (h : ∀ n ∈ body, n.Regular) :
    Draft.identifyAll supply (body.map Node.draft) = (body, supply) := by
  induction body with
  | nil => rfl
  | cons n body ih =>
      rw [List.forall_mem_cons] at h
      obtain ⟨hs, hfree, -⟩ := n.regular_iff.mp h.1
      have hn : n.draft.identify supply = (n, supply) :=
        congrArg (·, supply) ((Node.ofParts_eq_mk _ _ _ hs hfree).trans n.eta)
      simp only [List.map_cons, Draft.identifyAll, hn, ih h.2]

/-! ## Parameters -/

theorem Param.absorbs_entries (level limit : Nat) (p : Param) :
    Json.Read.Absorbs Param.Parts.entry level limit {}
      [("name", .string p.name), ("type", .string p.typeName), ("optional", .bool p.optional)]
      ⟨some p.name, some p.typeName, some p.optional⟩ := by
  have hname : ∀ rest, Param.Parts.entry {} "name"
      (':' :: ' ' :: (Json.prettyAt (level + 1) (.string p.name) ++ rest)) =
        .ok (⟨some p.name, none, none⟩, rest) := by
    intro rest
    rw [Param.Parts.entry, if_pos rfl, Json.Read.setOnce_colon, Json.Read.text_pretty]
    rfl
  have htype : ∀ rest, Param.Parts.entry ⟨some p.name, none, none⟩ "type"
      (':' :: ' ' :: (Json.prettyAt (level + 1) (.string p.typeName) ++ rest)) =
        .ok (⟨some p.name, some p.typeName, none⟩, rest) := by
    intro rest
    rw [Param.Parts.entry, if_neg (by decide), if_pos rfl, Json.Read.setOnce_colon,
      Json.Read.text_pretty]
    rfl
  have hoptional : ∀ rest, Param.Parts.entry ⟨some p.name, some p.typeName, none⟩ "optional"
      (':' :: ' ' :: (Json.prettyAt (level + 1) (.bool p.optional) ++ rest)) =
        .ok (⟨some p.name, some p.typeName, some p.optional⟩, rest) := by
    intro rest
    rw [Param.Parts.entry, if_neg (by decide), if_neg (by decide), if_pos rfl,
      Json.Read.setOnce_colon, Json.Read.boolean_pretty]
    rfl
  exact .cons (fun rest _ => hname rest) (.cons (fun rest _ => htype rest)
    (.cons (fun rest _ => hoptional rest) (.nil _)))

theorem Param.read_pretty (limit level : Nat) (p : Param) (rest : List Char) :
    Param.read limit (Json.prettyAt level p.toJson ++ rest) =
      Json.Read.atDepth p.toJson.nesting limit (p, rest) := by
  obtain ⟨body, htext, hread⟩ :=
    Json.Read.exists_members_pretty (Param.absorbs_entries level limit p)
  rw [Param.toJson, htext]
  cases limit with
  | zero => rfl
  | succ limit =>
      have hopen : Param.read (limit + 1) ('\x7b' :: (body ++ rest)) =
          Json.Read.members Param.Parts.entry {} (body ++ rest) >>= fun q => do
            let name ← Json.Read.require "name" q.1.name?
            let typeName ← Json.Read.require "type" q.1.typeName?
            return (⟨name, typeName, q.1.optional?.getD false⟩, q.2) := rfl
      rw [List.cons_append, hopen, hread]
      rfl

/-! ## Handlers -/

namespace Handler

/-- The keys that have a meaning of their own. -/
def fixedKeys : List String := ["name", "isAsync", "params", "returnType", "body"]

/-- What the parts of a handler are built to be: keys in order at every depth, no field of a node
named like a part of the header, and whole numbers of 64 bits. -/
structure Regular (h : Handler) : Prop where
  body : ∀ n ∈ h.body, n.Regular
  extra : (Json.object h.extra).Ordered
  whole : ∀ z, Number.int z ∈ h.toJson.numbers → Number.inRange z = true

theorem Regular.legible {h : Handler} (hr : h.Regular)
    (hdoubles : ∀ x, Number.float x ∈ h.toJson.numbers → (Number.float x).Legible) :
    h.toJson.Legible := by
  intro n hn
  cases n with
  | int z => exact Json.Read.number_intText (hr.whole z hn)
  | float x => exact hdoubles x hn

namespace Parts

variable {p : Parts} (limit : Nat) (rest : List Char)

theorem entry_name (hp : p.name? = none) (s : String) :
    entry limit p "name" (':' :: ' ' :: (Json.prettyAt 1 (.string s) ++ rest)) =
      .ok ({ p with name? := some s }, rest) := by
  rw [entry, if_pos rfl, hp, Json.Read.setOnce_colon, Json.Read.text_pretty]
  rfl

theorem entry_isAsync (hp : p.isAsync? = none) (b : Bool) :
    entry limit p "isAsync" (':' :: ' ' :: (Json.prettyAt 1 (.bool b) ++ rest)) =
      .ok ({ p with isAsync? := some b }, rest) := by
  rw [entry, if_neg (by decide), if_pos rfl, hp, Json.Read.setOnce_colon, Json.Read.boolean_pretty]
  rfl

theorem entry_params (hp : p.params? = none) (params : List Param) :
    entry limit p "params"
      (':' :: ' ' :: (Json.prettyAt 1 (.array (params.map Param.toJson)) ++ rest)) =
        Json.Read.atDepth (Json.nesting (.array (params.map Param.toJson))) limit
          ({ p with params? := some params }, rest) := by
  have hlegible : ∀ q ∈ params, q.toJson.Legible := fun q _ n hn => nomatch hn
  rw [entry, if_neg (by decide), if_neg (by decide), if_pos rfl, hp, Json.Read.setOnce_colon,
    Json.Read.list_pretty 1 hlegible fun limit q _ rest _ => Param.read_pretty limit 2 q rest,
    Json.Read.atDepth_bind_ok, List.map_id']
  exact Json.Read.atDepth_bind_ok _ _ (some params, rest)
    fun a => ({ p with params? := a.1 }, a.2)

theorem entry_returnType (hp : p.returnType? = none) (s : String) :
    entry limit p "returnType" (':' :: ' ' :: (Json.prettyAt 1 (.string s) ++ rest)) =
      .ok ({ p with returnType? := some (some s) }, rest) := by
  rw [entry, if_neg (by decide), if_neg (by decide), if_neg (by decide), if_pos rfl, hp,
    Json.Read.setOnce_colon, Json.Read.optionalText_pretty]
  rfl

theorem entry_body (hp : p.body? = none) {body : Body} (hr : ∀ n ∈ body, n.Regular)
    (hu : ∀ n ∈ body, n.Undisguised) (hl : ∀ n ∈ body, n.streamed.Legible) :
    entry limit p "body"
      (':' :: ' ' :: (Json.prettyAt 1 (.array (body.map Node.streamed)) ++ rest)) =
        Json.Read.atDepth (Json.nesting (.array (body.map Node.streamed))) limit
          ({ p with body? := some (body.map Node.draft) }, rest) := by
  rw [entry, if_neg (by decide), if_neg (by decide), if_neg (by decide), if_neg (by decide),
    if_pos rfl, hp, Json.Read.setOnce_colon,
    Json.Read.list_pretty 1 hl fun limit n hn rest hrest =>
      Draft.read_pretty limit 2 (hr n hn) (hu n hn) (hl n hn) hrest,
    Json.Read.atDepth_bind_ok]
  exact Json.Read.atDepth_bind_ok _ _ (some (body.map Node.draft), rest)
    fun a => ({ p with body? := a.1 }, a.2)

theorem entry_extra {key : String} (hkey : key ∉ fixedKeys) {j : Json} (hj : j.Legible)
    (hrest : Json.Read.EndsNumber rest) :
    entry limit p key (':' :: ' ' :: (Json.prettyAt 1 j ++ rest)) =
      Json.Read.atDepth j.nesting limit
        ({ p with extra := Entries.insert key j.sorted p.extra }, rest) := by
  simp only [fixedKeys, List.mem_cons, List.not_mem_nil, or_false, not_or] at hkey
  have hcolon : Json.Read.colon (':' :: ' ' :: (Json.prettyAt 1 j ++ rest)) =
      .ok (' ' :: (Json.prettyAt 1 j ++ rest)) := rfl
  rw [entry, if_neg hkey.1, if_neg hkey.2.1, if_neg hkey.2.2.1, if_neg hkey.2.2.2.1,
    if_neg hkey.2.2.2.2, hcolon, Except.ok_bind, Json.Read.value_space,
    Json.Read.value_pretty limit 1 hj hrest]
  exact Json.Read.atDepth_bind_ok _ _ (j.sorted, rest)
    fun a => ({ p with extra := Entries.insert key a.1 p.extra }, a.2)

end Parts

/-- The entries with a key of their own. -/
def fixedEntries (h : Handler) : List (String × Json) :=
  [("name", .string h.name), ("isAsync", .bool h.isAsync),
    ("params", .array (h.params.map Param.toJson))] ++ h.returnTypeEntry
    ++ [("body", .array (h.body.map Node.streamed))]

/-- What is read of the entries with a key of their own. -/
def fixedParts (h : Handler) : Parts where
  name? := some h.name
  isAsync? := some h.isAsync
  params? := some h.params
  returnType? := h.returnType.map some
  body? := some (h.body.map Node.draft)

theorem absorbs_fixedEntries {h : Handler} (hr : ∀ n ∈ h.body, n.Regular)
    (hu : ∀ n ∈ h.body, n.Undisguised) (hl : ∀ n ∈ h.body, n.streamed.Legible) (limit : Nat) :
    Json.Read.Absorbs (Parts.entry limit) 0 limit {} h.fixedEntries h.fixedParts := by
  rw [fixedEntries, returnTypeEntry]
  refine .cons (fun rest _ => Parts.entry_name limit rest rfl h.name)
    (.cons (fun rest _ => Parts.entry_isAsync limit rest rfl h.isAsync)
      (.cons (fun rest _ => Parts.entry_params limit rest rfl h.params) ?_))
  have hfixed : h.fixedParts = ⟨some h.name, some h.isAsync, some h.params,
    h.returnType.map some, some (h.body.map Node.draft), []⟩ := rfl
  rw [hfixed]
  cases h.returnType with
  | none => exact .cons (fun rest _ => Parts.entry_body limit rest rfl hr hu hl) (.nil _)
  | some t =>
      exact .cons (fun rest _ => Parts.entry_returnType limit rest rfl t)
        (.cons (fun rest _ => Parts.entry_body limit rest rfl hr hu hl) (.nil _))

theorem absorbs_extra {es : List (String × Json)} (hkeys : ∀ e ∈ es, e.1 ∉ fixedKeys)
    (hl : ∀ e ∈ es, e.2.Legible) (limit : Nat) (p : Parts) :
    Json.Read.Absorbs (Parts.entry limit) 0 limit p es
      { p with
        extra := (Json.sortedEntries es).foldl
          (fun entries e => Entries.insert e.1 e.2 entries) p.extra } := by
  induction es generalizing p with
  | nil => exact .nil p
  | cons e es ih =>
      obtain ⟨key, j⟩ := e
      rw [List.forall_mem_cons] at hkeys hl
      exact .cons (fun rest hrest => Parts.entry_extra limit rest hkeys.1 hl.1 hrest)
        (ih hkeys.2 hl.2 _)

theorem toJson_eq (h : Handler) : h.toJson = .object (h.fixedEntries ++ h.extra) := rfl

theorem legible_of_mem_body {h : Handler} (hl : h.toJson.Legible) :
    ∀ n ∈ h.body, n.streamed.Legible := by
  intro n hn
  rw [toJson_eq, Json.legible_object_iff] at hl
  have hbody : (Json.array (h.body.map Node.streamed)).Legible :=
    hl ("body", .array (h.body.map Node.streamed)) (by simp [fixedEntries])
  exact (Json.legible_array_iff _).mp hbody _ (List.mem_map_of_mem hn)

section

variable {h : Handler} (hr : h.Regular) (hu : ∀ n ∈ h.body, n.Undisguised)
  (hextra : ∀ e ∈ h.extra, e.1 ∉ fixedKeys) (hl : h.toJson.Legible)

include hr hu hextra hl

/-- All entries are taken in, the further ones as they are. -/
theorem absorbs_toJson (limit : Nat) :
    Json.Read.Absorbs (Parts.entry limit) 0 limit {} (h.fixedEntries ++ h.extra)
      { h.fixedParts with extra := h.extra } := by
  -- the further entries are collected in key order, which they have already
  have hsorted : (Json.sortedEntries h.extra).foldl
      (fun entries e => Entries.insert e.1 e.2 entries) [] = h.extra := by
    have hordered := hr.extra
    rw [Json.Ordered] at hordered
    rw [Json.sortedEntries_of_ordered h.extra hordered.2]
    exact Entries.ofList_eq_self hordered.1
  have hfurther := absorbs_extra hextra
    (fun e he => (Json.legible_object_iff _).mp hl e (List.mem_append_right _ he)) limit
    h.fixedParts
  rw [show h.fixedParts.extra = [] from rfl, hsorted] at hfurther
  exact (absorbs_fixedEntries hr.body hu (legible_of_mem_body hl) limit).append hfurther

theorem readParts_text :
    readParts Json.nestingLimit h.text.toList =
      Json.Read.atDepth h.toJson.nesting Json.nestingLimit
        ({ h.fixedParts with extra := h.extra }, []) := by
  obtain ⟨body, htext, hread⟩ :=
    Json.Read.exists_members_pretty (absorbs_toJson hr hu hextra hl 126)
  have hchars : h.text.toList = '\x7b' :: body := by
    rw [text, Json.prettyText, String.toList_ofList, toJson_eq, htext]
  have hopen : readParts Json.nestingLimit ('\x7b' :: body) =
      Json.Read.members (Parts.entry 126) {} body >>= fun q => do
        let _ ← Json.Read.require "name" q.1.name?
        return (q.1, q.2) := rfl
  have hmembers := hread []
  rw [List.append_nil] at hmembers
  rw [hchars, hopen, hmembers, toJson_eq, Json.nesting, Json.nestingLimit,
    Json.Read.atDepth_succ_succ]
  unfold Json.Read.atDepth
  split <;> rfl

omit hu hextra hl in
theorem complete_fixedParts (supply : IdSupply) :
    Parts.complete supply { h.fixedParts with extra := h.extra } = (h, supply) := by
  have hbody : Draft.identifyAll supply (h.body.map Node.draft) = (h.body, supply) :=
    Draft.identifyAll_draft supply hr.body
  have hreturn : (h.returnType.map some).getD none = h.returnType := by
    cases h.returnType <;> rfl
  simp [Parts.complete, fixedParts, hbody, hreturn]

theorem decode_text (supply : IdSupply) :
    decode supply h.text =
      if h.toJson.nesting ≤ Json.nestingLimit then .ok (h, supply) else .error .malformed := by
  rw [decode, Json.parseWith, readParts_text hr hu hextra hl, Json.Read.atDepth]
  split
  · rw [Except.ok_bind]
    exact congrArg Except.ok (complete_fixedParts hr supply)
  · rfl

theorem ofText_text (hids : Tree.UniqueIds h.body) (supply : IdSupply) :
    ofText supply h.text =
      if h.toJson.nesting ≤ Json.nestingLimit then .ok (h, supply)
      else .error (.unreadable .malformed) := by
  have hvalid : h.validate = .ok () := by
    rw [validate, (Tree.duplicateIds_eq_nil_iff h.body).mpr hids]
  rw [ofText, decode_text hr hu hextra hl supply]
  by_cases hdepth : h.toJson.nesting ≤ Json.nestingLimit
  · simp only [if_pos hdepth, hvalid]
    rfl
  · simp only [if_neg hdepth]

end

/-- A handler is read back from its text if and only if at most as many brackets are open at once as
reading allows, and a deeper text is refused. The body names each node once, no plain object in it
is shaped like a node, and the further entries have keys of their own. Of doubles it is assumed that
their text is read back. -/
theorem ofText_text_iff_nesting_le (h : Handler) (supply : IdSupply) (hr : h.Regular)
    (hids : Tree.UniqueIds h.body) (hu : ∀ n ∈ h.body, n.Undisguised)
    (hextra : ∀ e ∈ h.extra, e.1 ∉ fixedKeys)
    (hdoubles : ∀ x, Number.float x ∈ h.toJson.numbers → (Number.float x).Legible) :
    (ofText supply h.text = .ok (h, supply) ↔ h.toJson.nesting ≤ 127) ∧
      (127 < h.toJson.nesting → ofText supply h.text = .error (.unreadable .malformed)) := by
  have hread := ofText_text hr hu hextra (hr.legible hdoubles) hids supply
  rw [Json.nestingLimit] at hread
  by_cases hdepth : h.toJson.nesting ≤ 127
  · rw [if_pos hdepth] at hread
    exact ⟨iff_of_true hread hdepth, fun hdeep => absurd hdepth (by omega)⟩
  · rw [if_neg hdepth] at hread
    refine ⟨iff_of_false ?_ hdepth, fun _ => hread⟩
    rw [hread]
    nofun

/-- One and a half. -/
def sampleDouble : Double := ⟨false, 6755399441055744, 1022, by decide⟩

/-- So many lists inside each other. -/
def nestedLists : Nat → Json
  | 0 => .null
  | depth + 1 => .array [nestedLists depth]

theorem nestedLists_spec (depth : Nat) :
    (nestedLists depth).nesting = depth ∧ (nestedLists depth).numbers = [] ∧
      (nestedLists depth).Ordered := by
  induction depth with
  | zero => simp [nestedLists, Json.nesting, Json.numbers, Json.Ordered]
  | succ depth ih =>
      simp [nestedLists, Json.nesting, Json.nestingItems, Json.numbers, Json.numbersOfItems,
        Json.Ordered, Json.OrderedItems, ih]

/-- A handler with something in every part, and lists of a given depth in its further entries. -/
def sampleNested (depth : Nat) : Handler where
  name := "on \"save\"\n"
  isAsync := true
  params := [⟨"id", "string", true⟩]
  returnType := some "Result"
  body := [Node.sampleBranch (.node (.mk ⟨"b2"⟩ .returnStatement .domain
    [("value", .number (.int (-3)))]))]
  extra := [("deep", nestedLists depth), ("ratio", .number (.float sampleDouble))]

section

variable (depth : Nat)

theorem numbers_sampleNested : (sampleNested depth).toJson.numbers =
    [.int 3, .int 1, .int (-3), .float sampleDouble] := by
  simp [sampleNested, toJson, returnTypeEntry, Json.numbers, Json.numbersOfItems,
    Json.numbersOfEntries, Param.toJson, Node.sampleBranch, Node.streamed, Value.streamed,
    Value.itemsStreamed, Value.entriesStreamed, Json.nat, nestedLists_spec]
  decide

theorem nesting_sampleNested : (sampleNested depth).toJson.nesting = max 5 depth + 1 := by
  have hlists : (nestedLists depth).nesting = depth := (nestedLists_spec depth).1
  have hfixed : (sampleNested depth).toJson.nesting =
      max 0 (max 0 (max 2 (max 0 (max 5 (max (nestedLists depth).nesting 0))))) + 1 := rfl
  omega

theorem regular_sampleNested : (sampleNested depth).Regular := by
  have hitem : (Value.node (.mk ⟨"b2"⟩ .returnStatement .domain
      [("value", .number (.int (-3)))])).Regular := by
    rw [Value.regular_node_iff, Node.regular_iff]
    refine ⟨List.pairwise_singleton _ _, ?_, ?_⟩
    · simp [Node.fields, Node.isReserved, Node.reservedKeys]
    · simp [Node.fields]
  have hkeys : ["deep", "ratio"].Pairwise (· < ·) := by decide
  constructor
  · simpa [sampleNested] using Node.regular_sampleBranch hitem
  · rw [Json.Ordered]
    refine ⟨hkeys, ?_⟩
    simp [sampleNested, Json.OrderedEntries, Json.Ordered, nestedLists_spec]
  · rw [numbers_sampleNested]
    simp
    decide

theorem uniqueIds_sampleNested : Tree.UniqueIds (sampleNested depth).body := by
  -- the depth is that of the further entries only
  have hids : Tree.duplicateIds (sampleNested 0).body = [] := by decide
  exact (Tree.duplicateIds_eq_nil_iff _).mp hids

theorem undisguised_sampleNested : ∀ n ∈ (sampleNested depth).body, n.Undisguised := by
  intro n hn
  rw [List.mem_singleton.mp hn, Node.undisguised_sampleBranch_iff]
  exact Value.undisguised_scalar rfl

theorem extra_sampleNested : ∀ e ∈ (sampleNested depth).extra, e.1 ∉ fixedKeys := by
  simp [sampleNested, fixedKeys]

theorem doubles_sampleNested :
    ∀ x, Number.float x ∈ (sampleNested depth).toJson.numbers → (Number.float x).Legible := by
  intro x hx
  rw [numbers_sampleNested] at hx
  have hx : x = sampleDouble := by simpa using hx
  rw [hx, Number.Legible]
  decide +kernel

end

theorem stored_sampleNested {depth : Nat} (hdepth : depth ≤ 126) : (sampleNested depth).Stored := by
  have hlimit : (sampleNested depth).toJson.nesting ≤ Json.nestingLimit := by
    rw [nesting_sampleNested, Json.nestingLimit]
    omega
  have hread := ofText_text (regular_sampleNested depth) (undisguised_sampleNested depth)
    (extra_sampleNested depth) ((regular_sampleNested depth).legible (doubles_sampleNested depth))
    (uniqueIds_sampleNested depth) {}
  rw [if_pos hlimit] at hread
  exact ⟨_, _, _, hread⟩

/-- The last depth that is read back, and the first that is refused. -/
theorem ofText_text_sampleNested :
    ofText {} (sampleNested 126).text = .ok (sampleNested 126, {}) ∧
      ofText {} (sampleNested 127).text = .error (.unreadable .malformed) := by
  constructor
  · refine (ofText_text_iff_nesting_le (sampleNested 126) {} (regular_sampleNested _)
      (uniqueIds_sampleNested _) (undisguised_sampleNested _) (extra_sampleNested _)
      (doubles_sampleNested _)).1.mpr ?_
    rw [nesting_sampleNested]
    decide
  · refine (ofText_text_iff_nesting_le (sampleNested 127) {} (regular_sampleNested _)
      (uniqueIds_sampleNested _) (undisguised_sampleNested _) (extra_sampleNested _)
      (doubles_sampleNested _)).2 ?_
    rw [nesting_sampleNested]
    decide

end Handler

end HandlerStudio
