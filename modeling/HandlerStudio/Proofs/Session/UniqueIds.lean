import HandlerStudio.Proofs.Handler.RoundTrip
import HandlerStudio.Proofs.Session.History
import HandlerStudio.Proofs.Tree.UniqueIds

/-!
# A session names each node once

A session that was opened on a stored handler never holds an identity twice, whatever is inserted,
removed or set, and whichever stored handlers are loaded on the way. Nodes and values come with
their keys in order, as maps have them; nothing is asked of the identities they bring.
-/

namespace HandlerStudio

/-- What the edit brings in has its keys in order. -/
def Edit.Ordered : Edit → Prop
  | .insert _ node _ => node.Ordered
  | .update _ _ value => value.Ordered
  | _ => True

namespace Session

/-- Edits bring in maps in key order, and what is loaded was stored. -/
def Action.Admissible : Action → Prop
  | .edit e => e.Ordered
  | .load _ handler => handler.Stored
  | _ => True

end Session

theorem Handler.Sound.apply {h : Handler} (hs : h.Sound) {e : Edit} (he : e.Ordered) :
    (e.apply h).Sound := by
  obtain ⟨ho, hu⟩ := hs
  cases e with
  | insert parent node index =>
      exact ⟨Tree.ordered_insert ho parent he index, Tree.uniqueIds_insert ho hu parent node index⟩
  | remove id => exact ⟨Tree.ordered_remove ho id, Tree.uniqueIds_remove ho hu id⟩
  | update id key value =>
      exact ⟨Tree.ordered_updateProperty ho id key he,
        Tree.uniqueIds_updateProperty ho hu id key value⟩
  | rename name => exact ⟨ho, hu⟩
  | setAsync value => exact ⟨ho, hu⟩

theorem Handler.Sound.validate {h : Handler} (hs : h.Sound) : h.validate = .ok () := by
  have hnil : Tree.duplicateIds h.body = [] := (Tree.duplicateIds_eq_nil_iff _).mpr hs.2
  simp [Handler.validate, hnil]

namespace Session.History

theorem sound_step {h : History} (hs : h.session.handler.Sound) {a : Action}
    (ha : a.Admissible) : (h.step a).session.handler.Sound := by
  cases a with
  | edit e => exact hs.apply ha
  | load document handler => exact Handler.Stored.sound ha
  | markSaved n =>
      -- only the tracker changes
      have hsame : (h.step (.markSaved n)).session.handler = h.session.handler := by
        simp only [step]
        cases h.taken[n]? with
        | none => rfl
        | some s =>
            simp only [markSaved]
            split <;> rfl
      rw [hsame]
      exact hs
  | select id | clearSelection | snapshot | markSaveFailed => exact hs

/-- At every point of a run no identity occurs twice. -/
theorem duplicateIds_run_eq_nil {handler : Handler} (hstored : handler.Stored)
    (document : DocumentId) {actions : List Action} (hactions : ∀ a ∈ actions, a.Admissible)
    {done : List Action} (hdone : done <+: actions) :
    let session := ((start document handler).run done).session
    (Tree.ids session.body).Nodup ∧ Tree.duplicateIds session.body = [] ∧
      session.handler.validate = .ok () := by
  have hadmissible : ∀ a ∈ done, a.Admissible := fun a ha => hactions a (hdone.subset ha)
  have hstart : (start document handler).session.handler.Sound := hstored.sound
  have hsound : ((start document handler).run done).session.handler.Sound :=
    run_induction (P := fun h => h.session.handler.Sound) hstart
      (fun h a hs ha => sound_step hs ha) hadmissible
  exact ⟨hsound.2, (Tree.duplicateIds_eq_nil_iff _).mpr hsound.2, hsound.validate⟩

/-- A node that repeats an identity, one that reuses one, a fresh one, a field that takes back an
identity of its old value, and a load. -/
def sampleActions : List Action :=
  [.edit (.insert none (.mk ⟨"c"⟩ .returnStatement .universal
      [("value", .node (.mk ⟨"c"⟩ .literal .universal []))]) none),
    .edit (.insert (some ⟨"b1"⟩) (.mk ⟨"b2"⟩ .literal .universal []) none),
    .edit (.insert (some ⟨"b1"⟩) (.mk ⟨"d"⟩ .literal .universal []) (some 0)),
    .edit (.update ⟨"b1"⟩ "note" (.list [.node (.mk ⟨"b2"⟩ .identifier .universal [])])),
    .edit (.remove ⟨"b2"⟩),
    .load ⟨"save"⟩ (.sampleNested 126)]

theorem duplicateIds_run_sampleActions :
    (Handler.sampleNested 0).Stored ∧ (∀ a ∈ sampleActions, a.Admissible) ∧
      let session := ((start ⟨"save"⟩ (.sampleNested 0)).run sampleActions).session
      (Tree.ids session.body).Nodup ∧ Tree.duplicateIds session.body = [] ∧
        session.handler.validate = .ok () := by
  have hstored : (Handler.sampleNested 0).Stored := Handler.stored_sampleNested (by decide)
  have hadmissible : ∀ a ∈ sampleActions, a.Admissible := by
    simp [sampleActions, Action.Admissible, Edit.Ordered, Node.Ordered, Value.Ordered,
      Value.OrderedItems, Value.OrderedEntries, Entries.Sorted, Handler.stored_sampleNested]
  exact ⟨hstored, hadmissible,
    duplicateIds_run_eq_nil hstored _ hadmissible (List.prefix_refl _)⟩

end Session.History

end HandlerStudio
