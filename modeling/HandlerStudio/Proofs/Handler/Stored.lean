import HandlerStudio.Handler.Json
import HandlerStudio.Proofs.Node.Hereditary

/-!
# Stored handlers are sound

The body of a handler that a text stores has its keys in order and names each node once.
-/

namespace HandlerStudio

theorem Json.Read.list_forall {α : Type} {item : Json.Reader α} {P : α → Prop}
    (hitem : ∀ limit cs a rest, item limit cs = .ok (a, rest) → P a) {limit : Nat}
    {cs rest : List Char} {as : List α} (h : Json.Read.list item limit cs = .ok (as, rest)) :
    ∀ a ∈ as, P a := by
  simp only [Json.Read.list] at h
  split at h
  · cases h
  · split at h
    · cases h
    · exact Json.Read.itemsFrom_forall (hitem _) h
  · cases h

namespace Handler

/-- An entry brings nodes in, or data under a key without a meaning, or neither. -/
theorem Parts.entry_cases {limit : Nat} {p q : Parts} {key : String} {cs rest : List Char}
    (h : Parts.entry limit p key cs = .ok (q, rest)) :
    (q.body? = p.body? ∧ q.extra = p.extra) ∨
      (∃ drafts ds, Json.Read.list Draft.read limit ds = .ok (drafts, rest) ∧
        q.body? = some drafts ∧ q.extra = p.extra) ∨
      key ∉ ["name", "isAsync", "params", "returnType", "body"] ∧
        ∃ j ds, Json.Read.value limit ds = .ok (j, rest) ∧ q.body? = p.body? ∧
          q.extra = Entries.insert key j p.extra := by
  unfold Parts.entry at h
  split at h
  · obtain ⟨⟨a, ds⟩, -, h⟩ := Except.bind_eq_ok_iff.mp h
    cases h
    exact Or.inl ⟨rfl, rfl⟩
  split at h
  · obtain ⟨⟨a, ds⟩, -, h⟩ := Except.bind_eq_ok_iff.mp h
    cases h
    exact Or.inl ⟨rfl, rfl⟩
  split at h
  · obtain ⟨⟨a, ds⟩, -, h⟩ := Except.bind_eq_ok_iff.mp h
    cases h
    exact Or.inl ⟨rfl, rfl⟩
  split at h
  · obtain ⟨⟨a, ds⟩, -, h⟩ := Except.bind_eq_ok_iff.mp h
    cases h
    exact Or.inl ⟨rfl, rfl⟩
  split at h
  · obtain ⟨⟨a, ds⟩, hset, h⟩ := Except.bind_eq_ok_iff.mp h
    cases h
    unfold Json.Read.setOnce at hset
    split at hset
    · cases hset
    · obtain ⟨es, -, hset⟩ := Except.bind_eq_ok_iff.mp hset
      obtain ⟨⟨drafts, fs⟩, hlist, hset⟩ := Except.bind_eq_ok_iff.mp hset
      cases hset
      exact Or.inr (Or.inl ⟨drafts, es, hlist, rfl, rfl⟩)
  · next hname hasync hparams hreturn hbody =>
    obtain ⟨es, -, h⟩ := Except.bind_eq_ok_iff.mp h
    obtain ⟨⟨j, ds⟩, hj, h⟩ := Except.bind_eq_ok_iff.mp h
    cases h
    exact Or.inr (Or.inr ⟨by simp [hname, hasync, hparams, hreturn, hbody], j, es, hj, rfl, rfl⟩)

theorem readParts_keeps {P : Parts → Prop} (hstart : P {})
    (hentry : ∀ limit p key cs q rest, P p → Parts.entry limit p key cs = .ok (q, rest) → P q)
    {limit : Nat} {cs rest : List Char} {p : Parts} (h : readParts limit cs = .ok (p, rest)) :
    P p := by
  simp only [readParts] at h
  split at h
  · cases h
  · split at h
    · cases h
    · obtain ⟨⟨q, ds⟩, hmembers, h⟩ := Except.bind_eq_ok_iff.mp h
      obtain ⟨name, -, h⟩ := Except.bind_eq_ok_iff.mp h
      cases h
      exact Json.Read.membersFrom_keeps (fun p key cs q rest hp => hentry _ p key cs q rest hp)
        hstart hmembers
  · cases h

theorem ordered_of_readParts {limit : Nat} {cs rest : List Char} {p : Parts}
    (h : readParts limit cs = .ok (p, rest)) : ∀ d ∈ p.body?.getD [], d.Ordered := by
  refine readParts_keeps (P := fun p => ∀ d ∈ p.body?.getD [], d.Ordered) (by simp) ?_ h
  intro limit p key cs q rest hp hentry
  rcases Parts.entry_cases hentry with ⟨hbody, -⟩ | ⟨drafts, ds, hlist, hbody, -⟩ |
    ⟨-, j, ds, -, hbody, -⟩
  · rw [hbody]
    exact hp
  · rw [hbody]
    exact Json.Read.list_forall (fun _ _ _ _ hread => Draft.ordered_read hread) hlist
  · rw [hbody]
    exact hp

/-- A text stores the handler. -/
def Stored (h : Handler) : Prop :=
  ∃ supply text rest, ofText supply text = .ok (h, rest)

/-- The body has its keys in order and names each node once. -/
def Sound (h : Handler) : Prop := Tree.Ordered h.body ∧ Tree.UniqueIds h.body

theorem Stored.exists_parts {h : Handler} (hs : h.Stored) :
    (∃ supply p limit cs rest, readParts limit cs = .ok (p, rest) ∧ (p.complete supply).1 = h) ∧
      Tree.UniqueIds h.body := by
  obtain ⟨supply, text, rest, hof⟩ := hs
  unfold ofText at hof
  split at hof
  · cases hof
  · next h' supply' hdecode =>
    obtain ⟨_, hvalid, hof⟩ := Except.bind_eq_ok_iff.mp hof
    cases hof
    constructor
    · obtain ⟨p, hparse, hp⟩ := Except.bind_eq_ok_iff.mp hdecode
      obtain ⟨⟨q, ds⟩, hread, hparse⟩ := Except.bind_eq_ok_iff.mp hparse
      simp only at hparse
      split at hparse
      · cases hparse
        exact ⟨supply, p, _, _, _, hread, congrArg Prod.fst (Except.ok.inj hp)⟩
      · cases hparse
    · rw [← Tree.duplicateIds_eq_nil_iff]
      unfold validate at hvalid
      split at hvalid
      · assumption
      · cases hvalid

theorem Stored.sound {h : Handler} (hs : h.Stored) : h.Sound := by
  obtain ⟨⟨supply, p, limit, cs, rest, hread, rfl⟩, hu⟩ := hs.exists_parts
  exact ⟨Draft.ordered_identifyAll (ordered_of_readParts hread) supply, hu⟩

end Handler

end HandlerStudio
