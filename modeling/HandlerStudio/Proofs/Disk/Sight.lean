import HandlerStudio.Disk.Basic
import HandlerStudio.Proofs.Entries

/-!
# What is seen on a disk

A location is a list of names that lead down from the top. What a disk does with paths depends only
on what is seen at each location: nothing, a folder, or a file with its content. Putting an item
that holds nothing at a place changes what is seen there, and nowhere else.
-/

namespace HandlerStudio

inductive Sight where
  | nothing
  | folder
  | file (content : Content)
deriving DecidableEq

def Sight.of : Option DiskItem → Sight
  | none => .nothing
  | some (.folder _) => .folder
  | some (.file content) => .file content

namespace DiskItem

/-- What names lead to that lead down only. -/
def find? : List String → DiskItem → Option DiskItem
  | [], item => some item
  | _ :: _, .file _ => none
  | name :: names, .folder entries => (Entries.get? name entries).bind (find? names)

def sight (location : List String) (top : DiskItem) : Sight := .of (top.find? location)

theorem find?_append (p q : List String) (top : DiskItem) :
    top.find? (p ++ q) = (top.find? p).bind (find? q) := by
  induction p generalizing top with
  | nil => rfl
  | cons name p ih =>
      cases top with
      | file content => rfl
      | folder entries =>
          simp only [List.cons_append, find?, Option.bind_assoc]
          congr 1
          funext item
          exact ih item

theorem sight_append {top : DiskItem} {p q : List String} (hp : top.sight p ≠ .folder)
    (hq : q ≠ []) : top.sight (p ++ q) = .nothing := by
  obtain ⟨name, q, rfl⟩ := List.exists_cons_of_ne_nil hq
  rw [sight, find?_append]
  cases hfind : top.find? p with
  | none => rfl
  | some item =>
      cases item with
      | file content => rfl
      | folder entries =>
          rw [sight, hfind] at hp
          exact absurd rfl hp

theorem sight_eq_folder {top : DiskItem} {p q : List String} (h : top.sight (p ++ q) ≠ .nothing)
    (hq : q ≠ []) : top.sight p = .folder := by
  apply Decidable.byContradiction
  intro hp
  exact h (sight_append hp hq)

end DiskItem

/-! ## Places -/

namespace Place

/-- A place that names lead to from the top. -/
inductive On (top : DiskItem) : Place → Prop
  | here : On top { item := some top }
  | down {entries : List (String × DiskItem)} {above : List (String × List (String × DiskItem))}
      (name : String) (h : On top { item := some (.folder entries), above }) :
      On top { item := Entries.get? name entries, above := (name, entries) :: above }

variable {top : DiskItem} {p : Place}

theorem On.follow (hp : p.On top) {name : String} {q : Place} (h : p.follow name = .ok q) :
    q.On top := by
  unfold Place.follow at h
  split at h
  · cases h
  · cases h
  · next entries hitem =>
      split at h
      · cases h
        exact hp
      split at h
      · split at h
        · cases h
          exact hp
        · next habove =>
            cases h
            cases hp with
            | here => cases habove
            | down name hp =>
                cases habove
                exact hp
      split at h
      · cases h
      · cases h
        obtain ⟨item, above⟩ := p
        cases hitem
        exact hp.down name

theorem location_cons (item : Option DiskItem) (name : String)
    (entries : List (String × DiskItem)) (above : List (String × List (String × DiskItem))) :
    ({ item, above := (name, entries) :: above } : Place).location =
      ({ item, above } : Place).location ++ [name] := by
  simp [location]

theorem On.find?_location (hp : p.On top) : top.find? p.location = p.item := by
  induction hp with
  | here => rfl
  | @down entries above name hp ih =>
      have hfolder : top.find? ({ item := none, above } : Place).location =
          some (.folder entries) := ih
      rw [location_cons _ name entries, DiskItem.find?_append]
      change (top.find? ({ item := none, above } : Place).location).bind _ = _
      rw [hfolder]
      change (Entries.get? name entries).bind some = _
      exact Option.bind_fun_some _

theorem On.sight_location (hp : p.On top) : top.sight p.location = .of p.item := by
  rw [DiskItem.sight, hp.find?_location]

/-- An item put at a place is found there with all it holds. -/
theorem On.find?_fill_append (hp : p.On top) (item : DiskItem) (q : List String) :
    (p.fill item).find? (p.location ++ q) = item.find? q := by
  induction hp generalizing item q with
  | here => rfl
  | @down entries above name hp ih =>
      have hfind := ih (.folder (Entries.insert name item entries)) (name :: q)
      rw [DiskItem.find?, Entries.get?_insert_self, Option.bind_some] at hfind
      rw [fill_cons, location_cons, List.append_assoc]
      exact hfind

/-- A folder in which one name was changed looks the same under all others. -/
theorem On.sight_changed (hp : p.On top) {entries changed : List (String × DiskItem)}
    (hitem : p.item = some (.folder entries)) {name : String}
    (hsame : ∀ other, other ≠ name → Entries.get? other changed = Entries.get? other entries)
    {q : List String} (hq : q.head? ≠ some name) :
    (DiskItem.folder changed).sight q = top.sight (p.location ++ q) := by
  cases q with
  | nil =>
      rw [List.append_nil, hp.sight_location, hitem]
      rfl
  | cons other q =>
      have hother : other ≠ name := by simpa using hq
      rw [DiskItem.sight, DiskItem.sight, DiskItem.find?_append, hp.find?_location, hitem,
        Option.bind_some, DiskItem.find?, DiskItem.find?, hsame other hother]

theorem not_prefix_append {location q : List String} {name : String}
    (h : ¬ location ++ [name] <+: location ++ q) : q.head? ≠ some name := by
  intro hq
  obtain ⟨tail, rfl⟩ := List.head?_eq_some_iff.mp hq
  exact h ⟨tail, by simp⟩

/-- Elsewhere all is seen as before. -/
theorem On.sight_fill_elsewhere (hp : p.On top) (item : DiskItem) {q : List String}
    (hq : ¬ p.location <+: q) : (p.fill item).sight q = top.sight q := by
  induction hp generalizing item q with
  | here => exact absurd List.nil_prefix hq
  | @down entries above name hp ih =>
      rw [location_cons] at hq
      by_cases hlocation : ({ item := some (.folder entries), above } : Place).location <+: q
      · obtain ⟨q, rfl⟩ := hlocation
        have hfill := hp.find?_fill_append (.folder (Entries.insert name item entries)) q
        rw [fill_cons, ← hp.sight_changed rfl (fun other hne =>
          Entries.get?_insert_of_ne hne item entries) (not_prefix_append hq)]
        exact congrArg Sight.of hfill
      · exact ih _ hlocation

theorem get?_filter_ne {name other : String} (h : other ≠ name)
    (entries : List (String × DiskItem)) :
    Entries.get? other (entries.filter fun e => e.1 != name) = Entries.get? other entries := by
  induction entries with
  | nil => rfl
  | cons e entries ih =>
      obtain ⟨key, item⟩ := e
      by_cases hkey : key = name
      · subst hkey
        simpa [Entries.get?, Ne.symm h] using ih
      · simp [Entries.get?, hkey, ih]

theorem get?_filter_self (name : String) (entries : List (String × DiskItem)) :
    Entries.get? name (entries.filter fun e => e.1 != name) = none := by
  rw [Entries.get?_eq_none_iff]
  simp [Entries.keys]

/-- Where a place was cleared, and below, nothing is seen; elsewhere all is as before. -/
theorem On.sight_clear (hp : p.On top) (hne : p.location ≠ []) (q : List String) :
    p.clear.sight q = if p.location <+: q then .nothing else top.sight q := by
  cases hp with
  | here => exact absurd rfl hne
  | @down entries above name hp =>
      have hfill := hp.find?_fill_append (.folder (entries.filter fun e => e.1 != name))
      rw [location_cons]
      split
      · next hprefix =>
          obtain ⟨q, rfl⟩ := hprefix
          rw [List.append_assoc]
          refine (congrArg Sight.of (hfill ([name] ++ q))).trans ?_
          rw [List.singleton_append, DiskItem.find?, get?_filter_self]
          rfl
      · next hprefix =>
          by_cases hlocation : ({ item := some (.folder entries), above } : Place).location <+: q
          · obtain ⟨q, rfl⟩ := hlocation
            refine (congrArg Sight.of (hfill q)).trans ?_
            exact hp.sight_changed rfl (fun other h => get?_filter_ne h entries)
              (not_prefix_append hprefix)
          · exact hp.sight_fill_elsewhere _ hlocation

end Place

end HandlerStudio
