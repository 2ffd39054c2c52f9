import HandlerStudio.Entries
import Mathlib.Data.List.Nodup

/-!
# Laws of entries in key order

A list in key order splits at each of its keys, and putting a value under a key changes only the
place of that key, whatever is put under other keys. A list that is in order already is its own
collection.
-/

namespace HandlerStudio

namespace Entries

variable {α β : Type}

theorem sorted_cons_iff {e : String × α} {es : List (String × α)} :
    Sorted (e :: es) ↔ (∀ k ∈ keys es, e.1 < k) ∧ Sorted es := by
  simp [Sorted]

theorem get?_eq_none_iff {key : String} {es : List (String × α)} :
    get? key es = none ↔ key ∉ keys es := by
  induction es with
  | nil => simp
  | cons e es ih =>
      obtain ⟨k, v⟩ := e
      by_cases hk : k = key
      · simp [get?, hk]
      · simp [get?, hk, ih, Ne.symm hk]

theorem get?_append (key : String) (es fs : List (String × α)) :
    get? key (es ++ fs) = (get? key es).or (get? key fs) := by
  induction es with
  | nil => simp
  | cons e es ih =>
      obtain ⟨k, v⟩ := e
      by_cases hk : k = key
      · simp [get?, hk]
      · simp [get?, hk, ih]

/-- The order of keys does not depend on the values. -/
theorem sorted_append_cons_congr {pre post : List (String × α)} {key : String} {v : α}
    (h : Sorted (pre ++ (key, v) :: post)) (w : α) : Sorted (pre ++ (key, w) :: post) := by
  have hkeys : keys (pre ++ (key, w) :: post) = keys (pre ++ (key, v) :: post) := by simp [keys]
  rw [Sorted, hkeys]
  exact h

theorem get?_eq_some_congr {v w u : α} (hv : v ≠ u) (hw : w ≠ u) (before : List (String × α))
    (key : String) (after : List (String × α)) (k : String) :
    get? k (before ++ (key, v) :: after) = some u ↔
      get? k (before ++ (key, w) :: after) = some u := by
  rw [get?_append, get?_append]
  cases get? k before with
  | some x => exact Iff.rfl
  | none => by_cases hk : key = k <;> simp [get?, hk, hv, hw]

theorem mem_of_get?_eq_some {key : String} {v : α} {es : List (String × α)}
    (h : get? key es = some v) : (key, v) ∈ es := by
  induction es with
  | nil => simp at h
  | cons e es ih =>
      obtain ⟨k, w⟩ := e
      simp only [get?] at h
      split at h
      · next hk => simp [hk, Option.some.inj h]
      · exact List.mem_cons_of_mem _ (ih h)

theorem get?_eq_some_of_mem {key : String} {v : α} {es : List (String × α)} (hs : Sorted es)
    (h : (key, v) ∈ es) : get? key es = some v := by
  induction es with
  | nil => cases h
  | cons e es ih =>
      obtain ⟨hlt, hes⟩ := sorted_cons_iff.mp hs
      rcases List.mem_cons.mp h with rfl | hmem
      · simp [get?]
      · have hkey : e.1 < key := hlt key (List.mem_map_of_mem hmem)
        have hne : e.1 ≠ key := fun heq => String.lt_irrefl key (heq ▸ hkey)
        obtain ⟨k, w⟩ := e
        rw [get?, if_neg hne, ih hes hmem]

theorem mem_insert {key : String} {v : α} {es : List (String × α)} {e : String × α}
    (h : e ∈ insert key v es) : e = (key, v) ∨ e ∈ es := by
  induction es with
  | nil => simpa [insert] using h
  | cons d es ih =>
      obtain ⟨k, w⟩ := d
      simp only [insert] at h
      split at h
      · rcases List.mem_cons.mp h with h | h
        · exact Or.inl h
        · exact Or.inr (List.mem_cons_of_mem _ h)
      · split at h
        · exact List.mem_cons.mp h
        · rcases List.mem_cons.mp h with h | h
          · exact Or.inr (by simp [h])
          · exact (ih h).imp_right (List.mem_cons_of_mem _)

theorem mem_of_mem_ofList {given : List (String × α)} {e : String × α} (h : e ∈ ofList given) :
    e ∈ given := by
  have hfold : ∀ (given acc : List (String × α)),
      e ∈ given.foldl (fun entries d => insert d.1 d.2 entries) acc → e ∈ given ∨ e ∈ acc := by
    intro given
    induction given with
    | nil => exact fun acc hacc => Or.inr hacc
    | cons d given ih =>
        intro acc hacc
        rcases ih _ hacc with hmem | hmem
        · exact Or.inl (List.mem_cons_of_mem _ hmem)
        · rcases mem_insert hmem with heq | hmem
          · exact Or.inl (by simp [heq])
          · exact Or.inr hmem
  simpa using hfold given [] h

/-- A value that is put under a key that the list has takes the place of the old one. -/
theorem insert_append_cons {pre post : List (String × α)} {key : String} {old : α}
    (h : Sorted (pre ++ (key, old) :: post)) (v : α) :
    insert key v (pre ++ (key, old) :: post) = pre ++ (key, v) :: post := by
  induction pre with
  | nil => simp [insert]
  | cons e pre ih =>
      obtain ⟨k, w⟩ := e
      rw [List.cons_append, sorted_cons_iff] at h
      have hlt : k < key := h.1 key (by simp [keys])
      have hne : k ≠ key := fun heq => String.lt_irrefl key (heq ▸ hlt)
      have hnlt : ¬ key < k := fun hgt => String.lt_irrefl k (String.lt_trans hlt hgt)
      rw [List.cons_append, insert, if_neg hne, if_neg hnlt, ih h.2, List.cons_append]

/-- Where a value goes: in place of the old one, or between smaller and greater keys. -/
theorem exists_insert_eq (key : String) {es : List (String × α)} (h : Sorted es) :
    ∃ pre post, es = pre ++ ((get? key es).map (key, ·)).toList ++ post ∧
      ∀ v, insert key v es = pre ++ (key, v) :: post := by
  induction es with
  | nil => exact ⟨[], [], rfl, fun v => rfl⟩
  | cons e es ih =>
      obtain ⟨k, w⟩ := e
      obtain ⟨hlt, hes⟩ := sorted_cons_iff.mp h
      by_cases hk : k = key
      · subst hk
        exact ⟨[], es, by simp [get?], fun v => by simp [insert]⟩
      · by_cases hgt : key < k
        · have hnone : get? key es = none := by
            rw [get?_eq_none_iff]
            exact fun hmem => String.lt_irrefl key (String.lt_trans hgt (hlt key hmem))
          exact ⟨[], (k, w) :: es, by simp [get?, hk, hnone], fun v => by simp [insert, hk, hgt]⟩
        · obtain ⟨pre, post, hsplit, hinsert⟩ := ih hes
          refine ⟨(k, w) :: pre, post, ?_, fun v => by simp [insert, hk, hgt, hinsert]⟩
          simp only [get?, if_neg hk, List.cons_append]
          rw [← hsplit]

theorem map_insert (f : α → β) (key : String) (v : α) (es : List (String × α)) :
    (insert key v es).map (fun e => (e.1, f e.2)) =
      insert key (f v) (es.map fun e => (e.1, f e.2)) := by
  induction es with
  | nil => rfl
  | cons e es ih =>
      obtain ⟨k, w⟩ := e
      simp only [insert, List.map_cons]
      by_cases hk : k = key
      · simp [hk]
      · by_cases hlt : key < k <;> simp [hk, hlt, ih]

/-- Values under different keys may be put in one after the other or the other way round. -/
theorem insert_comm {k l : String} (hne : k ≠ l) (v w : α) (es : List (String × α)) :
    insert k v (insert l w es) = insert l w (insert k v es) := by
  wlog hkl : k < l generalizing k l v w
  · have hlk : l < k := Std.lt_of_le_of_ne (String.not_lt.mp hkl) (Ne.symm hne)
    exact (this (Ne.symm hne) w v hlk).symm
  have hlk : ¬ l < k := fun h => String.lt_irrefl k (String.lt_trans hkl h)
  induction es with
  | nil => simp [insert, hne, Ne.symm hne, hkl, hlk]
  | cons e es ih =>
      obtain ⟨m, x⟩ := e
      -- the smaller key goes first unless it has to go past the head
      by_cases hmk : m = k
      · subst hmk
        simp [insert, hne, hlk]
      · by_cases hkm : k < m
        · by_cases hml : m = l
          · subst hml
            simp [insert, hmk, hkm, hne, hlk]
          · by_cases hlm : l < m <;> simp [insert, hmk, hkm, hml, hlm, hne, Ne.symm hne, hkl, hlk]
        · have hml : m ≠ l := by
            rintro rfl
            exact hkm hkl
          have hlm : ¬ l < m := fun h => hkm (String.lt_trans hkl h)
          simp [insert, hmk, hkm, hml, hlm, ih]

/-! ## Lists in order are known by their values -/

theorem get?_map (f : α → β) (key : String) (es : List (String × α)) :
    get? key (es.map fun e => (e.1, f e.2)) = (get? key es).map f := by
  induction es with
  | nil => rfl
  | cons e es ih =>
      by_cases hk : e.1 = key
      · simp [get?, hk]
      · simp [get?, hk, ih]

theorem get?_filter (p : String → Bool) (key : String) (es : List (String × α)) :
    get? key (es.filter fun e => p e.1) = if p key then get? key es else none := by
  induction es with
  | nil => simp
  | cons e es ih =>
      by_cases hk : e.1 = key
      · by_cases hp : p key <;> simp [get?, hk, hp, ih]
      · by_cases hp : p e.1 <;> simp [get?, hk, hp, ih]

/-- Putting in entries with distinct keys, one after another. -/
theorem get?_foldl_insert {given : List (String × α)} (h : Sorted given) (key : String)
    (acc : List (String × α)) :
    get? key (given.foldl (fun entries e => insert e.1 e.2 entries) acc) =
      (get? key given).or (get? key acc) := by
  induction given generalizing acc with
  | nil => simp
  | cons e given ih =>
      obtain ⟨k, v⟩ := e
      obtain ⟨hlt, hgiven⟩ := sorted_cons_iff.mp h
      rw [List.foldl_cons, ih hgiven]
      by_cases hk : k = key
      · subst hk
        have hnone : get? k given = none :=
          get?_eq_none_iff.mpr fun hmem => String.lt_irrefl k (hlt k hmem)
        simp [get?, hnone]
      · simp [get?, hk, Ne.symm hk]

theorem sorted_foldl_insert {acc : List (String × α)} (h : Sorted acc)
    (given : List (String × α)) :
    Sorted (given.foldl (fun entries e => insert e.1 e.2 entries) acc) := by
  induction given generalizing acc with
  | nil => exact h
  | cons e given ih => exact ih (sorted_insert h e.1 e.2)

theorem sorted_filter {es : List (String × α)} (h : Sorted es) (p : String × α → Bool) :
    Sorted (es.filter p) := by
  have hsub : (keys (es.filter p)).Sublist (keys es) := (List.filter_sublist).map Prod.fst
  exact h.sublist hsub

theorem ext_of_sorted {es fs : List (String × α)} (he : Sorted es) (hf : Sorted fs)
    (h : ∀ key, get? key es = get? key fs) : es = fs := by
  induction es generalizing fs with
  | nil =>
      cases fs with
      | nil => rfl
      | cons f fs => simpa [get?] using h f.1
  | cons e es ih =>
      cases fs with
      | nil => simpa [get?] using h e.1
      | cons f fs =>
          obtain ⟨k, v⟩ := e
          obtain ⟨l, w⟩ := f
          obtain ⟨hk, hes⟩ := sorted_cons_iff.mp he
          obtain ⟨hl, hfs⟩ := sorted_cons_iff.mp hf
          -- the least keys agree, since each list has the other's
          have hkl : k = l := by
            by_contra hne
            have hkmem : k ∈ keys fs := by
              by_contra hnot
              have hkey := h k
              simp [get?, Ne.symm hne, get?_eq_none_iff.mpr hnot] at hkey
            have hlmem : l ∈ keys es := by
              by_contra hnot
              have hkey := h l
              simp [get?, hne, get?_eq_none_iff.mpr hnot] at hkey
            exact String.lt_irrefl k (String.lt_trans (hk l hlmem) (hl k hkmem))
          subst hkl
          obtain rfl : v = w := by simpa [get?] using h k
          rw [ih hes hfs]
          intro key
          by_cases hkey : k = key
          · subst hkey
            rw [get?_eq_none_iff.mpr fun hmem => String.lt_irrefl k (hk k hmem),
              get?_eq_none_iff.mpr fun hmem => String.lt_irrefl k (hl k hmem)]
          · simpa [get?, hkey] using h key

theorem ofList_eq_self {es : List (String × α)} (h : Sorted es) : ofList es = es :=
  ext_of_sorted (sorted_ofList es) h fun key => by simp [ofList, get?_foldl_insert h]

end Entries

end HandlerStudio
