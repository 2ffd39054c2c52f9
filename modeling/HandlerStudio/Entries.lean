/-!
# Entries in key order

A map with text keys is the list of its entries in increasing key order. Keys compare by code
point, which is also the order of their UTF-8 bytes. `Entries.Sorted` says that a list is in order
and names no key twice: `insert` keeps it, and `ofList` establishes it.
-/

namespace HandlerStudio

namespace Entries

variable {α : Type}

/-- The value under `key`. -/
def get? (key : String) : List (String × α) → Option α
  | [] => none
  | (k, v) :: rest => if k = key then some v else get? key rest

/-- Whether `key` has a value. -/
def has (key : String) (entries : List (String × α)) : Bool :=
  (get? key entries).isSome

/-- Put `value` under `key`, in place of an earlier value. -/
def insert (key : String) (value : α) : List (String × α) → List (String × α)
  | [] => [(key, value)]
  | (k, v) :: rest =>
      if k = key then (key, value) :: rest
      else if key < k then (key, value) :: (k, v) :: rest
      else (k, v) :: insert key value rest

/-- Collect entries given in any order; of two with one key the later one stays. -/
def ofList (given : List (String × α)) : List (String × α) :=
  given.foldl (fun entries e => insert e.1 e.2 entries) []

/-- The keys, in order. -/
def keys (entries : List (String × α)) : List String :=
  entries.map Prod.fst

/-- In increasing key order, hence no key twice. -/
def Sorted (entries : List (String × α)) : Prop :=
  (keys entries).Pairwise (· < ·)

@[simp] theorem get?_nil (key : String) : get? key ([] : List (String × α)) = none := rfl

@[simp] theorem keys_nil : keys ([] : List (String × α)) = [] := rfl

@[simp] theorem keys_cons (e : String × α) (entries : List (String × α)) :
    keys (e :: entries) = e.1 :: keys entries := rfl

@[simp] theorem get?_insert_self (key : String) (value : α) (entries : List (String × α)) :
    get? key (insert key value entries) = some value := by
  induction entries with
  | nil => simp [insert, get?]
  | cons e rest ih =>
      obtain ⟨k, v⟩ := e
      simp only [insert]
      split
      · simp [get?]
      · split
        · simp [get?]
        · simp_all [get?]

@[simp] theorem get?_insert_of_ne {key other : String} (h : other ≠ key) (value : α)
    (entries : List (String × α)) :
    get? other (insert key value entries) = get? other entries := by
  induction entries with
  | nil => simp [insert, get?, h.symm]
  | cons e rest ih =>
      obtain ⟨k, v⟩ := e
      simp only [insert]
      split
      · next hk => subst hk; simp [get?, h.symm]
      · split
        · simp [get?, h.symm]
        · simp [get?, ih]

theorem mem_keys_insert {key k : String} {value : α} {entries : List (String × α)} :
    k ∈ keys (insert key value entries) ↔ k = key ∨ k ∈ keys entries := by
  induction entries with
  | nil => simp [insert]
  | cons e rest ih =>
      obtain ⟨l, v⟩ := e
      simp only [insert]
      split
      · next hl => subst hl; simp
      · split
        · simp
        · simp [ih, or_left_comm]

/-- Putting an entry in keeps the order. -/
theorem sorted_insert {entries : List (String × α)} (h : Sorted entries) (key : String)
    (value : α) : Sorted (insert key value entries) := by
  induction entries with
  | nil => simp [Sorted, insert]
  | cons e rest ih =>
      obtain ⟨k, v⟩ := e
      simp only [Sorted, keys_cons, List.pairwise_cons] at h
      simp only [insert]
      split
      · next hk => subst hk; simpa [Sorted] using h
      · next hk =>
        split
        · next hlt =>
          simp only [Sorted, keys_cons, List.pairwise_cons, List.mem_cons, forall_eq_or_imp]
          exact ⟨⟨hlt, fun a ha => String.lt_trans hlt (h.1 a ha)⟩, h⟩
        · next hlt =>
          simp only [Sorted, keys_cons, List.pairwise_cons, mem_keys_insert, forall_eq_or_imp]
          refine ⟨⟨?_, h.1⟩, ih h.2⟩
          exact Std.lt_of_le_of_ne (String.not_lt.mp hlt) hk

theorem sorted_ofList (given : List (String × α)) : Sorted (ofList given) := by
  have aux : ∀ (given entries : List (String × α)), Sorted entries →
      Sorted (given.foldl (fun entries e => insert e.1 e.2 entries) entries) := by
    intro given
    induction given with
    | nil => exact fun _ h => h
    | cons e given ih => exact fun entries h => ih _ (sorted_insert h e.1 e.2)
  exact aux given [] (by simp [Sorted])

end Entries

end HandlerStudio
