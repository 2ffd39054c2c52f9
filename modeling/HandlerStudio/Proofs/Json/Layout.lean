import HandlerStudio.Proofs.Json.Numerals
import HandlerStudio.Proofs.Json.Strings

/-!
# Written lists and objects

What is written over several lines is taken apart again one item or entry at a time. Reading an item
succeeds if its brackets stay within the limit, and is otherwise a fault; then the same holds of the
list around it, with one bracket more.
-/

namespace HandlerStudio

/-- The number is read back from its text. -/
def Number.Legible (n : Number) : Prop := Json.Read.number n.text = .ok (n, [])

namespace Json

mutual

/-- All numbers of a value. -/
def numbers : Json → List Number
  | .number n => [n]
  | .array items => numbersOfItems items
  | .object entries => numbersOfEntries entries
  | _ => []
termination_by structural j => j

def numbersOfItems : List Json → List Number
  | [] => []
  | j :: js => numbers j ++ numbersOfItems js
termination_by structural js => js

def numbersOfEntries : List (String × Json) → List Number
  | [] => []
  | (_, j) :: es => numbers j ++ numbersOfEntries es
termination_by structural es => es

end

theorem numbersOfItems_eq (items : List Json) : numbersOfItems items = items.flatMap numbers := by
  induction items with
  | nil => rfl
  | cons j js ih => simp [numbersOfItems, ih]

theorem numbersOfEntries_eq (entries : List (String × Json)) :
    numbersOfEntries entries = entries.flatMap fun e => numbers e.2 := by
  induction entries with
  | nil => rfl
  | cons e es ih => obtain ⟨k, j⟩ := e; simp [numbersOfEntries, ih]

/-- Every number of the value is read back from its text. -/
def Legible (j : Json) : Prop := ∀ n ∈ j.numbers, n.Legible

theorem legible_array_iff (items : List Json) : (array items).Legible ↔ ∀ j ∈ items, j.Legible := by
  simp only [Legible, numbers, numbersOfItems_eq, List.mem_flatMap, forall_exists_index, and_imp]
  exact ⟨fun h j hj n hn => h n j hj hn, fun h n j hj hn => h j hj n hn⟩

theorem legible_object_iff (entries : List (String × Json)) :
    (object entries).Legible ↔ ∀ e ∈ entries, e.2.Legible := by
  simp only [Legible, numbers, numbersOfEntries_eq, List.mem_flatMap, forall_exists_index, and_imp]
  exact ⟨fun h e he n hn => h n e he hn, fun h n e he hn => h e he n hn⟩

namespace Read

/-! ## Spaces -/

theorem skipSpace_of_not_space {c : Char} (hc : isSpace c = false) (cs : List Char) :
    skipSpace (c :: cs) = c :: cs := by
  simp [skipSpace, hc]

theorem skipSpace_newLine (level : Nat) (cs : List Char) :
    skipSpace (newLine level ++ cs) = skipSpace cs := by
  have hblanks : ∀ k, skipSpace (List.replicate k ' ' ++ cs) = skipSpace cs := by
    intro k
    induction k with
    | zero => rfl
    | succ k ih =>
        rw [List.replicate_succ, List.cons_append]
        exact ih
  exact hblanks (2 * level)

/-- The first character of a number is neither a space nor a mark. -/
theorem not_space_of_startsNumber {c : Char} (h : startsNumber c = true) :
    isSpace c = false ∧ c ≠ ']' := by
  constructor
  · cases hs : isSpace c with
    | false => rfl
    | true =>
        simp only [isSpace, Bool.or_eq_true, beq_iff_eq] at hs
        rcases hs with ((rfl | rfl) | rfl) | rfl <;> exact absurd h (by decide)
  · rintro rfl
    exact absurd h (by decide)

theorem exists_number_text {n : Number} (hn : n.Legible) :
    ∃ c cs, n.text = c :: cs ∧ startsNumber c = true := by
  cases htext : n.text with
  | nil =>
      rw [Number.Legible, htext] at hn
      cases hn
  | cons c cs =>
      rw [Number.Legible, htext] at hn
      exact ⟨c, cs, rfl, startsNumber_of_number hn⟩

/-- A written value starts with no space and no closing bracket. -/
theorem exists_prettyAt (level : Nat) {j : Json} (hj : j.Legible) :
    ∃ c cs, prettyAt level j = c :: cs ∧ isSpace c = false ∧ c ≠ ']' := by
  match j with
  | .null => exact ⟨'n', _, rfl, by decide, by decide⟩
  | .bool true => exact ⟨'t', _, rfl, by decide, by decide⟩
  | .bool false => exact ⟨'f', _, rfl, by decide, by decide⟩
  | .string s => exact ⟨'"', _, rfl, by decide, by decide⟩
  | .array [] => exact ⟨'[', _, rfl, by decide, by decide⟩
  | .array (j :: js) => exact ⟨'[', _, rfl, by decide, by decide⟩
  | .object [] => exact ⟨'\x7b', _, rfl, by decide, by decide⟩
  | .object (e :: es) => exact ⟨'\x7b', _, rfl, by decide, by decide⟩
  | .number n =>
      obtain ⟨c, cs, htext, hc⟩ := exists_number_text (hj n (by simp [numbers]))
      exact ⟨c, cs, htext, not_space_of_startsNumber hc⟩

/-! ## Depth -/

/-- A result that needs `depth` brackets more, where only `limit` may still be opened. -/
def atDepth {α : Type} (depth limit : Nat) (a : α) : Except Fault α :=
  if depth ≤ limit then .ok a else .error .malformed

section

variable {α β : Type}

@[simp] theorem atDepth_zero (limit : Nat) (a : α) : atDepth 0 limit a = .ok a := by simp [atDepth]

@[simp] theorem atDepth_succ_zero (depth : Nat) (a : α) :
    atDepth (depth + 1) 0 a = .error .malformed := by simp [atDepth]

@[simp] theorem atDepth_succ_succ (depth limit : Nat) (a : α) :
    atDepth (depth + 1) (limit + 1) a = atDepth depth limit a := by simp [atDepth]

theorem atDepth_bind_ok (depth limit : Nat) (a : α) (f : α → β) :
    (atDepth depth limit a >>= fun a => .ok (f a)) = atDepth depth limit (f a) := by
  unfold atDepth
  split <;> rfl

/-- Two results after each other need as many brackets as the deeper one. -/
theorem atDepth_bind {depth deeper limit : Nat} {a : α} {b : β} {f : α → Except Fault β}
    (h : f a = atDepth deeper limit b) :
    atDepth depth limit a >>= f = atDepth (max depth deeper) limit b := by
  -- beyond the limit the fault comes first, and what follows is not read
  by_cases hd : depth ≤ limit
  · have hmax : max depth deeper ≤ limit ↔ deeper ≤ limit := by omega
    simp only [atDepth, hd, if_true, Except.ok_bind, hmax] at h ⊢
    exact h
  · have hmax : ¬ max depth deeper ≤ limit := by omega
    simp only [atDepth, hd, if_false, Except.error_bind, hmax]

end

/-! ## Lists -/

theorem endsNumber_prettyItems (level : Nat) (js : List Json) (rest : List Char) :
    EndsNumber (prettyItems level false js ++ rest) := by
  cases js with
  | nil => exact endsNumber_cons_iff.mpr (by decide)
  | cons j js => exact endsNumber_cons_iff.mpr (by decide)

theorem nextItem_first {cs rest : List Char} {c : Char} (h : skipSpace cs = c :: rest)
    (hc : c ≠ ']') : nextItem true cs = .ok (.another (c :: rest)) := by
  simp [nextItem, h]

theorem nextItem_comma {cs rest : List Char} {c : Char} (h : skipSpace cs = c :: rest)
    (hc : c ≠ ']') : nextItem false (',' :: cs) = .ok (.another (c :: rest)) := by
  have hcomma : skipSpace (',' :: cs) = ',' :: cs := rfl
  simp [nextItem, hcomma, h, hc]

theorem nextItem_prettyItems_nil (first : Bool) (level : Nat) (rest : List Char) :
    nextItem first (prettyItems level first [] ++ rest) = .ok (.closed rest) := by
  rw [prettyItems, List.append_assoc, nextItem, skipSpace_newLine]
  rfl

theorem nextItem_prettyItems_cons (first : Bool) (level : Nat) {j : Json} (hj : j.Legible)
    (js : List Json) (rest : List Char) :
    nextItem first (prettyItems level first (j :: js) ++ rest) =
      .ok (.another (prettyAt (level + 1) j ++ (prettyItems level false js ++ rest))) := by
  obtain ⟨c, cs, htext, hspace, hbracket⟩ := exists_prettyAt (level + 1) hj
  have hskip : skipSpace (newLine (level + 1) ++
      (prettyAt (level + 1) j ++ (prettyItems level false js ++ rest))) =
        c :: (cs ++ (prettyItems level false js ++ rest)) := by
    rw [skipSpace_newLine, htext, List.cons_append, skipSpace_of_not_space hspace]
  rw [htext] at hskip ⊢
  cases first with
  | true =>
      rw [prettyItems, htext, if_pos rfl, List.nil_append, List.append_assoc, List.append_assoc]
      exact nextItem_first hskip hbracket
  | false =>
      rw [prettyItems, htext, if_neg (by decide), List.append_assoc, List.append_assoc,
        List.append_assoc]
      exact nextItem_comma hskip hbracket

section

variable {α β : Type} {enc : β → Json} {out : β → α} {level : Nat} {xs : List β}

theorem length_lt_prettyItems (level : Nat) (first : Bool) (js : List Json) :
    js.length < (prettyItems level first js).length := by
  induction js generalizing first with
  | nil => simp [prettyItems]
  | cons j js ih =>
      have hrest := ih false
      rw [prettyItems, List.length_append, List.length_append, List.length_append, newLine,
        List.length_cons, List.length_cons]
      omega

theorem itemsFrom_pretty {item : List Char → Except Fault (α × List Char)} {limit : Nat}
    (hlegible : ∀ x ∈ xs, (enc x).Legible)
    (hitem : ∀ x ∈ xs, ∀ rest, EndsNumber rest → item (prettyAt (level + 1) (enc x) ++ rest) =
      atDepth (enc x).nesting limit (out x, rest))
    {fuel : List Char} (hfuel : xs.length < fuel.length) (first : Bool) (rest : List Char) :
    itemsFrom item fuel first (prettyItems level first (xs.map enc) ++ rest) =
      atDepth (nestingItems (xs.map enc)) limit (xs.map out, rest) := by
  induction xs generalizing fuel first with
  | nil =>
      cases fuel with
      | nil => simp at hfuel
      | cons b fuel =>
          rw [List.map_nil, itemsFrom, nextItem_prettyItems_nil]
          simp [nestingItems]
          rfl
  | cons x xs ih =>
      rw [List.forall_mem_cons] at hlegible hitem
      cases fuel with
      | nil => simp at hfuel
      | cons b fuel =>
          rw [List.map_cons, itemsFrom, nextItem_prettyItems_cons first level hlegible.1,
            Except.ok_bind]
          simp only [hitem.1 _ (endsNumber_prettyItems level _ rest), nestingItems]
          apply atDepth_bind
          rw [ih hlegible.2 hitem.2 (by simpa using hfuel)]
          exact atDepth_bind_ok _ _ (xs.map out, rest) fun p => (out x :: p.1, p.2)

/-- A written list is read item by item, from behind its opening bracket. -/
theorem exists_items_pretty {item : List Char → Except Fault (α × List Char)} {limit : Nat}
    (hlegible : ∀ x ∈ xs, (enc x).Legible)
    (hitem : ∀ x ∈ xs, ∀ rest, EndsNumber rest → item (prettyAt (level + 1) (enc x) ++ rest) =
      atDepth (enc x).nesting limit (out x, rest)) :
    ∃ body, prettyAt level (.array (xs.map enc)) = '[' :: body ∧
      ∀ rest, items item (body ++ rest) =
        atDepth (nestingItems (xs.map enc)) limit (xs.map out, rest) := by
  cases xs with
  | nil => exact ⟨[']'], rfl, fun rest => by simp [nestingItems]; rfl⟩
  | cons x xs =>
      refine ⟨prettyItems level true ((x :: xs).map enc), rfl, fun rest => ?_⟩
      refine itemsFrom_pretty hlegible hitem ?_ true rest
      have hlength := length_lt_prettyItems level true ((x :: xs).map enc)
      rw [List.length_map] at hlength
      rw [List.length_append]
      omega

end

/-! ## Objects -/

theorem endsNumber_prettyEntries (level : Nat) (es : List (String × Json)) (rest : List Char) :
    EndsNumber (prettyEntries level false es ++ rest) := by
  cases es with
  | nil => exact endsNumber_cons_iff.mpr (by decide)
  | cons e es => exact endsNumber_cons_iff.mpr (by decide)

theorem nextKey_first {cs rest : List Char} (h : skipSpace cs = '"' :: rest) :
    nextKey true cs = .ok (.another rest) := by
  simp [nextKey, h]

theorem nextKey_comma {cs rest : List Char} (h : skipSpace cs = '"' :: rest) :
    nextKey false (',' :: cs) = .ok (.another rest) := by
  have hcomma : skipSpace (',' :: cs) = ',' :: cs := rfl
  simp [nextKey, hcomma, h]

theorem nextKey_prettyEntries_nil (first : Bool) (level : Nat) (rest : List Char) :
    nextKey first (prettyEntries level first [] ++ rest) = .ok (.closed rest) := by
  rw [prettyEntries, List.append_assoc, nextKey, skipSpace_newLine]
  rfl

theorem nextKey_prettyEntries_cons (first : Bool) (level : Nat) (key : String) (j : Json)
    (es : List (String × Json)) (rest : List Char) :
    nextKey first (prettyEntries level first ((key, j) :: es) ++ rest) =
      .ok (.another (key.toList.flatMap escapeChar ++ '"' :: ':' :: ' ' ::
        (prettyAt (level + 1) j ++ (prettyEntries level false es ++ rest)))) := by
  have hskip : ∀ more, skipSpace (newLine (level + 1) ++ '"' :: more) = '"' :: more := by
    intro more
    rw [skipSpace_newLine]
    rfl
  cases first with
  | true =>
      simp only [prettyEntries, if_true, List.nil_append, writeString, List.append_assoc,
        List.cons_append]
      exact nextKey_first (hskip _)
  | false =>
      simp only [prettyEntries, Bool.false_eq_true, if_false, writeString, List.append_assoc,
        List.nil_append, List.cons_append]
      exact nextKey_comma (hskip _)

/-- The entries, written at a level, are taken in one after the other. -/
inductive Absorbs {α : Type} (step : α → String → List Char → Except Fault (α × List Char))
    (level limit : Nat) : α → List (String × Json) → α → Prop
  | nil (acc : α) : Absorbs step level limit acc [] acc
  | cons {acc next last : α} {key : String} {j : Json} {es : List (String × Json)}
      (entry : ∀ rest, EndsNumber rest →
        step acc key (':' :: ' ' :: (prettyAt (level + 1) j ++ rest)) =
          atDepth j.nesting limit (next, rest))
      (others : Absorbs step level limit next es last) :
      Absorbs step level limit acc ((key, j) :: es) last

section

variable {α : Type} {step : α → String → List Char → Except Fault (α × List Char)}
  {level limit : Nat}

theorem Absorbs.append {acc next last : α} {es fs : List (String × Json)}
    (he : Absorbs step level limit acc es next) (hf : Absorbs step level limit next fs last) :
    Absorbs step level limit acc (es ++ fs) last := by
  induction he with
  | nil acc => exact hf
  | cons entry others ih => exact .cons entry (ih hf)

theorem length_lt_prettyEntries (level : Nat) (first : Bool) (es : List (String × Json)) :
    es.length < (prettyEntries level first es).length := by
  induction es generalizing first with
  | nil => simp [prettyEntries]
  | cons e es ih =>
      have hrest := ih false
      simp only [prettyEntries, newLine, List.length_append, List.length_cons]
      omega

theorem membersFrom_pretty {acc last : α} {es : List (String × Json)}
    (h : Absorbs step level limit acc es last) {fuel : List Char}
    (hfuel : es.length < fuel.length) (first : Bool) (rest : List Char) :
    membersFrom step fuel first acc (prettyEntries level first es ++ rest) =
      atDepth (nestingEntries es) limit (last, rest) := by
  induction h generalizing fuel first with
  | nil acc =>
      cases fuel with
      | nil => simp at hfuel
      | cons b fuel =>
          rw [membersFrom, nextKey_prettyEntries_nil, nestingEntries, atDepth_zero]
          rfl
  | cons entry others ih =>
      cases fuel with
      | nil => simp at hfuel
      | cons b fuel =>
          rw [membersFrom, nextKey_prettyEntries_cons, Except.ok_bind]
          simp only [string_written, Except.ok_bind,
            entry _ (endsNumber_prettyEntries level _ rest), nestingEntries]
          exact atDepth_bind (ih (by simpa using hfuel) false)

/-- A written object is read entry by entry, from behind its opening brace. -/
theorem exists_members_pretty {acc last : α} {es : List (String × Json)}
    (h : Absorbs step level limit acc es last) :
    ∃ body, prettyAt level (.object es) = '\x7b' :: body ∧
      ∀ rest, members step acc (body ++ rest) = atDepth (nestingEntries es) limit (last, rest) := by
  cases es with
  | nil =>
      cases h
      exact ⟨['\x7d'], rfl, fun rest => by rw [nestingEntries, atDepth_zero]; rfl⟩
  | cons e es =>
      refine ⟨prettyEntries level true (e :: es), rfl, fun rest => ?_⟩
      refine membersFrom_pretty h ?_ true rest
      have hlength := length_lt_prettyEntries level true (e :: es)
      rw [List.length_append]
      omega

end

end Read

end Json

end HandlerStudio
