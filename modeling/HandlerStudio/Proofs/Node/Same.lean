import HandlerStudio.Tree.Basic

/-!
# Equality of bodies

The equality of bodies looks at nothing but the sign of zeros: two bodies count as equal exactly
when they are the same once all zeros are without sign. So it is an equivalence.
-/

namespace HandlerStudio

/-! ## Without the sign of zeros -/

def Double.unsigned (x : Double) : Double := if x.isZero then .zero false else x

def Number.unsigned : Number → Number
  | .int z => .int z
  | .float x => .float x.unsigned

mutual

/-- The value with every zero without sign. -/
def Value.unsigned : Value → Value
  | .number n => .number n.unsigned
  | .node n => .node n.unsigned
  | .list items => .list (Value.unsignedItems items)
  | .object entries => .object (Value.unsignedEntries entries)
  | .null => .null
  | .bool b => .bool b
  | .text s => .text s
termination_by structural v => v

def Node.unsigned : Node → Node
  | .mk id kind tier fields => .mk id kind tier (Value.unsignedEntries fields)
termination_by structural n => n

def Value.unsignedItems : List Value → List Value
  | [] => []
  | v :: vs => v.unsigned :: Value.unsignedItems vs
termination_by structural items => items

def Value.unsignedEntries : List (String × Value) → List (String × Value)
  | [] => []
  | (k, v) :: es => (k, v.unsigned) :: Value.unsignedEntries es
termination_by structural entries => entries

end

def Tree.unsigned (body : Body) : Body := body.map Node.unsigned

/-! ## Equality is equality without the sign of zeros -/

theorem Double.scale_eq_zero_of_isZero {x : Double} (hx : x.isZero = true) : x.scale = 0 := by
  have hm : x.mantissa = 0 := by simpa [isZero] using hx
  have hcanonical := x.canonical.2.2
  omega

theorem Double.eq_zero_of_isZero {x : Double} (hx : x.isZero = true) : x = .zero x.negative := by
  have hscale := scale_eq_zero_of_isZero hx
  have hm : x.mantissa = 0 := by simpa [isZero] using hx
  cases x
  cases hscale
  cases hm
  rfl

theorem Double.same_iff (x y : Double) : x.same y = true ↔ x.unsigned = y.unsigned := by
  have hparts : x.same y = true ↔ x.mantissa = y.mantissa ∧ x.scale = y.scale ∧
      (x.negative = y.negative ∨ x.isZero = true) := by
    simp [same, and_assoc]
  rw [hparts]
  unfold unsigned
  constructor
  · rintro ⟨hm, hs, hn | hz⟩
    · have hxy : x = y := by
        cases x
        cases y
        cases hm
        cases hs
        cases hn
        rfl
      rw [hxy]
    · have hy : y.isZero = true := by rwa [isZero, ← hm]
      rw [if_pos hz, if_pos hy]
  · intro h
    cases hx : x.isZero <;> cases hy : y.isZero <;> simp only [hx, hy, if_true] at h
    · cases h
      exact ⟨rfl, rfl, Or.inl rfl⟩
    · cases h
      cases hx
    · cases h
      cases hy
    · rw [eq_zero_of_isZero hx, eq_zero_of_isZero hy]
      exact ⟨rfl, rfl, Or.inr rfl⟩

theorem Number.same_iff (m n : Number) : m.same n = true ↔ m.unsigned = n.unsigned := by
  cases m <;> cases n <;> simp [Number.same, Number.unsigned, Double.same_iff]

mutual

theorem Value.same_iff (v w : Value) : v.same w = true ↔ v.unsigned = w.unsigned := by
  match v with
  | .null | .bool _ | .text _ => cases w <;> simp [Value.same, Value.unsigned]
  | .number n => cases w <;> simp [Value.same, Value.unsigned, n.same_iff]
  | .node n => cases w <;> simp [Value.same, Value.unsigned, n.same_iff]
  | .list items => cases w <;> simp [Value.same, Value.unsigned, Value.sameItems_iff items]
  | .object entries =>
      cases w <;> simp [Value.same, Value.unsigned, Value.sameEntries_iff entries]

theorem Node.same_iff (m n : Node) : m.same n = true ↔ m.unsigned = n.unsigned := by
  match m with
  | .mk _ _ _ fields =>
      cases n
      simp [Node.same, Node.unsigned, Value.sameEntries_iff fields, and_assoc]

theorem Value.sameItems_iff (vs ws : List Value) :
    Value.sameItems vs ws = true ↔ Value.unsignedItems vs = Value.unsignedItems ws := by
  match vs with
  | [] => cases ws <;> simp [Value.sameItems, Value.unsignedItems]
  | v :: vs =>
      cases ws <;> simp [Value.sameItems, Value.unsignedItems, v.same_iff, Value.sameItems_iff vs]

theorem Value.sameEntries_iff (ds es : List (String × Value)) :
    Value.sameEntries ds es = true ↔ Value.unsignedEntries ds = Value.unsignedEntries es := by
  match ds with
  | [] => cases es <;> simp [Value.sameEntries, Value.unsignedEntries]
  | (k, v) :: ds =>
      cases es <;>
        simp [Value.sameEntries, Value.unsignedEntries, v.same_iff, Value.sameEntries_iff ds,
          and_assoc]

end

theorem Tree.same_iff (as bs : Body) : same as bs = true ↔ unsigned as = unsigned bs := by
  induction as generalizing bs with
  | nil => cases bs <;> simp [same, unsigned]
  | cons a as ih => cases bs <;> simp_all [same, unsigned, a.same_iff]

/-! ## An equivalence -/

theorem Value.same_refl (v : Value) : v.same v = true := (v.same_iff v).mpr rfl

theorem Node.same_refl (n : Node) : n.same n = true := (n.same_iff n).mpr rfl

theorem Tree.same_refl (body : Body) : same body body = true := (same_iff body body).mpr rfl

theorem Tree.same_symm {as bs : Body} (h : same as bs = true) : same bs as = true :=
  (same_iff bs as).mpr ((same_iff as bs).mp h).symm

end HandlerStudio
