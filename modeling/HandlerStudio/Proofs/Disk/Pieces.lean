import HandlerStudio.Proofs.Disk.Route

/-!
# The pieces of a path

A path is known by its pieces. Those of a path that is meant from another come after what
`Path.lead` takes from the other.
-/

namespace HandlerStudio.Path

theorem pieces_ne_nil (path : String) : pieces path ≠ [] := by
  simp [pieces, List.splitOn_ne_nil]

theorem slash_notMem_splitOn (cs : List Char) : ∀ piece ∈ cs.splitOn '/', '/' ∉ piece := by
  induction cs with
  | nil => simp
  | cons c cs ih =>
      obtain ⟨first, rest, hsplit⟩ := List.exists_cons_of_ne_nil (List.splitOn_ne_nil '/' cs)
      rw [List.splitOn_cons_eq_if_modifyHead, hsplit]
      rw [hsplit, List.forall_mem_cons] at ih
      split
      · simpa using ih
      · next hc =>
          have hne : '/' ≠ c := by
            rintro rfl
            exact hc rfl
          rw [List.modifyHead_cons, List.forall_mem_cons]
          exact ⟨by simp [hne, ih.1], ih.2⟩

theorem slash_notMem_pieces {path piece : String} (h : piece ∈ pieces path) :
    '/' ∉ piece.toList := by
  obtain ⟨cs, hcs, rfl⟩ := List.mem_map.mp h
  rw [String.toList_ofList]
  exact slash_notMem_splitOn _ cs hcs

/-- What is written between the pieces is known. -/
theorem pieces_injective {x y : String} (h : pieces x = pieces y) : x = y := by
  have hsplit : x.toList.splitOn '/' = y.toList.splitOn '/' :=
    List.map_injective_iff.mpr (fun _ _ => String.ofList_injective) h
  have hx : ['/'].intercalate (x.toList.splitOn '/') = x.toList := List.intercalate_splitOn '/'
  have hy : ['/'].intercalate (y.toList.splitOn '/') = y.toList := List.intercalate_splitOn '/'
  apply String.toList_injective
  rw [← hx, hsplit, hy]

theorem names_eq_filter (path : String) : names path = (pieces path).filter (· ≠ "") := by
  rw [names, pieces, List.filter_map]
  congr 1
  apply List.filter_congr
  intro cs _
  cases cs with
  | nil => rfl
  | cons c cs => simp

theorem pieces_append_slash (x y : String) : pieces (x ++ "/" ++ y) = pieces x ++ pieces y := by
  have htext : (x ++ "/" ++ y).toList = x.toList ++ '/' :: y.toList := by simp
  rw [pieces, htext, List.splitOn_append_cons_self, List.map_append]
  rfl

/-- A text without slashes continues the last piece. -/
theorem exists_pieces_append (x : String) {y : String} (hy : '/' ∉ y.toList) :
    ∃ front last, pieces x = front ++ [last] ∧ pieces (x ++ y) = front ++ [last ++ y] := by
  have hsplit : ∀ cs : List Char, ∃ front last, cs.splitOn '/' = front ++ [last] ∧
      (cs ++ y.toList).splitOn '/' = front ++ [last ++ y.toList] := by
    intro cs
    induction cs with
    | nil => exact ⟨[], [], rfl, List.splitOn_eq_singleton hy⟩
    | cons c cs ih =>
        obtain ⟨front, last, hcs, hall⟩ := ih
        rw [List.cons_append, List.splitOn_cons_eq_if_modifyHead,
          List.splitOn_cons_eq_if_modifyHead, hcs, hall]
        split
        · exact ⟨[] :: front, last, rfl, rfl⟩
        · cases front with
          | nil => exact ⟨[], c :: last, rfl, rfl⟩
          | cons first front => exact ⟨(c :: first) :: front, last, rfl, rfl⟩
  obtain ⟨front, last, hx, hxy⟩ := hsplit x.toList
  refine ⟨front.map String.ofList, String.ofList last, ?_, ?_⟩
  · rw [pieces, hx, List.map_append]
    rfl
  · rw [pieces, String.toList_append, hxy, List.map_append, List.map_singleton,
      String.ofList_append, String.ofList_toList]

theorem pieces_intercalate {texts : List String} (hne : texts ≠ [])
    (htexts : ∀ text ∈ texts, '/' ∉ text.toList) : pieces ("/".intercalate texts) = texts := by
  have hlist : ("/".intercalate texts).toList = ['/'].intercalate (texts.map String.toList) :=
    String.toList_intercalate
  rw [pieces, hlist, List.splitOn_intercalate, List.map_map]
  · simp
  · simpa using htexts
  · simpa using hne

theorem isAbsolute_iff (path : String) :
    isAbsolute path = true ↔ ∃ rest, rest ≠ [] ∧ pieces path = "" :: rest := by
  rw [isAbsolute, beq_iff_eq, pieces]
  cases hpath : path.toList with
  | nil => simp
  | cons c cs =>
      obtain ⟨first, rest, hsplit⟩ := List.exists_cons_of_ne_nil (List.splitOn_ne_nil '/' cs)
      rw [List.splitOn_cons_eq_if_modifyHead, hsplit]
      split
      · next hc =>
          simpa using hc
      · next hc =>
          have hne : c ≠ '/' := by
            rintro rfl
            exact hc rfl
          simp [hne]

/-! ## Joining -/

/-- The pieces that a path takes from the one it is meant from. -/
def lead (base : String) : List String :=
  if base.isEmpty || base.toList.getLast? == some '/' then (pieces base).dropLast else pieces base

theorem exists_pieces_open {base : String}
    (h : (base.isEmpty || base.toList.getLast? == some '/') = true) :
    ∃ front, pieces base = front ++ [""] ∧
      ∀ path, pieces (base ++ path) = front ++ pieces path := by
  rw [Bool.or_eq_true] at h
  rcases h with hempty | hslash
  · rw [String.isEmpty_iff.mp hempty]
    refine ⟨[], rfl, ?_⟩
    intro path
    rw [String.empty_append]
    rfl
  · obtain ⟨cs, hcs⟩ := List.getLast?_eq_some_iff.mp (beq_iff_eq.mp hslash)
    have hbase : base = String.ofList cs ++ "/" := by
      apply String.toList_injective
      simp [hcs]
    refine ⟨pieces (String.ofList cs), ?_, ?_⟩
    · have happend := pieces_append_slash (String.ofList cs) ""
      rw [String.append_empty, ← hbase] at happend
      exact happend
    · intro path
      rw [hbase, pieces_append_slash]

theorem pieces_join (base : String) {path : String} (h : isAbsolute path = false) :
    pieces (join base path) = lead base ++ pieces path := by
  unfold join lead
  rw [if_neg (by simp [h])]
  split
  · next hopen =>
      obtain ⟨front, hbase, happend⟩ := exists_pieces_open hopen
      rw [happend, hbase, List.dropLast_concat]
  · exact pieces_append_slash base path

theorem names_eq_filter_lead (base : String) : names base = (lead base).filter (· ≠ "") := by
  rw [names_eq_filter, lead]
  split
  · next hopen =>
      obtain ⟨front, hbase, -⟩ := exists_pieces_open hopen
      rw [hbase, List.dropLast_concat, List.filter_append]
      simp
  · rfl

theorem names_join (base : String) {path : String} (h : isAbsolute path = false) :
    names (join base path) = names base ++ names path := by
  rw [names_eq_filter, pieces_join base h, List.filter_append, ← names_eq_filter_lead,
    ← names_eq_filter]

theorem isAbsolute_join (base : String) {path : String} (hne : path ≠ "")
    (h : isAbsolute path = false) : isAbsolute (join base path) = isAbsolute base := by
  have hlist : path.toList ≠ [] := by simpa using hne
  unfold join
  rw [if_neg (by simp [h])]
  by_cases hbase : base = ""
  · simp [hbase, h]
    rfl
  · have hlist : base.toList ≠ [] := by simpa using hbase
    obtain ⟨c, cs, hcs⟩ := List.exists_cons_of_ne_nil hlist
    split
    · simp [isAbsolute, hcs]
    · simp [isAbsolute, hcs]

theorem getLast?_join (base : String) {path : String} (hne : path ≠ "") :
    (join base path).toList.getLast? = path.toList.getLast? := by
  have hlist : path.toList ≠ [] := by simpa using hne
  have happend : ∀ front : String, (front ++ path).toList.getLast? = path.toList.getLast? := by
    intro front
    rw [String.toList_append, List.getLast?_append_of_ne_nil _ hlist]
  unfold join
  split
  · rfl
  split
  · exact happend base
  · exact happend (base ++ "/")

theorem join_append (base : String) {path : String} (hne : path ≠ "") (more : String) :
    join base (path ++ more) = join base path ++ more := by
  have hlist : path.toList ≠ [] := by simpa using hne
  obtain ⟨c, cs, hcs⟩ := List.exists_cons_of_ne_nil hlist
  have habsolute : isAbsolute (path ++ more) = isAbsolute path := by simp [isAbsolute, hcs]
  unfold join
  rw [habsolute]
  split
  · rfl
  split
  · rw [String.append_assoc]
  · rw [← String.append_assoc]

/-! ## Paths of names -/

section

variable {path : String} (h : ∀ piece ∈ pieces path, IsName piece)

include h

theorem ne_empty_of_isName : path ≠ "" := by
  rintro rfl
  exact (h "" (by decide)).1 rfl

theorem isAbsolute_of_isName : isAbsolute path = false := by
  rw [← Bool.not_eq_true, isAbsolute_iff]
  rintro ⟨rest, -, hpieces⟩
  rw [hpieces] at h
  exact (h "" List.mem_cons_self).1 rfl

theorem names_of_isName : names path = pieces path := by
  rw [names_eq_filter, List.filter_eq_self]
  intro piece hpiece
  exact decide_eq_true (h piece hpiece).1

theorem trail_join (base : String) (d : Disk) :
    d.trail (join base path) = d.trail base ++ pieces path := by
  have hrelative := isAbsolute_of_isName h
  rw [Disk.trail, Disk.startOf, isAbsolute_join base (ne_empty_of_isName h) hrelative,
    names_join base hrelative, names_of_isName h, ← List.append_assoc]
  rfl

theorem locationOf_join (base : String) (d : Disk) :
    d.locationOf (join base path) = d.locationOf base ++ pieces path := by
  rw [Disk.locationOf, trail_join h, resolve_append, resolve_names h]
  rfl

end

/-! ## Parents -/

theorem parentNames_getLast? (names : List String) : (parentNames names).getLast? ≠ some "" := by
  rw [parentNames, dropStays, List.getLast?_reverse]
  intro h
  have hhead := List.head?_dropWhile_not (fun name => name == "." || name.isEmpty)
    (dropStays names).dropLast.reverse
  rw [h] at hhead
  simp at hhead

theorem pieces_parent {path : String} (h : parentNames (pieces path) ≠ []) :
    pieces (parent path) = parentNames (pieces path) := by
  have hempty : (parentNames (pieces path)).isEmpty = false := by simpa using h
  rw [parent]
  simp only [hempty, Bool.false_and, Bool.false_eq_true, if_false]
  apply pieces_intercalate h
  intro piece hpiece
  exact slash_notMem_pieces ((parentNames_isPrefix _).subset hpiece)

theorem names_parent (path : String) :
    names (parent path) = (parentNames (pieces path)).filter (· ≠ "") := by
  by_cases h : parentNames (pieces path) = []
  · rw [parent]
    simp only [h, List.isEmpty_nil, Bool.true_and]
    split
    · decide
    · decide
  · rw [names_eq_filter, pieces_parent h]

theorem isAbsolute_parent (path : String) : isAbsolute (parent path) = isAbsolute path := by
  by_cases h : parentNames (pieces path) = []
  · rw [parent]
    simp only [h, List.isEmpty_nil, Bool.true_and]
    split
    · next habsolute =>
        rw [habsolute]
        decide
    · next hrelative =>
        rw [Bool.not_eq_true] at hrelative
        rw [hrelative]
        decide
  · have hlast := parentNames_getLast? (pieces path)
    obtain ⟨rest, hrest⟩ := parentNames_isPrefix (pieces path)
    rw [Bool.eq_iff_iff, isAbsolute_iff, isAbsolute_iff, pieces_parent h]
    obtain ⟨first, more, hparent⟩ := List.exists_cons_of_ne_nil h
    rw [hparent] at hlast hrest ⊢
    rw [← hrest]
    constructor
    · rintro ⟨below, hne, hbelow⟩
      obtain ⟨rfl, rfl⟩ := List.cons_eq_cons.mp hbelow
      exact ⟨more ++ rest, by simp [hne], rfl⟩
    · rintro ⟨below, -, hbelow⟩
      obtain ⟨rfl, -⟩ := List.cons_eq_cons.mp hbelow
      refine ⟨more, ?_, rfl⟩
      rintro rfl
      exact hlast rfl

end HandlerStudio.Path
