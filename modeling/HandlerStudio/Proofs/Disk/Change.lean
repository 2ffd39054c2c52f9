import HandlerStudio.Proofs.Disk.Route

/-!
# What changes on a disk

Writing, renaming a file and making a folder change what is seen at the locations that their paths
mean, and nowhere else. Making a folder with those above it adds folders on the way to it, if all
steps up in its path can be taken before.
-/

namespace HandlerStudio.Disk

variable {d d' : Disk}

/-! ## One place -/

theorem sight_put {p : Place} (hp : p.On d.top) (hfree : Sight.of p.item ≠ .folder)
    {item : DiskItem} (hleaf : ∀ q ≠ [], item.sight q = .nothing) (q : List String) :
    (d.put p item).sight q = if q = p.location then .of (some item) else d.sight q := by
  split
  · next hq =>
      have hfill := hp.find?_fill_append item []
      rw [List.append_nil, ← hq] at hfill
      exact congrArg Sight.of hfill
  · next hq =>
      by_cases hprefix : p.location <+: q
      · obtain ⟨r, rfl⟩ := hprefix
        have hr : r ≠ [] := by
          rintro rfl
          exact hq (List.append_nil _)
        have hbefore : d.sight (p.location ++ r) = .nothing := by
          apply DiskItem.sight_append _ hr
          rw [hp.sight_location]
          exact hfree
        rw [hbefore, ← hleaf r hr]
        exact congrArg Sight.of (hp.find?_fill_append item r)
      · exact hp.sight_fill_elsewhere item hprefix

theorem sight_erase {p : Place} (hp : p.On d.top) (hne : p.location ≠ [])
    (hfile : Sight.of p.item ≠ .folder) (q : List String) :
    (d.erase p).sight q = if q = p.location then .nothing else d.sight q := by
  refine (hp.sight_clear hne q).trans ?_
  by_cases hq : q = p.location
  · rw [if_pos hq, if_pos (hq ▸ List.prefix_refl _)]
  · rw [if_neg hq]
    split
    · next hprefix =>
        obtain ⟨r, rfl⟩ := hprefix
        have hr : r ≠ [] := by
          rintro rfl
          exact hq (List.append_nil _)
        symm
        apply DiskItem.sight_append _ hr
        rw [hp.sight_location]
        exact hfile
    · rfl

theorem sight_file (content : Content) {q : List String} (hq : q ≠ []) :
    (DiskItem.file content).sight q = .nothing := by
  obtain ⟨name, q, rfl⟩ := List.exists_cons_of_ne_nil hq
  rfl

theorem sight_emptyFolder {q : List String} (hq : q ≠ []) :
    (DiskItem.folder []).sight q = .nothing := by
  obtain ⟨name, q, rfl⟩ := List.exists_cons_of_ne_nil hq
  rfl

theorem of_item_ne_folder {p : Place} (h : ¬ p.isFolder = true) : Sight.of p.item ≠ .folder := by
  intro hfolder
  apply h
  unfold Place.isFolder
  cases hitem : p.item with
  | none =>
      rw [hitem] at hfolder
      cases hfolder
  | some item =>
      cases item with
      | file content =>
          rw [hitem] at hfolder
          cases hfolder
      | folder entries => rfl

/-! ## Files -/

theorem sight_write {path : String} (hpath : path.toList.getLast? ≠ some '/') {content : Content}
    (h : d.write path content = .ok d') :
    d.route [] (d.trail path) = .ok (d.locationOf path) ∧
      d.sight (d.locationOf path) ≠ .folder ∧ d'.workingFolder = d.workingFolder ∧
      ∀ q, d'.sight q = if q = d.locationOf path then .file content else d.sight q := by
  obtain ⟨p, hlocate, h⟩ := Except.bind_eq_ok_iff.mp h
  have hwalk := walk_of_locateFile hpath hlocate
  have hon := on_walk hwalk
  split at h
  · cases h
  · next hfree =>
      cases h
      have hfree := of_item_ne_folder hfree
      rw [← location_of_locateFile hpath hlocate]
      refine ⟨route_of_walk hwalk, ?_, rfl, ?_⟩
      · intro hfolder
        exact hfree (hon.sight_location.symm.trans hfolder)
      · exact sight_put hon hfree (fun q hq => sight_file content hq)

theorem item_eq_file {p : Place} {content : Content} (h : Sight.of p.item = .file content) :
    p.item = some (.file content) := by
  cases hitem : p.item with
  | none =>
      rw [hitem] at h
      cases h
  | some item =>
      rw [hitem] at h
      cases item with
      | folder entries => cases h
      | file content' =>
          cases h
          rfl

theorem exists_of_rename {source target : String} (hsource : source.toList.getLast? ≠ some '/')
    {content : Content} (hfile : d.sight (d.locationOf source) = .file content)
    (h : d.rename source target = .ok d') :
    ∃ p q, d.locateFile source = .ok p ∧ (d.erase p).locateFile target = .ok q ∧
      ¬ q.isFolder = true ∧ d' = (d.erase p).put q (.file content) := by
  obtain ⟨p, hlocate, h⟩ := Except.bind_eq_ok_iff.mp h
  rw [← location_of_locateFile hsource hlocate] at hfile
  have hon := on_walk (walk_of_locateFile hsource hlocate)
  simp only [item_eq_file (hon.sight_location.symm.trans hfile)] at h
  obtain ⟨q, hlocate', h⟩ := Except.bind_eq_ok_iff.mp h
  split at h
  · cases h
  · next hfree =>
      cases h
      exact ⟨p, q, hlocate, hlocate', hfree, rfl⟩

theorem sight_rename {source target : String} (hsource : source.toList.getLast? ≠ some '/')
    (htarget : target.toList.getLast? ≠ some '/') (hnames : d.trail source ≠ [])
    {content : Content} (hfile : d.sight (d.locationOf source) = .file content)
    (h : d.rename source target = .ok d') :
    (d.locationOf target ≠ d.locationOf source → d.sight (d.locationOf target) ≠ .folder) ∧
      d'.workingFolder = d.workingFolder ∧
      ∀ q, d'.sight q = if q = d.locationOf target then .file content
        else if q = d.locationOf source then .nothing else d.sight q := by
  obtain ⟨p, q, hlocate, hlocate', hfree, rfl⟩ := exists_of_rename hsource hfile h
  have hwalk := walk_of_locateFile hsource hlocate
  have hon := on_walk hwalk
  rw [← location_of_locateFile hsource hlocate] at hfile ⊢
  have hne : p.location ≠ [] := by
    intro hnil
    have htop := sight_of_route hnames (route_of_walk hwalk)
    rw [hnil, htop] at hfile
    cases hfile
  have hleaf : Sight.of p.item ≠ .folder := by
    rw [← hon.sight_location]
    intro hfolder
    cases hfile.symm.trans hfolder
  have herase := sight_erase hon hne hleaf
  have hon' := on_walk (walk_of_locateFile htarget hlocate')
  have hgoal : q.location = (d.erase p).locationOf target :=
    location_of_locateFile htarget hlocate'
  change q.location = d.locationOf target at hgoal
  have hfree := of_item_ne_folder hfree
  refine ⟨?_, rfl, ?_⟩
  · intro hother hfolder
    apply hfree
    rw [← hon'.sight_location, hgoal]
    refine (herase _).trans ?_
    rw [if_neg hother, hfolder]
  · intro r
    rw [← hgoal, ← herase r]
    exact sight_put hon' hfree (fun r hr => sight_file content hr) r

/-! ## Folders -/

theorem sight_makeFolder {names : List String} (h : d.makeFolder names = .ok d') :
    d.route [] names = .ok (Path.resolve [] names) ∧ d.sight (Path.resolve [] names) = .nothing ∧
      d'.workingFolder = d.workingFolder ∧
      ∀ q, d'.sight q = if q = Path.resolve [] names then .folder else d.sight q := by
  obtain ⟨p, hwalk, h⟩ := Except.bind_eq_ok_iff.mp h
  have hroute := route_of_walk hwalk
  have hon := on_walk hwalk
  have hitem : p.item = none ∧ d' = d.put p (.folder []) := by
    split at h
    · cases h
    · cases h
    · cases h
    · cases h
    · next hnone =>
        cases h
        exact ⟨hnone, rfl⟩
  obtain ⟨hnone, rfl⟩ := hitem
  rw [← route_eq_ok hroute]
  refine ⟨hroute, ?_, rfl, ?_⟩
  · refine hon.sight_location.trans ?_
    rw [hnone]
    rfl
  · apply sight_put hon _ (fun q hq => sight_emptyFolder hq)
    rw [hnone]
    simp [Sight.of]

/-- A disk with more folders, all of them on the way to a location. -/
structure Grows (way : List String) (d d' : Disk) : Prop where
  workingFolder : d'.workingFolder = d.workingFolder
  sight : ∀ q, d'.sight q = d.sight q ∨
    d.sight q = .nothing ∧ d'.sight q = .folder ∧ q <+: way

theorem Grows.refl (way : List String) (d : Disk) : Grows way d d := ⟨rfl, fun _ => Or.inl rfl⟩

theorem Grows.trans {way : List String} {d₁ d₂ d₃ : Disk} (h : Grows way d₁ d₂)
    (h' : Grows way d₂ d₃) : Grows way d₁ d₃ := by
  refine ⟨h'.workingFolder.trans h.workingFolder, ?_⟩
  intro q
  rcases h.sight q with hq | ⟨hnothing, hfolder, hway⟩
  · rw [← hq]
    exact h'.sight q
  · right
    rcases h'.sight q with hq | ⟨hnothing', -, -⟩
    · exact ⟨hnothing, hq.trans hfolder, hway⟩
    · rw [hfolder] at hnothing'
      cases hnothing'

theorem Grows.folder {way : List String} (h : Grows way d d') {q : List String}
    (hq : d.sight q = .folder) : d'.sight q = .folder := by
  rcases h.sight q with hsame | ⟨hnothing, -, -⟩
  · exact hsame.trans hq
  · rw [hq] at hnothing
    cases hnothing

/-- A route stays while its folders stay. -/
theorem route_of_folders (hfolders : ∀ q, d.sight q = .folder → d'.sight q = .folder)
    {location names goal : List String} (h : d.route location names = .ok goal) :
    d'.route location names = .ok goal := by
  induction names generalizing location with
  | nil => exact h
  | cons name names ih =>
      rw [route_cons] at h ⊢
      obtain ⟨next, hstep, h⟩ := Except.bind_eq_ok_iff.mp h
      have hfolder := sight_of_step hstep
      have hstep' : d'.step location name = .ok next := by
        rw [step, hfolder] at hstep
        rw [step, hfolders location hfolder]
        exact hstep
      rw [hstep', Except.ok_bind]
      exact ih h

/-- A text that is put where a path leads is read there. -/
theorem read_put {path : String} (hpath : path.toList.getLast? ≠ some '/') {p : Place}
    (hlocate : d.locateFile path = .ok p) (hfree : ¬ p.isFolder = true) (text : String) :
    (d.put p (.file (.text text))).read path = .ok text := by
  have hwalk := walk_of_locateFile hpath hlocate
  have hput := sight_put (on_walk hwalk) (of_item_ne_folder hfree)
    (fun q hq => sight_file (.text text) hq)
  have hfolders : ∀ q, d.sight q = .folder → (d.put p (.file (.text text))).sight q = .folder := by
    intro q hq
    rw [hput, if_neg, hq]
    rintro rfl
    exact of_item_ne_folder hfree ((on_walk hwalk).sight_location.symm.trans hq)
  have hroute := route_of_folders hfolders (route_of_walk hwalk)
  rw [locateFile_eq hpath] at hlocate
  obtain ⟨u, hcheck, -⟩ := Except.bind_eq_ok_iff.mp hlocate
  rw [read_eq hpath, hcheck, Except.ok_bind]
  change (d.put p _).route [] (d.trail path) >>= _ = _
  rw [hroute, Except.ok_bind, textAt, hput, if_pos rfl]
  rfl

/-- Every step up among the names can be taken. -/
def Climbs (d : Disk) (names : List String) : Prop :=
  ∀ taken, taken ++ [".."] <+: names → ∃ location, d.route [] (taken ++ [".."]) = .ok location

theorem climbs_of_not_mem {names : List String} (h : ".." ∉ names) (d : Disk) :
    d.Climbs names := by
  intro taken htaken
  refine absurd (htaken.subset ?_) h
  simp

theorem Climbs.append {names more : List String} (h : d.Climbs names) (hmore : ".." ∉ more) :
    d.Climbs (names ++ more) := by
  intro taken htaken
  rcases List.prefix_or_prefix_of_prefix htaken (List.prefix_append names more) with
    hnames | ⟨rest, hrest⟩
  · exact h taken hnames
  · rcases List.eq_nil_or_concat rest with rfl | ⟨front, last, rfl⟩
    · apply h taken
      rw [List.append_nil] at hrest
      exact hrest ▸ List.prefix_refl names
    · have hlast : last = ".." := by
        rw [List.concat_eq_append, ← List.append_assoc] at hrest
        exact List.singleton_inj.mp (List.append_inj' hrest rfl).2
      rw [← hrest, List.prefix_append_right_inj, hlast] at htaken
      exact absurd (htaken.subset (by simp)) hmore

theorem Climbs.grows {way names : List String} (h : d.Climbs names) (hgrows : Grows way d d') :
    d'.Climbs names := by
  intro taken htaken
  obtain ⟨location, hroute⟩ := h taken htaken
  exact ⟨location, route_of_folders (fun q => hgrows.folder) hroute⟩

theorem trail_congr (h : d'.workingFolder = d.workingFolder) (path : String) :
    d'.trail path = d.trail path := by
  rw [trail, startOf, h]
  rfl

theorem locationOf_congr (h : d'.workingFolder = d.workingFolder) (path : String) :
    d'.locationOf path = d.locationOf path := by
  rw [locationOf, trail_congr h]
  rfl

/-- Names that are followed where no folder is yet do not lead up again. -/
theorem Climbs.not_mem {first rest : List String} (h : d.Climbs (first ++ rest))
    {location : List String} (hroute : d.route [] first = .ok location)
    (hsight : d.sight location ≠ .folder) : ".." ∉ rest := by
  intro hmem
  obtain ⟨before, after, rfl⟩ := List.append_of_mem hmem
  obtain ⟨goal, hgoal⟩ := h (first ++ before) ⟨after, by simp⟩
  rw [List.append_assoc, route_append, hroute, Except.ok_bind] at hgoal
  exact hsight (sight_of_route (by simp) hgoal)

theorem grows_makeFolder {names first : List String} (hfirst : first <+: names)
    (hclimbs : d.Climbs names) (h : d.makeFolder first = .ok d') :
    Grows (Path.resolve [] names) d d' := by
  obtain ⟨hroute, hnothing, hfolder, hsight⟩ := sight_makeFolder h
  obtain ⟨rest, rfl⟩ := hfirst
  refine ⟨hfolder, ?_⟩
  intro q
  by_cases hq : q = Path.resolve [] first
  · right
    subst hq
    refine ⟨hnothing, by rw [hsight, if_pos rfl], ?_⟩
    rw [Path.resolve_append]
    apply Path.prefix_resolve
    apply hclimbs.not_mem hroute
    rw [hnothing]
    simp
  · left
    rw [hsight, if_neg hq]

theorem grows_makeFoldersUp {names : List String} (tries : Nat) {first : List String}
    (hfirst : first <+: names) (hclimbs : d.Climbs names) {r : Except DiskFault Unit}
    (h : makeFoldersUp tries first d = (r, d')) : Grows (Path.resolve [] names) d d' := by
  fun_induction makeFoldersUp tries first d generalizing r d' with
  | case1 tries first d made hmake =>
      cases h
      exact grows_makeFolder hfirst hclimbs hmake
  | case2 first d hmake =>
      cases h
      exact Grows.refl _ _
  | case3 first d hmake tries e made hup ih =>
      cases h
      exact ih ((Path.parentNames_isPrefix first).trans hfirst) hclimbs hup
  | case4 first d hmake tries made hup made' hmake' ih =>
      cases h
      have hgrows := ih ((Path.parentNames_isPrefix first).trans hfirst) hclimbs hup
      exact hgrows.trans (grows_makeFolder hfirst (hclimbs.grows hgrows) hmake')
  | case5 first d hmake tries made hup e hmake' ih =>
      cases h
      exact ih ((Path.parentNames_isPrefix first).trans hfirst) hclimbs hup
  | case6 tries first d e hmake hne =>
      cases h
      exact Grows.refl _ _

theorem grows_makeFolders {path : String} {names : List String}
    (hpath : d.trail path <+: names) (hclimbs : d.Climbs names)
    {r : Except DiskFault Unit} (h : d.makeFolders path = (r, d')) :
    Grows (Path.resolve [] names) d d' := by
  unfold makeFolders at h
  split at h
  · cases h
    exact Grows.refl _ _
  · split at h
    · cases h
      exact Grows.refl _ _
    · exact grows_makeFoldersUp _ hpath hclimbs h

/-- Where names lead on a disk with more folders, they led before, unless nothing was there. -/
theorem Grows.route_cases {way names location goal : List String} (hgrows : Grows way d d')
    (first : List String) (hclimbs : d.Climbs (first ++ names))
    (hfirst : d.route [] first = .ok location) (h : d'.route location names = .ok goal) :
    d.route location names = .ok goal ∨
      d.route location names = .error .missing ∧ d.sight goal = .nothing := by
  induction names generalizing first location with
  | nil => exact Or.inl h
  | cons name names ih =>
      rw [route_cons] at h ⊢
      obtain ⟨next, hstep, h⟩ := Except.bind_eq_ok_iff.mp h
      have hfolder := sight_of_step hstep
      rcases hgrows.sight location with hsame | ⟨hnothing, -, -⟩
      · have hstep' : d.step location name = .ok next := by
          rw [step, hfolder] at hstep
          rw [step, ← hsame, hfolder]
          exact hstep
        have hnext : d.route [] (first ++ [name]) = .ok next := by
          rw [route_append, hfirst, Except.ok_bind, route_cons, hstep']
          rfl
        rw [hstep', Except.ok_bind]
        apply ih (first ++ [name]) _ hnext h
        rw [List.append_assoc]
        exact hclimbs
      · right
        have hmissing : d.step location name = .error .missing := by rw [step, hnothing]
        have hup : ".." ∉ name :: names := by
          apply hclimbs.not_mem hfirst
          rw [hnothing]
          simp
        have hgoal : goal = Path.resolve location (name :: names) := by
          rw [Path.resolve_cons, ← step_eq_ok hstep]
          exact route_eq_ok h
        refine ⟨by rw [hmissing]; rfl, ?_⟩
        obtain ⟨rest, hrest⟩ := Path.prefix_resolve hup location
        rw [hgoal, ← hrest]
        by_cases hnil : rest = []
        · rw [hnil, List.append_nil]
          exact hnothing
        · apply DiskItem.sight_append _ hnil
          change d.sight location ≠ _
          rw [hnothing]
          simp

end HandlerStudio.Disk
