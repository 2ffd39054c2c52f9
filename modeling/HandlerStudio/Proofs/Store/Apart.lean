import HandlerStudio.Proofs.Disk.Change
import HandlerStudio.Proofs.Disk.Pieces
import HandlerStudio.Store.File

/-!
# Documents in files of their own

A plain id is made up of names. Plain ids have their files below the root, no two of them the same
one, and none that another is written to first. So saving one leaves what is loaded of the others.
Ids with `.` or `..` among their names, or with empty names, have files of other documents, or
files outside the root.
-/

namespace HandlerStudio

namespace DocumentId

/-- The names of a document's file, from the root of a store. -/
def pieces (a : DocumentId) : List String := Path.pieces (a.text ++ ".json")

/-- The names of the file that a document is written to first. -/
def staged (a : DocumentId) : List String :=
  Path.pieces (FileStore.stagingFor (a.text ++ ".json"))

/-- An id that is made up of names. It does not end in the name `.`, for then the folder above would
have to be written first. -/
structure Plain (a : DocumentId) : Prop where
  isName : ∀ piece ∈ a.pieces, Path.IsName piece
  last : a.pieces.getLast? ≠ some "..json"

instance (a : DocumentId) : Decidable a.Plain :=
  decidable_of_iff ((∀ piece ∈ a.pieces, Path.IsName piece) ∧ a.pieces.getLast? ≠ some "..json")
    ⟨fun h => ⟨h.1, h.2⟩, fun h => ⟨h.isName, h.last⟩⟩

theorem pieces_injective {a b : DocumentId} (h : a.pieces = b.pieces) : a = b := by
  have htext := Path.pieces_injective h
  rw [String.append_left_inj] at htext
  cases a
  cases b
  cases htext
  rfl

theorem exists_pieces_eq (a : DocumentId) :
    ∃ folders name, a.pieces = folders ++ [name ++ ".json"] := by
  have hslash : '/' ∉ ".json".toList := by decide
  obtain ⟨folders, name, -, hpieces⟩ := Path.exists_pieces_append a.text hslash
  exact ⟨folders, name, hpieces⟩

end DocumentId

namespace FileStore

/-! ## Where files are -/

def stagingSuffix (path : String) : String :=
  if (Path.pieces path).getLast? = some ".json" then ".json.tmp" else ".tmp"

theorem stagingFor_eq {path : String} (h : (Path.pieces path).getLast? ≠ some "..json") :
    stagingFor path = path ++ stagingSuffix path := by
  unfold stagingFor stagingSuffix
  split
  · next hlast => rw [if_pos hlast]
  · next hlast => exact absurd hlast h
  · next hlast _ => rw [if_neg hlast]

theorem exists_stagingSuffix (path : String) : ∃ front, stagingSuffix path = front ++ ".tmp" := by
  unfold stagingSuffix
  split
  · exact ⟨".json", rfl⟩
  · exact ⟨"", rfl⟩

theorem slash_notMem_stagingSuffix (path : String) : '/' ∉ (stagingSuffix path).toList := by
  unfold stagingSuffix
  split
  · decide
  · decide

end FileStore

namespace DocumentId

variable {a b : DocumentId}

theorem Plain.exists_staged_eq (h : a.Plain) :
    ∃ name, a.staged = a.pieces.dropLast ++ [name ++ ".tmp"] := by
  obtain ⟨front, last, hpieces, hstaged⟩ := Path.exists_pieces_append (a.text ++ ".json")
    (FileStore.slash_notMem_stagingSuffix (a.text ++ ".json"))
  obtain ⟨suffix, hsuffix⟩ := FileStore.exists_stagingSuffix (a.text ++ ".json")
  refine ⟨last ++ suffix, ?_⟩
  rw [staged, FileStore.stagingFor_eq h.last, hstaged, pieces, hpieces, List.dropLast_concat,
    hsuffix, String.append_assoc]

theorem Plain.isName_staged (h : a.Plain) : ∀ piece ∈ a.staged, Path.IsName piece := by
  obtain ⟨name, hstaged⟩ := h.exists_staged_eq
  rw [hstaged]
  intro piece hpiece
  rcases List.mem_append.mp hpiece with hfolder | hlast
  · exact h.isName piece (List.dropLast_subset _ hfolder)
  · rw [List.mem_singleton.mp hlast]
    have hne : ∀ other : String, other.toList.getLast? ≠ some 'p' → name ++ ".tmp" ≠ other := by
      rintro other hother rfl
      simp at hother
    exact ⟨hne "" (by decide), hne "." (by decide), hne ".." (by decide)⟩

/-- No document's file is written first for another. -/
theorem Plain.staged_ne (h : a.Plain) (b : DocumentId) : a.staged ≠ b.pieces := by
  obtain ⟨name, hstaged⟩ := h.exists_staged_eq
  obtain ⟨folders, other, hpieces⟩ := b.exists_pieces_eq
  rw [hstaged, hpieces]
  intro heq
  have hlast : name ++ ".tmp" = other ++ ".json" := by
    have hlast := congrArg List.getLast? heq
    rw [List.getLast?_concat, List.getLast?_concat] at hlast
    exact Option.some.inj hlast
  have hchar := congrArg (fun s : String => s.toList.getLast?) hlast
  simp at hchar

/-- Saving `a` does not get in the way of `b`: neither its file nor the one it is written to first
lies on the way to the file of `b`, which does not lie on the way to that of `a` and fits on a
disk. -/
structure Apart (a b : DocumentId) : Prop where
  file : ¬ a.pieces <+: b.pieces
  staged : ¬ a.staged <+: b.pieces
  behind : ¬ b.pieces <+: a.pieces
  fits : ∀ piece ∈ b.pieces, piece.utf8ByteSize ≤ Place.nameLimit

end DocumentId

namespace FileStore

variable {s : FileStore} {a b : DocumentId} {d d' : Disk}

theorem stagingFor_pathFor (ha : a.Plain) :
    stagingFor (s.pathFor a) = Path.join s.root (stagingFor (a.text ++ ".json")) := by
  have hne := Path.ne_empty_of_isName ha.isName
  have hlast : (Path.pieces (s.pathFor a)).getLast? = a.pieces.getLast? := by
    rw [pathFor, Path.pieces_join s.root (Path.isAbsolute_of_isName ha.isName),
      List.getLast?_append_of_ne_nil _ (Path.pieces_ne_nil _)]
    rfl
  have hsuffix : stagingSuffix (s.pathFor a) = stagingSuffix (a.text ++ ".json") := by
    rw [stagingSuffix, hlast]
    rfl
  rw [stagingFor_eq (by rw [hlast]; exact ha.last), stagingFor_eq ha.last, hsuffix,
    Path.join_append s.root hne]
  rfl

theorem locationOf_pathFor (ha : a.Plain) (d : Disk) :
    d.locationOf (s.pathFor a) = d.locationOf s.root ++ a.pieces :=
  Path.locationOf_join ha.isName s.root d

theorem locationOf_staging (ha : a.Plain) (d : Disk) :
    d.locationOf (stagingFor (s.pathFor a)) = d.locationOf s.root ++ a.staged := by
  rw [stagingFor_pathFor ha]
  exact Path.locationOf_join ha.isName_staged s.root d

/-! ## Saving -/

theorem getLast?_pathFor (a : DocumentId) (s : FileStore) :
    (s.pathFor a).toList.getLast? ≠ some '/' := by
  have hne : a.text ++ ".json" ≠ "" := by simp
  rw [pathFor, Path.getLast?_join s.root hne]
  simp

theorem getLast?_staging (ha : a.Plain) :
    (stagingFor (s.pathFor a)).toList.getLast? ≠ some '/' := by
  obtain ⟨front, hsuffix⟩ := exists_stagingSuffix (a.text ++ ".json")
  have hne : stagingFor (a.text ++ ".json") ≠ "" := Path.ne_empty_of_isName ha.isName_staged
  rw [stagingFor_pathFor ha, Path.getLast?_join s.root hne, stagingFor_eq ha.last, hsuffix,
    ← String.append_assoc, String.toList_append, List.getLast?_append_of_ne_nil _ (by decide)]
  decide

theorem trail_parent (ha : a.Plain) (d : Disk) :
    d.trail (Path.parent (s.pathFor a)) <+: d.trail s.root ++ a.pieces.dropLast := by
  have hrelative := Path.isAbsolute_of_isName ha.isName
  have hparent : Path.parentNames (Path.pieces (s.pathFor a)) <+:
      Path.lead s.root ++ a.pieces.dropLast := by
    obtain ⟨folders, name, hpieces⟩ := a.exists_pieces_eq
    have hname : Path.IsName (name ++ ".json") := ha.isName _ (by simp [hpieces])
    rw [pathFor, Path.pieces_join s.root hrelative, ← DocumentId.pieces, hpieces,
      List.dropLast_concat, ← List.append_assoc]
    exact Path.parentNames_concat _ hname
  have hstart : d.startOf (Path.parent (s.pathFor a)) = d.startOf s.root := by
    rw [Disk.startOf, Path.isAbsolute_parent, pathFor,
      Path.isAbsolute_join s.root (Path.ne_empty_of_isName ha.isName) hrelative]
    rfl
  have hfolders : a.pieces.dropLast.filter (· ≠ "") = a.pieces.dropLast := by
    rw [List.filter_eq_self]
    intro piece hpiece
    exact decide_eq_true (ha.isName piece (List.dropLast_subset _ hpiece)).1
  rw [Disk.trail, hstart, Path.names_parent, List.append_assoc, List.prefix_append_right_inj,
    Path.names_eq_filter_lead, ← hfolders, ← List.filter_append]
  exact hparent.filter _

theorem exists_steps_of_save {h : Handler} (hsave : s.save a h d = (.ok (), d')) :
    ∃ made written, d.makeFolders (Path.parent (s.pathFor a)) = (.ok (), made) ∧
      made.write (stagingFor (s.pathFor a)) (.text h.text) = .ok written ∧
      written.rename (stagingFor (s.pathFor a)) (s.pathFor a) = .ok d' := by
  unfold save at hsave
  simp only at hsave
  split at hsave
  · cases hsave
  · next made hmade =>
      split at hsave
      · cases hsave
      · next hreplace =>
          cases hsave
          unfold replace at hreplace
          split at hreplace
          · cases hreplace
          · next written hwrite =>
              split at hreplace
              · cases hreplace
              · next hrename =>
                  cases hreplace
                  exact ⟨made, written, hmade, hwrite, hrename⟩

/-- What a save leaves: after folders were made on the way to the file, the file is changed, and
what it was written to first is gone. -/
structure Saved (s : FileStore) (a : DocumentId) (text : String) (d made d' : Disk) : Prop where
  grows : d.Grows (d.locationOf s.root ++ a.pieces.dropLast) made
  reached : made.route [] (d.trail s.root) = .ok (d.locationOf s.root)
  file_ne : made.sight (d.locationOf s.root ++ a.pieces) ≠ .folder
  staged_ne : made.sight (d.locationOf s.root ++ a.staged) ≠ .folder
  workingFolder : d'.workingFolder = d.workingFolder
  stored : d'.read (s.pathFor a) = .ok text
  sight : ∀ q, d'.sight q =
    if q = d.locationOf s.root ++ a.pieces then .file (.text text)
    else if q = d.locationOf s.root ++ a.staged then .nothing else made.sight q

theorem exists_saved (ha : a.Plain) (hroot : d.Climbs (d.trail s.root)) {h : Handler}
    (hsave : s.save a h d = (.ok (), d')) : ∃ made, s.Saved a h.text d made d' := by
  obtain ⟨made, written, hmade, hwrite, hrename⟩ := exists_steps_of_save hsave
  have hfolders : ∀ piece ∈ a.pieces.dropLast, Path.IsName piece := by
    intro piece hpiece
    exact ha.isName piece (List.dropLast_subset _ hpiece)
  have hup : ".." ∉ a.pieces.dropLast := fun hmem => (hfolders ".." hmem).2.2 rfl
  have hgrows := Disk.grows_makeFolders (trail_parent ha d) (hroot.append hup) hmade
  rw [Path.resolve_append, Path.resolve_names hfolders] at hgrows
  -- the locations are the same on all disks on the way, whose working folder is the same
  obtain ⟨hroute, hfree, hfolder, hwritten⟩ := Disk.sight_write (getLast?_staging ha) hwrite
  have hwork := hfolder.trans hgrows.workingFolder
  rw [Disk.locationOf_congr hgrows.workingFolder, locationOf_staging ha] at hroute hfree hwritten
  rw [Disk.trail_congr hgrows.workingFolder, stagingFor_pathFor ha,
    Path.trail_join ha.isName_staged, Disk.route_append] at hroute
  obtain ⟨base, hbase, -⟩ := Except.bind_eq_ok_iff.mp hroute
  obtain rfl : base = d.locationOf s.root := Disk.route_eq_ok hbase
  have hstaged : written.sight (written.locationOf (stagingFor (s.pathFor a))) =
      .file (.text h.text) := by
    rw [Disk.locationOf_congr hwork, locationOf_staging ha, hwritten, if_pos rfl]
  have hnames : written.trail (stagingFor (s.pathFor a)) ≠ [] := by
    rw [stagingFor_pathFor ha, Path.trail_join ha.isName_staged]
    exact List.append_ne_nil_of_right_ne_nil _ (Path.pieces_ne_nil _)
  obtain ⟨hother, hfolder', hsight⟩ :=
    Disk.sight_rename (getLast?_staging ha) (getLast?_pathFor a s) hnames hstaged hrename
  rw [Disk.locationOf_congr hwork, Disk.locationOf_congr hwork, locationOf_staging ha,
    locationOf_pathFor ha] at hother hsight
  have hne : d.locationOf s.root ++ a.pieces ≠ d.locationOf s.root ++ a.staged := by
    intro heq
    exact ha.staged_ne a (List.append_cancel_left heq).symm
  have hstored : d'.read (s.pathFor a) = .ok h.text := by
    obtain ⟨p, q, -, hlocate, hplace, rfl⟩ :=
      Disk.exists_of_rename (getLast?_staging ha) hstaged hrename
    exact Disk.read_put (getLast?_pathFor a s) hlocate hplace h.text
  refine ⟨made, hgrows, hbase, ?_, hfree, hfolder'.trans hwork, hstored, ?_⟩
  · have hfile := hother hne
    rw [hwritten, if_neg hne] at hfile
    exact hfile
  · intro q
    rw [hsight]
    split
    · rfl
    split
    · rfl
    · next hq => rw [hwritten, if_neg hq]

/-! ## Loading another document -/

theorem read_pathFor (hb : b.Plain)
    (hroot : d.route [] (d.trail s.root) = .ok (d.locationOf s.root) ∨
      d.route [] (d.trail s.root) = .error .missing ∧ d.sight (d.locationOf s.root) = .nothing) :
    d.read (s.pathFor b) = Disk.checkPath (s.pathFor b) >>= fun _ =>
      d.textFrom (d.locationOf s.root) b.pieces := by
  have htext : d.route [] (d.trail (s.pathFor b)) >>= d.textAt =
      d.textFrom (d.locationOf s.root) b.pieces := by
    rw [pathFor, Path.trail_join hb.isName, Disk.route_append, bind_assoc]
    rcases hroot with hroute | ⟨hmissing, hnothing⟩
    · rw [hroute]
      rfl
    · rw [hmissing, Disk.textFrom_of_nothing hnothing]
      rfl
  rw [Disk.read_eq (getLast?_pathFor b s), htext]

namespace Saved

variable {text : String} {made : Disk} (h : s.Saved a text d made d')

include h

theorem read_before (hb : b.Plain) (hroot : d.Climbs (d.trail s.root)) :
    d.read (s.pathFor b) = Disk.checkPath (s.pathFor b) >>= fun _ =>
      d.textFrom (d.locationOf s.root) b.pieces := by
  apply read_pathFor hb
  exact h.grows.route_cases [] hroot rfl h.reached

theorem folder {q : List String} (hq : made.sight q = .folder) : d'.sight q = .folder := by
  rw [h.sight, if_neg, if_neg, hq]
  · rintro rfl
    exact h.staged_ne hq
  · rintro rfl
    exact h.file_ne hq

theorem read_after (hb : b.Plain) :
    d'.read (s.pathFor b) = Disk.checkPath (s.pathFor b) >>= fun _ =>
      d'.textFrom (d.locationOf s.root) b.pieces := by
  have hlocation := Disk.locationOf_congr h.workingFolder s.root
  rw [← hlocation]
  apply read_pathFor hb
  left
  rw [hlocation, Disk.trail_congr h.workingFolder]
  exact Disk.route_of_folders (fun q => h.folder) h.reached

theorem sight_cases {q : List String} (hfile : q ≠ d.locationOf s.root ++ a.pieces)
    (hstaged : q ≠ d.locationOf s.root ++ a.staged) :
    d'.sight q = d.sight q ∨ d.sight q = .nothing ∧ d'.sight q = .folder ∧
      q <+: d.locationOf s.root ++ a.pieces.dropLast := by
  rw [h.sight, if_neg hfile, if_neg hstaged]
  exact h.grows.sight q

/-- Outside the root only folders on the way to it are new. -/
theorem sight_outside {q : List String} (hq : ¬ d.locationOf s.root <+: q) :
    d'.sight q = d.sight q ∨
      d.sight q = .nothing ∧ d'.sight q = .folder ∧ q <+: d.locationOf s.root := by
  have hbelow : ∀ names, q ≠ d.locationOf s.root ++ names := by
    rintro names rfl
    exact hq (List.prefix_append _ names)
  rcases h.sight_cases (hbelow _) (hbelow _) with hsame | ⟨hnothing, hfolder, hway⟩
  · exact Or.inl hsame
  · refine Or.inr ⟨hnothing, hfolder, ?_⟩
    rcases List.prefix_or_prefix_of_prefix hway (List.prefix_append _ _) with hroot | hroot
    · exact hroot
    · exact absurd hroot hq

theorem read_eq_ok_iff (ha : a.Plain) (hb : b.Plain) (hne : a ≠ b)
    (hroot : d.Climbs (d.trail s.root)) (content : String) :
    d'.read (s.pathFor b) = .ok content ↔ d.read (s.pathFor b) = .ok content := by
  have hfile : d.locationOf s.root ++ b.pieces ≠ d.locationOf s.root ++ a.pieces := by
    intro heq
    exact hne (DocumentId.pieces_injective (List.append_cancel_left heq)).symm
  have hstaged : d.locationOf s.root ++ b.pieces ≠ d.locationOf s.root ++ a.staged := by
    intro heq
    exact ha.staged_ne b (List.append_cancel_left heq).symm
  rw [h.read_before hb hroot, h.read_after hb, Except.bind_eq_ok_iff, Except.bind_eq_ok_iff]
  apply exists_congr
  intro u
  apply and_congr_right
  intro _
  rw [Disk.textFrom_eq_ok_iff hb.isName, Disk.textFrom_eq_ok_iff hb.isName]
  apply and_congr_right
  intro _
  rcases h.sight_cases hfile hstaged with hsame | ⟨hnothing, hfolder, -⟩
  · rw [hsame]
  · rw [hnothing, hfolder]
    simp

theorem read_eq (hb : b.Plain) (hapart : a.Apart b) (hroot : d.Climbs (d.trail s.root)) :
    d'.read (s.pathFor b) = d.read (s.pathFor b) := by
  have htext : d'.textFrom (d.locationOf s.root) b.pieces =
      d.textFrom (d.locationOf s.root) b.pieces := by
    apply Disk.textFrom_congr hb.isName hapart.fits
    intro first hfirst
    have hfile : d.locationOf s.root ++ first ≠ d.locationOf s.root ++ a.pieces := by
      intro heq
      rw [List.append_cancel_left heq] at hfirst
      exact hapart.file hfirst
    have hstaged : d.locationOf s.root ++ first ≠ d.locationOf s.root ++ a.staged := by
      intro heq
      rw [List.append_cancel_left heq] at hfirst
      exact hapart.staged hfirst
    rcases h.sight_cases hfile hstaged with hsame | ⟨hnothing, hfolder, hway⟩
    · exact Or.inl hsame
    · refine Or.inr ⟨hnothing, hfolder, ?_⟩
      rintro rfl
      rw [List.prefix_append_right_inj] at hway
      apply hapart.behind
      refine hway.trans ?_
      exact List.dropLast_prefix _
  rw [h.read_before hb hroot, h.read_after hb, htext]

end Saved

theorem toOption_load {d d' : Disk}
    (h : ∀ content, d'.read (s.pathFor b) = .ok content ↔ d.read (s.pathFor b) = .ok content)
    (supply : IdSupply) : (s.load b supply d').toOption = (s.load b supply d).toOption := by
  have hnone : ∀ {e : Disk} {fault : DiskFault}, e.read (s.pathFor b) = .error fault →
      (s.load b supply e).toOption = none := by
    intro e fault he
    unfold load
    simp only [he]
    cases fault <;> rfl
  cases hd : d.read (s.pathFor b) with
  | ok content =>
      have hd' := (h content).mpr hd
      unfold load
      simp only [hd, hd']
  | error fault =>
      cases hd' : d'.read (s.pathFor b) with
      | ok content =>
          have hcontent := ((h content).mp hd').symm.trans hd
          cases hcontent
      | error fault' => exact (hnone hd').trans (hnone hd).symm

/-- Plain documents have their files below the root, each its own. Saving one stores its text,
changes nothing outside the root, and keeps what is loaded of another; where that fails it may fail
in another way, unless the two are apart. -/
theorem documents_separate (s : FileStore) (d : Disk) {a b : DocumentId} (ha : a.Plain)
    (hb : b.Plain) (hne : a ≠ b) :
    (∃ below, below ≠ [] ∧ d.locationOf (s.pathFor a) = d.locationOf s.root ++ below) ∧
      d.locationOf (s.pathFor a) ≠ d.locationOf (s.pathFor b) ∧
      d.locationOf (stagingFor (s.pathFor a)) ≠ d.locationOf (s.pathFor b) ∧
      (d.Climbs (d.trail s.root) → ∀ h d', s.save a h d = (.ok (), d') →
        d'.read (s.pathFor a) = .ok h.text ∧
        (∀ q, ¬ d.locationOf s.root <+: q → d'.sight q = d.sight q ∨
          d.sight q = .nothing ∧ d'.sight q = .folder ∧ q <+: d.locationOf s.root) ∧
        ∀ supply, (s.load b supply d').toOption = (s.load b supply d).toOption ∧
          (a.Apart b → s.load b supply d' = s.load b supply d)) := by
  refine ⟨⟨a.pieces, Path.pieces_ne_nil _, locationOf_pathFor ha d⟩, ?_, ?_, ?_⟩
  · rw [locationOf_pathFor ha, locationOf_pathFor hb]
    intro heq
    exact hne (DocumentId.pieces_injective (List.append_cancel_left heq))
  · rw [locationOf_staging ha, locationOf_pathFor hb]
    intro heq
    exact ha.staged_ne b (List.append_cancel_left heq)
  · intro hroot h d' hsave
    obtain ⟨made, hsaved⟩ := exists_saved ha hroot hsave
    refine ⟨hsaved.stored, fun q => hsaved.sight_outside, ?_⟩
    intro supply
    refine ⟨toOption_load (hsaved.read_eq_ok_iff ha hb hne hroot) supply, ?_⟩
    intro hapart
    unfold load
    rw [hsaved.read_eq hb hapart hroot]

def sample : FileStore := { root := "store" }

/-- A disk with one document in the store. -/
def sampleDisk : Disk where
  top := .folder [("store", .folder [("orders", .folder
    [("list.json", .file (.text (Handler.new "first").text))])])]

theorem documents_separate_sample :
    (sample.save ⟨"orders/add"⟩ (.new "second") sampleDisk).1 = .ok () ∧
      ∀ supply, sample.load ⟨"orders/list"⟩ supply
          (sample.save ⟨"orders/add"⟩ (.new "second") sampleDisk).2 =
        sample.load ⟨"orders/list"⟩ supply sampleDisk := by
  have hsaved : (sample.save ⟨"orders/add"⟩ (.new "second") sampleDisk).1 = .ok () := by
    decide +kernel
  have hclimbs : sampleDisk.Climbs (sampleDisk.trail sample.root) := by
    apply Disk.climbs_of_not_mem
    decide +kernel
  have hapart : DocumentId.Apart ⟨"orders/add"⟩ ⟨"orders/list"⟩ :=
    ⟨by decide +kernel, by decide +kernel, by decide +kernel, by decide +kernel⟩
  obtain ⟨-, -, -, hkeeps⟩ := documents_separate sample sampleDisk
    (a := ⟨"orders/add"⟩) (b := ⟨"orders/list"⟩) (by decide +kernel) (by decide +kernel) (by decide)
  have hpair : sample.save ⟨"orders/add"⟩ (.new "second") sampleDisk =
      (.ok (), (sample.save ⟨"orders/add"⟩ (.new "second") sampleDisk).2) := Prod.ext hsaved rfl
  refine ⟨hsaved, ?_⟩
  intro supply
  exact ((hkeeps hclimbs _ _ hpair).2.2 supply).2 hapart

/-- Of documents that are not plain, one is outside the root, and one has the file of another,
which is replaced when it is saved. -/
theorem documents_collide_sample :
    ¬ sampleDisk.locationOf sample.root <+: sampleDisk.locationOf (sample.pathFor ⟨"../list"⟩) ∧
      sampleDisk.locationOf (sample.pathFor ⟨"./orders//list"⟩) =
        sampleDisk.locationOf (sample.pathFor ⟨"orders/list"⟩) ∧
      (sample.load ⟨"orders/list"⟩ {} sampleDisk).toOption.map (fun r => r.1.name) =
        some "first" ∧
      (sample.load ⟨"orders/list"⟩ {}
          (sample.save ⟨"./orders//list"⟩ (.new "second") sampleDisk).2).toOption.map
        (fun r => r.1.name) = some "second" := by
  refine ⟨by decide +kernel, by decide +kernel, by decide +kernel, by decide +kernel⟩

end FileStore

end HandlerStudio
