import HandlerStudio.Proofs.Disk.Sight
import HandlerStudio.Proofs.Json.Reader

/-!
# Following names by what is seen

`Disk.route` follows names from location to location. It agrees with `Disk.walk`, and when it
arrives it arrives where `Path.resolve` says, which does not look at the disk.
-/

namespace HandlerStudio

namespace Path

/-- Where names lead from a location if all folders are there. The top is above itself. -/
def resolve (location names : List String) : List String :=
  names.foldl (fun location name =>
    if name = "." then location
    else if name = ".." then location.dropLast
    else location ++ [name]) location

/-- A name of an item, which leads down. -/
def IsName (name : String) : Prop := name ≠ "" ∧ name ≠ "." ∧ name ≠ ".."

instance (name : String) : Decidable (IsName name) := inferInstanceAs (Decidable (_ ∧ _ ∧ _))

theorem resolve_cons (location : List String) (name : String) (names : List String) :
    resolve location (name :: names) = resolve (resolve location [name]) names := rfl

theorem resolve_append (location first second : List String) :
    resolve location (first ++ second) = resolve (resolve location first) second := by
  simp [resolve, List.foldl_append]

theorem prefix_resolve {names : List String} (h : ".." ∉ names) (location : List String) :
    location <+: resolve location names := by
  induction names generalizing location with
  | nil => exact List.prefix_refl _
  | cons name names ih =>
      rw [List.mem_cons, not_or] at h
      rw [resolve_cons]
      refine List.IsPrefix.trans ?_ (ih h.2 _)
      simp only [resolve, List.foldl_cons, List.foldl_nil]
      rw [if_neg (Ne.symm h.1)]
      split
      · exact List.prefix_refl _
      · exact List.prefix_append _ _

theorem resolve_names {names : List String} (h : ∀ name ∈ names, IsName name)
    (location : List String) : resolve location names = location ++ names := by
  induction names generalizing location with
  | nil => simp [resolve]
  | cons name names ih =>
      rw [List.forall_mem_cons] at h
      rw [resolve_cons, ih h.2]
      simp [resolve, h.1.2.1, h.1.2.2]

theorem dropStays_isPrefix (names : List String) : dropStays names <+: names := by
  rw [dropStays, ← List.reverse_suffix, List.reverse_reverse]
  exact List.dropWhile_suffix _

theorem dropStays_concat (names : List String) {name : String} (h : IsName name) :
    dropStays (names ++ [name]) = names ++ [name] := by
  have hstay : ¬ (name == "." || name.isEmpty) = true := by simp [h.1, h.2.1]
  rw [dropStays, List.reverse_append, List.reverse_singleton, List.singleton_append,
    List.dropWhile_cons, if_neg hstay, List.reverse_cons, List.reverse_reverse]

theorem parentNames_concat (names : List String) {name : String} (h : IsName name) :
    parentNames (names ++ [name]) <+: names := by
  rw [parentNames, dropStays_concat names h, List.dropLast_concat]
  exact dropStays_isPrefix names

theorem parentNames_isPrefix (names : List String) : parentNames names <+: names := by
  refine (dropStays_isPrefix _).trans ?_
  refine List.IsPrefix.trans ?_ (dropStays_isPrefix names)
  exact List.dropLast_prefix _

end Path

namespace Disk

def sight (location : List String) (d : Disk) : Sight := d.top.sight location

def step (d : Disk) (location : List String) (name : String) : Except DiskFault (List String) :=
  match d.sight location with
  | .nothing => .error .missing
  | .file _ => .error .notAFolder
  | .folder =>
      if name = "." then .ok location
      else if name = ".." then .ok location.dropLast
      else if Place.nameLimit < name.utf8ByteSize then .error .badName
      else .ok (location ++ [name])

/-- Follow names from a location. -/
def route (d : Disk) (location names : List String) : Except DiskFault (List String) :=
  names.foldlM d.step location

variable {d : Disk} {location names : List String}

theorem route_cons (name : String) :
    d.route location (name :: names) = d.step location name >>= (d.route · names) := by
  rw [route, List.foldlM_cons]
  rfl

theorem route_append (first second : List String) :
    d.route location (first ++ second) = d.route location first >>= (d.route · second) := by
  rw [route, List.foldlM_append]
  rfl

theorem sight_of_step {name : String} {next : List String}
    (h : d.step location name = .ok next) : d.sight location = .folder := by
  unfold step at h
  split at h
  · cases h
  · cases h
  · assumption

theorem step_eq_ok {name : String} {next : List String} (h : d.step location name = .ok next) :
    next = Path.resolve location [name] := by
  unfold step at h
  split at h
  · cases h
  · cases h
  · simp only [Path.resolve, List.foldl_cons, List.foldl_nil]
    split at h
    · next hname =>
        cases h
        rw [if_pos hname]
    · next hname =>
        rw [if_neg hname]
        split at h
        · next hup =>
            cases h
            rw [if_pos hup]
        · next hup =>
            rw [if_neg hup]
            split at h
            · cases h
            · cases h
              rfl

theorem route_eq_ok {goal : List String} (h : d.route location names = .ok goal) :
    goal = Path.resolve location names := by
  induction names generalizing location with
  | nil =>
      cases h
      rfl
  | cons name names ih =>
      rw [route_cons] at h
      obtain ⟨next, hstep, h⟩ := Except.bind_eq_ok_iff.mp h
      rw [ih h, step_eq_ok hstep]
      rfl

/-- Names can be followed from a folder only. -/
theorem sight_of_route {goal : List String} (hne : names ≠ [])
    (h : d.route location names = .ok goal) : d.sight location = .folder := by
  obtain ⟨name, names, rfl⟩ := List.exists_cons_of_ne_nil hne
  rw [route_cons] at h
  obtain ⟨next, hstep, -⟩ := Except.bind_eq_ok_iff.mp h
  exact sight_of_step hstep

/-! ## Walks are routes -/

theorem step_location {p : Place} (hp : p.On d.top) (name : String) :
    d.step p.location name = (p.follow name).map Place.location := by
  have hsight : d.sight p.location = .of p.item := hp.sight_location
  unfold step Place.follow
  rw [hsight]
  cases hitem : p.item with
  | none => rfl
  | some item =>
      cases item with
      | file content => rfl
      | folder entries =>
          simp only [Sight.of]
          split
          · rfl
          split
          · split
            · next habove => simp [Place.location, habove, Except.map]
            · next habove => simp [Place.location, habove, Except.map]
          split
          · rfl
          · simp [Place.location, Except.map]

theorem foldlM_follow {p : Place} (hp : p.On d.top) (names : List String) :
    d.route p.location names = (names.foldlM Place.follow p).map Place.location := by
  induction names generalizing p with
  | nil => rfl
  | cons name names ih =>
      rw [route_cons, List.foldlM_cons, step_location hp]
      cases hfollow : p.follow name with
      | error e => rfl
      | ok q => exact ih (hp.follow hfollow)

theorem on_foldlM_follow {p q : Place} (hp : p.On d.top) (names : List String)
    (h : names.foldlM Place.follow p = .ok q) : q.On d.top := by
  induction names generalizing p with
  | nil =>
      cases h
      exact hp
  | cons name names ih =>
      rw [List.foldlM_cons] at h
      obtain ⟨r, hfollow, h⟩ := Except.bind_eq_ok_iff.mp h
      exact ih (hp.follow hfollow) h

theorem route_eq_walk (d : Disk) (names : List String) :
    d.route [] names = (d.walk names).map Place.location :=
  foldlM_follow .here names

theorem on_walk {p : Place} (h : d.walk names = .ok p) : p.On d.top :=
  on_foldlM_follow .here names h

theorem route_of_walk {p : Place} (h : d.walk names = .ok p) :
    d.route [] names = .ok p.location := by
  rw [route_eq_walk, h]
  rfl

/-! ## Reading -/

/-- All the names of a path, with those of the folder where it starts. -/
abbrev trail (d : Disk) (path : String) : List String := d.startOf path ++ Path.names path

/-- The location that a path means. -/
def locationOf (d : Disk) (path : String) : List String := Path.resolve [] (d.trail path)

def textAt (d : Disk) (location : List String) : Except DiskFault String :=
  match d.sight location with
  | .nothing => .error .missing
  | .folder => .error .aFolder
  | .file (.text s) => .ok s
  | .file .binary => .error .notText

variable {path : String} (hpath : path.toList.getLast? ≠ some '/')

include hpath

theorem locateFile_eq : d.locateFile path = d.locate path := by
  have hslash : (path.toList.getLast? == some '/') = false := by simpa using hpath
  rw [locateFile, hslash]
  cases d.locate path with
  | error e => rfl
  | ok p => rfl

theorem walk_of_locateFile {p : Place} (h : d.locateFile path = .ok p) :
    d.walk (d.trail path) = .ok p := by
  rw [locateFile_eq hpath] at h
  obtain ⟨u, -, h⟩ := Except.bind_eq_ok_iff.mp h
  exact h

theorem location_of_locateFile {p : Place} (h : d.locateFile path = .ok p) :
    p.location = d.locationOf path :=
  route_eq_ok (route_of_walk (walk_of_locateFile hpath h))

theorem read_eq : d.read path = checkPath path >>= fun _ =>
    d.route [] (d.trail path) >>= d.textAt := by
  rw [read, locateFile_eq hpath, locate, route_eq_walk]
  cases checkPath path with
  | error e => rfl
  | ok u =>
      cases hwalk : d.walk (d.trail path) with
      | error e =>
          simp only [Except.ok_bind]
          rfl
      | ok p =>
          have hsight : d.sight p.location = .of p.item := (on_walk hwalk).sight_location
          simp only [Except.ok_bind]
          change _ = d.textAt p.location
          rw [textAt, hsight]
          cases hitem : p.item with
          | none => rfl
          | some item =>
              cases item with
              | folder entries => rfl
              | file content => cases content <;> rfl

omit hpath

/-! ## Reading below a location -/

def textFrom (d : Disk) (location names : List String) : Except DiskFault String :=
  d.route location names >>= d.textAt

theorem textFrom_cons (name : String) :
    d.textFrom location (name :: names) = d.step location name >>= (d.textFrom · names) := by
  rw [textFrom, route_cons, bind_assoc]
  rfl

theorem textFrom_of_nothing (h : d.sight location = .nothing) (names : List String) :
    d.textFrom location names = .error .missing := by
  cases names with
  | nil =>
      change d.textAt location = _
      rw [textAt, h]
  | cons name names =>
      rw [textFrom_cons, step, h]
      rfl

theorem step_name {name : String} (hname : Path.IsName name)
    (hlength : name.utf8ByteSize ≤ Place.nameLimit) (h : d.sight location = .folder) :
    d.step location name = .ok (location ++ [name]) := by
  rw [step, h]
  simp only
  rw [if_neg hname.2.1, if_neg hname.2.2, if_neg (Nat.not_lt.mpr hlength)]

theorem length_of_step_name {name : String} (hname : Path.IsName name) {next : List String}
    (h : d.step location name = .ok next) : name.utf8ByteSize ≤ Place.nameLimit := by
  rw [step, sight_of_step h] at h
  simp only at h
  rw [if_neg hname.2.1, if_neg hname.2.2] at h
  split at h
  · cases h
  · next hlength => exact Nat.not_lt.mp hlength

theorem textFrom_eq_ok_iff {s : String} (hnames : ∀ name ∈ names, Path.IsName name) :
    d.textFrom location names = .ok s ↔
      (∀ name ∈ names, name.utf8ByteSize ≤ Place.nameLimit) ∧
        d.sight (location ++ names) = .file (.text s) := by
  induction names generalizing location with
  | nil =>
      rw [List.append_nil]
      change d.textAt location = _ ↔ _
      unfold textAt
      split <;> simp_all
  | cons name names ih =>
      rw [List.forall_mem_cons] at hnames
      rw [textFrom_cons, Except.bind_eq_ok_iff]
      constructor
      · rintro ⟨next, hstep, h⟩
        have hlength := length_of_step_name hnames.1 hstep
        rw [step_name hnames.1 hlength (sight_of_step hstep)] at hstep
        cases hstep
        obtain ⟨hlengths, hsight⟩ := (ih hnames.2).mp h
        rw [List.append_assoc] at hsight
        exact ⟨List.forall_mem_cons.mpr ⟨hlength, hlengths⟩, hsight⟩
      · rintro ⟨hlengths, hsight⟩
        rw [List.forall_mem_cons] at hlengths
        have hfolder : d.sight location = .folder := by
          apply DiskItem.sight_eq_folder _ (List.cons_ne_nil name names)
          change d.sight (location ++ name :: names) ≠ _
          rw [hsight]
          simp
        refine ⟨_, step_name hnames.1 hlengths.1 hfolder, (ih hnames.2).mpr ⟨hlengths.2, ?_⟩⟩
        rw [List.append_assoc]
        exact hsight

/-- Folders made on the way to a text that is not there do not make a difference. -/
theorem textFrom_congr {d' : Disk} (hnames : ∀ name ∈ names, Path.IsName name)
    (hlengths : ∀ name ∈ names, name.utf8ByteSize ≤ Place.nameLimit)
    (hsight : ∀ first, first <+: names →
      d'.sight (location ++ first) = d.sight (location ++ first) ∨
        d.sight (location ++ first) = .nothing ∧ d'.sight (location ++ first) = .folder ∧
          first ≠ names) :
    d'.textFrom location names = d.textFrom location names := by
  induction names generalizing location with
  | nil =>
      change d'.textAt location = d.textAt location
      have h := hsight [] List.nil_prefix
      rw [List.append_nil] at h
      rcases h with h | ⟨-, -, hne⟩
      · rw [textAt, textAt, h]
      · exact absurd rfl hne
  | cons name names ih =>
      rw [List.forall_mem_cons] at hnames hlengths
      have hbelow : d'.textFrom (location ++ [name]) names =
          d.textFrom (location ++ [name]) names := by
        apply ih hnames.2 hlengths.2
        intro first hfirst
        have h := hsight (name :: first) ((List.prefix_cons_inj name).mpr hfirst)
        simpa using h
      have h := hsight [] List.nil_prefix
      rw [List.append_nil] at h
      rcases h with h | ⟨hnothing, hfolder, -⟩
      · rw [textFrom_cons, textFrom_cons]
        cases hbefore : d.sight location with
        | nothing =>
            rw [step, step, h, hbefore]
            rfl
        | file content =>
            rw [step, step, h, hbefore]
            rfl
        | folder =>
            rw [step_name hnames.1 hlengths.1 hbefore,
              step_name hnames.1 hlengths.1 (h.trans hbefore)]
            exact hbelow
      · rw [textFrom_of_nothing hnothing, textFrom_cons, step_name hnames.1 hlengths.1 hfolder,
          Except.ok_bind, hbelow]
        apply textFrom_of_nothing
        apply DiskItem.sight_append _ (List.cons_ne_nil name [])
        change d.sight location ≠ _
        rw [hnothing]
        simp

end Disk

end HandlerStudio
