import HandlerStudio.Proofs.Editor.Agreement
import HandlerStudio.Proofs.Node.Same
import HandlerStudio.Proofs.Preview.History

/-!
# The preview follows the session

The body and the name of a handler are in the session and again in the preview, which learns of
changes by commands and passes over those it takes for none. `Editor.due` is what the preview will
be about once it has taken all commands that wait. To take a command does not change that, so it
is enough that each change of the session queues what brings it in line.
-/

namespace HandlerStudio

/-! ## What a preview is about -/

namespace Preview

structure Subject where
  body : Body
  artifact : String
  target : Target

def subject (p : Preview) : Subject := ⟨p.body, p.artifact, p.target⟩

/-- What a preview is about after a command. -/
def Subject.told (s : Subject) : Command → Subject
  | .tree body => if Tree.same body s.body then s else { s with body }
  | .target target => { s with target }
  | .artifact artifact => { s with artifact }
  | .retry => s

/-- A body that is passed over is equal to the one that is kept. -/
theorem Subject.exists_told_tree (s : Subject) (body : Body) :
    ∃ kept, Tree.same kept body = true ∧ s.told (.tree body) = { s with body := kept } := by
  by_cases hsame : Tree.same body s.body = true
  · exact ⟨s.body, Tree.same_symm hsame, by rw [told, if_pos hsame]⟩
  · exact ⟨body, Tree.same_refl body, by rw [told, if_neg hsame]⟩

variable (now : Nat) (p : Preview)

theorem subject_receive (c : Command) : (p.receive now c).subject = p.subject.told c := by
  cases c with
  | tree body =>
      rw [receive, apply_ite subject]
      rfl
  | target target =>
      simp only [receive, Subject.told, subject]
      split
      · next hsame => rw [hsame]
      · rfl
  | artifact artifact =>
      simp only [receive, Subject.told, subject]
      split
      · next hsame => rw [hsame]
      · rfl
  | retry => rfl

theorem subject_fire : (p.fire now).2.subject = p.subject := by
  rcases p.fire_cases now with hfire | hfire
  · rw [hfire]
  · rw [hfire]
    rfl

theorem subject_answered (seq : Nat) (result : Except GeneratorError Output) :
    (p.answered seq result).subject = p.subject := by
  unfold answered
  split <;> rfl

end Preview

namespace Editor

/-! ## What can be done with an editor -/

/-- What a caller does in one go, and all that happens meanwhile. -/
inductive Operation where
  | insertKind (parent : Option NodeId) (id : NodeId) (kind : Kind)
  | insertFromPalette (parent : Option NodeId) (id : NodeId) (name : String)
  | load (document : DocumentId) (supply : IdSupply)
  /-- The preview begins to run. -/
  | startPreview (now : Nat)
  | event (event : Event)

/-- The editor after an operation. One that fails changes nothing. -/
def perform (e : Editor) : Operation → Editor
  | .insertKind parent id kind => e.insertKind parent id kind
  | .insertFromPalette parent id name => (e.insertFromPalette parent id name).toOption.getD e
  | .load document supply => ((e.load document supply).toOption.map Prod.fst).getD e
  | .startPreview now => { e with preview := e.preview.start now }
  | .event event => e.step event

def performAll (e : Editor) (ops : List Operation) : Editor := ops.foldl perform e

theorem performAll_append (e : Editor) (ops more : List Operation) :
    e.performAll (ops ++ more) = (e.performAll ops).performAll more :=
  List.foldl_append

def Operation.target? : Operation → Option Target
  | .event (.setTarget target) => some target
  | _ => none

/-- The target that was set last, or else the one at the start. -/
def lastTarget (initial : Target) (ops : List Operation) : Target :=
  (ops.filterMap Operation.target?).getLast?.getD initial

theorem lastTarget_cons (initial : Target) (op : Operation) (ops : List Operation) :
    lastTarget initial (op :: ops) = lastTarget (op.target?.getD initial) ops := by
  unfold lastTarget
  cases htarget : op.target? with
  | none => rw [List.filterMap_cons_none htarget, Option.getD_none]
  | some target =>
      rw [List.filterMap_cons_some htarget, List.getLast?_cons, Option.getD_some, Option.getD_some]

/-! ## One step -/

/-- What the preview is about once it has taken all commands. -/
def due (e : Editor) : Preview.Subject := e.commands.foldl .told e.preview.subject

/-- The preview will be about the open handler and a target. -/
structure Wired (e : Editor) (target : Target) : Prop where
  body : Tree.same e.due.body e.session.body = true
  artifact : e.due.artifact = e.session.handler.name
  target : e.due.target = target

variable {e : Editor} {target : Target}

theorem due_tell (e : Editor) (commands : List Command) :
    (e.tell commands).due = commands.foldl .told e.due :=
  List.foldl_append

theorem due_deliver (e : Editor) (now : Nat) : (e.deliver now).due = e.due := by
  unfold deliver
  split
  · rfl
  · next c commands hcommands =>
    change commands.foldl .told (e.preview.receive now c).subject = e.due
    rw [Preview.subject_receive, due, hcommands, List.foldl_cons]

theorem Wired.of_due {s : Preview.Subject} (hdue : e.due = s)
    (hbody : Tree.same s.body e.session.body = true)
    (hartifact : s.artifact = e.session.handler.name) (htarget : s.target = target) :
    e.Wired target := by
  subst hdue
  exact ⟨hbody, hartifact, htarget⟩

theorem Wired.congr (h : e.Wired target) {e' : Editor} (hdue : e'.due = e.due)
    (hhandler : e'.session.handler = e.session.handler) : e'.Wired target := by
  apply Wired.of_due hdue
  · rw [Session.body, hhandler]
    exact h.body
  · rw [hhandler, h.artifact]
  · exact h.target

theorem Wired.deliver (h : e.Wired target) (now : Nat) : (e.deliver now).Wired target := by
  apply h.congr (e.due_deliver now)
  unfold Editor.deliver
  split <;> rfl

theorem Wired.change (h : e.Wired target) (edit : Edit) : (e.change edit).Wired target := by
  obtain ⟨kept, hkept, htold⟩ := e.due.exists_told_tree (e.session.edit edit).body
  have hdue : (e.change edit).due =
      (commandsOf (e.session.edit edit).body edit).foldl .told e.due := due_tell _ _
  cases edit with
  | rename name =>
      rw [commandsOf, List.foldl_cons, htold] at hdue
      exact .of_due hdue hkept rfl h.target
  | insert parent node index | remove id | update id key value | setAsync value =>
      rw [commandsOf.eq_def, List.foldl_cons, htold] at hdue
      exact .of_due hdue hkept h.artifact h.target

theorem Wired.edit (h : e.Wired target) (edit : Edit) : (e.edit edit).Wired target :=
  (h.change edit).congr rfl rfl

theorem Wired.replace (h : e.Wired target) (document : DocumentId) (handler : Handler) :
    (e.replace document handler).Wired target := by
  obtain ⟨kept, hkept, htold⟩ :=
    Preview.Subject.exists_told_tree (e.due.told (.artifact handler.name)) handler.body
  have hdue : (e.replace document handler).due =
      { e.due.told (.artifact handler.name) with body := kept } := by
    rw [← htold]
    exact due_tell _ _
  exact .of_due hdue hkept rfl h.target

theorem Wired.finishLoad (h : e.Wired target) (n : Nat) : (e.finishLoad n).Wired target := by
  unfold Editor.finishLoad
  split
  · next document handler hread =>
    have hrest : Wired { e with reads := e.reads.eraseIdx n } target := h.congr rfl rfl
    exact hrest.replace document handler
  · exact h

theorem Wired.setTarget (h : e.Wired target) (next : Target) :
    (e.setTarget next).Wired next := by
  have hdue : (e.setTarget next).due = { e.due with target := next } := due_tell _ _
  exact .of_due hdue h.body h.artifact rfl

theorem Wired.finish (h : e.Wired target) (requester : Requester) (result : SaveResult) :
    (e.finish requester result).Wired target := by
  obtain ⟨autosave, -, hfinish⟩ := e.finish_eq requester result
  rw [hfinish]
  exact h.congr rfl rfl

theorem Wired.beginSave (h : e.Wired target) : e.beginSave.Wired target := by
  unfold Editor.beginSave
  split
  · next requester waiting hgate hwaiting =>
    have hrest : Wired { e with waiting } target := h.congr rfl rfl
    dsimp only
    split
    · exact h.congr rfl rfl
    · exact hrest.finish requester _
  · exact h

theorem Wired.acknowledge (h : e.Wired target) (n : Nat) : (e.acknowledge n).Wired target := by
  unfold Editor.acknowledge
  split
  · next requester snapshot verdict hflight =>
    have hnoted : Wired { e with
        gate := none
        flights := e.flights.eraseIdx n
        session := noted e.session snapshot verdict } target := by
      obtain ⟨tracker, -, hsession⟩ := Session.noted_eq e.session snapshot verdict
      rw [hsession]
      exact h.congr rfl rfl
    cases verdict with
    | ok _ => exact hnoted.finish requester _
    | error error => exact hnoted.finish requester _
  · exact h

theorem Wired.preview (h : e.Wired target) {preview : Preview}
    (hsubject : preview.subject = e.preview.subject) : Wired { e with preview } target :=
  h.congr (by simp only [due, hsubject]) rfl

theorem Wired.step (h : e.Wired target) (event : Event) :
    (e.step event).Wired ((Operation.event event).target?.getD target) := by
  cases event with
  | edit change => exact h.edit change
  | change edit => exact h.change edit
  | finishLoad n => exact h.finishLoad n
  | setTarget next => exact h.setTarget next
  | retryPreview => exact h.congr (due_tell e [.retry]) rfl
  | beginSave => exact h.beginSave
  | acknowledge n => exact h.acknowledge n
  | deliver now => exact h.deliver now
  | fire now => exact h.preview (e.preview.subject_fire now)
  | answered seq result => exact h.preview (e.preview.subject_answered seq result)
  | read document supply =>
      change Wired (Editor.step e (.read document supply)) target
      unfold Editor.step
      cases hread : e.store.load document supply
      · simp only [Editor.read, hread]
        exact h
      · simp only [Editor.read, hread]
        exact h.congr rfl rfl
  | storeAccepts n =>
      change (e.storeAccepts n).Wired target
      unfold storeAccepts
      split
      · exact h.congr rfl rfl
      · exact h
  | storeRefuses n error =>
      change (e.storeRefuses n error).Wired target
      unfold storeRefuses
      split
      · exact h.congr rfl rfl
      · exact h
  | endQuiet =>
      change e.endQuiet.Wired target
      unfold endQuiet
      split
      · split
        · exact h.congr rfl rfl
        · exact h
      · exact h
  | announce | overwrite document text | select id | clearSelection | requestSave
  | wakeAutosave => exact h.congr rfl rfl

/-! ## Runs -/

theorem Wired.perform (h : e.Wired target) (op : Operation) :
    (e.perform op).Wired (op.target?.getD target) := by
  cases op with
  | insertKind parent id kind => exact h.edit (.insert parent (Node.new id kind) none)
  | insertFromPalette parent id name =>
      change ((e.insertFromPalette parent id name).toOption.getD e).Wired target
      unfold Editor.insertFromPalette
      cases Palette.standard.create id name with
      | ok node => exact h.edit (.insert parent node none)
      | error err => exact h
  | load document supply =>
      change (((e.load document supply).toOption.map Prod.fst).getD e).Wired target
      cases hload : e.load document supply with
      | ok loaded =>
          change loaded.1.Wired target
          rw [e.load_eq_run hload]
          exact (h.step (.read document supply)).step (.finishLoad e.reads.length)
      | error err => exact h
  | startPreview now => exact h.preview rfl
  | event event => exact h.step event

theorem Wired.performAll (h : e.Wired target) (ops : List Operation) :
    (e.performAll ops).Wired (lastTarget target ops) := by
  induction ops generalizing e target with
  | nil => exact h
  | cons op ops ih =>
      rw [lastTarget_cons]
      exact ih (h.perform op)

theorem wired_start (config : Config) (target : Target) (store : MemoryStore)
    (document : DocumentId) (handler : Handler) :
    (start config target store document handler).Wired target where
  body := Tree.same_refl handler.body
  artifact := rfl
  target := rfl

theorem due_eq_of_idle (hidle : e.commands = []) : e.due = e.preview.subject := by
  rw [due, hidle, List.foldl_nil]

theorem commands_deliver (e : Editor) (now : Nat) :
    (e.deliver now).commands = e.commands.tail := by
  unfold deliver
  split
  · next hnone => rw [hnone, List.tail_nil]
  · next hsome => rw [hsome, List.tail_cons]

theorem commands_deliverAll (e : Editor) (times : List Nat) :
    (e.performAll (times.map fun now => .event (.deliver now))).commands =
      e.commands.drop times.length := by
  induction times generalizing e with
  | nil => rfl
  | cons now times ih =>
      have htail : ((e.deliver now).performAll
          (times.map fun now => .event (.deliver now))).commands =
          e.commands.tail.drop times.length := by
        rw [ih, commands_deliver]
      rw [List.length_cons, ← List.drop_tail]
      exact htail

/-- Whatever is done with an editor, whenever no command waits its preview is about the open handler
and the target that was set last, which is the configured one at first. Commands wait only until the
preview has taken as many. Bodies are compared as the preview does, without the sign of zeros. -/
theorem preview_follows_session (config : Config) (store : MemoryStore) (document : DocumentId)
    (supply rest : IdSupply) (e : Editor)
    (hopen : openDocument config store document supply = .ok (e, rest)) :
    ∃ target, config.target = .ok target ∧ ∀ ops : List Operation,
      ((e.performAll ops).commands = [] →
        Tree.unsigned (e.performAll ops).preview.body =
            Tree.unsigned (e.performAll ops).session.body ∧
          (e.performAll ops).preview.artifact = (e.performAll ops).session.handler.name ∧
          (e.performAll ops).preview.target = lastTarget target ops) ∧
      ∀ times : List Nat, (e.performAll ops).commands.length ≤ times.length →
        (e.performAll (ops ++ times.map fun now => .event (.deliver now))).commands = [] := by
  obtain ⟨target, handler, htarget, -, rfl⟩ := exists_start_of_openDocument hopen
  refine ⟨target, htarget, fun ops => ⟨fun hidle => ?_, fun times hlength => ?_⟩⟩
  · have hwired := (wired_start config target store document handler).performAll ops
    have hdue := due_eq_of_idle hidle
    refine ⟨?_, ?_, ?_⟩
    · have hbody := hwired.body
      rw [hdue] at hbody
      exact (Tree.same_iff _ _).mp hbody
    · have hartifact := hwired.artifact
      rwa [hdue] at hartifact
    · have hlast := hwired.target
      rwa [hdue] at hlast
  · rw [performAll_append, commands_deliverAll]
    exact List.drop_eq_nil_of_le hlength

/-- The handler is renamed and a kind that does not exist is not inserted. -/
def sampleStart : List Operation :=
  [.startPreview 0, .event (.edit (.rename "saved")), .event (.deliver 1),
    .insertFromPalette none ⟨"n1"⟩ "no such kind", .insertKind none ⟨"n2"⟩ .returnStatement]

/-- After that the document is loaded again and the target changes. -/
def sampleOperations : List Operation :=
  sampleStart ++ .load sampleDocument {} ::
    [.event (.setTarget (.ofLanguage .rust)), .event (.deliver 2),
      .insertKind none ⟨"n3"⟩ .returnStatement, .event .retryPreview, .event .requestSave,
      .event (.fire 900)]

theorem perform_load_sampleStore {e : Editor} (hstore : e.store = sampleStore) :
    e.perform (.load sampleDocument {}) =
      (e.step (.read sampleDocument {})).finishLoad e.reads.length := by
  simp only [perform, step, load, Editor.read, hstore, load_sampleStore]
  rfl

theorem length_commands_sampleOperations :
    (sampleEditor.performAll sampleOperations).commands.length = 6 := by
  have hload := perform_load_sampleStore (e := sampleEditor.performAll sampleStart) rfl
  rw [read_sampleStore rfl] at hload
  rw [sampleOperations, performAll_append, performAll, List.foldl_cons, hload]
  rfl

theorem preview_follows_sampleOperations :
    ∃ after, sampleEditor.performAll
        (sampleOperations ++ [3, 4, 5, 6, 7, 8].map fun now => .event (.deliver now)) = after ∧
      after.commands = [] ∧
      Tree.unsigned after.preview.body = Tree.unsigned after.session.body ∧
      after.preview.artifact = after.session.handler.name ∧
      after.preview.target = .ofLanguage .rust := by
  obtain ⟨target, -, hfollows⟩ := preview_follows_session {} sampleStore sampleDocument {} {}
    sampleEditor openDocument_sampleStore
  have hidle := (hfollows sampleOperations).2 [3, 4, 5, 6, 7, 8]
    (by rw [length_commands_sampleOperations]; decide)
  exact ⟨_, rfl, hidle, (hfollows _).1 hidle⟩

end Editor

end HandlerStudio
