import ExactCover.Proofs.Configuration.ForcedSquares

/-!
# Calls that change a configuration

A configuration is held twice: as the document of an open configuration, and as the file on disk. A call
changes a section of the document and writes the file. First it makes the section if it is missing, then
it works out what the section becomes, and only then it writes (`amend`). So there are two ways through a
call. If the new section cannot be worked out, the call fails, and all that is left of it is the section
that was made (`amend_of_error`). Otherwise the section is set and the file holds the page of the document
(`amend_of_ok`).

A call that sets a setting can only fail in a section that was there already, so it leaves nothing
behind. A call that stores squares checks them after it has made their section. Over a run of calls the
open document is therefore either what the file holds or the same with an empty section of forced squares
(`Follows`), and the next call that succeeds brings the two together again. Main statement:
`calls_keep_file`, and `failed_call_leaves_section` on the other side.
-/

set_option autoImplicit false

namespace ExactCover.Configuration

/-! ## One call -/

/-- A section among the fields of a document; it is empty if it is missing. -/
def sectionIn (fields : Fields) (name : String) : Value := (Entries.get? fields name).getD (.object [])

/-- The fields of a document in which a section was made if it was missing. -/
def opened (fields : Fields) (name : String) : Fields :=
  if (Entries.get? fields name).isSome then fields else Entries.set fields name (.object [])

/-- Makes a section, works out what becomes of it, and writes the file. -/
def amend (name : String) (change : Value → Except Mismatch Value) : EditM Unit := do
  let (name, found, fields) ← check (withSection (← current) (.text name))
  setDocument (.object fields)
  let changed ← check (change found)
  setDocument (.object (Entries.set fields name changed))
  save

/-- What becomes of a section when the squares of a board size are stored in it. -/
def storeSquares (size squares found : Value) : Except Mismatch Value := do
  let squares ← (do (← squares.items).mapM integerSquare : Except Mismatch (List Value))
  assign found (.text size.display) (.list squares)

/-- The line that tells that squares were stored. -/
def storedLine (size : Value) (file : String) : String :=
  "Partial solution for N=" ++ size.display ++ " saved to " ++ file

theorem opened_of_present {fields : Fields} {name : String}
    (present : (Entries.get? fields name).isSome = true) : opened fields name = fields :=
  if_pos present

theorem sectionIn_of_missing {fields : Fields} {name : String} (missing : Entries.get? fields name = none) :
    sectionIn fields name = .object [] := by
  rw [sectionIn, missing]
  rfl

/-- A section that was made is there. -/
theorem isSome_get?_opened (fields : Fields) (name : String) :
    (Entries.get? (opened fields name) name).isSome = true := by
  by_cases present : (Entries.get? fields name).isSome = true
  · rw [opened_of_present present, present]
  · rw [opened, if_neg present, Entries.get?_set_same (by simp)]
    rfl

/-- A section is made once. -/
theorem opened_opened (fields : Fields) (name : String) :
    opened (opened fields name) name = opened fields name :=
  opened_of_present (isSome_get?_opened fields name)

/-- Setting a section is the same before and after it was made. -/
theorem set_opened (fields : Fields) (name : String) (changed : Value) :
    Entries.set (opened fields name) name changed = Entries.set fields name changed := by
  unfold opened
  split
  · rfl
  · exact Entries.set_set (by simp) _ changed

theorem withSection_eq (fields : Fields) (name : String) :
    withSection (.object fields) (.text name) =
      .ok (.text name, sectionIn fields name, opened fields name) := by
  simp only [withSection, Value.fields, Key.ofValue, bind, Except.bind, pure, Except.pure, sectionIn,
    opened]
  cases Entries.get? fields name <;> rfl

section

variable {session : Session} {file text name : String} {fields : Fields}
  {change : Value → Except Mismatch Value}

/-- **A change that cannot be worked out** leaves the section behind, and nothing is written. -/
theorem amend_of_error {mismatch : Mismatch} (fails : change (sectionIn fields name) = .error mismatch) :
    amend name change ⟨session, file, .object fields⟩ =
      .error (.unsuitable mismatch) ⟨session, file, .object (opened fields name)⟩ := by
  refine (bind_of_ok (rfl : current _ = .ok (.object fields) _)).trans ?_
  refine (bind_of_ok (check_of_ok (withSection_eq fields name) _)).trans ?_
  refine (bind_of_ok (rfl : setDocument (.object (opened fields name)) _ = .ok () _)).trans ?_
  rw [fails]
  rfl

/-- **A change that is worked out** is written, where the file could be read. -/
theorem amend_of_ok (found : session.files.read file = .ok text) {changed : Value}
    (succeeds : change (sectionIn fields name) = .ok changed) :
    ∃ files, amend name change ⟨session, file, .object fields⟩ =
        .ok () ⟨{ session with files := files }, file, .object (Entries.set fields name changed)⟩ ∧
      files.read file = .ok (Json.page (.object (Entries.set fields name changed))) := by
  obtain ⟨files, saved, holds⟩ := save_of_read found (.object (Entries.set fields name changed))
  refine ⟨files, ?_, holds⟩
  refine (bind_of_ok (rfl : current _ = .ok (.object fields) _)).trans ?_
  refine (bind_of_ok (check_of_ok (withSection_eq fields name) _)).trans ?_
  refine (bind_of_ok (rfl : setDocument (.object (opened fields name)) _ = .ok () _)).trans ?_
  refine (bind_of_ok (check_of_ok succeeds _)).trans ?_
  rw [set_opened]
  exact (bind_of_ok (rfl : setDocument (.object (Entries.set fields name changed)) _ = .ok () _)).trans saved

end

/-- A setting is set by changing its section. -/
theorem updateSetting_eq (name key : String) (value : Value) :
    updateSetting (.text name) (.text key) value =
      amend name fun found => assign found (.text key) value := rfl

/-- Checks one after the other. -/
theorem check_bind {α β : Type} (result : Except Mismatch α) (next : α → Except Mismatch β) :
    check (result >>= next) = check result >>= fun answer => check (next answer) := by
  cases result <;> rfl

/-- Squares are stored by changing their section, and then it is told. -/
theorem saveForced_eq (size squares : Value) :
    saveForced size squares = (do
      amend "partial_solutions" (storeSquares size squares)
      onSession (Session.say (storedLine size (← get).configuration.path))) := by
  unfold saveForced amend
  simp only [bind_assoc]
  refine congrArg (bind current) (funext fun document => ?_)
  refine congrArg (bind (check (withSection document (.text "partial_solutions"))))
    (funext fun ⟨name, found, fields⟩ => ?_)
  simp only [bind_assoc, storeSquares, check_bind]
  rfl

/-! ## Calls -/

/-- A call that changes a configuration. -/
inductive Edit where
  /-- Sets a setting in a section. -/
  | setting (name key : String) (value : Value)
  /-- Stores the squares with forced queens for a board size. -/
  | forced (size : Int) (squares : List Value)

namespace Edit

/-- Carries out a call. -/
def perform : Edit → EditM Unit
  | .setting name key value => updateSetting (.text name) (.text key) value
  | .forced size squares => saveForced (.int size) (.list squares)

/-- The section that a call changes. -/
def name : Edit → String
  | .setting name _ _ => name
  | .forced _ _ => "partial_solutions"

/-- What becomes of the section. -/
def change : Edit → Value → Except Mismatch Value
  | .setting _ key value, found => assign found (.text key) value
  | .forced size squares, found => storeSquares (.int size) (.list squares) found

/-- What is left of the document by a call that fails: squares leave the section that was made for
them. -/
def leaves : Edit → Fields → Fields
  | .setting _ _ _, fields => fields
  | .forced _ _, fields => opened fields "partial_solutions"

section

variable {session : Session} {file text : String} {fields : Fields} {edit : Edit}

/-- **A call whose change cannot be worked out** fails, and the file stays as it is. -/
theorem perform_of_error {mismatch : Mismatch}
    (fails : edit.change (sectionIn fields edit.name) = .error mismatch) :
    edit.perform ⟨session, file, .object fields⟩ =
      .error (.unsuitable mismatch) ⟨session, file, .object (edit.leaves fields)⟩ := by
  cases edit with
  | setting name key value =>
      -- A section that was just made takes any setting, so this one was there.
      have present : (Entries.get? fields name).isSome = true := by
        refine Option.isSome_iff_ne_none.2 fun missing => ?_
        rw [change, Edit.name, sectionIn_of_missing missing] at fails
        cases fails
      have failed := @amend_of_error session file name fields
        (fun found => assign found (.text key) value) mismatch fails
      rw [perform, updateSetting_eq]
      rwa [opened_of_present present] at failed
  | forced size squares =>
      rw [perform, saveForced_eq]
      exact bind_of_error (amend_of_error fails)

/-- **A call whose change is worked out** succeeds, and the file holds the page of the document. -/
theorem perform_of_ok (found : session.files.read file = .ok text) {changed : Value}
    (succeeds : edit.change (sectionIn fields edit.name) = .ok changed) :
    ∃ after, edit.perform ⟨session, file, .object fields⟩ =
        .ok () ⟨after, file, .object (Entries.set fields edit.name changed)⟩ ∧
      after.files.read file = .ok (Json.page (.object (Entries.set fields edit.name changed))) := by
  obtain ⟨files, amended, holds⟩ := amend_of_ok found succeeds
  cases edit with
  | setting name key value =>
      rw [perform, updateSetting_eq]
      exact ⟨_, amended, holds⟩
  | forced size squares =>
      rw [perform, saveForced_eq]
      exact ⟨_, bind_of_ok amended, holds⟩

end

/-- What a call does to an open document and to the file: either the section is changed in both, or the
call fails, the session is as it was, and the document is what the call leaves of it. -/
def Accounts (edit : Edit) (session : Session) (file : String) (fields : Fields) : Prop :=
  (∃ changed after, edit.change (sectionIn fields edit.name) = .ok changed ∧
      edit.perform ⟨session, file, .object fields⟩ =
        .ok () ⟨after, file, .object (Entries.set fields edit.name changed)⟩ ∧
      readDocument file after = .ok (.object (Entries.set fields edit.name changed)) after) ∨
    ∃ mismatch, edit.change (sectionIn fields edit.name) = .error mismatch ∧
      edit.perform ⟨session, file, .object fields⟩ =
        .error (.unsuitable mismatch) ⟨session, file, .object (edit.leaves fields)⟩

/-- The configuration after a call, whether it succeeds or fails. -/
def next (edit : Edit) (before : Editing) : Editing :=
  match edit.perform before with
  | .ok _ after => after
  | .error _ after => after

end Edit

/-- The calls of a run, each with the configuration that it finds. -/
def calls : List Edit → Editing → List (Edit × Editing)
  | [], _ => []
  | edit :: edits, before => (edit, before) :: calls edits (edit.next before)

/-- The open document is the one that the file holds, or the same with a section of forced squares that
was made and has not been written yet. -/
def Follows (current saved : Fields) : Prop := current = saved ∨ current = opened saved "partial_solutions"

/-- What a call leaves behind still follows the file. -/
theorem Follows.leaves {current saved : Fields} (follows : Follows current saved) (edit : Edit) :
    Follows (edit.leaves current) saved := by
  cases edit with
  | setting name key value => exact follows
  | forced size squares =>
      refine .inr ?_
      rcases follows with rfl | rfl
      · rfl
      · exact opened_opened saved "partial_solutions"

variable {file : String} {current saved : Fields}

/-- **One call** that finds the document following the file: what it does, and that the document follows
the file afterwards. -/
theorem Edit.next_of_follows {session : Session} (edit : Edit) (follows : Follows current saved)
    (holds : readDocument file session = .ok (.object saved) session)
    (readsBack : ∀ after, edit.perform ⟨session, file, .object current⟩ = .ok () after →
      ReadsBack after.configuration.document) :
    edit.Accounts session file current ∧
      ∃ after now kept, edit.next ⟨session, file, .object current⟩ = ⟨after, file, .object now⟩ ∧
        readDocument file after = .ok (.object kept) after ∧ Follows now kept := by
  obtain ⟨-, text, found, -⟩ := readDocument_eq_ok_iff.1 holds
  cases worked : edit.change (sectionIn current edit.name) with
  | error mismatch =>
      have fails := @Edit.perform_of_error session file current edit mismatch worked
      refine ⟨.inr ⟨mismatch, worked, fails⟩, session, edit.leaves current, saved, ?_, holds,
        follows.leaves edit⟩
      rw [Edit.next, fails]
  | ok changed =>
      obtain ⟨after, succeeds, holdsNow⟩ := Edit.perform_of_ok found worked
      have back : ReadsBack (.object (Entries.set current edit.name changed)) :=
        readsBack ⟨after, file, _⟩ succeeds
      have reads : readDocument file after = .ok (.object (Entries.set current edit.name changed)) after :=
        readDocument_eq_ok_iff.2 ⟨rfl, _, holdsNow, back⟩
      refine ⟨.inl ⟨changed, after, worked, succeeds, reads⟩, after, _, _, ?_, reads, .inl rfl⟩
      rw [Edit.next, succeeds]

/-- **All calls of a run**, each of which finds the document following the file. -/
theorem accounts_of_calls {session : Session} (edits : List Edit) (follows : Follows current saved)
    (holds : readDocument file session = .ok (.object saved) session)
    (readsBack : ∀ call ∈ calls edits ⟨session, file, .object current⟩, ∀ after,
      call.1.perform call.2 = .ok () after → ReadsBack after.configuration.document) :
    ∀ call ∈ calls edits ⟨session, file, .object current⟩, ∃ before now kept,
      call.2 = ⟨before, file, .object now⟩ ∧ readDocument file before = .ok (.object kept) before ∧
        Follows now kept ∧ call.1.Accounts before file now := by
  induction edits generalizing session current saved with
  | nil => simp [calls]
  | cons edit edits ih =>
      obtain ⟨first, others⟩ := List.forall_mem_cons.1 readsBack
      obtain ⟨accounts, after, now, kept, goesOn, holdsNow, followsNow⟩ :=
        edit.next_of_follows follows holds first
      rw [goesOn] at others
      rw [calls, goesOn]
      exact List.forall_mem_cons.2 ⟨⟨session, current, saved, rfl, holds, follows, accounts⟩,
        ih followsNow holdsNow others⟩

/-- **Calls keep an open configuration and its file together**, up to a section that a failed call has
made. Whatever calls are made on a configuration that was opened, each of them finds a document that is
the one in the file, or the same with an empty section of forced squares. If what becomes of its section
can be worked out, the call succeeds, the section is changed, and the file holds the whole document.
Otherwise it fails, nothing is written or printed, and the document is as it was; but if the squares of a
board size were to be stored and there was no section for them, there is an empty one from then on.

Every document that is written must be read back from its page. -/
theorem calls_keep_file {path : Value} {session ready : Session} {fields : Fields}
    (opens : load path session = .ok ⟨file, .object fields⟩ ready) (edits : List Edit)
    (readsBack : ∀ call ∈ calls edits ⟨ready, file, .object fields⟩, ∀ after,
      call.1.perform call.2 = .ok () after → ReadsBack after.configuration.document) :
    ∀ call ∈ calls edits ⟨ready, file, .object fields⟩, ∃ before current saved,
      call.2 = ⟨before, file, .object current⟩ ∧ readDocument file before = .ok (.object saved) before ∧
        Follows current saved ∧ call.1.Accounts before file current := by
  obtain ⟨rfl, -, text, found, isDocument⟩ := load_eq_ok_iff.1 opens
  have holds : readDocument file ready = .ok (.object fields) ready :=
    readDocument_eq_ok_iff.2 ⟨rfl, text, found, isDocument⟩
  exact accounts_of_calls edits (.inl rfl) holds readsBack

/-- A document without sections is read back. -/
theorem readsBack_empty : ReadsBack (.object []) := by
  refine readsBack_of_letters ?_
  conv in String.toList _ => cbv
  rfl

/-- A call that stores a square without a file. -/
def halfSquare : Edit := .forced 4 [.list [.int 1]]

theorem halfSquare_fails (session : Session) (file : String) :
    halfSquare.perform ⟨session, file, .object []⟩ =
      .error (.unsuitable (.tooFewParts 1)) ⟨session, file, .object [("partial_solutions", .object [])]⟩ :=
  Edit.perform_of_error rfl

/-- The section that was made by a failed call is written by the next call. -/
theorem calls_keep_file_late :
    load (.text "config.json") (sessionWith (.object [])) =
        .ok ⟨"config.json", .object []⟩ (sessionWith (.object [])) ∧
      ∀ call ∈ calls [halfSquare, .setting "search_settings" "seed" (.int 7)]
          ⟨sessionWith (.object []), "config.json", .object []⟩, ∃ before current saved,
        call.2 = ⟨before, "config.json", .object current⟩ ∧
          readDocument "config.json" before = .ok (.object saved) before ∧
          Follows current saved ∧ call.1.Accounts before "config.json" current := by
  have opens := load_sessionWith readsBack_empty
  obtain ⟨-, -, text, found, -⟩ := load_eq_ok_iff.1 opens
  refine ⟨opens, calls_keep_file opens _ ?_⟩
  rw [calls, calls, calls, Edit.next, halfSquare_fails]
  refine List.forall_mem_cons.2 ⟨fun after succeeds => ?_, List.forall_mem_singleton.2 fun after succeeds => ?_⟩
  · rw [halfSquare_fails] at succeeds
    cases succeeds
  · obtain ⟨last, sets, -⟩ := @Edit.perform_of_ok _ _ _ [("partial_solutions", .object [])]
      (.setting "search_settings" "seed" (.int 7)) found (.object [("seed", .int 7)]) rfl
    obtain rfl : after = _ := by
      have := succeeds.symm.trans sets
      injection this
    refine readsBack_of_letters ?_
    conv in String.toList _ => cbv
    rfl

/-- **A call that fails may leave a section behind.** The file holds a document without sections. Storing
a square without a file fails, and afterwards the open document has a section of forced squares that the
file does not have. -/
theorem failed_call_leaves_section :
    ∃ failure after,
      saveForced (.int 4) (.list [.list [.int 1]])
          ⟨sessionWith (.object []), "config.json", .object []⟩ = .error failure after ∧
        after.configuration.document = .object [("partial_solutions", .object [])] ∧
        readDocument "config.json" after.session = .ok (.object []) after.session ∧
        Value.object [] ≠ .object [("partial_solutions", .object [])] := by
  obtain ⟨-, -, text, found, isDocument⟩ := load_eq_ok_iff.1 (load_sessionWith readsBack_empty)
  refine ⟨_, _, halfSquare_fails _ _, rfl, readDocument_eq_ok_iff.2 ⟨rfl, text, found, isDocument⟩, ?_⟩
  intro same
  cases same

end ExactCover.Configuration
