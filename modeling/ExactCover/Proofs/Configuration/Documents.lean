import ExactCover.Configuration.Basic
import ExactCover.Proofs.Arena.Web

/-!
# Opening and saving documents

A configuration opens if its path is a text, a file can be read there, and the text of the file is a
document; opening changes nothing (`load_eq_ok_iff`). Where a file was read, a file can be written
(`exists_write_of_read`), so a configuration that was opened can be saved, and the file then holds the
page of its document (`save_of_read`).

What is opened afterwards is what reading makes of that page. It is the document that was saved if the
document is read back from its page (`ReadsBack`).
-/

set_option autoImplicit false

namespace ExactCover

namespace FileTree

variable {tree : FileTree} {path text : String}

/-- What is found stands at the place of the path. -/
theorem find_eq_ok_iff {place : List String} {entry : FileEntry} :
    tree.find path = .ok (place, entry) ↔ tree.locate path = .ok place ∧ tree.at? place = some entry := by
  unfold find
  cases tree.locate path with
  | error problem => simp [bind, Except.bind]
  | ok other =>
      simp only [bind, Except.bind, Except.ok.injEq]
      cases seen : tree.at? other with
      | none =>
          constructor
          · intro found
            cases found
          · rintro ⟨rfl, isEntry⟩
            rw [seen] at isEntry
            cases isEntry
      | some held =>
          constructor
          · intro found
            cases found
            exact ⟨rfl, seen⟩
          · rintro ⟨rfl, isEntry⟩
            rw [seen] at isEntry
            cases isEntry
            rfl

/-- What is read is a file that is found. -/
theorem exists_find_of_read (found : tree.read path = .ok text) :
    ∃ place, tree.find path = .ok (place, .file text) := by
  unfold read at found
  split at found
  next place held isFile =>
    cases found
    exact ⟨place, isFile⟩
  next => cases found
  next => cases found

/-- A place that is reached is the one that the parts lead to. -/
theorem follow_of_reach {parts place : List String} (reached : tree.reach path parts = .ok place) :
    tree.follow path parts = .ok place := by
  unfold reach at reached
  split at reached
  · cases reached
  · cases followed : tree.follow path parts with
    | error problem =>
        rw [followed] at reached
        cases reached
    | ok other =>
        rw [followed] at reached
        cases reached
        rfl

/-- A path that ends with a slash leads to a directory. -/
theorem follow_directory {parts place : List String}
    (followed : tree.follow path (parts ++ ["."]) = .ok place) : tree.at? place = some .directory := by
  unfold follow at followed
  split at followed
  · cases followed
  · split at followed
    · cases followed
    · simp only [List.foldlM_append, List.foldlM_cons, List.foldlM_nil, bind_pure] at followed
      cases inner : parts.foldlM tree.enter [] with
      | error problem =>
          rw [inner] at followed
          cases followed
      | ok before =>
          rw [inner] at followed
          have entered : tree.enter before "." = .ok place := followed
          unfold enter at entered
          split at entered
          · cases entered
          · cases entered
          next isDirectory =>
            cases entered
            exact isDirectory

/-- What is read is a file at the place of the path, and the path does not end with a slash. -/
theorem exists_place_of_read (found : tree.read path = .ok text) :
    path.toList.getLast? ≠ some '/' ∧
      ∃ place, tree.locate path = .ok place ∧ tree.at? place = some (.file text) := by
  obtain ⟨place, isFound⟩ := exists_find_of_read found
  obtain ⟨located, seen⟩ := find_eq_ok_iff.1 isFound
  refine ⟨fun slash => ?_, place, located, seen⟩
  rw [locate, if_pos slash] at located
  have isDirectory := follow_directory (follow_of_reach located)
  rw [seen] at isDirectory
  cases isDirectory

/-- **Where a file was read a file can be written.** -/
theorem exists_write_of_read (found : tree.read path = .ok text) (new : String) :
    ∃ after, tree.write path new = .ok after := by
  obtain ⟨noSlash, place, located, seen⟩ := exists_place_of_read found
  refine ⟨Entries.set tree place (.file new), ?_⟩
  rw [write, if_neg noSlash, located]
  simp only [seen]

/-- What can be read is present. -/
theorem probe_of_read (found : tree.read path = .ok text) : tree.probe path = .ok true := by
  obtain ⟨place, isFound⟩ := exists_find_of_read found
  rw [probe, isFound]

end FileTree

namespace Configuration

/-- What reading makes of the text of a file. -/
def readPage (text : String) : Except Json.Fault Value :=
  Json.read room (String.ofList (Text.withLineFeeds text.toList))

/-- Whether a document is read back from the page that is written for it. -/
def ReadsBack (document : Value) : Prop := readPage (Json.page document) = .ok document

variable {path : Value} {file : String} {session after : Session} {configuration : Configuration}

/-- What a failing question gives fails. -/
theorem lift_eq_ok_iff {ε α : Type} {wrap : ε → Failure} {result : Except ε α} {answer : α} :
    Session.lift wrap result session = .ok answer after ↔ result = .ok answer ∧ after = session := by
  cases result with
  | error problem =>
      constructor
      · intro succeeds
        cases succeeds
      · rintro ⟨succeeds, -⟩
        cases succeeds
  | ok found => simp [Session.lift, pure, EStateM.pure, eq_comm]

/-- A document is read from the text of a file that is there. -/
theorem readDocument_eq_ok_iff {document : Value} :
    readDocument file session = .ok document after ↔
      after = session ∧ ∃ text, session.files.read file = .ok text ∧ readPage text = .ok document := by
  constructor
  · intro succeeds
    obtain ⟨isThere, between, asked, onward⟩ := of_bind succeeds
    obtain ⟨-, rfl⟩ := lift_eq_ok_iff.1 asked
    cases isThere with
    | false => cases onward
    | true =>
        rw [if_pos rfl] at onward
        obtain ⟨characters, between, read, parsed⟩ := of_bind onward
        obtain ⟨held, _, asked, read⟩ := of_bind read
        cases asked
        obtain ⟨text, _, asked, same⟩ := of_bind read
        obtain ⟨found, rfl⟩ := lift_eq_ok_iff.1 asked
        cases same
        obtain ⟨isDocument, rfl⟩ := lift_eq_ok_iff.1 parsed
        exact ⟨rfl, text, found, isDocument⟩
  · rintro ⟨rfl, text, found, parsed⟩
    have present : isPresent file after = .ok true after :=
      lift_eq_ok_iff.2 ⟨FileTree.probe_of_read found, rfl⟩
    have text' : Session.lift .file (after.files.read file) after = .ok text after :=
      lift_eq_ok_iff.2 ⟨found, rfl⟩
    have read : Session.readFile file after = .ok (Text.withLineFeeds text.toList) after :=
      bind_of_ok text'
    refine (bind_of_ok present).trans ?_
    rw [if_pos rfl]
    exact (bind_of_ok read).trans (lift_eq_ok_iff.2 ⟨parsed, rfl⟩)

/-- **A configuration opens** if its path is that of a file whose text is a document. -/
theorem load_eq_ok_iff :
    load path session = .ok configuration after ↔
      after = session ∧ pathOf path = .ok configuration.path ∧
        ∃ text, session.files.read configuration.path = .ok text ∧
          readPage text = .ok configuration.document := by
  constructor
  · intro succeeds
    obtain ⟨file, between, checked, onward⟩ := of_bind succeeds
    obtain ⟨named, rfl⟩ := lift_eq_ok_iff.1 checked
    obtain ⟨document, middle, read, same⟩ := of_bind onward
    obtain ⟨rfl, text, found, parsed⟩ := readDocument_eq_ok_iff.1 read
    cases same
    exact ⟨rfl, named, text, found, parsed⟩
  · rintro ⟨rfl, named, text, found, parsed⟩
    refine (bind_of_ok (lift_eq_ok_iff.2 ⟨named, rfl⟩)).trans ?_
    exact bind_of_ok (readDocument_eq_ok_iff.2 ⟨rfl, text, found, parsed⟩)

/-- **Saving writes the page of the document**, where the file could be read. -/
theorem save_of_read {text : String} (found : session.files.read file = .ok text) (document : Value) :
    ∃ files, save ⟨session, file, document⟩ =
        .ok () ⟨{ session with files := files }, file, document⟩ ∧
      files.read file = .ok (Json.page document) := by
  obtain ⟨files, written⟩ := FileTree.exists_write_of_read found (Json.page document)
  refine ⟨files, ?_, FileTree.read_write written⟩
  have wrote : Session.writeFile file (Json.page document) session =
      .ok () { session with files := files } :=
    (bind_of_ok (lift_eq_ok_iff.2 ⟨written, rfl⟩ : Session.lift .file _ session = _))
  have saved : onSession (Session.writeFile file (Json.page document)) ⟨session, file, document⟩ =
      .ok () ⟨{ session with files := files }, file, document⟩ := by
    rw [onSession, wrote]
  exact saved

end Configuration

end ExactCover
