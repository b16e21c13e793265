import Mathlib.Data.List.Induction
import Mathlib.Data.List.Permutation
import ExactCover.Experiment.Runs
import ExactCover.Proofs.Configuration.Documents
import ExactCover.Proofs.Text.Numerals

/-!
# Forced squares in a configuration

The squares with forced queens stand in a section of the document, with an entry for each board size.
The names of the entries are texts, and a text is read as the board size that it denotes. Two texts may
denote one size, such as `8` and `08`. Then the later entry counts (`get?_ofList`).

Saving the squares of a size does not look for the entry that counts. It sets the entry whose name is the
printed form of the size, which keeps its place if it is there (`set_cases`). So what is saved counts from
then on, unless a later entry denotes the same size by another text (`isShadowed`): then that entry still
counts, and what was saved is never read (`saved_squares_overlooked`). In a section with one name for each
size this cannot happen (`isShadowed_eq_false`).

Main statement: `saved_squares_are_read`.
-/

set_option autoImplicit false

namespace ExactCover

/-! ## Entries -/

namespace Entries

variable {κ κ' α : Type} [BEq κ] [BEq κ']

/-- **What is set goes to the end**, or it takes the place of what was there. -/
theorem set_cases (entries : Entries κ α) (key : κ) (value : α) :
    ((∀ entry ∈ entries, (entry.1 == key) = false) ∧
      set entries key value = entries ++ [(key, value)]) ∨
    ∃ front known old back, entries = front ++ (known, old) :: back ∧ (known == key) = true ∧
      (∀ entry ∈ front, (entry.1 == key) = false) ∧
      set entries key value = front ++ (known, value) :: back := by
  induction entries with
  | nil => exact .inl ⟨by simp, rfl⟩
  | cons entry entries ih =>
      obtain ⟨first, old⟩ := entry
      by_cases same : (first == key) = true
      · refine .inr ⟨[], first, old, entries, rfl, same, by simp, ?_⟩
        rw [set, if_pos same]
        rfl
      · have apart : (first == key) = false := Bool.eq_false_iff.2 same
        rw [set, if_neg same]
        rcases ih with ⟨none', atEnd⟩ | ⟨front, known, old', back, rfl, found, before, inPlace⟩
        · exact .inl ⟨List.forall_mem_cons.2 ⟨apart, none'⟩, by rw [atEnd, List.cons_append]⟩
        · exact .inr ⟨(first, old) :: front, known, old', back, rfl, found,
            List.forall_mem_cons.2 ⟨apart, before⟩, by rw [inPlace, List.cons_append]⟩

/-- Of two values that are set for a key the second one stays. -/
theorem set_set {entries : Entries κ α} {key : κ} (equalsItself : (key == key) = true) (old value : α) :
    set (set entries key old) key value = set entries key value := by
  induction entries with
  | nil => rw [set, set, set, if_pos equalsItself]
  | cons entry entries ih =>
      obtain ⟨first, held⟩ := entry
      by_cases same : (first == key) = true
      · rw [set, if_pos same, set, if_pos same, set, if_pos same]
      · rw [set, if_neg same, set, if_neg same, set, if_neg same, ih]

/-- **Of two pairs with one key the later one counts.** -/
theorem get?_ofList [LawfulBEq κ] (pairs : List (κ × α)) (key : κ) :
    get? (ofList pairs) key = pairs.reverse.lookup key := by
  induction pairs using List.reverseRecOn with
  | nil => rfl
  | append_singleton pairs pair ih =>
      obtain ⟨last, value⟩ := pair
      rw [ofList, List.foldl_concat, List.reverse_concat, List.lookup_cons]
      by_cases same : key = last
      · subst same
        rw [get?_set_same (beq_self_eq_true key), beq_self_eq_true]
      · rw [get?_set_other same, beq_false_of_ne same]
        exact ih

section

variable {embed : κ → κ'} (same : ∀ one other, (embed one == embed other) = (one == other))
include same

/-- Keys may be told in another way. -/
theorem get?_map (entries : Entries κ α) (key : κ) :
    get? (entries.map (Prod.map embed id)) (embed key) = get? entries key := by
  induction entries with
  | nil => rfl
  | cons entry entries ih =>
      rw [List.map_cons, Prod.map, get?, get?, same, ih]
      rfl

theorem set_map (entries : Entries κ α) (key : κ) (value : α) :
    set (entries.map (Prod.map embed id)) (embed key) value =
      (set entries key value).map (Prod.map embed id) := by
  induction entries with
  | nil => rfl
  | cons entry entries ih =>
      rw [List.map_cons, Prod.map, set, set, same, ih]
      split <;> rfl

theorem ofList_map (pairs : List (κ × α)) :
    ofList (pairs.map (Prod.map embed id)) = (ofList pairs).map (Prod.map embed id) := by
  induction pairs using List.reverseRecOn with
  | nil => rfl
  | append_singleton pairs pair ih =>
      have concat : ∀ {key : Type} [BEq key] (front : List (key × α)) (last : key × α),
          ofList (front ++ [last]) = set (ofList front) last.1 last.2 := fun front last =>
        List.foldl_concat ..
      rw [List.map_append, List.map_singleton, concat, concat, ih, Prod.map, set_map same]
      rfl

end

end Entries

/-- A key that is one with a name is that name. -/
theorem Key.eq_text_of_beq {key : Key} {name : String} (same : (key == .text name) = true) :
    key = .text name := by
  cases key with
  | text characters => rw [eq_of_beq ((Key.text_beq characters name).symm.trans same)]
  | null => cases same
  | bool flag => cases same
  | int number => cases same
  | float number => cases same

namespace Configuration

/-! ## Reading the section -/

/-- A section of forced squares as it should be: every name denotes an integer, and every square is a
pair of whole numbers. -/
def WellFormed (entries : Fields) : Prop :=
  ∀ entry ∈ entries, (∃ size, entry.1.toValue.toInteger = .ok size) ∧
    ∃ squares, entry.2.items = .ok squares ∧ ∀ square ∈ squares, ∃ rank file,
      square = .list [rank, file] ∧ rank.isWhole = true ∧ file.isWhole = true

/-- The board size that a name denotes. -/
def sizeOf? (name : Key) : Option Int := name.toValue.toInteger.toOption

/-- An entry as it is read: the board size and its squares. -/
def reading (entry : Key × Value) : Int × Value :=
  ((sizeOf? entry.1).getD 0, .list (entry.2.items.toOption.getD []))

/-- Whether the entry whose name is the printed form of a board size is followed by another one that
denotes the size. -/
def isShadowed (entries : Fields) (size : Int) : Bool :=
  (entries.dropWhile fun entry => !(entry.1 == .text (toString size))).tail.any fun entry =>
    sizeOf? entry.1 = some size

variable {entries : Fields}

theorem sizeOf?_of_wellFormed (wellFormed : WellFormed entries) {entry : Key × Value}
    (inside : entry ∈ entries) : sizeOf? entry.1 = some (reading entry).1 := by
  obtain ⟨⟨size, read⟩, -⟩ := wellFormed entry inside
  rw [reading, sizeOf?, read]
  rfl

/-- A well-formed entry is read. -/
theorem forcedOf_of_wellFormed (wellFormed : WellFormed entries) {entry : Key × Value}
    (inside : entry ∈ entries) :
    forcedOf entry.1 entry.2 = .ok (.int (reading entry).1, (reading entry).2) := by
  obtain ⟨⟨size, denotes⟩, squares, items, pairs⟩ := wellFormed entry inside
  have checked : squares.mapM (squareOf entry.1) = .ok (squares.map id) :=
    mapM_of_ok fun square isSquare => by
      obtain ⟨rank, file, rfl, wholeRank, wholeFile⟩ := pairs square isSquare
      simp [squareOf, Configuration.isSquare, Value.length, Value.items, wholeRank, wholeFile, bind,
        Except.bind, pure, Except.pure, Except.mapError]
  rw [List.map_id] at checked
  simp only [forcedOf, items, Except.mapError, bind, Except.bind, checked, denotes, pure, Except.pure,
    reading, sizeOf?, Except.toOption, Option.getD_some]

/-- **A well-formed section is read**, and of two entries for one board size the later one counts. -/
theorem forcedQueens_of_wellFormed {document : Value} (wellFormed : WellFormed entries)
    (isSection : sectionOf document "partial_solutions" = .ok (.object entries)) :
    ∃ forced, forcedQueens document = .ok forced ∧ ∀ size : Int,
      Entries.get? forced (.int size) = (entries.map reading).reverse.lookup size := by
  have same : ∀ one other : Int, ((Key.int one == Key.int other) : Bool) = (one == other) :=
    fun one other => by rw [Key.int_beq, beq_eq_decide]
  have all : entries.mapM (fun entry => forcedOf entry.1 entry.2) =
      .ok ((entries.map reading).map (Prod.map Key.int id)) := by
    rw [List.map_map]
    exact mapM_of_ok fun entry inside => forcedOf_of_wellFormed wellFormed inside
  refine ⟨(Entries.ofList (entries.map reading)).map (Prod.map .int id), ?_, fun size => ?_⟩
  · simp only [forcedQueens, isSection, Except.mapError, bind, Except.bind, Value.fields, pure,
      Except.pure] at all ⊢
    rw [all]
    simp only [Entries.ofList_map same]
  · rw [Entries.get?_map same, Entries.get?_ofList]

/-- A size has squares if some entry denotes it. -/
theorem lookup_readings_isSome_iff {size : Int} :
    ((entries.map reading).reverse.lookup size).isSome = true ↔
      ∃ entry ∈ entries, (reading entry).1 = size := by
  rw [List.lookup_isSome_iff]
  constructor
  · rintro ⟨_, inside, denotes⟩
    obtain ⟨entry, isEntry, rfl⟩ := List.mem_map.1 (List.mem_reverse.1 inside)
    exact ⟨entry, isEntry, (eq_of_beq denotes).symm⟩
  · rintro ⟨entry, isEntry, rfl⟩
    exact ⟨reading entry, List.mem_reverse.2 (List.mem_map.2 ⟨entry, isEntry, rfl⟩), beq_self_eq_true _⟩

/-! ## Setting an entry -/

/-- An entry that is new has none behind it. -/
theorem isShadowed_of_new {size : Int}
    (isNew : ∀ entry ∈ entries, (entry.1 == .text (toString size)) = false) :
    isShadowed entries size = false := by
  rw [isShadowed, List.dropWhile_eq_nil_iff.2 fun entry inside => by rw [isNew entry inside]; rfl]
  rfl

/-- An entry that is there already is shadowed by those behind it that denote its size. -/
theorem isShadowed_append {size : Int} {front back : Fields} (wellFormed : WellFormed back)
    (before : ∀ entry ∈ front, (entry.1 == .text (toString size)) = false) (old : Value) :
    isShadowed (front ++ (.text (toString size), old) :: back) size = true ↔
      ∃ entry ∈ back, (reading entry).1 = size := by
  have rest : isShadowed (front ++ (.text (toString size), old) :: back) size =
      back.any fun entry => sizeOf? entry.1 = some size := by
    rw [isShadowed, List.dropWhile_append_of_pos fun entry inside => by rw [before entry inside]; rfl,
      List.dropWhile_cons_of_neg (by simp), List.tail_cons]
  rw [rest, List.any_eq_true]
  refine exists_congr fun entry => and_congr_right fun inside => ?_
  rw [decide_eq_true_iff, sizeOf?_of_wellFormed wellFormed inside, Option.some.injEq]

section

variable {size : Int} (short : size.natAbs < 10 ^ Text.digitLimit) (squares : List Value)
include short

/-- The printed form of a board size denotes it. -/
theorem sizeOf?_printed : sizeOf? (.text (toString size)) = some size := by
  simp only [sizeOf?, Key.toValue, Value.toInteger, Text.readInteger_toString short]
  rfl

theorem reading_printed (value : Value) :
    reading (.text (toString size), value) = (size, .list (value.items.toOption.getD [])) := by
  rw [reading, sizeOf?_printed short]
  rfl

/-- A well-formed section stays well-formed. -/
theorem WellFormed.set (wellFormed : WellFormed entries)
    (pairs : ∀ square ∈ squares, ∃ rank file,
      square = .list [rank, file] ∧ rank.isWhole = true ∧ file.isWhole = true) :
    WellFormed (Entries.set entries (.text (toString size)) (.list squares)) := by
  have own : (∃ number, (Key.text (toString size)).toValue.toInteger = .ok number) ∧
      ∃ found, (Value.list squares).items = .ok found ∧ ∀ square ∈ found, ∃ rank file,
        square = .list [rank, file] ∧ rank.isWhole = true ∧ file.isWhole = true := by
    refine ⟨⟨size, ?_⟩, squares, rfl, pairs⟩
    simp only [Key.toValue, Value.toInteger, Text.readInteger_toString short]
    rfl
  rcases Entries.set_cases entries (.text (toString size)) (.list squares) with
    ⟨-, atEnd⟩ | ⟨front, known, old, back, rfl, found, -, inPlace⟩
  · rw [atEnd]
    exact List.forall_mem_append.2 ⟨wellFormed, List.forall_mem_singleton.2 own⟩
  · obtain ⟨inFront, rest⟩ := List.forall_mem_append.1 wellFormed
    rw [inPlace, Key.eq_text_of_beq found]
    exact List.forall_mem_append.2 ⟨inFront, List.forall_mem_cons.2 ⟨own, (List.forall_mem_cons.1 rest).2⟩⟩

/-- Nothing is shadowed in a section that has one name for each size. -/
theorem isShadowed_eq_false (wellFormed : WellFormed entries)
    (oneName : (entries.map fun entry => (reading entry).1).Nodup) : isShadowed entries size = false := by
  rcases Entries.set_cases entries (.text (toString size)) .null with
    ⟨isNew, -⟩ | ⟨front, known, old, back, rfl, found, before, -⟩
  · exact isShadowed_of_new isNew
  · obtain rfl := Key.eq_text_of_beq found
    have behind := (List.forall_mem_cons.1 (List.forall_mem_append.1 wellFormed).2).2
    rw [Bool.eq_false_iff, Ne, isShadowed_append behind before]
    rintro ⟨entry, isLater, same⟩
    rw [List.map_append, List.map_cons] at oneName
    have apart := (List.nodup_cons.1 (List.nodup_append.1 oneName).2.1).1
    exact apart (List.mem_map.2 ⟨entry, isLater, same.trans (congrArg Prod.fst (reading_printed short old)).symm⟩)

/-- **What is set for a board size counts**, unless it is shadowed; and nothing else changes. -/
theorem lookup_set (wellFormed : WellFormed entries) (other : Int) :
    ((Entries.set entries (.text (toString size)) (.list squares)).map reading).reverse.lookup other =
      if other = size ∧ isShadowed entries size = false then some (.list squares)
      else (entries.map reading).reverse.lookup other := by
  have own : reading (.text (toString size), .list squares) = (size, .list squares) :=
    reading_printed short (.list squares)
  rcases Entries.set_cases entries (.text (toString size)) (.list squares) with
    ⟨isNew, atEnd⟩ | ⟨front, known, old, back, rfl, found, before, inPlace⟩
  · -- The entry is the last one.
    rw [atEnd, List.map_append, List.map_singleton, own, List.reverse_concat, List.lookup_cons]
    by_cases same : other = size
    · rw [if_pos ⟨same, isShadowed_of_new isNew⟩, same, beq_self_eq_true]
    · rw [if_neg fun both => same both.1, beq_false_of_ne same]
  · -- The entries behind it are looked through first.
    obtain rfl := Key.eq_text_of_beq found
    have behind := (List.forall_mem_cons.1 (List.forall_mem_append.1 wellFormed).2).2
    have shadowed := (isShadowed_append behind before old).trans lookup_readings_isSome_iff.symm
    have splits : ∀ value, ((front ++ (.text (toString size), value) :: back).map reading).reverse.lookup
        other = ((back.map reading).reverse.lookup other).or
          ((((size, .list (value.items.toOption.getD [])) : Int × Value) ::
            (front.map reading).reverse).lookup other) := fun value => by
      rw [List.map_append, List.map_cons, reading_printed short, List.reverse_append, List.reverse_cons,
        List.append_assoc, List.singleton_append, List.lookup_append]
    rw [inPlace, splits, splits, List.lookup_cons, List.lookup_cons]
    by_cases same : other = size
    · subst same
      rw [beq_self_eq_true]
      cases hidden : isShadowed (front ++ (.text (toString other), old) :: back) other with
      | true =>
          obtain ⟨later, counts⟩ := Option.isSome_iff_exists.1 (shadowed.1 hidden)
          rw [counts, if_neg (by simp)]
          rfl
      | false =>
          have nothing : (back.map reading).reverse.lookup other = none := by
            rw [← Option.not_isSome_iff_eq_none, ← shadowed, hidden]
            exact Bool.false_ne_true
          rw [nothing, if_pos ⟨rfl, rfl⟩]
          rfl
    · rw [if_neg fun both => same both.1, beq_false_of_ne same]

end

/-! ## Saving -/

variable {session : Session} {file text : String} {fields : Fields} (size : Int) (squares : List Square)

/-- What is in order passes a check. -/
theorem check_of_ok {α : Type} {result : Except Mismatch α} {answer : α} (succeeds : result = .ok answer)
    (editing : Editing) : check result editing = .ok answer editing := by
  rw [succeeds]
  rfl

/-- The section that is changed is the one that is read, or an empty one. Setting it afterwards gives the
document with the new section either way. -/
theorem exists_withSection {name : String} {found : Value}
    (isSection : sectionOf (.object fields) name = .ok found) :
    ∃ between, withSection (.object fields) (.text name) = .ok (.text name, found, between) ∧
      ∀ changed, Entries.set between (.text name) changed = Entries.set fields (.text name) changed := by
  simp only [sectionOf, Value.fieldOr, Value.fields, bind, Except.bind, pure, Except.pure] at isSection
  simp only [withSection, Value.fields, Key.ofValue, bind, Except.bind, pure, Except.pure]
  cases present : Entries.get? fields (.text name) with
  | some value =>
      rw [present] at isSection
      cases isSection
      exact ⟨_, rfl, fun _ => rfl⟩
  | none =>
      rw [present] at isSection
      cases isSection
      exact ⟨_, rfl, fun changed => Entries.set_set (by simp) _ changed⟩

/-- A section that was set is read. -/
theorem sectionOf_set (name : String) (value : Value) :
    sectionOf (.object (Entries.set fields name value)) name = .ok value := by
  have found : Entries.get? (Entries.set fields name value) name = some value :=
    Entries.get?_set_same (by simp)
  simp only [sectionOf, Value.fieldOr, Value.fields, bind, Except.bind, pure, Except.pure, found,
    Option.getD_some]

/-- Squares stay as they are when their numbers are turned into integers. -/
theorem integerSquare_squareValue :
    (squares.map Runs.squareValue).mapM integerSquare = .ok (squares.map Runs.squareValue) := by
  rw [List.mapM_map]
  exact mapM_of_ok fun square _ => rfl

/-- A section in which the squares of a board size were set. -/
def sectionWith (entries : Fields) (size : Int) (squares : List Square) : Fields :=
  Entries.set entries (.text (toString size)) (.list (squares.map Runs.squareValue))

/-- A document in which the section of forced squares was set. -/
def documentWith (fields entries : Fields) : Value :=
  .object (Entries.set fields "partial_solutions" (.object entries))

/-- **Saving sets the entry of a board size and writes the page**, where the file could be read. -/
theorem saveForced_of_read (found : session.files.read file = .ok text)
    (isSection : sectionOf (.object fields) "partial_solutions" = .ok (.object entries)) :
    ∃ after, saveForced (.int size) (.list (squares.map Runs.squareValue))
        ⟨session, file, .object fields⟩ =
        .ok () ⟨after, file, documentWith fields (sectionWith entries size squares)⟩ ∧
      after.files.read file =
        .ok (Json.page (documentWith fields (sectionWith entries size squares))) := by
  obtain ⟨between, opened, setAgain⟩ := exists_withSection isSection
  let changed : Value := .object (sectionWith entries size squares)
  let document : Value := .object (Entries.set between "partial_solutions" changed)
  have isDocument : document = documentWith fields (sectionWith entries size squares) :=
    congrArg Value.object (setAgain changed)
  obtain ⟨files, wrote, holds⟩ := save_of_read found document
  have listed : (do (← (Value.list (squares.map Runs.squareValue)).items).mapM integerSquare) =
      .ok (squares.map Runs.squareValue) := integerSquare_squareValue squares
  have assigned : assign (.object entries) (.text (Value.int size).display)
      (.list (squares.map Runs.squareValue)) = .ok changed := rfl
  let line := "Partial solution for N=" ++ toString size ++ " saved to " ++ file
  refine ⟨{ session with files := files, printed := session.printed ++ line ++ "\n" }, ?_,
    by rw [← isDocument]; exact holds⟩
  rw [← isDocument]
  refine (bind_of_ok (rfl : current _ = .ok (.object fields) _)).trans ?_
  refine (bind_of_ok (check_of_ok opened _)).trans ?_
  refine (bind_of_ok (rfl : setDocument (.object between) _ = .ok () _)).trans ?_
  refine (bind_of_ok (check_of_ok listed _)).trans ?_
  refine (bind_of_ok (check_of_ok assigned _)).trans ?_
  refine (bind_of_ok (rfl : setDocument document _ = .ok () _)).trans ?_
  refine (bind_of_ok wrote).trans ?_
  rfl

/-- **The squares that are saved for a board size are the ones that are read for it afterwards**, unless
a later entry of the section denotes the same size by another text: then that entry counts, as before.
The squares of the other sizes stay.

The section must be well-formed or absent, and the document must be read back from its page. -/
theorem saved_squares_are_read {path : Value} {opened : Session} {size : Int} {squares : List Square}
    (opens : load path session = .ok ⟨file, .object fields⟩ opened)
    (isSection : sectionOf (.object fields) "partial_solutions" = .ok (.object entries))
    (wellFormed : WellFormed entries) (short : size.natAbs < 10 ^ Text.digitLimit)
    (readsBack : ReadsBack (documentWith fields (sectionWith entries size squares))) :
    ∃ before saved fresh now, forcedQueens (.object fields) = .ok before ∧
      saveForced (.int size) (.list (squares.map Runs.squareValue)) ⟨opened, file, .object fields⟩ =
        .ok () saved ∧
      load path saved.session = .ok fresh saved.session ∧ forcedQueens fresh.document = .ok now ∧
      ∀ other : Int, Entries.get? now (.int other) =
        if other = size ∧ isShadowed entries size = false then
          some (.list (squares.map Runs.squareValue))
        else Entries.get? before (.int other) := by
  obtain ⟨rfl, named, text, found, -⟩ := load_eq_ok_iff.1 opens
  obtain ⟨before, readBefore, told⟩ := forcedQueens_of_wellFormed wellFormed isSection
  obtain ⟨after, saves, holds⟩ := saveForced_of_read size squares found isSection
  have stillWellFormed : WellFormed (sectionWith entries size squares) :=
    WellFormed.set short (squares.map Runs.squareValue) wellFormed fun square isSquare => by
      obtain ⟨⟨rank, place⟩, -, rfl⟩ := List.mem_map.1 isSquare
      exact ⟨.int rank, .int place, rfl, rfl, rfl⟩
  obtain ⟨now, readNow, tellsNow⟩ := forcedQueens_of_wellFormed stillWellFormed
    (sectionOf_set "partial_solutions" (.object (sectionWith entries size squares)))
  have reopens : load path after =
      .ok ⟨file, documentWith fields (sectionWith entries size squares)⟩ after :=
    load_eq_ok_iff.2 ⟨rfl, named, _, holds, readsBack⟩
  refine ⟨before, _, _, now, readBefore, saves, reopens, readNow, fun other => ?_⟩
  rw [tellsNow, told, sectionWith, lookup_set short _ wellFormed]

/-! ## Two names for one size -/

/-- A document is read back if it is read from the characters of its page. -/
theorem readsBack_of_letters {document : Value}
    (read : Json.readDocument room (Text.withLineFeeds (Json.page document).toList) = .ok document) :
    ReadsBack document := by
  rw [ReadsBack, readPage, Json.read, String.toList_ofList, read]
  rfl

/-- A session in which `config.json` holds a document and there is nothing else. -/
def sessionWith (document : Value) : Session :=
  .start .standard [(["config.json"], .file (Json.page document))]

theorem load_sessionWith {document : Value} (readsBack : ReadsBack document) :
    load (.text "config.json") (sessionWith document) =
      .ok ⟨"config.json", document⟩ (sessionWith document) := by
  have named : pathOf (.text "config.json") = .ok "config.json" := by cbv
  have parts : Path.parts "config.json" = ["config.json"] := by cbv
  have size : Text.Encoding.fileName.size "config.json" = 11 := rfl
  have plain : Text.Encoding.fileName.fault? "config.json" = none := rfl
  have allowed : FileTree.refusal? "config.json" = none := by
    rw [FileTree.refusal?, plain]
    decide
  have found : (sessionWith document).files.read "config.json" = .ok (Json.page document) := by
    simp [sessionWith, Session.start, FileTree.read, FileTree.find, FileTree.locate, FileTree.reach,
      FileTree.follow, FileTree.enter, FileTree.at?, FileTree.isGiven, FileTree.isAbove,
      FileTree.pathLimit, FileTree.nameLimit, Entries.get?, bind, Except.bind, Except.mapError, pure,
      Except.pure, parts, size, allowed]
  exact load_eq_ok_iff.2 ⟨rfl, named, _, found, readsBack⟩

/-- A section in which two names denote the size 8, the later one with a square. -/
def twoNames : Fields := [("8", .list []), ("08", .list [Runs.squareValue (0, 0)])]

theorem twoNames_wellFormed : WellFormed twoNames := by
  refine List.forall_mem_cons.2 ⟨⟨⟨8, rfl⟩, [], rfl, by simp⟩, List.forall_mem_singleton.2
    ⟨⟨8, rfl⟩, [Runs.squareValue (0, 0)], rfl, List.forall_mem_singleton.2 ?_⟩⟩
  exact ⟨.int 0, .int 0, rfl, rfl, rfl⟩

theorem twoNames_readsBack : ReadsBack (documentWith [] twoNames) := by
  refine readsBack_of_letters ?_
  conv in String.toList _ => cbv
  rfl

/-- A number of one digit is short enough. -/
theorem natAbs_lt_of_digit {size : Int} (small : size.natAbs < 10) :
    size.natAbs < 10 ^ Text.digitLimit :=
  small.trans_le (Nat.le_self_pow (by decide) 10)

set_option maxRecDepth 4000 in
/-- The squares of another size are saved beside them. -/
theorem saved_squares_are_read_beside :
    ∃ before saved fresh now, forcedQueens (documentWith [] twoNames) = .ok before ∧
      saveForced (.int 6) (.list ([(1, 3)].map Runs.squareValue))
        ⟨sessionWith (documentWith [] twoNames), "config.json", documentWith [] twoNames⟩ =
        .ok () saved ∧
      load (.text "config.json") saved.session = .ok fresh saved.session ∧
      forcedQueens fresh.document = .ok now ∧
      ∀ other : Int, Entries.get? now (.int other) =
        if other = 6 ∧ isShadowed twoNames 6 = false then
          some (.list ([(1, 3)].map Runs.squareValue))
        else Entries.get? before (.int other) := by
  refine saved_squares_are_read (load_sessionWith twoNames_readsBack) rfl twoNames_wellFormed
    (natAbs_lt_of_digit (by decide)) (readsBack_of_letters ?_)
  conv in String.toList _ => cbv
  rfl

set_option maxRecDepth 4000 in
/-- **Squares that are saved may be overlooked.** The section has the names `8` and `08`. The squares
are saved for the size 8, under the name `8`, and a configuration that is opened afterwards still has the
square that stands under the name `08`. -/
theorem saved_squares_overlooked :
    ∃ saved fresh now, saveForced (.int 8) (.list [Runs.squareValue (1, 1)])
        ⟨sessionWith (documentWith [] twoNames), "config.json", documentWith [] twoNames⟩ =
        .ok () saved ∧
      load (.text "config.json") saved.session = .ok fresh saved.session ∧
      forcedQueens fresh.document = .ok now ∧
      Entries.get? now (.int 8) = some (.list [Runs.squareValue (0, 0)]) := by
  obtain ⟨-, named, text, found, -⟩ := load_eq_ok_iff.1 (load_sessionWith twoNames_readsBack)
  have isSection : sectionOf (.object [("partial_solutions", .object twoNames)]) "partial_solutions" =
      .ok (.object twoNames) := rfl
  obtain ⟨after, saves, holds⟩ := saveForced_of_read 8 [(1, 1)] found isSection
  have readsBack : ReadsBack (documentWith [("partial_solutions", .object twoNames)]
      (sectionWith twoNames 8 [(1, 1)])) := by
    refine readsBack_of_letters ?_
    conv in String.toList _ => cbv
    rfl
  have reopens : load (.text "config.json") after = .ok ⟨"config.json",
      documentWith [("partial_solutions", .object twoNames)] (sectionWith twoNames 8 [(1, 1)])⟩ after :=
    load_eq_ok_iff.2 ⟨rfl, named, _, holds, readsBack⟩
  exact ⟨_, _, [(.int 8, .list [Runs.squareValue (0, 0)])], saves, reopens, rfl, rfl⟩

end Configuration

end ExactCover
