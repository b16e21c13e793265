import ExactCover.CommandLine.Run
import ExactCover.Proofs.CommandLine.Printing
import ExactCover.Proofs.Configuration.ForcedSquares
import ExactCover.Proofs.Json.Names

/-!
# Malformed squares in a configuration

A section of forced squares may hold anything in its lists. The entries are checked one after the other,
and the first one that is no pair of whole numbers stops the check (`forcedQueens_of_lists`). How it stops
depends on what the entry is. A list, a text or an object has a length; it is measured, found wanting, and
refused with a message that names it. A number, a flag or null has no length, so measuring it already goes
wrong, and that is taken for a defect of the program and not of the configuration (`nature_faultOf`).

A run of the command line that applies such a configuration ends accordingly: with a line and the code 1,
or with a failure that is not told to the user. In either case only the limits were set and printed
before. Main statement: `malformed_squares_stop`, and `number_among_squares` on the other side of what the
check is meant for.
-/

set_option autoImplicit false

namespace ExactCover

/-! ## Checking an entry -/

namespace Configuration

/-- Whether an entry is a pair of whole numbers, as the check means it. -/
def isPair : Value → Bool
  | .list [rank, file] => rank.isWhole && file.isWhole
  | _ => false

/-- Whether a value has items that can be counted. -/
def isMeasured : Value → Bool
  | .list _ => true
  | .text _ => true
  | .object _ => true
  | _ => false

/-- How an entry that is no pair is refused, under the name of its board size. -/
def faultOf (size : Key) (entry : Value) : Failure :=
  if isMeasured entry then .badSquare (Value.displayKey size) entry
  else .unsuitable (.noLength entry.kind)

theorem nature_faultOf (size : Key) (entry : Value) :
    (faultOf size entry).nature = if isMeasured entry then .refusal else .defect := by
  unfold faultOf
  split <;> rfl

/-- Names of an object are texts, and no text is a whole number. -/
theorem isWhole_name {field : Key × Value} (named : ∃ name, field.1 = .text name) :
    field.1.toValue.isWhole = false := by
  obtain ⟨name, isName⟩ := named
  rw [isName]
  rfl

/-- An entry with items is a square if there are two of them, both whole numbers. -/
theorem squareOf_of_items {entry : Value} {items : List Value} (found : entry.items = .ok items)
    (size : Key) :
    squareOf size entry =
      if (items.length == 2 && items.all Value.isWhole) = true then .ok entry
      else .error (.badSquare (Value.displayKey size) entry) := by
  have checked : isSquare entry = .ok (items.length == 2 && items.all Value.isWhole) := by
    simp only [isSquare, Value.length_eq_items_length found, found, bind, Except.bind, pure, Except.pure,
      bne]
    cases items.length == 2 <;> rfl
  simp only [squareOf, checked, Except.mapError, bind, Except.bind]
  rfl

/-- Two items that are names are no whole numbers. -/
theorem not_square_of_names {items : List Value} (names : ∀ item ∈ items, item.isWhole = false) :
    ¬ (items.length == 2 && items.all Value.isWhole) = true := by
  rw [Bool.and_eq_true, beq_iff_eq]
  rintro ⟨two, whole⟩
  obtain ⟨item, inside⟩ := List.exists_mem_of_length_pos (by omega : 0 < items.length)
  have := List.all_eq_true.1 whole item inside
  rw [names item inside] at this
  cases this

/-- **The check of an entry** of a document. -/
theorem squareOf_of_named {entry : Value} (named : entry.Named) (size : Key) :
    squareOf size entry = if isPair entry then .ok entry else .error (faultOf size entry) := by
  cases entry with
  | null => rfl
  | bool flag => rfl
  | int number => rfl
  | float number => rfl
  | text characters =>
      have letters : ∀ item ∈ characters.toList.map (fun c => Value.text (String.singleton c)),
          item.isWhole = false := by
        intro item inside
        obtain ⟨letter, -, rfl⟩ := List.mem_map.1 inside
        rfl
      rw [squareOf_of_items rfl, if_neg (not_square_of_names letters)]
      rfl
  | list items =>
      rw [squareOf_of_items rfl]
      match items with
      | [rank, file] => simp [isPair, faultOf, isMeasured]
      | [] => rfl
      | [_] => rfl
      | _ :: _ :: _ :: _ => simp [isPair, faultOf, isMeasured]
  | object fields =>
      have names : ∀ item ∈ fields.map (fun field => field.1.toValue), item.isWhole = false := by
        intro item inside
        obtain ⟨field, isField, rfl⟩ := List.mem_map.1 inside
        exact isWhole_name (Value.named_object_iff.1 named field isField).1
      rw [squareOf_of_items rfl, if_neg (not_square_of_names names)]
      rfl

/-! ## Checking a section -/

/-- The entries of a section, each under the name of its board size. -/
def namedSquares (entries : Fields) : List (Key × Value) :=
  entries.flatMap fun entry => (entry.2.items.toOption.getD []).map fun square => (entry.1, square)

/-- The first entry of a section that is no pair. -/
def firstMalformed? (entries : Fields) : Option (Key × Value) :=
  (namedSquares entries).find? fun square => !isPair square.2

/-- A section as a document gives it: the names denote integers, and lists stand under them. -/
structure IsSection (entries : Fields) : Prop where
  sizes : ∀ entry ∈ entries, ∃ size, entry.1.toValue.toInteger = .ok size
  lists : ∀ entry ∈ entries, ∃ squares, entry.2 = .list squares

/-- A check of a list stops at the first item that fails it. -/
theorem mapM_eq_find? {ε α : Type} {read : α → Except ε α} {passes : α → Bool} {fault : α → ε}
    {items : List α}
    (reads : ∀ item ∈ items, read item = if passes item then .ok item else .error (fault item)) :
    items.mapM read = match items.find? fun item => !passes item with
      | none => .ok items
      | some item => .error (fault item) := by
  induction items with
  | nil => rfl
  | cons item items ih =>
      obtain ⟨own, others⟩ := List.forall_mem_cons.1 reads
      rw [List.mapM_cons, own, ih others, List.find?_cons]
      cases passes item with
      | false => rfl
      | true =>
          cases items.find? fun item => !passes item <;> rfl

/-- The first entry that is no pair is found under the first name that has one. -/
theorem firstMalformed?_cons (entry : Key × Value) (entries : Fields) :
    firstMalformed? (entry :: entries) =
      (((entry.2.items.toOption.getD []).find? fun square => !isPair square).map fun square =>
        (entry.1, square)).or (firstMalformed? entries) := by
  rw [firstMalformed?, namedSquares, List.flatMap_cons, List.find?_append, List.find?_map]
  rfl

/-- **The check of the entries of one board size.** -/
theorem forcedOf_of_list {entry : Key × Value} {squares : List Value} (isList : entry.2 = .list squares)
    (named : entry.2.Named) {size : Int} (denotes : entry.1.toValue.toInteger = .ok size) :
    forcedOf entry.1 entry.2 = match squares.find? fun square => !isPair square with
      | none => .ok (Prod.map .int id (reading entry))
      | some square => .error (faultOf entry.1 square) := by
  obtain ⟨name, value⟩ := entry
  obtain rfl : value = .list squares := isList
  have checked := mapM_eq_find? fun square inside =>
    squareOf_of_named (Value.named_list_iff.1 named square inside) name
  simp only [forcedOf, Value.items, Except.mapError, bind, Except.bind, checked]
  cases squares.find? fun square => !isPair square with
  | some square => rfl
  | none =>
      simp only [denotes, pure, Except.pure, reading, sizeOf?, Value.items, Except.toOption,
        Option.getD_some]
      rfl

/-- **The check of a section** stops at the first entry that is no pair. -/
theorem mapM_forcedOf {entries : Fields} (isSection : IsSection entries)
    (named : ∀ entry ∈ entries, entry.2.Named) :
    entries.mapM (fun entry => forcedOf entry.1 entry.2) = match firstMalformed? entries with
      | none => .ok ((entries.map reading).map (Prod.map .int id))
      | some square => .error (faultOf square.1 square.2) := by
  induction entries with
  | nil => rfl
  | cons entry entries ih =>
      obtain ⟨⟨size, denotes⟩, sizes⟩ := List.forall_mem_cons.1 isSection.sizes
      obtain ⟨⟨squares, isList⟩, lists⟩ := List.forall_mem_cons.1 isSection.lists
      obtain ⟨own, others⟩ := List.forall_mem_cons.1 named
      have listed : entry.2.items.toOption.getD [] = squares := by rw [isList]; rfl
      rw [List.mapM_cons, forcedOf_of_list isList own denotes, ih ⟨sizes, lists⟩ others,
        firstMalformed?_cons, listed]
      cases squares.find? fun square => !isPair square with
      | some square => rfl
      | none => cases firstMalformed? entries <;> rfl

/-- **Forced squares are read** from a section in which all entries are pairs; otherwise the first one
that is none is refused. -/
theorem forcedQueens_of_lists {document : Value} {entries : Fields} (isSection : IsSection entries)
    (named : ∀ entry ∈ entries, entry.2.Named)
    (isThere : sectionOf document "partial_solutions" = .ok (.object entries)) :
    forcedQueens document = match firstMalformed? entries with
      | none => .ok (Entries.ofList ((entries.map reading).map (Prod.map .int id)))
      | some square => .error (faultOf square.1 square.2) := by
  have all := mapM_forcedOf isSection named
  simp only [forcedQueens, isThere, Except.mapError, bind, Except.bind, Value.fields]
  simp only [all]
  cases firstMalformed? entries <;> rfl

/-! ## Applying a section -/

variable {session : Session} {file : String} {entries : Fields}

/-- A document whose only section is the one of forced squares. -/
def squaresOnly (entries : Fields) : Value := .object [("partial_solutions", .object entries)]

/-- A session in which the limits were set and printed, and nothing else was done. -/
def limited (session : Session) : Session :=
  let settings := { session.settings with optimized := .bool session.settings.optimized.isTrue }
  { session with settings := settings }.print (String.join (settings.limitLines.map (· ++ "\n")))

/-- Printing lines one after the other. -/
theorem forM_say (lines : List String) (session : Session) :
    lines.forM Session.say session = .ok () (session.print (String.join (lines.map (· ++ "\n")))) := by
  induction lines generalizing session with
  | nil => simp [Session.print, String.join, pure, EStateM.pure]
  | cons line lines ih =>
      refine (bind_of_ok (Session.say_eq session line) :
        (Session.say line >>= fun _ => lines.forM Session.say) session = _).trans ?_
      rw [ih, Session.print_print, List.map_cons, String.join_cons]

/-- Without search settings the limits stay, and they are printed. -/
theorem applySearch_empty (session : Session) :
    applySearch (.object []) session.settings.runs session = .ok () (limited session) := by
  exact forM_say _ _

/-- **Applying a document with nothing but forced squares** sets and prints the limits first. -/
theorem apply_squaresOnly {path : Value} (opens : load path session = .ok ⟨file, squaresOnly entries⟩ session)
    (inRange : anyTooSmall session.settings.sizes = .ok false) :
    apply path session = match forcedQueens (squaresOnly entries) with
      | .error failure => .error failure (limited session)
      | .ok forced => .ok ⟨file, squaresOnly entries⟩
          { limited session with
            settings := { (limited session).settings with
              forced := if forced.isEmpty then session.settings.forced else forced } } := by
  refine (bind_of_ok opens).trans ?_
  refine (bind_of_ok (rfl : Session.check (experimentSection (squaresOnly entries)) session =
    .ok (.object []) session)).trans ?_
  refine (bind_of_ok (rfl : applyExperiments (.object []) session = .ok session.settings.runs session)).trans ?_
  refine (bind_of_ok (rfl : Session.check (searchSection (squaresOnly entries)) session =
    .ok (.object []) session)).trans ?_
  refine (bind_of_ok (applySearch_empty session)).trans ?_
  cases forcedQueens (squaresOnly entries) with
  | error failure => rfl
  | ok forced =>
      refine (bind_of_ok (rfl : Session.lift id (.ok forced) (limited session) =
        .ok forced (limited session))).trans ?_
      have checks : ∀ settings : Settings, settings.sizes = session.settings.sizes → ∀ now : Session,
          Session.check (anyTooSmall settings.sizes) now = .ok false now := fun settings same now => by
        rw [same, inRange]
        rfl
      cases forced with
      | nil => exact bind_of_ok (checks _ rfl _)
      | cons first rest => exact bind_of_ok (checks _ rfl _)

end Configuration

/-! ## Runs of the command line -/

namespace CommandLine

open ExactCover.Configuration

variable {session : Session} {file : String} {options : Options} {squares : Option (List Square)}

/-- **Configuring fails** if applying the configuration in the file fails. -/
theorem configure_of_error {configuration : Configuration} {failure : Failure} {after : Session}
    (opens : load options.configuration session = .ok configuration session)
    (given : Square.readSquares (.list options.squares) = .ok squares)
    (fails : Configuration.apply options.configuration session = .error failure after) :
    configure options session = .error failure after := by
  obtain ⟨-, named, text, found, -⟩ := load_eq_ok_iff.1 opens
  refine (bind_of_ok (lift_eq_ok_iff.2 ⟨given, rfl⟩)).trans ?_
  refine (bind_of_ok (lift_eq_ok_iff.2 ⟨named, rfl⟩)).trans ?_
  have present : isPresent configuration.path session = .ok true session :=
    lift_eq_ok_iff.2 ⟨FileTree.probe_of_read found, rfl⟩
  split
  · exact (bind_of_ok (rfl : (pure true : SessionM Bool) session = .ok true session)).trans
      (bind_of_error fails)
  · exact (bind_of_ok present).trans (bind_of_error fails)

/-- **A run ends** with the code 1 and a line, or with a failure that is not told, if its configuration
cannot be applied because of an entry that is no pair. -/
theorem perform_of_malformed {configuration : Configuration} {size : Key} {entry : Value}
    {after : Session} (isRun : options.selfTest = false)
    (opens : load options.configuration session = .ok configuration session)
    (given : Square.readSquares (.list options.squares) = .ok squares)
    (fails : Configuration.apply options.configuration session = .error (faultOf size entry) after) :
    perform options session =
      if isMeasured entry then
        ⟨.code 1, "", after.print ("Configuration error: " ++ (faultOf size entry).message ++ "\n")⟩
      else ⟨.failed (faultOf size entry), "", after⟩ := by
  rw [perform, isRun, if_neg Bool.false_ne_true]
  simp only [configure_of_error opens given fails, configurationFailed, nature_faultOf]
  cases isMeasured entry with
  | true => simp [reported, Session.say_eq]
  | false => simp

end CommandLine

namespace Configuration

variable {session : Session} {file : String} {entries : Fields}

/-- No entry is malformed if all that is listed are pairs. -/
theorem firstMalformed?_eq_none_iff (isSection : IsSection entries) :
    firstMalformed? entries = none ↔ ∀ entry ∈ entries, ∀ squares, entry.2 = .list squares →
      ∀ square ∈ squares, isPair square = true := by
  simp only [firstMalformed?, List.find?_eq_none, namedSquares, List.mem_flatMap, List.mem_map,
    Bool.not_eq_true, Bool.not_eq_false', forall_exists_index, and_imp]
  constructor
  · intro all entry inside squares isList square listed
    refine all _ entry inside square ?_ rfl
    rwa [isList]
  · rintro all _ entry inside square listed rfl
    obtain ⟨squares, isList⟩ := isSection.lists entry inside
    rw [isList] at listed
    exact all entry inside squares isList square listed

/-- Of pairs with different keys all are kept. -/
theorem ofList_of_nodup {pairs : List (Int × Value)} (different : (pairs.map Prod.fst).Nodup) :
    Entries.ofList pairs = pairs := by
  induction pairs using List.reverseRecOn with
  | nil => rfl
  | append_singleton pairs pair ih =>
      rw [List.map_append, List.nodup_append] at different
      obtain ⟨others, -, apart⟩ := different
      rw [Entries.ofList, List.foldl_concat, ← Entries.ofList, ih others]
      rcases Entries.set_cases pairs pair.1 pair.2 with ⟨-, atEnd⟩ | ⟨front, known, old, back, rfl, found, -, -⟩
      · exact atEnd
      · exact absurd (eq_of_beq found) (apart known (by simp) pair.1 (by simp))

/-- The section of a document that was opened is checked entry by entry. -/
theorem forcedQueens_of_load {path : Value}
    (opens : load path session = .ok ⟨file, squaresOnly entries⟩ session) (isSection : IsSection entries) :
    forcedQueens (squaresOnly entries) = match firstMalformed? entries with
      | none => .ok (Entries.ofList ((entries.map reading).map (Prod.map .int id)))
      | some square => .error (faultOf square.1 square.2) := by
  obtain ⟨-, -, text, -, isDocument⟩ := load_eq_ok_iff.1 opens
  have whole := Value.named_object_iff.1 (Json.named_of_read isDocument)
  have inner := Value.named_object_iff.1 (List.forall_mem_singleton.1 whole).2
  exact forcedQueens_of_lists isSection (fun entry inside => (inner entry inside).2) rfl

/-- **The first malformed entry** stops the configuration from being applied. -/
theorem apply_of_malformed {path : Value} {size : Key} {entry : Value}
    (opens : load path session = .ok ⟨file, squaresOnly entries⟩ session) (isSection : IsSection entries)
    (inRange : anyTooSmall session.settings.sizes = .ok false)
    (malformed : firstMalformed? entries = some (size, entry)) :
    apply path session = .error (faultOf size entry) (limited session) := by
  have applied := apply_squaresOnly opens inRange
  rwa [forcedQueens_of_load opens isSection, malformed] at applied

/-- **Malformed squares stop a run before it begins.** The file holds nothing but a section of forced
squares, whose names denote different integers and whose entries are lists. If all that is in the lists
are pairs of whole numbers, the configuration is applied, and the squares of each board size are the ones
in its list. Otherwise the first entry that is no pair decides. If it has a length, as lists, texts and
objects have, applying the configuration is refused with a message that names the entry, and a run ends
with the code 1 after that message. If it is a number, a flag or null, measuring it fails, and the failure
goes through to the caller. Only the limits were set and printed before. -/
theorem malformed_squares_stop {options : CommandLine.Options}
    (opens : load options.configuration session = .ok ⟨file, squaresOnly entries⟩ session)
    (isSection : IsSection entries) (oneName : (entries.map fun entry => (reading entry).1).Nodup)
    (inRange : anyTooSmall session.settings.sizes = .ok false) :
    (firstMalformed? entries = none ↔ ∀ entry ∈ entries, ∀ squares, entry.2 = .list squares →
        ∀ square ∈ squares, isPair square = true) ∧
      match firstMalformed? entries with
      | none => (∃ after, apply options.configuration session = .ok ⟨file, squaresOnly entries⟩ after) ∧
          forcedQueens (squaresOnly entries) =
            .ok (entries.map fun entry => (.int (reading entry).1, entry.2))
      | some (size, entry) =>
          apply options.configuration session = .error (faultOf size entry) (limited session) ∧
            ∀ given, options.selfTest = false → Square.readSquares (.list options.squares) = .ok given →
              CommandLine.perform options session =
                if isMeasured entry then
                  ⟨.code 1, "", (limited session).print ("Configuration error: " ++
                    (faultOf size entry).message ++ "\n")⟩
                else ⟨.failed (.unsuitable (.noLength entry.kind)), "", limited session⟩ := by
  refine ⟨firstMalformed?_eq_none_iff isSection, ?_⟩
  have checked := forcedQueens_of_load opens isSection
  cases malformed : firstMalformed? entries with
  | some square =>
      have fails := apply_of_malformed opens isSection inRange malformed
      refine ⟨fails, fun given isRun read => ?_⟩
      rw [CommandLine.perform_of_malformed isRun opens read fails]
      cases measured : isMeasured square.2 with
      | true => rfl
      | false => rw [faultOf, measured]; rfl
  | none =>
      have asListed : (entries.map reading).map (Prod.map Key.int id) =
          entries.map fun entry => (.int (reading entry).1, entry.2) := by
        rw [List.map_map]
        refine List.map_congr_left fun entry inside => ?_
        obtain ⟨squares, isList⟩ := isSection.lists entry inside
        obtain ⟨name, value⟩ := entry
        obtain rfl : value = .list squares := isList
        rfl
      have kept : Entries.ofList ((entries.map reading).map (Prod.map Key.int id)) =
          entries.map fun entry => (.int (reading entry).1, entry.2) := by
        rw [Entries.ofList_map fun one other => by rw [Key.int_beq, beq_eq_decide],
          ofList_of_nodup (by rwa [List.map_map]), asListed]
      rw [malformed] at checked
      dsimp only at checked
      rw [kept] at checked
      have applied := apply_squaresOnly opens inRange
      rw [checked] at applied
      exact ⟨⟨_, applied⟩, checked⟩

/-- The standard board sizes are in range. -/
theorem sizes_inRange : anyTooSmall Settings.standard.sizes = .ok false := rfl

/-- A section in which a text and a number stand behind a square. -/
def textAmongSquares : Fields := [("4", .list [Runs.squareValue (0, 1), .text "ab", .int 5])]

/-- A section in which a number stands behind a square. -/
def numberAmongSquares : Fields := [("4", .list [Runs.squareValue (0, 1), .int 5])]

theorem isSection_of_four {squares : List Value} : IsSection [("4", .list squares)] :=
  ⟨List.forall_mem_singleton.2 ⟨4, rfl⟩, List.forall_mem_singleton.2 ⟨squares, rfl⟩⟩

theorem textAmongSquares_opens :
    load (.text "config.json") (sessionWith (squaresOnly textAmongSquares)) =
      .ok ⟨"config.json", squaresOnly textAmongSquares⟩ (sessionWith (squaresOnly textAmongSquares)) := by
  refine load_sessionWith (readsBack_of_letters ?_)
  conv in String.toList _ => cbv
  rfl

theorem numberAmongSquares_opens :
    load (.text "config.json") (sessionWith (squaresOnly numberAmongSquares)) =
      .ok ⟨"config.json", squaresOnly numberAmongSquares⟩
        (sessionWith (squaresOnly numberAmongSquares)) := by
  refine load_sessionWith (readsBack_of_letters ?_)
  conv in String.toList _ => cbv
  rfl

/-- The text is refused before the number is looked at. -/
theorem malformed_squares_stop_at_text :
    apply (.text "config.json") (sessionWith (squaresOnly textAmongSquares)) =
        .error (.badSquare "4" (.text "ab")) (limited (sessionWith (squaresOnly textAmongSquares))) ∧
      CommandLine.perform {} (sessionWith (squaresOnly textAmongSquares)) =
        ⟨.code 1, "", (limited (sessionWith (squaresOnly textAmongSquares))).print
          ("Configuration error: " ++ (Failure.badSquare "4" (.text "ab")).message ++ "\n")⟩ := by
  obtain ⟨-, fails, ends⟩ := @malformed_squares_stop _ _ _ {} textAmongSquares_opens isSection_of_four
    (List.nodup_singleton _) sizes_inRange
  exact ⟨fails, ends none rfl rfl⟩

/-- **A number among squares** is not refused as a square that is no pair. Applying the configuration
fails because a number has no length, and the run ends with that failure and without a message. -/
theorem number_among_squares :
    isPair (.int 5) = false ∧
      apply (.text "config.json") (sessionWith (squaresOnly numberAmongSquares)) =
        .error (.unsuitable (.noLength "int")) (limited (sessionWith (squaresOnly numberAmongSquares))) ∧
      (Failure.unsuitable (.noLength "int")).nature = .defect ∧
      CommandLine.perform {} (sessionWith (squaresOnly numberAmongSquares)) =
        ⟨.failed (.unsuitable (.noLength "int")), "",
          limited (sessionWith (squaresOnly numberAmongSquares))⟩ := by
  have fails := apply_of_malformed numberAmongSquares_opens isSection_of_four sizes_inRange
    (rfl : firstMalformed? numberAmongSquares = some (Key.text "4", Value.int 5))
  exact ⟨rfl, fails, rfl,
    @CommandLine.perform_of_malformed _ {} none _ _ _ _ rfl numberAmongSquares_opens rfl fails⟩

end Configuration

end ExactCover
