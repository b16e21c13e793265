import ExactCover.CommandLine.Modes
import ExactCover.Proofs.Build.Steps
import ExactCover.Proofs.Search.Collecting

/-!
# Printing solutions

The command line prints solutions one at a time, each while it is in force in the arena. Its text is the
same as it was before: the ring of a row is never taken apart, its records stay with their columns, and
no column changes its name (`decisionsText_web`).

So what is printed up to a limit are the texts of the solutions up to the limit, with their numbers
(`printFrom_of_yields`). A limit cuts off the list of all solutions, the printed text and a cursor in the
same way, and the arena is left as it was (`limit_cuts_off`).
-/

set_option autoImplicit false

namespace ExactCover

/-! ## The texts of rows -/

namespace Layout

variable {layout : Layout} {start : Web} {covered path : List Nat}

/-- The text of a row, told by one of its records. -/
def rowText (layout : Layout) (start : Web) (node : Nat) : String :=
  " ".intercalate ((layout.columnsOf node).map fun column => (start.nameOf column).display)

/-- The text of decisions. -/
def decisionsText (layout : Layout) (start : Web) (path : List Nat) : String :=
  "\n".intercalate (path.map (layout.rowText start))

section

variable (proper : layout.Proper) (built : start.Shows layout []) (trail : layout.IsTrail covered)
include proper built trail

/-- **A row has the same text at every trail.** -/
theorem rowText_web {node : Nat} (isNode : node ∈ layout.nodes) (updates : Nat) :
    ((layout.web start covered).arena updates).rowText (.record node) =
      .ok (layout.rowText start node) := by
  simp only [Arena.rowText, rowNames_web proper built trail isNode, bind, Except.bind, pure,
    Except.pure]
  rw [rowText, List.map_map]
  rfl

/-- **So have decisions.** -/
theorem decisionsText_web (areNodes : ∀ node ∈ path, node ∈ layout.nodes) (updates : Nat) :
    ((layout.web start covered).arena updates).decisionsText (linksTo path) =
      .ok (layout.decisionsText start path) := by
  have rows : (linksTo path).mapM ((layout.web start covered).arena updates).rowText =
      .ok (path.map (layout.rowText start)) := by
    rw [linksTo, List.mapM_map]
    exact mapM_of_ok fun node inside => rowText_web proper built trail (areNodes node inside) updates
  simp only [Arena.decisionsText, rows, bind, Except.bind, pure, Except.pure]
  rfl

end

end Layout

/-! ## What is printed -/

namespace Session

/-- A session in which some more text has been printed. -/
def print (session : Session) (text : String) : Session :=
  { session with printed := session.printed ++ text }

theorem print_print (session : Session) (text more : String) :
    (session.print text).print more = session.print (text ++ more) := by
  simp only [print, String.append_assoc]

theorem say_eq (session : Session) (line : String) :
    say line session = .ok () (session.print (line ++ "\n")) := by
  simp only [say, print, String.append_assoc]

end Session

namespace CommandLine

/-- A limit as a value. -/
def limitValue : Option Int → Value
  | none => .null
  | some bound => .int bound

/-- A limit is read back from its value. -/
theorem limitOf_limitValue (limit : Option Int) : Runs.limitOf (limitValue limit) = .ok limit := by
  cases limit with
  | none => rfl
  | some bound => rfl

/-- What is printed for a solution. -/
def numberedText (number : Nat) (text : String) : String :=
  "Solution #" ++ toString number ++ ":\n" ++ text ++ "\n\n"

/-- What is printed for solutions, from the first one on. -/
def numberedTexts (texts : List String) : String :=
  String.join (texts.mapIdx fun place text => numberedText (place + 1) text)

theorem numberedTexts_concat (texts : List String) (text : String) :
    numberedTexts (texts ++ [text]) = numberedTexts texts ++ numberedText (texts.length + 1) text := by
  simp [numberedTexts, String.join, List.mapIdx_append]

theorem printOne_of_text {problem : Problem} {solution : List Link} {text : String}
    (told : problem.arena.decisionsText solution = .ok text) (number : Nat) (session : Session) :
    printOne problem number solution session = .ok () (session.print (numberedText number text)) := by
  have texts : ∀ session, decisionsText problem solution session = .ok text session := fun session => by
    simp only [decisionsText, told, Session.lift]
    rfl
  refine (bind_of_ok (Session.say_eq session _)).trans ?_
  refine (bind_of_ok (texts _)).trans ?_
  refine (bind_of_ok (Session.say_eq _ text)).trans ?_
  rw [Session.say_eq, Session.print_print, Session.print_print]
  simp only [numberedText, String.append_assoc, String.empty_append]
  rfl

theorem onProblem_of_ok {α : Type} {action : ProblemM α} {problem after : Problem} {answer : α}
    (succeeds : action problem = .ok answer after) (session : Session) :
    onProblem action problem session = .ok (answer, after) session := by
  rw [onProblem, Runs.onProblem_of_ok succeeds]
  rfl

end CommandLine

namespace Layout

variable {layout : Layout} {start : Web} {covered path : List Nat} {policy : Policy} {updates : Nat}

open CommandLine

section

variable (proper : layout.Proper) (built : start.Shows layout []) (trail : layout.IsTrail covered)
include proper built trail

/-- Printing goes on from one answer to the next, unless the limit is reached. -/
theorem printFrom_of_advances {answer : List Nat} {more : Nat}
    (advances : layout.Advances start policy covered path updates answer more)
    (decided : answer ≠ []) (limit : Option Int) (fuel count primaryCount : Nat) (session : Session) :
    printFrom limit (fuel + 1) count (Cursor.standing path)
        ⟨(layout.web start (layout.withRows covered path)).arena updates, policy, primaryCount⟩
        session =
      if limit.any (· ≤ ((count + 1 : Nat) : Int)) then
        .ok (count + 1, ⟨(layout.web start covered).arena more, policy, primaryCount⟩)
          (session.print (numberedText (count + 1) (layout.decisionsText start answer)))
      else
        printFrom limit fuel (count + 1) (Cursor.standing answer)
          ⟨(layout.web start (layout.withRows covered answer)).arena more, policy, primaryCount⟩
          (session.print (numberedText (count + 1) (layout.decisionsText start answer))) := by
  have allowed := advances.1.allowed
  have goesOn := goOn_of_advances advances primaryCount
  rw [if_neg decided, ← Cursor.advance_standing] at goesOn
  have told := decisionsText_web proper built (trail.withRows built.sound proper allowed)
    (node_of_allows allowed) more
  have closes : (Cursor.on (linksTo answer)).close
      ⟨(layout.web start (layout.withRows covered answer)).arena more, policy, primaryCount⟩ =
        .ok () ⟨(layout.web start covered).arena more, policy, primaryCount⟩ := by
    have closed := @close_standing layout start covered answer policy proper built trail advances.1
      more primaryCount
    rwa [Cursor.standing, if_neg decided] at closed
  have prints := @printOne_of_text
    ⟨(layout.web start (layout.withRows covered answer)).arena more, policy, primaryCount⟩ _ _ told
    (count + 1) session
  refine (bind_of_ok (onProblem_of_ok goesOn session)).trans ?_
  refine (bind_of_ok prints).trans ?_
  split
  · exact bind_of_ok (onProblem_of_ok closes _)
  · rw [Cursor.standing, if_neg decided]

/-- **Printing from an answer on** adds what is still to come, up to the limit. `done` are the answers
printed before. -/
theorem printFrom_of_yields {answers : List (List Nat)}
    (yields : layout.Yields start policy covered path updates answers) {limit : Option Int}
    {fuel : Nat} (enough : answers.length < fuel) {done : List (List Nat)}
    (room : ∀ bound ∈ limit, (done.length : Int) < bound) (primaryCount : Nat) (session : Session) :
    ∃ more, printFrom limit fuel done.length (Cursor.standing path)
        ⟨(layout.web start (layout.withRows covered path)).arena updates, policy, primaryCount⟩
        (session.print (numberedTexts (done.map (layout.decisionsText start)))) =
      .ok ((upTo limit (done ++ answers)).length,
          ⟨(layout.web start covered).arena more, policy, primaryCount⟩)
        (session.print
          (numberedTexts ((upTo limit (done ++ answers)).map (layout.decisionsText start)))) := by
  induction yields generalizing fuel done with
  | @exhausted path updates more advances =>
      obtain ⟨fuel, rfl⟩ := Nat.exists_eq_add_of_lt enough
      have goesOn := goOn_of_advances advances primaryCount
      rw [if_pos rfl, ← Cursor.advance_standing] at goesOn
      have within : ∀ bound ∈ limit, (done.length : Int) ≤ bound := fun bound isBound =>
        Int.le_of_lt (room bound isBound)
      rw [List.append_nil, upTo_of_le within]
      exact ⟨more, bind_of_ok (onProblem_of_ok goesOn _)⟩
  | @answered path answer updates between answers advances decided _ ih =>
      obtain ⟨fuel, rfl⟩ := Nat.exists_eq_add_of_lt enough
      have whole : done ++ answer :: answers = (done ++ [answer]) ++ answers := by simp
      have longer : (done ++ [answer]).length = done.length + 1 := by simp
      have printed : (session.print (numberedTexts (done.map (layout.decisionsText start)))).print
            (numberedText (done.length + 1) (layout.decisionsText start answer)) =
          session.print (numberedTexts ((done ++ [answer]).map (layout.decisionsText start))) := by
        rw [Session.print_print, List.map_append, List.map_singleton, numberedTexts_concat,
          List.length_map]
      rw [whole, printFrom_of_advances proper built trail advances decided, printed, ← longer]
      by_cases reached : limit.any (· ≤ ((done ++ [answer]).length : Int)) = true
      · have within : ∀ bound ∈ limit, ((done ++ [answer]).length : Int) ≤ bound :=
          fun bound isBound => by
            have := room bound isBound
            rw [longer]
            omega
        rw [if_pos reached, upTo_append_of_reached within reached]
        exact ⟨between, rfl⟩
      · rw [if_neg reached]
        exact ih (by rw [List.length_cons]; omega) (lt_of_not_reached (by simpa using reached))

/-- **What is printed from a trail on**, up to a limit, and how much. -/
theorem printSolutions_web
    (small : policy = .smallest → ∀ column ∈ layout.primary,
      ((layout.members column).length : Int) < Arena.sizeBound) (limit : Option Int)
    (primaryCount : Nat) (session : Session) :
    ∃ more, printSolutions
        ⟨(layout.web start covered).arena updates, policy, primaryCount⟩ (limitValue limit) session =
      .ok ((upTo limit (layout.enumerated policy covered)).length,
          ⟨(layout.web start covered).arena more, policy, primaryCount⟩)
        (session.print (numberedTexts
          ((upTo limit (layout.enumerated policy covered)).map (layout.decisionsText start)))) := by
  have read : Session.check (Runs.limitOf (limitValue limit)) session = .ok limit session := by
    rw [limitOf_limitValue]
    rfl
  by_cases closed : limit.any (· ≤ 0) = true
  · refine ⟨updates, (bind_of_ok read).trans ?_⟩
    rw [if_pos closed, upTo_of_closed closed]
    simp [pure, EStateM.pure, Session.print, numberedTexts, String.join]
  · have room : ∀ bound ∈ limit, (([] : List (List Nat)).length : Int) < bound :=
      lt_of_not_reached (by simpa using closed)
    have enough := length_enumerated_lt proper built small trail
    obtain ⟨more, printed⟩ := printFrom_of_yields proper built trail
      (yields_trail proper built small trail updates)
      (by rwa [Search.actionLimit, Web.size_arena, count_web] : _ <
        Search.actionLimit ((layout.web start covered).arena updates)) room primaryCount session
    refine ⟨more, (bind_of_ok read).trans ?_⟩
    rw [if_neg closed]
    simpa [Session.print, numberedTexts, String.join, Cursor.standing] using printed

end

end Layout

/-! ## Problems that were built -/

/-- **A limit cuts off and leaves everything else as it was.** Rows that share no column are decided for.
Then there is a list of solutions with their texts such that, for every limit, the solutions up to the
limit are the beginning of the list, and what is printed up to the limit are the texts of that beginning
with their numbers, and their number is told; and a cursor gives as many of them as it is asked for, if
there are so many, and may be closed then. Every link and every size is as it was afterwards. (If a
smallest column is taken, no column has more rows than a search can count.) -/
theorem limit_cuts_off {problem : Problem} {layout : Layout} (builtAs : BuiltAs problem layout)
    (small : problem.policy = .smallest → ∀ column ∈ layout.primary,
      ((layout.members column).length : Int) < Arena.sizeBound)
    {forced : List Nat} (areNodes : ∀ node ∈ forced, node ∈ layout.nodes)
    (apart : forced.Pairwise fun one other =>
      (layout.columnsOf one).Disjoint (layout.columnsOf other)) :
    ∃ (committed : Problem) (all : List (List Link)) (texts : List String),
      forced.foldlM (fun decisions (node : Nat) => Problem.commit (.record node) decisions) []
          problem = .ok (linksTo forced) committed ∧
        all.mapM committed.arena.decisionsText = .ok texts ∧
        (∀ limit : Option Int, ∃ after,
          Problem.solutions limit committed = .ok (upTo limit all) after ∧
            after.arena.nodes = committed.arena.nodes) ∧
        (∀ (limit : Option Int) (session : Session), ∃ after,
          CommandLine.printSolutions committed (CommandLine.limitValue limit) session =
              .ok ((upTo limit all).length, after)
                (session.print (CommandLine.numberedTexts (upTo limit texts))) ∧
            after.arena.nodes = committed.arena.nodes) ∧
        ∀ number : Nat, ∃ last between after,
          Cursor.take number .fresh committed = .ok (all.take number, last) between ∧
            last.close between = .ok () after ∧ after.arena.nodes = committed.arena.nodes := by
  obtain ⟨web, updates, policy, rfl, shown⟩ := builtAs.shows
  have proper := builtAs.proper
  obtain ⟨trail, between, committed⟩ := Layout.commits_web proper shown areNodes apart
    (fun _ _ => rfl) Layout.isTrail_nil updates layout.primary.length []
  refine ⟨_, (layout.enumerated policy (layout.withRows [] forced)).map linksTo,
    (layout.enumerated policy (layout.withRows [] forced)).map (layout.decisionsText web), committed,
    ?_, fun limit => ?_, fun limit session => ?_, fun number => ?_⟩
  · rw [List.mapM_map]
    apply mapM_of_ok
    intro path inside
    exact Layout.decisionsText_web proper shown trail
      (Layout.node_of_mem_enumerated shown.sound proper inside) between
  · obtain ⟨more, solved⟩ := Layout.solutions_web proper shown small trail limit between
      layout.primary.length
    exact ⟨_, solved, rfl⟩
  · obtain ⟨more, printed⟩ := @Layout.printSolutions_web layout web _ policy between proper shown trail
      small limit layout.primary.length session
    rw [map_upTo] at printed
    rw [← map_upTo, List.length_map]
    exact ⟨_, printed, rfl⟩
  · obtain ⟨last, left, more, taken, closed⟩ := Layout.cursor_web proper shown small trail number
      between layout.primary.length
    rw [List.map_take] at taken
    exact ⟨last, left, _, taken, closed, rfl⟩

/-- With the row of the record 6 decided for, one solution at most is listed and printed, and none below
zero. -/
theorem limit_cuts_off_small :
    ∃ (problem committed one below printed : Problem) (all : List (List Link)) (texts : List String),
      BuiltAs problem .small ∧
        [6].foldlM (fun decisions (node : Nat) => Problem.commit (.record node) decisions) []
            problem = .ok [.record 6] committed ∧
        all.mapM committed.arena.decisionsText = .ok texts ∧
        Problem.solutions (some 1) committed = .ok (all.take 1) one ∧
        Problem.solutions (some (-2)) committed = .ok [] below ∧
        CommandLine.printSolutions committed (.int 1) default =
          .ok ((all.take 1).length, printed)
            (Session.print default (CommandLine.numberedTexts (texts.take 1))) := by
  obtain ⟨problem, builtAs, -⟩ := exists_builtAs_small
  obtain ⟨committed, all, texts, commits, told, solves, prints, -⟩ :=
    @limit_cuts_off problem .small builtAs (fun _ => by decide) [6] (by decide)
      (List.pairwise_singleton _ _)
  obtain ⟨one, solved, -⟩ := solves (some 1)
  obtain ⟨below, none', -⟩ := solves (some (-2))
  obtain ⟨printed, saying, -⟩ := prints (some 1) default
  exact ⟨problem, committed, one, below, printed, all, texts, builtAs, commits, told, solved, none',
    saying⟩

end ExactCover
