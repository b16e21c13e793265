import ExactCover.Proofs.Build.Columns

/-!
# The names of columns

A column gets its name when it is made, and keeps it: no change of links or sizes touches a name, and
records are only ever added behind the others. So what is built in an arena adds names to those that are
there (`Adds`), and names are told step by step: each new column adds its own (`adds_newColumn`). Where
the number of new records is of no interest, it is enough that the names are still in front (`Keeps`).

The names of an arena tell the name of a column by its number (`columnName_of_names`).
-/

set_option autoImplicit false

namespace ExactCover

/-- The names of the records, in their order. A record that is no column has none. -/
def Arena.names (arena : Arena) : List (Option Value) :=
  arena.nodes.toList.map fun node => node.header.map (·.name)

/-- What succeeds only if it has added some names behind those that were there before. -/
def Adds {σ α : Type} (names : σ → List (Option Value)) (added : List (Option Value))
    (action : EStateM LinkError σ α) : Prop :=
  ∀ before after answer, action before = .ok answer after →
    names after = names before ++ added

/-- What succeeds only if the names that were there before are still there, in front of any others. -/
def Keeps {σ α : Type} (names : σ → List (Option Value)) (action : EStateM LinkError σ α) : Prop :=
  ∀ before after answer, action before = .ok answer after → names before <+: names after

/-! ## Computations -/

section

variable {σ α β : Type} {names : σ → List (Option Value)} {added further : List (Option Value)}

theorem adds_pure (answer : α) : Adds names [] (pure answer : EStateM LinkError σ α) := by
  intro before after _ succeeds
  cases succeeds
  exact (List.append_nil _).symm

/-- **What is done one after the other** adds the names of its parts. -/
theorem Adds.bind {action : EStateM LinkError σ α} {next : α → EStateM LinkError σ β}
    (first : Adds names added action) (rest : ∀ answer, Adds names further (next answer)) :
    Adds names (added ++ further) (action >>= next) := by
  intro before after answer succeeds
  obtain ⟨between, middle, done, onward⟩ := of_bind succeeds
  rw [rest between _ _ _ onward, first _ _ _ done, List.append_assoc]

/-- What adds nothing may come first. -/
theorem Adds.then {action : EStateM LinkError σ α} {next : α → EStateM LinkError σ β}
    (first : Adds names [] action) (rest : ∀ answer, Adds names added (next answer)) :
    Adds names added (action >>= next) :=
  first.bind rest

/-- What adds names keeps those that were there before. -/
theorem Adds.keeps {action : EStateM LinkError σ α} (adds : Adds names added action) :
    Keeps names action := by
  intro before after answer succeeds
  rw [adds _ _ _ succeeds]
  exact List.prefix_append _ _

/-- **What is done one after the other** keeps names if its parts do. -/
theorem Keeps.bind {action : EStateM LinkError σ α} {next : α → EStateM LinkError σ β}
    (first : Keeps names action) (rest : ∀ answer, Keeps names (next answer)) :
    Keeps names (action >>= next) := by
  intro before after answer succeeds
  obtain ⟨between, middle, done, onward⟩ := of_bind succeeds
  exact (first _ _ _ done).trans (rest between _ _ _ onward)

end

namespace Arena

/-- Records with a name are columns. -/
theorem countP_names (arena : Arena) (keep : Bool → Bool) :
    arena.names.countP (fun name => keep name.isSome) =
      arena.nodes.toList.countP fun node => keep node.header.isSome := by
  rw [names, List.countP_map]
  simp only [Function.comp_def, Option.isSome_map]

/-! ## Links -/

/-- A record that keeps its name leaves the names as they are. -/
theorem names_modify {arena : Arena} {place updates : Nat} {how : Node → Node}
    (keeps : ∀ node, arena.nodes[place]? = some node →
      (how node).header.map (·.name) = node.header.map (·.name)) :
    names ⟨arena.nodes.modify place how, updates⟩ = arena.names := by
  refine List.ext_getElem (by simp [names]) fun other inAfter inBefore => ?_
  simp only [names, List.getElem_map, Array.getElem_toList, Array.getElem_modify]
  split
  · rename_i here
    subst here
    exact keeps _ (Array.getElem?_eq_getElem _)
  · rfl

theorem adds_ask {α : Type} (question : Arena → Except LinkError α) : Adds names [] (ask question) := by
  intro before after answer succeeds
  simp only [ask] at succeeds
  split at succeeds
  · cases succeeds
    exact (List.append_nil _).symm
  · cases succeeds

/-- Changing links adds nothing. -/
theorem adds_change (link : Link) {how : Node → Node} (keeps : ∀ node, (how node).header = node.header) :
    Adds names [] (change link how) := by
  intro before after answer succeeds
  simp only [change] at succeeds
  split at succeeds
  · cases succeeds
  · cases succeeds
    rw [List.append_nil]
    exact names_modify fun node _ => by rw [keeps]

/-- Changing a size adds nothing: the column keeps the name that is read with the size. -/
theorem adds_resize (link : Link) (amount : Int) : Adds names [] (resize link amount) := by
  intro before after answer succeeds
  simp only [resize, read, ask, record, Bind.bind, EStateM.bind] at succeeds
  cases found : before.position link with
  | error problem => simp [found] at succeeds
  | ok place =>
      cases here : before.nodes[place]? with
      | none => simp [found, here] at succeeds
      | some node =>
          cases isHeader : node.header with
          | none =>
              simp only [found, here, isHeader] at succeeds
              cases succeeds
          | some header =>
              simp only [found, here, isHeader, change] at succeeds
              cases succeeds
              rw [List.append_nil]
              refine names_modify fun same isSame => ?_
              cases here.symm.trans isSame
              rw [isHeader]
              rfl

theorem adds_newNode : Adds names [none] newNode := by
  intro before after answer succeeds
  cases succeeds
  simp [names]

theorem adds_newHeader (name : Value) : Adds names [some name] (newHeader name) := by
  intro before after answer succeeds
  cases succeeds
  simp [names]

theorem adds_insert (place node : Link) : Adds names [] (insert place node) := by
  refine (adds_ask _).then fun record => ?_
  refine (adds_change _ ?_).then fun _ => (adds_change _ ?_).then fun _ =>
    (adds_change _ ?_).then fun _ => (adds_change _ ?_).then fun _ => adds_pure node
  all_goals exact fun _ => rfl

theorem adds_append (header node : Link) : Adds names [] (append header node) := by
  refine (adds_ask _).then fun record => (adds_resize header 1).then fun _ => ?_
  refine (adds_change _ ?_).then fun _ => (adds_change _ ?_).then fun _ =>
    (adds_change _ ?_).then fun _ => adds_pure node
  all_goals exact fun _ => rfl

/-- **Names tell columns.** -/
theorem columnName_of_names {arena : Arena} {place : Nat} {name : Value}
    (named : arena.names[place]? = some (some name)) :
    arena.columnName (.record place) = .ok name := by
  rw [names, List.getElem?_map, Array.getElem?_toList, Option.map_eq_some_iff] at named
  obtain ⟨node, found, ofNode⟩ := named
  obtain ⟨header, isHeader, rfl⟩ := Option.map_eq_some_iff.1 ofNode
  obtain ⟨inside, -⟩ := Array.getElem?_eq_some_iff.1 found
  simp only [columnName, record, @position_record arena place inside, found, isHeader, bind,
    Except.bind]

end Arena

namespace Problem

/-- The names of the records of a problem. -/
def names (problem : Problem) : List (Option Value) := problem.arena.names

/-- What succeeds on a problem succeeds on its arena. -/
theorem of_links {α : Type} {action : LinkM α} {before after : Problem} {answer : α}
    (succeeds : links action before = .ok answer after) :
    action before.arena = .ok answer after.arena := by
  obtain ⟨arena, policy, primaryCount⟩ := before
  simp only [links] at succeeds
  cases done : action arena with
  | error problem broken =>
      rw [done] at succeeds
      cases succeeds
  | ok answer between =>
      rw [done] at succeeds
      cases succeeds
      rfl

theorem adds_links {α : Type} {added : List (Option Value)} {action : LinkM α}
    (adds : Adds Arena.names added action) : Adds names added (links action) :=
  fun _ _ _ succeeds => adds _ _ _ (of_links succeeds)

theorem keeps_links {α : Type} {action : LinkM α} (keeps : Keeps Arena.names action) :
    Keeps names (links action) :=
  fun _ _ _ succeeds => keeps _ _ _ (of_links succeeds)

/-- What changes no record adds nothing. -/
theorem adds_modify {turn : Problem → Problem}
    (keeps : ∀ problem, (turn problem).names = problem.names) :
    Adds names [] (modify turn : ProblemM Unit) := by
  intro before after answer succeeds
  cases succeeds
  exact (keeps before).trans (List.append_nil _).symm

/-- **A new column adds its name.** -/
theorem adds_newColumn (name : Value) (neighbour : Option Link) :
    Adds names [some name] (newColumn name neighbour) := by
  refine (adds_links (Arena.adds_newHeader name)).bind fun header => ?_
  cases neighbour with
  | none => exact adds_pure header
  | some place =>
      refine (adds_links (Arena.adds_insert place header)).then fun _ => ?_
      refine (adds_links (Arena.adds_ask _)).then fun isPrimary => ?_
      cases isPrimary with
      | true =>
          refine (adds_modify ?_).then fun _ => adds_pure header
          exact fun _ => rfl
      | false => exact adds_pure header

/-- **New columns add their names**, one after the other. -/
theorem adds_addColumns (last : Option Link) (columns : List Value) :
    Adds names (columns.map some) (addColumns last columns) := by
  induction columns generalizing last with
  | nil => exact adds_pure []
  | cons name columns ih =>
      refine (adds_newColumn name last).bind fun header => ?_
      have others := (ih (some header)).bind fun headers => adds_pure (header :: headers)
      rwa [List.append_nil] at others

end Problem

end ExactCover
